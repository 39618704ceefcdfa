import Homelab.Proofs.Inventory.Rules
import Homelab.Proofs.Json.Fits

/-!
# Inventories from sorted documents

A file holds a document with the keys of its mappings sorted.  Where the keys stand does
not matter to the schema: from a sorted document the same inventory is read, with what its
records keep without knowing it in order, too.
-/

namespace Homelab

/-! ### What is read on both sides -/

namespace Checked

/-- Whatever is read on the left is read on the right as well, and the two are related. -/
def Follows {α β : Type} (R : α → β → Prop) (x : Checked α) (y : Checked β) : Prop :=
  ∀ a, x = ok a → ∃ b, y = ok b ∧ R a b

variable {α β γ δ : Type}

theorem follows_map
    {R : α → β → Prop} {S : γ → δ → Prop} {f : α → γ} {g : β → δ} {x : Checked α} {y : Checked β}
    (hf : ∀ a b, R a b → S (f a) (g b))
    (hx : Follows R x y) :
    Follows S (map f x) (map g y) := by
  intro c h
  obtain ⟨a, ha, rfl⟩ := map_eq_ok_iff.mp h
  obtain ⟨b, rfl, hab⟩ := hx a ha
  exact ⟨g b, rfl, hf a b hab⟩

theorem follows_ap
    {R : α → β → Prop} {S : γ → δ → Prop} {f : Checked (α → γ)} {g : Checked (β → δ)}
    {x : Checked α} {y : Checked β}
    (hf : Follows (fun f g => ∀ a b, R a b → S (f a) (g b)) f g)
    (hx : Follows R x y) :
    Follows S (ap f x) (ap g y) := by
  intro c h
  obtain ⟨f', hf', a, ha, rfl⟩ := ap_eq_ok_iff.mp h
  obtain ⟨g', rfl, hfg⟩ := hf f' hf'
  obtain ⟨b, rfl, hab⟩ := hx a ha
  exact ⟨g' b, rfl, hfg a b hab⟩

theorem follows_under
    {R : α → β → Prop} {step : PlaceStep} {x : Checked α} {y : Checked β}
    (hx : Follows R x y) :
    Follows R (under step x) (under step y) := by
  intro a h
  obtain ⟨b, rfl, hab⟩ := hx a (under_eq_ok_iff.mp h)
  exact ⟨b, rfl, hab⟩

theorem follows_ok
    {R : α → β → Prop} {a : α} {b : β}
    (hab : R a b) :
    Follows R (ok a) (ok b) := by
  intro c h
  simp only [ok.injEq] at h
  exact ⟨b, rfl, h ▸ hab⟩

theorem follows_bad
    {R : α → β → Prop} (issues : List Issue) (y : Checked β) :
    Follows R (bad issues) y := by
  intro a h
  simp at h

theorem follows_items
    {R : α → α → Prop} {f : Value → Checked α} :
    ∀ {vs : List Value} {position : Nat},
      (∀ v ∈ vs, Follows R (f v) (f v.sorted)) →
      Follows (List.Forall₂ R) (items f position vs) (items f position (vs.map Value.sorted))
  | [], position, h => follows_ok .nil
  | v :: rest, position, h => by
      refine follows_ap (follows_map ?_ (follows_under (h v (by simp))))
        (follows_items fun w hw => h w (by simp [hw]))
      intro a b hab as bs hrest
      exact .cons hab hrest

end Checked

/-! ### Entries in order -/

/-- What is kept, with all keys in order. -/
def Extra.sorted (extra : Extra) : Extra :=
  (Entries.sorted (extra.map fun f => (.str f.1, f.2))).map fun e => (e.1.keyText, e.2)

namespace Entries

theorem eq_of_keyText
    {es : Entries} {e f : Scalar × Value}
    (hes : es.Keyed)
    (he : e ∈ es)
    (hf : f ∈ es)
    (h : e.1.keyText = f.1.keyText) :
    e = f := by
  obtain ⟨s, hs⟩ := hes.text e he
  obtain ⟨t, ht⟩ := hes.text f hf
  rw [hs, ht] at h
  have hst : s = t := h
  refine List.inj_on_of_nodup_map hes.nodup he hf ?_
  rw [hs, ht, hst]

theorem pairwise_sortByKey
    (es : Entries) :
    (sortByKey es).Pairwise fun a b => a.1.keyText ≤ b.1.keyText := by
  refine (List.pairwise_mergeSort (fun a b c hab hbc => ?_) (fun a b => ?_) es).imp ?_
  · rw [decide_eq_true_eq] at *
    exact String.le_trans hab hbc
  · simpa using String.le_total a.1.keyText b.1.keyText
  · simp

/-- Entries with different keys have only one order. -/
theorem sortByKey_eq_of_perm
    {es fs : Entries}
    (hes : es.Keyed)
    (hperm : es.Perm fs) :
    sortByKey es = sortByKey fs := by
  refine List.Perm.eq_of_pairwise (fun a b ha hb hab hba => ?_) (pairwise_sortByKey es)
    (pairwise_sortByKey fs) ((sortByKey_perm es).trans (hperm.trans (sortByKey_perm fs).symm))
  refine eq_of_keyText hes ((sortByKey_perm es).mem_iff.mp ha) ?_ (String.le_antisymm hab hba)
  exact hperm.mem_iff.mpr ((sortByKey_perm fs).mem_iff.mp hb)

theorem sortByKey_of_pairwise
    {es : Entries}
    (h : es.Pairwise fun a b => a.1.keyText ≤ b.1.keyText) :
    sortByKey es = es :=
  List.mergeSort_of_pairwise (h.imp fun hle => decide_eq_true hle)

theorem Keyed.filter
    {es : Entries}
    (h : es.Keyed)
    (q : Scalar × Value → Bool) :
    Entries.Keyed (es.filter q) :=
  ⟨fun e he => h.text e (List.mem_filter.mp he).1,
    h.nodup.sublist (List.filter_sublist.map Prod.fst)⟩

theorem filter_sortByKey
    {es : Entries}
    (hes : es.Keyed)
    (q : Scalar × Value → Bool) :
    (sortByKey es).filter q = sortByKey (es.filter q) := by
  rw [← sortByKey_of_pairwise ((pairwise_sortByKey es).filter q)]
  refine (sortByKey_eq_of_perm (hes.filter q) ?_).symm
  exact ((sortByKey_perm es).filter q).symm

theorem filter_sorted
    {es : Entries}
    (hes : es.Keyed)
    (q : String → Bool) :
    es.sorted.filter (fun e => q e.1.keyText) =
      Entries.sorted (es.filter fun e => q e.1.keyText) := by
  rw [sorted, sorted, sortByKey_sorted, sortByKey_sorted, ← filter_sortByKey hes, List.filter_map]
  rfl

end Entries

namespace Schema

open Checked

variable {α : Type} {R : α → α → Prop} {f : Value → Checked α} {depth : Nat} {es : Entries}

theorem given?_sorted
    (hes : es.Fits depth) :
    ∀ names : List String,
      given? names es.sorted = (given? names es).map fun p => (p.1, p.2.sorted)
  | [] => rfl
  | name :: rest => by
      rw [given?, given?, Entries.find?_sorted hes.keyed, given?_sorted hes rest]
      cases Entries.find? name es <;> rfl

theorem fits_of_given?
    (hes : es.Fits depth) :
    ∀ {names : List String} {p : String × Value},
      given? names es = some p → p.2.Fits depth
  | [], p, h => by simp [given?] at h
  | name :: rest, p, h => by
      rw [given?] at h
      split at h
      · rename_i v hv
        rw [Entries.find?, lookup_eq_some_iff_mem hes.keyed.nodup] at hv
        rw [← Option.some.inj h]
        exact hes.values _ hv
      · exact fits_of_given? hes h

theorem follows_withDefault
    {d : α}
    (hes : es.Fits depth)
    (names : List String)
    (hf : ∀ v, v.Fits depth → Follows R (f v) (f v.sorted))
    (hd : R d d) :
    Follows R (withDefault names f d es) (withDefault names f d es.sorted) := by
  rw [withDefault, withDefault, given?_sorted hes]
  cases hgiven : given? names es with
  | none => exact follows_ok hd
  | some p => exact follows_under (hf p.2 (fits_of_given? hes hgiven))

theorem follows_required
    (hes : es.Fits depth)
    (names : List String)
    (hf : ∀ v, v.Fits depth → Follows R (f v) (f v.sorted)) :
    Follows R (required names f es) (required names f es.sorted) := by
  rw [required, required, given?_sorted hes]
  cases hgiven : given? names es with
  | none => exact follows_bad _ _
  | some p => exact follows_under (hf p.2 (fits_of_given? hes hgiven))

theorem follows_record
    {fields : Entries → Checked α}
    (name : String)
    {v : Value}
    (hv : v.Fits depth)
    (hfields : ∀ d es, Entries.Fits d es → Follows R (fields es) (fields es.sorted)) :
    Follows R (record name fields v) (record name fields v.sorted) := by
  cases v with
  | map es =>
      obtain ⟨d, -, hes⟩ := hv.entries
      rw [Entries.sorted_map]
      exact hfields d es hes
  | scalar s => exact follows_bad _ _
  | list items => exact follows_bad _ _
  | set members => exact follows_bad _ _

theorem follows_list
    {v : Value}
    (hv : v.Fits depth)
    (hf : ∀ d w, w.Fits d → Follows R (f w) (f w.sorted)) :
    Follows (List.Forall₂ R) (list f v) (list f v.sorted) := by
  cases v with
  | list items =>
      obtain ⟨d, -, hitems⟩ := hv.items
      rw [Value.sorted, Value.sortedItems_eq]
      exact follows_items fun w hw => hf d w (hitems w hw)
  | scalar s => exact follows_bad _ _
  | map es => exact follows_bad _ _
  | set members => cases hv

theorem extras_eq_filter
    {es : Entries}
    (hes : es.Keyed)
    (names : List (List String)) :
    Schema.extras names es =
      .ok ((es.filter fun e => !(usedNames names es).contains e.1.keyText).map
        fun e => (e.1.keyText, e.2)) := by
  obtain ⟨fs, rfl⟩ := hes.eq_map
  rw [extras_map_str, List.filter_map, List.map_map]
  simp [Function.comp_def, Scalar.keyText]

theorem usedNames_sorted
    (hes : es.Fits depth)
    (names : List (List String)) :
    usedNames names es.sorted = usedNames names es := by
  rw [usedNames, usedNames]
  congr 1
  funext n
  rw [given?_sorted hes, Option.map_map]
  rfl

theorem follows_extras
    (hes : es.Fits depth)
    (names : List (List String)) :
    Follows (fun extra extra' => extra' = Extra.sorted extra) (extras names es)
      (extras names es.sorted) := by
  intro extra h
  rw [extras_eq_filter hes.keyed] at h
  obtain rfl := Checked.ok.inj h
  refine ⟨_, extras_eq_filter hes.keyed.sorted names, ?_⟩
  rw [usedNames_sorted hes, Entries.filter_sorted hes.keyed fun key =>
    !(usedNames names es).contains key]
  show _ = Extra.sorted _
  rw [Extra.sorted, List.map_map]
  congr 2
  have hkeys : ∀ e ∈ es.filter fun e => !(usedNames names es).contains e.1.keyText,
      (Scalar.str e.1.keyText, e.2) = e := by
    intro e he
    obtain ⟨key, hkey⟩ := hes.keyed.text e (List.mem_filter.mp he).1
    rw [hkey]
    exact Prod.ext hkey.symm rfl
  rw [Function.comp_def, List.map_congr_left hkeys, List.map_id']

/-! ### Scalars -/

/-- Only scalars are read. -/
def OfScalar (f : Value → Checked α) : Prop := ∀ v a, f v = .ok a → ∃ s, v = .scalar s

theorem OfScalar.follows
    (hf : OfScalar f)
    (v : Value) :
    Follows Eq (f v) (f v.sorted) := by
  intro a h
  obtain ⟨s, rfl⟩ := hf v a h
  rw [Value.sorted]
  exact ⟨a, h, rfl⟩

theorem OfScalar.orNull
    (hf : OfScalar f) :
    OfScalar (orNull f) := by
  intro v a h
  unfold Schema.orNull at h
  split at h
  · exact ⟨_, rfl⟩
  · obtain ⟨b, hb, -⟩ := map_eq_ok_iff.mp h
    exact hf v b hb

theorem ofScalar_text : OfScalar text := by
  intro v s h
  unfold text at h
  split at h
  · exact ⟨_, rfl⟩
  · exact ⟨_, rfl⟩
  · simp [issue] at h

theorem ofScalar_textWith
    (rule : String → Option String) :
    OfScalar (textWith rule) := by
  intro v s h
  unfold textWith at h
  split at h
  · simp at h
  · rename_i t ht
    exact ofScalar_text v t ht

theorem ofScalar_integer : OfScalar integer := by
  intro v n h
  unfold integer at h
  split at h
  all_goals first | exact ⟨_, rfl⟩ | simp [issue] at h

theorem ofScalar_truth : OfScalar truth := by
  intro v b h
  unfold truth at h
  split at h
  all_goals first | exact ⟨_, rfl⟩ | simp [issue] at h

theorem ofScalar_choice
    (options : List (String × α)) :
    OfScalar (choice options) := by
  intro v a h
  unfold choice Value.text? at h
  split at h
  · rename_i b hb
    split at hb
    · exact ⟨_, rfl⟩
    · simp at hb
  · simp [issue] at h

theorem follows_field
    (hes : es.Fits depth)
    (name : String)
    (hf : OfScalar f) :
    Follows Eq (required [name] f es) (required [name] f es.sorted) :=
  follows_required hes [name] fun v _ => hf.follows v

theorem follows_optional
    (hes : es.Fits depth)
    (name : String)
    (hf : OfScalar f) :
    Follows Eq (optional [name] f es) (optional [name] f es.sorted) :=
  follows_withDefault hes [name] (fun v _ => hf.orNull.follows v) rfl

theorem follows_mapping
    {v : Value}
    (hv : v.Fits depth) :
    Follows (fun config config' => config' = Extra.sorted config) (mapping any v)
      (mapping any v.sorted) := by
  intro config h
  cases v with
  | map es =>
      obtain ⟨d, -, hes⟩ := hv.entries
      obtain ⟨fs, rfl⟩ := hes.keyed.eq_map
      obtain ⟨gs, hgs⟩ := hes.keyed.sorted.eq_map
      have hconfig : fs = config := Checked.ok.inj ((mapping_object fs).symm.trans h)
      refine ⟨gs, ?_, ?_⟩
      · rw [Entries.sorted_map, hgs]
        exact mapping_object gs
      · show gs = Extra.sorted config
        rw [Extra.sorted, ← hconfig, hgs, List.map_map]
        exact (List.map_id _).symm
  | scalar s => simp [mapping, issue] at h
  | list items => simp [mapping, issue] at h
  | set members => simp [mapping, issue] at h

end Schema

/-! ### Records -/

/-- The cluster section of a sorted document. -/
def ClusterConfig.sorted (c : ClusterConfig) : ClusterConfig :=
  { c with extra := Extra.sorted c.extra }

/-- The backend section of a sorted document. -/
def StateBackend.sorted (b : StateBackend) : StateBackend :=
  { b with config := Extra.sorted b.config, extra := Extra.sorted b.extra }

/-- The module section of a sorted document. -/
def ModuleSettings.sorted (m : ModuleSettings) : ModuleSettings :=
  { backend := m.backend.sorted, extra := Extra.sorted m.extra }

/-- A static range of a sorted document. -/
def StaticRange.sorted (r : StaticRange) : StaticRange :=
  { r with extra := Extra.sorted r.extra }

/-- A network of a sorted document. -/
def Network.sorted (n : Network) : Network :=
  { n with staticRange := n.staticRange.map StaticRange.sorted, extra := Extra.sorted n.extra }

/-- An interface of a sorted document. -/
def HostInterface.sorted (i : HostInterface) : HostInterface :=
  { i with extra := Extra.sorted i.extra }

/-- A machine of a sorted document. -/
def Host.sorted (h : Host) : Host :=
  { h with interfaces := h.interfaces.map HostInterface.sorted, extra := Extra.sorted h.extra }

/-- A template of a sorted document. -/
def Template.sorted (t : Template) : Template :=
  { t with extra := Extra.sorted t.extra }

/-- A reservation of a sorted document. -/
def Reservation.sorted {α : Type} (e : Reservation α) : Reservation α :=
  { e with extra := Extra.sorted e.extra }

/-- The reservations of a sorted document. -/
def Reserved.sorted (r : Reserved) : Reserved :=
  { vmids := r.vmids.map Reservation.sorted
    ips := r.ips.map Reservation.sorted
    extra := Extra.sorted r.extra }

theorem Reserved.empty_sorted : Reserved.empty.sorted = Reserved.empty := by
  simp [sorted, empty, Extra.sorted, Entries.sorted, Entries.sortByKey, Value.sortedEntries]

/-- The inventory of a sorted document. -/
def Inventory.sorted (inv : Inventory) : Inventory :=
  { cluster := inv.cluster.sorted
    modules := inv.modules.sorted
    networks := inv.networks.map Network.sorted
    hosts := inv.hosts.map Host.sorted
    templates := inv.templates.map Template.sorted
    reserved := inv.reserved.sorted
    extra := Extra.sorted inv.extra }

theorem Network.bare_sorted
    (n : Network) :
    n.sorted.bare = n.bare := by
  have hrange : StaticRange.bare ∘ StaticRange.sorted = StaticRange.bare := rfl
  simp [bare, sorted, hrange]

theorem Host.bare_sorted
    (h : Host) :
    h.sorted.bare = h.bare := by
  simp [bare, sorted, HostInterface.bare, HostInterface.sorted]

theorem Reserved.bare_sorted
    (r : Reserved) :
    r.sorted.bare = r.bare := by
  simp [bare, sorted, Reservation.bare, Reservation.sorted]

theorem Inventory.bare_sorted
    (inv : Inventory) :
    inv.sorted.bare = inv.bare := by
  simp [bare, sorted, ClusterConfig.bare, ClusterConfig.sorted, ModuleSettings.bare,
    ModuleSettings.sorted, StateBackend.bare, StateBackend.sorted, Template.bare, Template.sorted,
    Reserved.bare_sorted, Network.bare_sorted, Host.bare_sorted]

open Checked Schema

/-- The second of two records is the first one as a sorted document has it. -/
def Sorts {α : Type} (sorted : α → α) (a b : α) : Prop := b = sorted a

theorem eq_map_of_forall₂
    {α : Type} {sorted : α → α} {as bs : List α}
    (h : List.Forall₂ (Sorts sorted) as bs) :
    bs = as.map sorted := by
  induction h with
  | nil => rfl
  | cons hab _ ih =>
      rw [List.map_cons, ih, hab]

section

variable {d : Nat} {v : Value}

theorem ClusterConfig.follows
    (h : v.Fits d) :
    Follows (Sorts sorted) (ofValue v) (ofValue v.sorted) := by
  refine follows_record _ h fun d es hes => ?_
  refine follows_ap (follows_ap (follows_ap (follows_ap (follows_ap (follows_ap (follows_map ?_
    (follows_field hes "endpoint" ofScalar_text)) (follows_field hes "api_user" ofScalar_text))
    (follows_map (S := Eq) (by rintro s _ rfl; rfl)
      (follows_field hes "api_token" ofScalar_text)))
    (follows_field hes "node" ofScalar_text)) (follows_optional hes "username" ofScalar_text))
    (follows_optional hes "password" ofScalar_text)) (follows_extras hes _)
  rintro endpoint _ rfl user _ rfl token _ rfl node _ rfl username _ rfl password _ rfl extra _ rfl
  rfl

theorem StateBackend.follows
    (h : v.Fits d) :
    Follows (Sorts sorted) (ofValue v) (ofValue v.sorted) := by
  refine follows_record _ h fun d es hes => ?_
  refine follows_ap (follows_ap (follows_map ?_ (follows_field hes "type" ofScalar_text))
    (follows_required hes _ fun w hw => follows_mapping hw)) (follows_extras hes _)
  rintro kind _ rfl config _ rfl extra _ rfl
  rfl

theorem ModuleSettings.follows
    (h : v.Fits d) :
    Follows (Sorts sorted) (ofValue v) (ofValue v.sorted) := by
  refine follows_record _ h fun d es hes => ?_
  refine follows_ap (follows_map ?_
    (follows_required hes _ fun w hw => StateBackend.follows hw)) (follows_extras hes _)
  rintro backend _ rfl extra _ rfl
  rfl

theorem StaticRange.follows
    (h : v.Fits d) :
    Follows (Sorts sorted) (ofValue v) (ofValue v.sorted) := by
  refine follows_record _ h fun d es hes => ?_
  refine follows_ap (follows_ap (follows_map ?_
    (follows_map (S := Eq) (by rintro s _ rfl; rfl)
      (follows_field hes "start" (ofScalar_textWith _))))
    (follows_map (S := Eq) (by rintro s _ rfl; rfl)
      (follows_field hes "end" (ofScalar_textWith _)))) (follows_extras hes _)
  rintro first _ rfl last _ rfl extra _ rfl
  rfl

theorem Network.follows
    (h : v.Fits d) :
    Follows (Sorts sorted) (ofValue v) (ofValue v.sorted) := by
  refine follows_record _ h fun d es hes => ?_
  refine follows_ap (follows_ap (follows_ap (follows_ap (follows_ap (follows_ap (follows_ap
    (follows_ap (follows_map ?_
    (follows_field hes "name" ofScalar_text))
    (follows_field hes "subnet" (ofScalar_textWith _)))
    (follows_field hes "gateway" (ofScalar_textWith _)))
    (follows_field hes "dns" (ofScalar_textWith _)))
    (follows_map (S := Sorts fun o => o.map StaticRange.sorted) (by rintro r _ rfl; rfl)
      (follows_required hes _ fun w hw => StaticRange.follows hw)))
    (follows_optional hes "iface" ofScalar_text))
    (follows_optional hes "dhcp_enabled" ofScalar_truth))
    (follows_optional hes "domain" ofScalar_text)) (follows_extras hes _)
  rintro name _ rfl subnet _ rfl gateway _ rfl dns _ rfl range _ rfl iface _ rfl dhcp _ rfl domain
    _ rfl extra _ rfl
  rfl

theorem HostInterface.follows
    (h : v.Fits d) :
    Follows (Sorts sorted) (ofValue v) (ofValue v.sorted) := by
  refine follows_record _ h fun d es hes => ?_
  refine follows_ap (follows_ap (follows_map ?_ (follows_field hes "network" ofScalar_text))
    (follows_field hes "ip" (ofScalar_textWith _))) (follows_extras hes _)
  rintro network _ rfl ip _ rfl extra _ rfl
  rfl

theorem Host.follows
    (h : v.Fits d) :
    Follows (Sorts sorted) (ofValue v) (ofValue v.sorted) := by
  refine follows_record _ h fun d es hes => ?_
  refine follows_ap (follows_ap (follows_ap (follows_ap (follows_map ?_
    (follows_field hes "name" ofScalar_text)) (follows_field hes "vmid" ofScalar_integer))
    (follows_field hes "type" (ofScalar_choice _)))
    (follows_withDefault hes _ (fun w hw => follows_list hw fun _ _ => HostInterface.follows)
      .nil)) (follows_extras hes _)
  rintro name _ rfl vmid _ rfl kind _ rfl interfaces interfaces' hinterfaces extra _ rfl
  rw [eq_map_of_forall₂ hinterfaces]
  rfl

theorem Template.follows
    (h : v.Fits d) :
    Follows (Sorts sorted) (ofValue v) (ofValue v.sorted) := by
  refine follows_record _ h fun d es hes => ?_
  refine follows_ap (follows_ap (follows_ap (follows_map ?_
    (follows_field hes "name" ofScalar_text)) (follows_field hes "version" ofScalar_text))
    (follows_field hes "vmid" ofScalar_integer)) (follows_extras hes _)
  rintro name _ rfl version _ rfl vmid _ rfl extra _ rfl
  rfl

theorem Reservation.follows_vmid
    (h : v.Fits d) :
    Follows (Sorts sorted) (ofVmidValue v) (ofVmidValue v.sorted) := by
  refine follows_record _ h fun d es hes => ?_
  refine follows_ap (follows_ap (follows_map ?_ (follows_field hes "vmid" ofScalar_integer))
    (follows_required hes _ fun w _ => ofScalar_text.follows w)) (follows_extras hes _)
  rintro vmid _ rfl token _ rfl extra _ rfl
  rfl

theorem Reservation.follows_ip
    (h : v.Fits d) :
    Follows (Sorts sorted) (ofIpValue v) (ofIpValue v.sorted) := by
  refine follows_record _ h fun d es hes => ?_
  refine follows_ap (follows_ap (follows_map ?_ (follows_field hes "ip" (ofScalar_textWith _)))
    (follows_required hes _ fun w _ => ofScalar_text.follows w)) (follows_extras hes _)
  rintro ip _ rfl token _ rfl extra _ rfl
  rfl

theorem Reserved.follows
    (h : v.Fits d) :
    Follows (Sorts sorted) (ofValue v) (ofValue v.sorted) := by
  refine follows_record _ h fun d es hes => ?_
  refine follows_ap (follows_ap (follows_map ?_
    (follows_withDefault hes _ (fun w hw => follows_list hw fun _ _ => Reservation.follows_vmid)
      .nil))
    (follows_withDefault hes _ (fun w hw => follows_list hw fun _ _ => Reservation.follows_ip)
      .nil)) (follows_extras hes _)
  rintro vmids vmids' hvmids ips ips' hips extra _ rfl
  rw [eq_map_of_forall₂ hvmids, eq_map_of_forall₂ hips]
  rfl

end

namespace Inventory

theorem follows_ofFields
    {d : Nat} {es : Entries}
    (hes : es.Fits d) :
    Follows (Sorts sorted) (ofFields es) (ofFields es.sorted) := by
  refine follows_ap (follows_ap (follows_ap (follows_ap (follows_ap (follows_ap (follows_map ?_
    (follows_required hes _ fun w hw => ClusterConfig.follows hw))
    (follows_required hes _ fun w hw => ModuleSettings.follows hw))
    (follows_withDefault hes _ (fun w hw => follows_list hw fun _ _ => Network.follows) .nil))
    (follows_withDefault hes _ (fun w hw => follows_list hw fun _ _ => Host.follows) .nil))
    (follows_withDefault hes _ (fun w hw => follows_list hw fun _ _ => Template.follows) .nil))
    (follows_withDefault hes _ (fun w hw => Reserved.follows hw) Reserved.empty_sorted.symm))
    (follows_extras hes _)
  rintro cluster _ rfl modules _ rfl networks networks' hnetworks hosts hosts' hhosts templates
    templates' htemplates reserved _ rfl extra _ rfl
  rw [eq_map_of_forall₂ hnetworks, eq_map_of_forall₂ hhosts, eq_map_of_forall₂ htemplates]
  rfl

/-- An inventory that is read from a document is read from the sorted document as well, with
what its records keep in order. -/
theorem ofValue_sorted
    {d : Nat} {v : Value} {inv : Inventory}
    (hfits : v.Fits d)
    (h : ofValue v = .ok inv) :
    ofValue v.sorted = .ok inv.sorted := by
  obtain ⟨es, rfl, hread, hfault⟩ := ofValue_eq_ok_iff.mp h
  obtain ⟨d', -, hes⟩ := hfits.entries
  obtain ⟨_, hread', rfl⟩ := follows_ofFields hes inv hread
  refine ofValue_eq_ok_iff.mpr ⟨Entries.sorted es, Entries.sorted_map es, hread', ?_⟩
  exact fault?_eq_none_iff.mpr ((fault?_eq_none_iff.mp hfault).of_bare_eq (bare_sorted inv))

end Inventory
end Homelab
