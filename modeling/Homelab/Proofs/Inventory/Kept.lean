import Homelab.Proofs.Inventory.Sorted

/-!
# What an inventory keeps

What the records of an inventory keep without knowing it comes from the document, and is
nested no deeper than it.  An inventory from a document that is not nested too deeply can
be written, and so can its document form.
-/

namespace Homelab

namespace Schema

open Checked

/-! ### What is read from a part -/

section

variable {α : Type} {P : α → Prop} {f : Value → Checked α} {depth : Nat} {es : Entries}

theorem all_required_fits
    (hes : es.Fits depth)
    (names : List String)
    (hf : ∀ v, v.Fits depth → All P (f v)) :
    All P (required names f es) := by
  unfold required
  split
  · rename_i name v hgiven
    exact all_under (hf v (fits_of_given? hes hgiven))
  · intro a h
    simp at h

theorem all_withDefault_fits
    {d : α}
    (hes : es.Fits depth)
    (names : List String)
    (hf : ∀ v, v.Fits depth → All P (f v))
    (hd : P d) :
    All P (withDefault names f d es) := by
  unfold withDefault
  split
  · rename_i name v hgiven
    exact all_under (hf v (fits_of_given? hes hgiven))
  · intro a h
    exact Checked.ok.inj h ▸ hd

theorem all_list_fits
    {v : Value}
    (hv : v.Fits (depth + 1))
    (hf : ∀ w, w.Fits depth → All P (f w)) :
    All (fun as => ∀ a ∈ as, P a) (list f v) := by
  cases hv with
  | scalar hs => exact all_issue _
  | map keyed h => exact all_issue _
  | list hitems =>
      intro as h a ha
      obtain ⟨w, hw, hread⟩ := exists_of_mem_items h a ha
      exact hf w (hitems w hw) a hread

theorem all_record_fits
    {fields : Entries → Checked α}
    (name : String)
    {v : Value}
    (hv : v.Fits (depth + 1))
    (hfields : ∀ es, Entries.Fits depth es → All P (fields es)) :
    All P (record name fields v) := by
  cases hv with
  | scalar hs => exact all_issue _
  | list h => exact all_issue _
  | map keyed h => exact hfields _ ⟨keyed, h⟩

end

end Schema

/-! ### What a record keeps -/

/-- Kept entries with different names, whose values fit. -/
structure Extra.Fits (depth : Nat) (extra : Extra) : Prop where
  nodup : (extra.map Prod.fst).Nodup
  values : ∀ f ∈ extra, f.2.Fits depth

namespace Extra

theorem fits_nil
    (depth : Nat) :
    Extra.Fits depth [] := ⟨by simp, by simp⟩

theorem nodup_normal
    {extra : Extra}
    (h : (extra.map Prod.fst).Nodup) :
    (extra.normal.map Prod.fst).Nodup := by
  have hnames : (Extra.normal extra).map Prod.fst =
      (extra.filter fun f => !f.2.isNull).map Prod.fst := by
    simp [Extra.normal]
  rw [hnames]
  exact h.sublist (List.filter_sublist.map _)

theorem Fits.normal
    {depth : Nat} {extra : Extra}
    (h : extra.Fits depth) :
    extra.normal.Fits depth := by
  refine ⟨nodup_normal h.nodup, fun f hf => ?_⟩
  obtain ⟨g, hg, rfl⟩ := List.mem_map.mp hf
  exact (h.values g (List.mem_filter.mp hg).1).kept

end Extra

namespace Schema

open Checked

theorem all_extras_fits
    {depth : Nat} {es : Entries}
    (hes : es.Fits depth)
    (names : List (List String)) :
    All (Extra.Fits depth) (extras names es) := by
  intro extra h
  obtain ⟨fs, rfl⟩ := hes.keyed.eq_map
  have hnodup : (fs.map Prod.fst).Nodup := Entries.keyed_map_iff.mp hes.keyed
  rw [extras_map_str, Checked.ok.injEq] at h
  subst h
  refine ⟨hnodup.sublist (List.filter_sublist.map _), ?_⟩
  intro f hf
  exact hes.values (.str f.1, f.2)
    (List.mem_map.mpr ⟨f, (List.mem_filter.mp hf).1, rfl⟩)

/-- The document of a record has every key once. -/
theorem Layout.keyed
    {names : List (List String)} {fields : List (String × Value)} {extra : Extra}
    (layout : Layout names fields extra)
    (hextra : (extra.map Prod.fst).Nodup) :
    Entries.Keyed (Value.fieldEntries fields extra) := by
  refine Entries.keyed_map_iff.mpr ?_
  rw [List.map_append, List.nodup_append]
  refine ⟨layout.nodup.sublist (List.filter_sublist.map _), Extra.nodup_normal hextra, ?_⟩
  rintro a ha b hb rfl
  obtain ⟨f, hf, rfl⟩ := List.mem_map.mp ha
  obtain ⟨g, hg, hgf⟩ := List.mem_map.mp hb
  obtain ⟨g', hg', hname⟩ := Extra.fst_of_mem_normal hg
  have hhead : some f.1 ∈ names.map List.head? := by
    rw [layout.heads]
    exact List.mem_map.mpr ⟨f, (List.mem_filter.mp hf).1, rfl⟩
  obtain ⟨n, hn, hnf⟩ := List.mem_map.mp hhead
  exact layout.clear g' hg' n hn (by rw [hnf, hname, hgf])

/-- The document of a record fits if its fields and what it keeps do so. -/
theorem Layout.fits
    {names : List (List String)} {fields : List (String × Value)} {extra : Extra} {depth : Nat}
    (layout : Layout names fields extra)
    (hfields : ∀ f ∈ fields, f.2.Fits depth)
    (hextra : extra.Fits depth) :
    (Value.ofFields fields extra).Fits (depth + 1) := by
  rw [Value.ofFields_eq]
  refine .map (layout.keyed hextra.nodup) fun e he => ?_
  obtain ⟨f, hf, rfl⟩ := List.mem_map.mp he
  rcases List.mem_append.mp hf with hf | hf
  · exact hfields f (List.mem_filter.mp hf).1
  · exact hextra.normal.values f hf

end Schema

/-! ### What is kept -/

section

open Checked Schema

variable {d : Nat} {v : Value}

theorem ClusterConfig.all_kept
    (hv : v.Fits d) :
    All (fun c => c.extra.Fits d) (ofValue v) := by
  refine all_record_fits _ (hv.mono (Nat.le_succ d)) fun es hes => ?_
  refine all_ap (all_ap (all_ap (all_ap (all_ap (all_ap (all_map ?_ (all_true _)) (all_true _))
    (all_true _)) (all_true _)) (all_true _)) (all_true _)) (all_extras_fits hes _)
  intro endpoint _ user _ token _ node _ username _ password _ extra hextra
  exact hextra

theorem all_mapping_fits
    (hv : v.Fits d) :
    All (Extra.Fits d) (mapping any v) := by
  intro fs h
  cases v with
  | map es =>
      obtain ⟨d', rfl, hes⟩ := hv.entries
      obtain ⟨gs, hgs⟩ := hes.keyed.eq_map
      have hread : mapping any (.map es) = .ok gs := by
        rw [hgs]
        exact mapping_object gs
      obtain rfl : gs = fs := Checked.ok.inj (hread.symm.trans h)
      refine ⟨Entries.keyed_map_iff.mp (hgs ▸ hes.keyed), fun f hf => ?_⟩
      refine (hes.values (.str f.1, f.2) ?_).mono (Nat.le_succ d')
      rw [hgs]
      exact List.mem_map.mpr ⟨f, hf, rfl⟩
  | scalar s => simp [mapping, issue] at h
  | list items => simp [mapping, issue] at h
  | set members => simp [mapping, issue] at h

theorem StateBackend.all_kept
    (hv : v.Fits d) :
    All (fun b => b.extra.Fits d ∧ Extra.Fits d b.config) (ofValue v) := by
  refine all_record_fits _ (hv.mono (Nat.le_succ d)) fun es hes => ?_
  refine all_ap (all_ap (all_map ?_ (all_true _))
    (all_required_fits hes _ fun w hw => all_mapping_fits hw)) (all_extras_fits hes _)
  intro kind _ config hconfig extra hextra
  exact ⟨hextra, hconfig⟩

theorem ModuleSettings.all_kept
    (hv : v.Fits d) :
    All (fun m => m.extra.Fits d ∧ m.backend.extra.Fits d ∧ Extra.Fits d m.backend.config)
      (ofValue v) := by
  refine all_record_fits _ (hv.mono (Nat.le_succ d)) fun es hes => ?_
  refine all_ap (all_map ?_
    (all_required_fits hes _ fun w hw => StateBackend.all_kept hw)) (all_extras_fits hes _)
  intro backend hbackend extra hextra
  exact ⟨hextra, hbackend⟩

theorem StaticRange.all_kept
    (hv : v.Fits d) :
    All (fun r => r.extra.Fits d) (ofValue v) := by
  refine all_record_fits _ (hv.mono (Nat.le_succ d)) fun es hes => ?_
  refine all_ap (all_ap (all_map ?_ (all_true _)) (all_true _)) (all_extras_fits hes _)
  intro first _ last _ extra hextra
  exact hextra

theorem Network.all_kept
    (hv : v.Fits d) :
    All (fun n => n.extra.Fits d ∧ ∀ r, n.staticRange = some r → r.extra.Fits d) (ofValue v) := by
  refine all_record_fits _ (hv.mono (Nat.le_succ d)) fun es hes => ?_
  refine all_ap (all_ap (all_ap (all_ap (all_ap (all_ap (all_ap (all_ap (all_map ?_ (all_true _))
    (all_true _)) (all_true _)) (all_true _))
    (all_map (Q := fun o => ∀ r, o = some r → r.extra.Fits d) ?_
      (all_required_fits hes _ fun w hw => StaticRange.all_kept hw)))
    (all_true _)) (all_true _)) (all_true _)) (all_extras_fits hes _)
  · intro name _ subnet _ gateway _ dns _ range hrange iface _ dhcp _ domain _ extra hextra
    exact ⟨hextra, hrange⟩
  · intro r hr r' hr'
    exact Option.some.inj hr' ▸ hr

theorem HostInterface.all_kept
    (hv : v.Fits d) :
    All (fun i => i.extra.Fits d) (ofValue v) := by
  refine all_record_fits _ (hv.mono (Nat.le_succ d)) fun es hes => ?_
  refine all_ap (all_ap (all_map ?_ (all_true _)) (all_true _)) (all_extras_fits hes _)
  intro network _ ip _ extra hextra
  exact hextra

theorem all_list_kept
    {α : Type} {P : α → Prop} {f : Value → Checked α}
    (hv : v.Fits d)
    (hf : ∀ w, w.Fits d → All P (f w)) :
    All (fun as => ∀ a ∈ as, P a) (list f v) :=
  all_list_fits (hv.mono (Nat.le_succ d)) hf

theorem Host.all_kept
    (hv : v.Fits d) :
    All (fun h => h.extra.Fits d ∧ ∀ i ∈ h.interfaces, i.extra.Fits d) (ofValue v) := by
  refine all_record_fits _ (hv.mono (Nat.le_succ d)) fun es hes => ?_
  refine all_ap (all_ap (all_ap (all_ap (all_map ?_ (all_true _)) (all_true _)) (all_true _))
    (all_withDefault_fits hes _
      (fun w hw => all_list_kept hw fun _ => HostInterface.all_kept) (by simp)))
    (all_extras_fits hes _)
  intro name _ vmid _ kind _ interfaces hinterfaces extra hextra
  exact ⟨hextra, hinterfaces⟩

theorem Template.all_kept
    (hv : v.Fits d) :
    All (fun t => t.extra.Fits d) (ofValue v) := by
  refine all_record_fits _ (hv.mono (Nat.le_succ d)) fun es hes => ?_
  refine all_ap (all_ap (all_ap (all_map ?_ (all_true _)) (all_true _)) (all_true _))
    (all_extras_fits hes _)
  intro name _ version _ vmid _ extra hextra
  exact hextra

theorem Reservation.all_kept_vmid
    (hv : v.Fits d) :
    All (fun e => e.extra.Fits d) (ofVmidValue v) := by
  refine all_record_fits _ (hv.mono (Nat.le_succ d)) fun es hes => ?_
  refine all_ap (all_ap (all_map ?_ (all_true _)) (all_true _)) (all_extras_fits hes _)
  intro vmid _ token _ extra hextra
  exact hextra

theorem Reservation.all_kept_ip
    (hv : v.Fits d) :
    All (fun e => e.extra.Fits d) (ofIpValue v) := by
  refine all_record_fits _ (hv.mono (Nat.le_succ d)) fun es hes => ?_
  refine all_ap (all_ap (all_map ?_ (all_true _)) (all_true _)) (all_extras_fits hes _)
  intro ip _ token _ extra hextra
  exact hextra

theorem Reserved.all_kept
    (hv : v.Fits d) :
    All (fun r => r.extra.Fits d ∧ (∀ e ∈ r.vmids, e.extra.Fits d) ∧ ∀ e ∈ r.ips, e.extra.Fits d)
      (ofValue v) := by
  refine all_record_fits _ (hv.mono (Nat.le_succ d)) fun es hes => ?_
  refine all_ap (all_ap (all_map ?_
    (all_withDefault_fits hes _
      (fun w hw => all_list_kept hw fun _ => Reservation.all_kept_vmid) (by simp)))
    (all_withDefault_fits hes _
      (fun w hw => all_list_kept hw fun _ => Reservation.all_kept_ip) (by simp)))
    (all_extras_fits hes _)
  intro vmids hvmids ips hips extra hextra
  exact ⟨hextra, hvmids, hips⟩

/-- What an inventory keeps is nested no deeper than its document. -/
theorem Inventory.fits_of_mem_extras
    {inv : Inventory}
    (hv : v.Fits d)
    (h : ofValue v = .ok inv)
    {extra : Extra}
    (hextra : extra ∈ inv.extras) :
    extra.Fits d := by
  obtain ⟨es, rfl, hread, -⟩ := ofValue_eq_ok_iff.mp h
  obtain ⟨d', rfl, hes'⟩ := hv.entries
  have hes : Entries.Fits (d' + 1) es :=
    ⟨hes'.keyed, fun e he => (hes'.values e he).mono (Nat.le_succ d')⟩
  have hall : All (fun inv => ∀ extra ∈ inv.extras, extra.Fits (d' + 1))
      (ofFields es) := by
    refine all_ap (all_ap (all_ap (all_ap (all_ap (all_ap (all_map ?_
      (all_required_fits hes _ fun w hw => ClusterConfig.all_kept hw))
      (all_required_fits hes _ fun w hw => ModuleSettings.all_kept hw))
      (all_withDefault_fits hes _ (fun w hw => all_list_kept hw fun _ => Network.all_kept)
        (by simp)))
      (all_withDefault_fits hes _ (fun w hw => all_list_kept hw fun _ => Host.all_kept)
        (by simp)))
      (all_withDefault_fits hes _ (fun w hw => all_list_kept hw fun _ => Template.all_kept)
        (by simp)))
      (all_withDefault_fits hes _ (fun w hw => Reserved.all_kept hw) ?_)) (all_extras_fits hes _)
    · intro cluster hcluster modules hmodules networks hnetworks hosts hhosts templates htemplates
        reserved hreserved extra hextra
      simp only [extras, List.mem_append, List.mem_cons, List.not_mem_nil, or_false, List.mem_map,
        List.mem_filterMap, List.mem_flatMap, Option.map_eq_some_iff]
      rintro kept ((((((((rfl | rfl | rfl | rfl | rfl | rfl) | ⟨n, hn, rfl⟩) | ⟨n, hn, r, hr, rfl⟩) |
        ⟨x, hx, rfl⟩) | ⟨x, hx, i, hi, rfl⟩) | ⟨t, ht, rfl⟩) | ⟨e, he, rfl⟩) | ⟨e, he, rfl⟩)
      · exact hextra
      · exact hcluster
      · exact hmodules.1
      · exact hmodules.2.1
      · exact hmodules.2.2
      · exact hreserved.1
      · exact (hnetworks n hn).1
      · exact ((hnetworks n hn).2 r hr)
      · exact (hhosts x hx).1
      · exact ((hhosts x hx).2 i hi)
      · exact (htemplates t ht)
      · exact (hreserved.2.1 e he)
      · exact (hreserved.2.2 e he)
    · simp [Reserved.empty, Extra.fits_nil]
  exact hall inv hread extra hextra

end

/-! ### Document form -/

namespace Value

theorem itemLevels_le_iff
    {items : List Value} {n : Nat} :
    itemLevels items ≤ n ↔ ∀ v ∈ items, v.levels ≤ n := by
  induction items with
  | nil => simp [itemLevels]
  | cons v rest ih => rw [itemLevels, Nat.max_le, ih, List.forall_mem_cons]

theorem entryLevels_le_iff
    {entries : List (Scalar × Value)} {n : Nat} :
    entryLevels entries ≤ n ↔ ∀ e ∈ entries, e.2.levels ≤ n := by
  induction entries with
  | nil => simp [entryLevels]
  | cons e rest ih => rw [entryLevels, Nat.max_le, ih, List.forall_mem_cons]

theorem itemLevels_scalars
    (members : List Scalar) :
    itemLevels (members.map scalar) = if members.isEmpty then 0 else 1 := by
  induction members with
  | nil => rfl
  | cons s rest ih =>
      rw [List.map_cons, itemLevels, ih, levels]
      cases rest <;> rfl

/-- A value that fits has one level more than lists and mappings stand in it. -/
theorem Fits.levels_le
    {d : Nat} {v : Value}
    (h : v.Fits d) :
    v.levels ≤ d + 1 := by
  induction h with
  | scalar hs => simp [levels]
  | list h ih => exact Nat.succ_le_succ (itemLevels_le_iff.mpr ih)
  | map keyed h ih => exact Nat.succ_le_succ (entryLevels_le_iff.mpr ih)

mutual

/-- The document form of a value has no more levels than the value. -/
theorem levels_kept : ∀ v : Value, v.kept.levels ≤ v.levels
  | scalar s => by
      cases s <;> simp only [kept, levels] <;> first | exact Nat.le_refl _ | split <;> simp [levels]
  | list items => by
      simpa only [kept, levels, Nat.add_le_add_iff_right] using itemLevels_kept items
  | map entries => by
      simpa only [kept, levels, Nat.add_le_add_iff_right] using entryLevels_kept entries
  | set members => by
      rw [kept, levels, levels, itemLevels_scalars]
      cases members <;> simp

theorem itemLevels_kept : ∀ items : List Value, itemLevels (keptItems items) ≤ itemLevels items
  | [] => Nat.le_refl _
  | v :: rest => by
      have hv := levels_kept v
      have hrest := itemLevels_kept rest
      simp only [keptItems, itemLevels]
      omega

theorem entryLevels_kept :
    ∀ entries : List (Scalar × Value), entryLevels (keptEntries entries) ≤ entryLevels entries
  | [] => Nat.le_refl _
  | (k, v) :: rest => by
      have hv := levels_kept v
      have hrest := entryLevels_kept rest
      simp only [keptEntries, entryLevels]
      omega

end

end Value

/-! ### Writing -/

/-- What a record keeps is not nested too deeply to be written. -/
def Extra.IsShallow (extra : Extra) : Prop :=
  ∀ f ∈ extra, f.2.levels ≤ Inventory.levelLimit

namespace Inventory

theorem isWritable_iff
    {inv : Inventory} :
    inv.isWritable = true ↔ ∀ extra ∈ inv.extras, extra.IsShallow := by
  simp [isWritable, Extra.IsShallow]

/-- What is kept in the document form of an inventory is kept in the inventory, apart from
its own form. -/
theorem exists_of_mem_extras_normal
    {inv : Inventory} {extra : Extra}
    (h : extra ∈ inv.normal.extras) :
    ∃ extra' ∈ inv.extras, ∀ f ∈ extra, ∃ g ∈ extra', f.2 = g.2.kept := by
  have hnormal : ∀ (extra : Extra), ∀ f ∈ extra.normal, ∃ g ∈ extra, f.2 = g.2.kept := by
    intro extra f hf
    obtain ⟨g, hg, rfl⟩ := List.mem_map.mp hf
    exact ⟨g, (List.mem_filter.mp hg).1, rfl⟩
  have hconfig : ∀ f ∈ inv.modules.normal.backend.config,
      ∃ g ∈ inv.modules.backend.config, f.2 = g.2.kept := by
    intro f hf
    obtain ⟨g, hg, rfl⟩ := List.mem_map.mp hf
    exact ⟨g, hg, rfl⟩
  simp only [extras, normal, List.mem_append, List.mem_cons, List.not_mem_nil, or_false,
    List.mem_map, List.mem_filterMap, List.mem_flatMap, Option.map_eq_some_iff,
    exists_exists_and_eq_and] at h ⊢
  rcases h with (((((((rfl | rfl | rfl | rfl | rfl | rfl) | h) | h) | h) | h) | h) | h) | h
  · exact ⟨inv.extra, by simp, hnormal _⟩
  · exact ⟨inv.cluster.extra, by simp, hnormal _⟩
  · exact ⟨inv.modules.extra, by simp, hnormal _⟩
  · exact ⟨inv.modules.backend.extra, by simp, hnormal _⟩
  · exact ⟨inv.modules.backend.config, by simp, hconfig⟩
  · exact ⟨inv.reserved.extra, by simp, hnormal _⟩
  · obtain ⟨n, hn, rfl⟩ := h
    exact ⟨n.extra, by grind, hnormal _⟩
  · obtain ⟨n, hn, r, hr, rfl⟩ := h
    obtain ⟨r', hr', rfl⟩ := Option.map_eq_some_iff.mp hr
    exact ⟨r'.extra, by grind, hnormal _⟩
  · obtain ⟨x, hx, rfl⟩ := h
    exact ⟨x.extra, by grind, hnormal _⟩
  · obtain ⟨x, hx, i, hi, rfl⟩ := h
    obtain ⟨i', hi', rfl⟩ := List.mem_map.mp hi
    exact ⟨i'.extra, by grind, hnormal _⟩
  · obtain ⟨t, ht, rfl⟩ := h
    exact ⟨t.extra, by grind, hnormal _⟩
  · obtain ⟨e, he, rfl⟩ := h
    obtain ⟨e', he', rfl⟩ := List.mem_map.mp he
    exact ⟨e'.extra, by grind, hnormal _⟩
  · obtain ⟨e, he, rfl⟩ := h
    obtain ⟨e', he', rfl⟩ := List.mem_map.mp he
    exact ⟨e'.extra, by grind, hnormal _⟩

theorem isWritable_normal
    {inv : Inventory}
    (h : inv.isWritable = true) :
    inv.normal.isWritable = true := by
  simp only [isWritable, List.all_eq_true, decide_eq_true_eq] at h ⊢
  intro extra hextra f hf
  obtain ⟨extra', hextra', hkept⟩ := exists_of_mem_extras_normal hextra
  obtain ⟨g, hg, hfg⟩ := hkept f hf
  rw [hfg]
  exact Nat.le_trans (Value.levels_kept g.2) (h extra' hextra' g hg)

/-- An inventory can be written if its document is not nested too deeply. -/
theorem isWritable_of_fits
    {d : Nat} {v : Value} {inv : Inventory}
    (hd : d < levelLimit)
    (hv : v.Fits d)
    (h : ofValue v = .ok inv) :
    inv.isWritable = true := by
  rw [isWritable_iff]
  intro extra hextra f hf
  have hlevels := ((fits_of_mem_extras hv h hextra).values f hf).levels_le
  omega

end Inventory
end Homelab
