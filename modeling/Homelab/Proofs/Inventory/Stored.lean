import Homelab.Proofs.Inventory.Merged
import Homelab.Proofs.Json.Values

/-!
# Reservations in a document

The reservations of an inventory from a JSON document can be written to a document
again.  With them in the place of the ones that were there, the document is still that
of the inventory, with other reservations.
-/

namespace Homelab

/-! ### Integers -/

namespace Schema

open Checked

theorem all_digits
    (signs : Nat) (cs : List Char) :
    All (fun n => n < 10 ^ Json.digitLimit) (digits signs cs) := by
  unfold digits
  split
  · intro n h
    rw [← Checked.ok.inj h]
    exact Nat.pow_pos (by omega)
  · simp only
    split
    · exact all_issue _
    · split
      · exact all_issue _
      · split
        · rename_i hlength _
          intro n h
          rw [← Checked.ok.inj h]
          refine Nat.lt_of_lt_of_le (Text.natOfDigits_lt _ List.all_takeWhile) ?_
          refine Nat.pow_le_pow_right (by omega) ?_
          have hlimit : textLimit = Json.digitLimit := rfl
          omega
        · exact all_issue _
  · exact all_issue _

theorem all_integerOfText
    (s : String) :
    All (fun n => n.natAbs < 10 ^ Json.digitLimit) (integerOfText s) := by
  unfold integerOfText
  simp only
  split
  · unfold signedDigits
    split
    · exact all_map (by simp) (all_digits 1 _)
    · exact all_map (by simp) (all_digits 0 _)
  · exact all_issue _

/-- An integer of a document has no more digits than can be written. -/
theorem all_integer
    {depth : Nat} {v : Value}
    (hv : v.Fits depth) :
    All (fun n => n.natAbs < 10 ^ Json.digitLimit) (integer v) := by
  have hword : Nat.pow 2 63 ≤ 10 ^ Json.digitLimit :=
    Nat.le_trans (show Nat.pow 2 63 ≤ 10 ^ 19 by decide)
      (Nat.pow_le_pow_right (by omega) (by decide))
  unfold integer
  split
  · rename_i n
    cases hv with
    | scalar hn =>
        intro m h
        exact Checked.ok.inj h ▸ hn
  · intro n h
    rw [← Checked.ok.inj h]
    have hone : 1 < 10 ^ Json.digitLimit := Nat.one_lt_pow (by decide) (by omega)
    split
    · exact hone
    · exact Nat.lt_trans Nat.zero_lt_one hone
  · unfold wholeNumber
    split
    · exact all_issue _
    · split
      · exact all_issue _
      · split
        · rename_i hlt
          intro m h
          rw [← Checked.ok.inj h]
          omega
        · exact all_issue _
  · exact all_integerOfText _
  · cases hv with
    | scalar hbytes => exact hbytes.elim
  · exact all_issue _

end Schema

/-! ### Reservations -/

/-- A reserved machine number that can be written. -/
structure Reservation.VmidFits (depth : Nat) (e : Reservation Int) : Prop where
  value : e.value.natAbs < 10 ^ Json.digitLimit
  extra : e.extra.Fits depth

/-- Reservations that can be written. -/
structure Reserved.Fits (depth : Nat) (r : Reserved) : Prop where
  vmids : ∀ e ∈ r.vmids, e.VmidFits depth
  ips : ∀ e ∈ r.ips, e.extra.Fits depth
  extra : r.extra.Fits (depth + 2)

open Checked Schema

theorem Reservation.all_vmidFits
    {depth : Nat} {v : Value}
    (hv : v.Fits (depth + 1)) :
    All (VmidFits depth) (ofVmidValue v) := by
  refine all_record_fits _ hv fun es hes => ?_
  refine all_ap (all_ap (all_map ?_
    (all_required_fits hes _ fun w hw => all_integer hw)) (all_true _)) (all_extras_fits hes _)
  intro n hn token _ extra hextra
  exact ⟨hn, hextra⟩

theorem Reservation.all_ipFits
    {depth : Nat} {v : Value}
    (hv : v.Fits (depth + 1)) :
    All (fun e => e.extra.Fits depth) (ofIpValue v) := by
  refine all_record_fits _ hv fun es hes => ?_
  refine all_ap (all_ap (all_map ?_ (all_true _)) (all_true _)) (all_extras_fits hes _)
  intro ip _ token _ extra hextra
  exact hextra

theorem Reserved.all_fits
    {depth : Nat} {v : Value}
    (hv : v.Fits (depth + 3)) :
    All (Fits depth) (ofValue v) := by
  refine all_record_fits _ hv fun es hes => ?_
  refine all_ap (all_ap (all_map ?_
    (all_withDefault_fits hes _
      (fun w hw => all_list_fits hw fun _ => Reservation.all_vmidFits) (by simp)))
    (all_withDefault_fits hes _
      (fun w hw => all_list_fits hw fun _ => Reservation.all_ipFits) (by simp)))
    (all_extras_fits hes _)
  intro vmids hvmids ips hips extra hextra
  exact ⟨hvmids, hips, hextra⟩

theorem Reservation.fits_vmidValue
    {depth : Nat} {e : Reservation Int}
    (hform : e.VmidWellFormed)
    (h : e.VmidFits depth) :
    (vmidValue e).Fits (depth + 1) := by
  refine (layout_vmid hform).fits ?_ h.extra
  intro f hf
  simp only [List.mem_cons, List.not_mem_nil, or_false] at hf
  rcases hf with rfl | rfl
  · exact .scalar h.value
  · exact .scalar trivial

theorem Reservation.fits_ipValue
    {depth : Nat} {e : Reservation String}
    (hform : e.IpWellFormed)
    (h : e.extra.Fits depth) :
    (ipValue e).Fits (depth + 1) := by
  refine (layout_ip hform.clear).fits ?_ h
  intro f hf
  simp only [List.mem_cons, List.not_mem_nil, or_false] at hf
  rcases hf with rfl | rfl
  · exact .scalar trivial
  · exact .scalar trivial

/-- Reservations that were read can be written again. -/
theorem Reserved.fits_toValue
    {depth : Nat} {r : Reserved}
    (hform : r.WellFormed)
    (h : r.Fits depth) :
    r.toValue.Fits (depth + 3) := by
  refine (Reserved.layout hform.clear).fits ?_ h.extra
  intro f hf
  simp only [List.mem_cons, List.not_mem_nil, or_false] at hf
  rcases hf with rfl | rfl
  · refine .list fun v hv => ?_
    obtain ⟨e, he, rfl⟩ := List.mem_map.mp hv
    exact Reservation.fits_vmidValue (hform.vmids e he) (h.vmids e he)
  · refine .list fun v hv => ?_
    obtain ⟨e, he, rfl⟩ := List.mem_map.mp hv
    exact Reservation.fits_ipValue (hform.ips e he) (h.ips e he)

theorem Reserved.Fits.normal
    {depth : Nat} {r : Reserved}
    (h : r.Fits depth) :
    r.normal.Fits depth := by
  refine ⟨?_, ?_, h.extra.normal⟩
  · intro e he
    obtain ⟨f, hf, rfl⟩ := List.mem_map.mp he
    exact ⟨(h.vmids f hf).value, (h.vmids f hf).extra.normal⟩
  · intro e he
    obtain ⟨f, hf, rfl⟩ := List.mem_map.mp he
    exact (h.ips f hf).normal

namespace Inventory

/-! ### Other reservations in a document -/

theorem given?_put
    {es : Entries} {name other : String} {v : Value}
    (hes : es.Keyed)
    (hne : other ≠ name) :
    given? [other] (Entries.put (.str name) v es) = given? [other] es := by
  rw [given?, given?, Entries.find?_put hes, if_neg hne, given?, given?]

theorem required_put
    {α : Type} {f : Value → Checked α} {es : Entries} {name other : String} {v : Value}
    (hes : es.Keyed)
    (hne : other ≠ name) :
    required [other] f (Entries.put (.str name) v es) = required [other] f es := by
  rw [required, required, given?_put hes hne]

theorem withDefault_put
    {α : Type} {f : Value → Checked α} {d : α} {es : Entries} {name other : String} {v : Value}
    (hes : es.Keyed)
    (hne : other ≠ name) :
    withDefault [other] f d (Entries.put (.str name) v es) = withDefault [other] f d es := by
  rw [withDefault, withDefault, given?_put hes hne]

theorem filter_put
    {p : Scalar × Value → Bool} {name : String}
    (v : Value)
    {es : Entries}
    (hes : es.Keyed)
    (hp : ∀ w, p (.str name, w) = false) :
    (Entries.put (.str name) v es).filter p = es.filter p := by
  induction es with
  | nil => simp [Entries.put, hp]
  | cons e rest ih =>
      obtain ⟨k, w⟩ := e
      obtain ⟨s, hs⟩ := hes.text (k, w) (by simp)
      simp only at hs
      subst hs
      have hrest : Entries.Keyed rest :=
        ⟨fun e he => hes.text e (by simp [he]), (List.nodup_cons.mp hes.nodup).2⟩
      by_cases hname : s = name
      · subst hname
        rw [Entries.put, Scalar.sameKey_str, if_pos (by simp), List.filter_cons_of_neg (by simp [hp]),
          List.filter_cons_of_neg (by simp [hp])]
      · rw [Entries.put, Scalar.sameKey_str, if_neg (by simpa using hname), List.filter_cons,
          List.filter_cons, ih hrest]

theorem mem_usedNames_iff
    {es : Entries} {key : String} {names : List (List String)}
    (hsingle : ∀ n ∈ names, n.length = 1) :
    key ∈ usedNames names es ↔ [key] ∈ names ∧ (Entries.find? key es).isSome = true := by
  have hgiven : ∀ k : String, (given? [k] es).map (·.1) = (Entries.find? k es).map fun _ => k := by
    intro k
    rw [given?, given?]
    cases Entries.find? k es <;> rfl
  rw [usedNames, List.mem_filterMap]
  constructor
  · rintro ⟨n, hn, hused⟩
    obtain ⟨k, rfl⟩ := List.length_eq_one_iff.mp (hsingle n hn)
    rw [hgiven, Option.map_eq_some_iff] at hused
    obtain ⟨v, hv, rfl⟩ := hused
    exact ⟨hn, by rw [hv]; rfl⟩
  · rintro ⟨hn, hfound⟩
    obtain ⟨v, hv⟩ := Option.isSome_iff_exists.mp hfound
    exact ⟨[key], hn, by rw [hgiven, hv]; rfl⟩

/-- What belongs to no field stays as it is when a field is set. -/
theorem extras_put
    {es : Entries} {name : String} {v : Value} {names : List (List String)}
    (hes : es.Keyed)
    (hname : [name] ∈ names)
    (hsingle : ∀ n ∈ names, n.length = 1) :
    Schema.extras names (Entries.put (.str name) v es) = Schema.extras names es := by
  have hfound : ∀ e ∈ es, (Entries.find? e.1.keyText es).isSome = true := by
    intro e he
    obtain ⟨s, hs⟩ := hes.text e he
    rw [hs, Scalar.keyText, Entries.find?, List.lookup_isSome_iff]
    exact ⟨e, he, by simp [hs]⟩
  have hleft : (Entries.put (.str name) v es).filter
        (fun e => !(usedNames names (Entries.put (.str name) v es)).contains e.1.keyText) =
      (Entries.put (.str name) v es).filter
        (fun e => e.1.keyText ≠ name && !(usedNames names es).contains e.1.keyText) := by
    refine List.filter_congr fun e _ => ?_
    by_cases hkey : e.1.keyText = name
    · simp [hkey, mem_usedNames_iff hsingle, hname, Entries.find?_put hes]
    · simp [hkey, mem_usedNames_iff hsingle, Entries.find?_put hes]
  have hright : es.filter
        (fun e => e.1.keyText ≠ name && !(usedNames names es).contains e.1.keyText) =
      es.filter fun e => !(usedNames names es).contains e.1.keyText := by
    refine List.filter_congr fun e he => ?_
    by_cases hkey : e.1.keyText = name
    · have hsome := hfound e he
      rw [hkey] at hsome
      simp [hkey, mem_usedNames_iff hsingle, hname, hsome]
    · simp [hkey]
  rw [extras_eq_filter hes.put, extras_eq_filter hes, hleft,
    filter_put v hes (by simp [Scalar.keyText]), hright]

theorem ofFields_put
    {es : Entries} {disk : Inventory} {v : Value} {r : Reserved}
    (hes : es.Keyed)
    (h : ofFields es = .ok disk)
    (hv : Reserved.ofValue v = .ok r) :
    ofFields (Entries.put (.str "reserved") v es) = .ok { disk with reserved := r } := by
  have hread : withDefault ["reserved"] Reserved.ofValue Reserved.empty
      (Entries.put (.str "reserved") v es) = .ok r := by
    rw [withDefault, given?, Entries.find?_put hes, if_pos rfl]
    simp [hv]
  rw [ofFields] at h ⊢
  simp only [Checked.map_eq, Checked.seq_eq] at h ⊢
  rw [hread, required_put hes (by decide), required_put hes (by decide),
    withDefault_put hes (by decide), withDefault_put hes (by decide),
    withDefault_put hes (by decide), extras_put hes (by simp [fields]) (by simp [fields])]
  simp only [ap_eq_ok_iff, map_eq_ok_iff] at h ⊢
  obtain ⟨f₇, ⟨f₆, ⟨f₅, ⟨f₄, ⟨f₃, ⟨f₂, ⟨cluster, hcluster, rfl⟩, modules, hmodules, rfl⟩, networks,
    hnetworks, rfl⟩, hosts, hhosts, rfl⟩, templates, htemplates, rfl⟩, reserved, -, rfl⟩, extra,
    hextra, rfl⟩ := h
  exact ⟨_, ⟨_, ⟨_, ⟨_, ⟨_, ⟨_, ⟨cluster, hcluster, rfl⟩, modules, hmodules, rfl⟩, networks,
    hnetworks, rfl⟩, hosts, hhosts, rfl⟩, templates, htemplates, rfl⟩, r, rfl, rfl⟩, extra,
    hextra, rfl⟩

/-! ### The file -/

/-- A text holds a document with other reservations: everything else is under its key as
before, with sorted keys, and the inventory of the document has these reservations. -/
structure Holds [DepthLimits] (document : Value) (disk : Inventory) (r : Reserved) (text : String) :
    Prop where
  content : (Content.text text).read = .ok text
  stored : ∃ stored, Json.read text = .ok stored ∧
    stored.get? "reserved" = some r.toValue.sorted ∧
    (∀ key, key ≠ "reserved" → stored.get? key = (document.get? key).map Value.sorted) ∧
    ∃ inv, ofValue stored = .ok inv ∧ inv.bare = { disk with reserved := r }.bare
  inventory : ∀ stored, Json.read text = .ok stored →
    ofValue stored = .ok (sorted { disk with reserved := r.normal })
  fits : ∀ depth stored, Json.read text = .ok stored → document.Fits (depth + 4) →
    r.Fits depth → stored.Fits (depth + 4)

theorem reserved_fits
    {depth : Nat} {document : Value} {disk : Inventory}
    (hfits : document.Fits (depth + 4))
    (hdisk : ofValue document = .ok disk) :
    disk.reserved.Fits depth := by
  obtain ⟨es, rfl, hread, -⟩ := ofValue_eq_ok_iff.mp hdisk
  obtain ⟨d, hd, hes⟩ := hfits.entries
  obtain rfl : depth + 3 = d := by omega
  have hall : All (fun inv => inv.reserved.Fits depth) (ofFields es) := by
    refine all_ap (all_ap (all_ap (all_ap (all_ap (all_ap (all_map ?_ (all_true _)) (all_true _))
      (all_true _)) (all_true _)) (all_true _))
      (all_withDefault_fits hes _ (fun w hw => Reserved.all_fits hw) ?_)) (all_true _)
    · intro cluster _ modules _ networks _ hosts _ templates _ r hr extra _
      exact hr
    · exact ⟨by simp [Reserved.empty], by simp [Reserved.empty], Extra.fits_nil _⟩
  exact hall disk hread

/-- The text of a document is written with other reservations, if these can be written and
keep to the rules. -/
theorem textWith_reserved [DepthLimits]
    {depth : Nat} {document : Value} {disk inv : Inventory}
    (hlimit : depth + 4 = DepthLimits.reading)
    (hfits : document.Fits (depth + 4))
    (hdisk : ofValue document = .ok disk)
    (hwritable : inv.isWritable = true)
    (hform : inv.WellFormed)
    (hreserved : inv.reserved.Fits depth)
    (hvalid : Valid { disk with reserved := inv.reserved }) :
    ∃ text, inv.textWith ["reserved"] document = .ok text ∧
      Holds document disk inv.reserved text := by
  obtain ⟨es, rfl, hread, hfault⟩ := ofValue_eq_ok_iff.mp hdisk
  obtain ⟨d, hd, hes⟩ := hfits.entries
  obtain rfl : depth + 3 = d := by omega
  have hput : ∀ {d : Nat}, Entries.Fits (d + 3) es → inv.reserved.Fits d →
      (Value.map (Entries.put (.str "reserved") inv.reserved.toValue es)).Fits (d + 4) := by
    intro d hes hreserved
    refine .map hes.keyed.put fun e he => ?_
    rcases Entries.mem_put hes.keyed.text e he with he | rfl
    · exact hes.values e he
    · exact Reserved.fits_toValue hform.reserved hreserved
  have hstored := hput hes hreserved
  rw [hlimit] at hstored
  have hread' := ofFields_put hes.keyed hread (Reserved.ofValue_toValue hform.reserved)
  have hbare : Inventory.bare { disk with reserved := inv.reserved.normal } =
      Inventory.bare { disk with reserved := inv.reserved } := by
    simp [bare, Reserved.bare_normal]
  have hvalue := ofValue_eq_ok_iff.mpr
    ⟨_, rfl, hread', fault?_eq_none_iff.mpr (hvalid.of_bare_eq hbare)⟩
  obtain ⟨text, htext, hback⟩ := Json.read_fileText hstored
  have hsorted := ofValue_sorted hstored hvalue
  refine ⟨text, ?_, Json.content_fileText hstored htext,
    ⟨_, hback, ?_, ?_, _, hsorted, (bare_sorted _).trans hbare⟩, ?_, ?_⟩
  · have hlookup : inv.written.lookup "reserved" = some inv.reserved.toValue := rfl
    have hfind : Entries.find? "reserved" inv.entries = some inv.reserved.toValue :=
      (layout_written hform.clear).find?_eq hlookup
    refine textWith_eq_ok_iff.mpr ⟨hwritable, es, rfl, ?_⟩
    rw [replaceEntries_singleton hfind]
    exact ⟨⟨_, hvalue⟩, htext⟩
  · rw [Entries.sorted_map, Value.get?, Entries.find?_sorted hes.keyed.put,
      Entries.find?_put hes.keyed, if_pos rfl]
    rfl
  · intro key hkey
    rw [Entries.sorted_map, Value.get?, Entries.find?_sorted hes.keyed.put,
      Entries.find?_put hes.keyed, if_neg hkey]
    rfl
  · intro stored hread
    obtain rfl := Except.ok.inj (hback.symm.trans hread)
    exact hsorted
  · intro d stored hread hdocument hfits
    obtain ⟨d', hd', hes'⟩ := hdocument.entries
    obtain rfl : d + 3 = d' := by omega
    obtain rfl := Except.ok.inj (hback.symm.trans hread)
    exact (hput hes' hfits).sorted

end Inventory
end Homelab