import Homelab.Inventory.File
import Homelab.Proofs.Inventory.Dumped
import Homelab.Proofs.Json.Lines

/-!
# Documents with fields of another inventory

Some fields of a document become those of an inventory in memory: a field is set to what the
document of the inventory has there, or removed if there is nothing.  If the result is an
inventory it is written with its keys in order.  Read back, everything is under its key again,
and it is an inventory as before.
-/

namespace Homelab

namespace Inventory

/-- The entries of the document of an inventory. -/
def entries (inv : Inventory) : Entries := Value.fieldEntries inv.written inv.extra

theorem toValue_eq_entries
    (inv : Inventory) :
    inv.toValue = .map inv.entries := rfl

/-! ### Fields that are replaced -/

/-- Entries with a key as in others: set to what is under it there, or removed. -/
def replaceEntry (updated es : Entries) (name : String) : Entries :=
  match Entries.find? name updated with
  | some v => Entries.put (.str name) v es
  | none => Entries.erase name es

theorem replaceField_map
    (updated es : Entries) (name : String) :
    replaceField (.map updated) (.map es) name = .ok (.map (replaceEntry updated es name)) := by
  have hget : (Value.map updated).get? name = Entries.find? name updated := rfl
  cases hfind : Entries.find? name updated <;> simp only [replaceField, replaceEntry, hget, hfind]

/-- The fields of a document that is no object cannot be replaced. -/
theorem replaceField_eq_error
    {document : Value}
    (h : ∀ es, document ≠ .map es)
    (updated : Value) (name : String) :
    replaceField updated document name =
      .error (fieldRefusal document (updated.get? name).isNone) := by
  cases document with
  | map es => exact absurd rfl (h es)
  | scalar s | list items | set members =>
      cases hget : updated.get? name <;> simp only [replaceField, hget]

theorem keyed_replaceEntry
    {es : Entries}
    (hes : es.Keyed)
    (updated : Entries) (name : String) :
    (replaceEntry updated es name).Keyed := by
  rw [replaceEntry]
  cases Entries.find? name updated with
  | some v => exact hes.put
  | none => exact hes.erase name

theorem find?_replaceEntry
    {es : Entries}
    (hes : es.Keyed)
    (updated : Entries) (name key : String) :
    Entries.find? key (replaceEntry updated es name) =
      if key = name then Entries.find? key updated else Entries.find? key es := by
  rw [replaceEntry]
  cases hfind : Entries.find? name updated with
  | some v =>
      rw [Entries.find?_put hes]
      by_cases hkey : key = name
      · rw [if_pos hkey, if_pos hkey, hkey, hfind]
      · rw [if_neg hkey, if_neg hkey]
  | none =>
      rw [Entries.find?_erase]
      by_cases hkey : key = name
      · rw [if_pos hkey, if_pos hkey, hkey, hfind]
      · rw [if_neg hkey, if_neg hkey]

/-- Entries with some keys as in others, one key after another. -/
def replaceEntries (updated : Entries) (fields : List String) (es : Entries) : Entries :=
  fields.foldl (replaceEntry updated) es

/-- A field that is there in the other entries is set. -/
theorem replaceEntries_singleton
    {updated : Entries} {name : String} {v : Value}
    (h : Entries.find? name updated = some v)
    (es : Entries) :
    replaceEntries updated [name] es = Entries.put (.str name) v es := by
  simp only [replaceEntries, List.foldl_cons, List.foldl_nil, replaceEntry, h]

theorem foldlM_replaceField
    (updated : Entries) (fields : List String) (es : Entries) :
    fields.foldlM (replaceField (.map updated)) (.map es) =
      .ok (.map (replaceEntries updated fields es)) := by
  induction fields generalizing es with
  | nil => rfl
  | cons name rest ih =>
      simp only [List.foldlM_cons, replaceField_map]
      exact ih _

theorem keyed_replaceEntries
    {es : Entries}
    (hes : es.Keyed)
    (updated : Entries) (fields : List String) :
    (replaceEntries updated fields es).Keyed := by
  induction fields generalizing es with
  | nil => exact hes
  | cons name rest ih => exact ih (keyed_replaceEntry hes updated name)

/-- What is under the replaced keys is what is under them in the other entries, and everything
else is as it was. -/
theorem find?_replaceEntries
    {es : Entries}
    (hes : es.Keyed)
    (updated : Entries) (fields : List String) (key : String) :
    Entries.find? key (replaceEntries updated fields es) =
      if key ∈ fields then Entries.find? key updated else Entries.find? key es := by
  induction fields generalizing es with
  | nil => simp [replaceEntries]
  | cons name rest ih =>
      rw [replaceEntries, List.foldl_cons, ← replaceEntries, ih (keyed_replaceEntry hes updated name),
        find?_replaceEntry hes updated name]
      by_cases hkey : key = name
      · simp [hkey]
      · simp [hkey]

/-- What stands in the merged entries comes from one side or the other. -/
theorem mem_replaceEntries
    {es updated : Entries} {fields : List String} {e : Scalar × Value}
    (hes : es.Keyed)
    (h : e ∈ replaceEntries updated fields es) :
    e ∈ updated ∨ e ∈ es := by
  have hkeyed := keyed_replaceEntries hes updated fields
  obtain ⟨k, v⟩ := e
  obtain ⟨key, hkey⟩ := hkeyed.text (k, v) h
  simp only at hkey
  subst hkey
  have hfind := (lookup_eq_some_iff_mem hkeyed.nodup).mpr h
  rw [← Entries.find?, find?_replaceEntries hes] at hfind
  split at hfind
  · left
    obtain ⟨front, back, rfl, -⟩ := List.lookup_eq_some_iff.mp hfind
    simp
  · exact .inr ((lookup_eq_some_iff_mem hes.nodup).mp hfind)

/-! ### The text that is written -/

/-- There is a text to write if the inventory has a document and that of the file is an object,
and the two together are an inventory that has a text. -/
theorem textWith_eq_ok_iff
    {inv : Inventory} {fields : List String} {document : Value} {text : String} :
    inv.textWith fields document = .ok text ↔
      inv.isWritable = true ∧ ∃ es, document = .map es ∧
        (∃ disk, ofValue (.map (replaceEntries inv.entries fields es)) = .ok disk) ∧
        Json.fileText? (.map (replaceEntries inv.entries fields es)) = some text := by
  by_cases hwritable : inv.isWritable = true
  · have hdocument : inv.document = .ok inv.toValue := if_pos hwritable
    cases document with
    | map es =>
        simp only [textWith, hdocument, toValue_eq_entries, foldlM_replaceField, bind, Except.bind,
          hwritable, true_and, Value.map.injEq, exists_eq_left']
        cases ofValue (.map (replaceEntries inv.entries fields es)) with
        | error e => simp
        | ok disk =>
            cases Json.fileText? (.map (replaceEntries inv.entries fields es)) with
            | none => simp
            | some text' => simp
    | scalar s | list items | set members =>
        cases fields with
        | nil => simp [textWith, hdocument, bind, Except.bind, pure, Except.pure, ofValue]
        | cons name rest =>
            simp [textWith, hdocument, bind, Except.bind, replaceField_eq_error]
  · have hdocument : inv.document = .error tooManyLevels := if_neg hwritable
    simp [textWith, hdocument, bind, Except.bind, hwritable]

/-- The text that is written holds the document with its fields replaced, and an inventory. -/
theorem read_textWith [DepthLimits]
    {inv : Inventory} {fields : List String} {document : Value} {text : String}
    (h : inv.Shaped)
    (hfits : document.Fits DepthLimits.reading)
    (htext : inv.textWith fields document = .ok text) :
    (Content.text text).read = .ok text ∧
      ∃ stored, Json.read text = .ok stored ∧
        (∀ key, stored.get? key =
          (if key ∈ fields then inv.toValue.get? key else document.get? key).map Value.sorted) ∧
        ∃ disk, ofValue stored = .ok disk := by
  obtain ⟨hwritable, es, rfl, ⟨disk, hdisk⟩, hwritten⟩ := textWith_eq_ok_iff.mp htext
  obtain ⟨d, hd, hes⟩ := hfits.entries
  have hupdated : ∀ e ∈ inv.entries, e.2.Shaped d := by
    intro e he
    have hshaped := shaped_toValue h hwritable
    rw [toValue_eq_entries] at hshaped
    cases hshaped with
    | map keyed hvalues =>
        refine (hvalues e he).mono ?_
        have hlimit : levelLimit + 5 ≤ DepthLimits.reading := DepthLimits.readable
        omega
  have hmerged : (Value.map (replaceEntries inv.entries fields es)).Shaped DepthLimits.reading := by
    rw [hd]
    refine .map (keyed_replaceEntries hes.keyed _ fields) fun e he => ?_
    rcases mem_replaceEntries hes.keyed he with he | he
    · exact hupdated e he
    · exact (hes.values e he).shaped
  have hstored := Json.fits_of_fileText? hmerged hwritten
  obtain ⟨text', htext', hread⟩ := Json.read_fileText hstored
  obtain rfl := Option.some.inj (hwritten.symm.trans htext')
  refine ⟨Json.content_fileText hstored hwritten, _, hread, fun key => ?_, _,
    ofValue_sorted hstored hdisk⟩
  rw [Entries.sorted_map, toValue_eq_entries, Value.get?, Value.get?, Value.get?,
    Entries.find?_sorted (keyed_replaceEntries hes.keyed _ fields),
    find?_replaceEntries hes.keyed]

end Inventory
end Homelab
