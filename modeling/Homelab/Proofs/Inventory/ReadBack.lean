import Homelab.Inventory.File
import Homelab.Proofs.Json.Lines
import Homelab.Proofs.Json.Reordered
import Homelab.Proofs.Json.Shaped
import Homelab.Proofs.Json.Values
import Homelab.Proofs.Outcome

/-!
# Documents read back

A document without fractions that was written to the inventory file is read from there with
the keys of all its mappings in order, as long as no integer has too many digits and lists
and mappings do not stand inside of each other too deep.  The text of the file tells which document
it is, up to the order of keys.
-/

namespace Homelab

namespace Json

open Value

theorem indentedItems?_replace
    {v w : Value} {depth : Nat}
    (h : indented? depth v = indented? depth w)
    (front back : List Value) :
    indentedItems? depth (front ++ v :: back) = indentedItems? depth (front ++ w :: back) := by
  induction front with
  | nil => simp only [List.nil_append, indentedItems?, h]
  | cons u rest ih => simp only [List.cons_append, indentedItems?, ih]

theorem indentedEntries?_replace
    {v w : Value} {depth : Nat}
    (h : indented? depth v = indented? depth w)
    (front : Entries) (key : Scalar) (back : Entries) :
    indentedEntries? depth (front ++ (key, v) :: back) =
      indentedEntries? depth (front ++ (key, w) :: back) := by
  induction front with
  | nil => simp only [List.nil_append, indentedEntries?, h]
  | cons e rest ih => simp only [List.cons_append, indentedEntries?, ih]

/-- The order of keys does not show in the text of a file. -/
theorem indented?_of_reordered
    {v w : Value}
    (h : v.Reordered w) :
    ∀ {d : Nat}, v.Fits d → ∀ depth, indented? depth v = indented? depth w := by
  induction h with
  | refl v => exact fun _ _ => rfl
  | trans hfst _ ihfst ihsnd =>
      intro d hfits depth
      rw [ihfst hfits, ihsnd (hfst.fits hfits)]
  | @order es fs hperm =>
      intro d hfits depth
      obtain ⟨d, rfl, hes⟩ := hfits.entries
      have hfs := hes.keyed.perm hperm
      have hsome : ∀ e ∈ es, (indented? (depth + 1) e.2).isSome := fun e he =>
        (return_not_mem_written (hes.values e he) (depth + 1)).1
      rw [indented?, indented?, indentedEntries_eq hes.keyed.text hsome,
        indentedEntries_eq hfs.text fun e he => hsome e (hperm.mem_iff.mpr he)]
      simp only [Option.map_some, Entries.sortByKey_map (writtenEntry (depth + 1)) _ fun e _ => rfl,
        Entries.sortByKey_eq_of_perm hes.keyed hperm]
  | item front back _ ih =>
      intro d hfits depth
      obtain ⟨d, rfl, hitems⟩ := hfits.items
      rw [indented?, indented?, indentedItems?_replace (ih (hitems _ (by simp)) (depth + 1))]
  | entry front key back _ ih =>
      intro d hfits depth
      obtain ⟨d, rfl, hes⟩ := hfits.entries
      rw [indented?, indented?,
        indentedEntries?_replace (ih (hes.values (key, _) (by simp)) (depth + 1))]

end Json

/-! ### Documents without fractions -/

/-- A document is shaped like one that is read, with as many levels as it has. -/
theorem Value.IsPlain.shaped
    {v : Value}
    (h : v.IsPlain) :
    v.Shaped v.levels := by
  induction h with
  | null => exact shaped_null _
  | bool b => exact shaped_bool _ b
  | int n => exact shaped_int _ n
  | str s => exact shaped_str _ s
  | list _ ih =>
      rw [levels]
      exact .list fun v hv => (ih v hv).mono (levels_le_itemLevels hv)
  | map keyed _ ih =>
      rw [levels]
      exact .map keyed fun e he => (ih e he).mono (levels_le_entryLevels he)

namespace Json

/-- A document without fractions has a text exactly if none of its integers has too many digits. -/
theorem exists_fileText?_iff
    {v : Value}
    (hv : v.IsPlain) :
    (∃ text, fileText? v = some text) ↔ ∃ depth, v.Fits depth := by
  constructor
  · rintro ⟨text, htext⟩
    exact ⟨v.levels, fits_of_fileText? hv.shaped htext⟩
  · rintro ⟨depth, hfits⟩
    obtain ⟨text, htext, -⟩ := readWithin_fileText hfits
    exact ⟨text, htext⟩

/-- Documents that have a text have the same one exactly if they are equal up to the order of
keys. -/
theorem fileText?_eq_iff
    {v w : Value} {d d' : Nat}
    (hv : v.IsPlain)
    (hw : w.IsPlain)
    (hfits : v.Fits d)
    (hfits' : w.Fits d') :
    fileText? v = fileText? w ↔ v.Reordered w := by
  constructor
  · intro h
    -- A reader with room for both of them reads either text.
    obtain ⟨text, htext, hread⟩ := readWithin_fileText (hfits.mono (Nat.le_max_left d d'))
    obtain ⟨text', htext', hread'⟩ := readWithin_fileText (hfits'.mono (Nat.le_max_right d d'))
    rw [htext, htext', Option.some.injEq] at h
    rw [h, hread', Except.ok.injEq] at hread
    exact (hv.sorted_eq_iff hw).mp hread.symm
  · intro h
    rw [fileText?, fileText?, indented?_of_reordered h hfits]

end Json

namespace Inventory

/-! ### Written and read

What is written and what is read goes through calls inside of calls, and the interpreter may have
no room for them.  A reader needs one call for each list or mapping around another.  What a writer
needs depends on more than that: a mapping with several keys takes more room than a list without
members. -/

section Written

variable (room : Value → Bool) (limit : Nat) (file : String) {v w : Value}

/-- The text that a document is written with, where there is room to write it. -/
def writtenText (v : Value) : Except Failure String :=
  if room v then
    match Json.fileText? v with
    | some text => .ok text
    | none => .error (.unwritten v)
  else .error Failure.depthExceeded

/-- The document that is read from the inventory file once a document was written to it. -/
def readBack (v : Value) : Except Failure Value := do
  let text ← (Content.text (← writtenText room v)).read
  documentOf file text (Json.readWithin limit text)

theorem writtenText_eq_ok_iff
    {text : String} :
    writtenText room v = .ok text ↔ room v = true ∧ Json.fileText? v = some text := by
  unfold writtenText
  cases room v <;> cases Json.fileText? v <;> simp

/-- What is read back has been written, and is what the reader makes of the text. -/
theorem readBack_eq_ok_iff
    {u : Value} :
    readBack room limit file v = .ok u ↔
      ∃ text plain, room v = true ∧ Json.fileText? v = some text ∧
        (Content.text text).read = .ok plain ∧ Json.readWithin limit plain = .ok u := by
  simp only [readBack, bind_eq_ok, writtenText_eq_ok_iff, documentOf_eq_ok_iff, and_assoc,
    exists_and_left]

theorem readBack_of_fits
    (hroom : room v = true)
    (hfits : v.Fits limit) :
    readBack room limit file v = .ok v.sorted := by
  obtain ⟨text, htext, hread⟩ := Json.readWithin_fileText hfits
  exact (readBack_eq_ok_iff room limit file).mpr
    ⟨text, text, hroom, htext, Json.content_fileText hfits htext, hread⟩

/-- Whatever is read from the file is within the limits of the reader. -/
theorem fits_of_readBack
    (h : readBack room limit file v = .ok w) :
    w.Fits limit := by
  obtain ⟨text, plain, -, -, -, hread⟩ := (readBack_eq_ok_iff room limit file).mp h
  exact Json.fits_of_readWithin hread

/-- A document without fractions is written exactly if there is room for it and no integer has too
many digits.  It comes back from the inventory file up to the order of keys, and with all its keys
in order, exactly if, besides, its lists and mappings stand no deeper inside of each other than the
reader goes.  Two such documents are written with one text exactly if they are equal up to the order
of keys. -/
theorem read_back_and_same_text_iff
    (hv : v.IsPlain)
    (hw : w.IsPlain) :
    ((∃ text, writtenText room v = .ok text) ↔ room v = true ∧ ∃ depth, v.Fits depth) ∧
      ((∃ u, readBack room limit file v = .ok u ∧ v.Reordered u ∧ u.InOrder) ↔
        room v = true ∧ v.Fits limit) ∧
      ∀ text text', writtenText room v = .ok text → writtenText room w = .ok text' →
        (text = text' ↔ v.Reordered w) := by
  refine ⟨?_, ⟨?_, ?_⟩, ?_⟩
  · simp only [writtenText_eq_ok_iff, exists_and_left, Json.exists_fileText?_iff hv]
  · rintro ⟨u, hread, hreordered, -⟩
    obtain ⟨-, -, hroom, -⟩ := (readBack_eq_ok_iff room limit file).mp hread
    exact ⟨hroom, hreordered.symm.fits (fits_of_readBack room limit file hread)⟩
  · rintro ⟨hroom, hfits⟩
    exact ⟨v.sorted, readBack_of_fits room limit file hroom hfits, hv.reordered_sorted,
      hv.inOrder_sorted⟩
  · intro text text' hwritten hwritten'
    obtain ⟨-, htext⟩ := (writtenText_eq_ok_iff room).mp hwritten
    obtain ⟨-, htext'⟩ := (writtenText_eq_ok_iff room).mp hwritten'
    have hfits := Json.fits_of_fileText? hv.shaped htext
    have hfits' := Json.fits_of_fileText? hw.shaped htext'
    rw [← Json.fileText?_eq_iff hv hw hfits hfits', htext, htext', Option.some.injEq]

end Written

/-- Two entries in two orders come back in one order, and have one text. -/
theorem read_back_and_same_text_iff_sample :
    let v := Value.object [("b", .list [.null]), ("a", .str "x")]
    let w := Value.object [("a", .str "x"), ("b", .list [.null])]
    (∃ u, readBack (fun _ => true) 2 "inventory.json" v = .ok u ∧ v.Reordered u ∧ u.InOrder) ∧
      ∃ text, writtenText (fun _ => true) v = .ok text ∧
        writtenText (fun _ => true) w = .ok text := by
  intro v w
  have hreordered : v.Reordered w := .order (.swap _ _ [])
  have hkeyed : Entries.Keyed [(.str "b", .list [.null]), (.str "a", .str "x")] := by
    refine ⟨?_, by decide⟩
    simp
  have hplain : v.IsPlain := .map hkeyed fun e he => by
    rcases List.mem_pair.mp he with rfl | rfl
    · exact .list (by simpa using .null)
    · exact .str "x"
  have hplain' : w.IsPlain := hreordered.isPlain hplain
  have hfits : v.Fits 2 := .map hkeyed fun e he => by
    rcases List.mem_pair.mp he with rfl | rfl
    · exact .list (by simpa using .scalar trivial)
    · exact .scalar trivial
  obtain ⟨hwritten, hback, hsame⟩ :=
    read_back_and_same_text_iff (fun _ => true) 2 "inventory.json" hplain hplain'
  obtain ⟨hwritten', -, -⟩ :=
    read_back_and_same_text_iff (fun _ => true) 2 "inventory.json" hplain' hplain
  obtain ⟨text, htext⟩ := hwritten.mpr ⟨rfl, 2, hfits⟩
  obtain ⟨text', htext'⟩ := hwritten'.mpr ⟨rfl, 2, hreordered.fits hfits⟩
  obtain rfl : text = text' := (hsame text text' htext htext').mpr hreordered
  exact ⟨hback.mpr ⟨rfl, hfits⟩, text, htext, htext'⟩

/-! ### Beyond the limits -/

theorem fileText?_int_of_large
    {n : Nat}
    (h : 10 ^ Json.digitLimit ≤ n) :
    Json.fileText? (.int n) = none := by
  have hlarge : (Scalar.int n).isOversized = true := by
    rw [← Bool.not_eq_false, ← Scalar.fits_int_iff, Scalar.Fits, Int.natAbs_natCast]
    exact Nat.not_lt.mpr h
  rw [Json.fileText?, Json.indented?, Json.scalarText?, if_pos hlarge, Option.map_none]

/-- The texts of integers with too many digits do not differ, as they have none. -/
theorem not_read_back_of_large
    {n : Nat}
    (room : Value → Bool) (limit : Nat) (file : String)
    (h : 10 ^ Json.digitLimit ≤ n) :
    (∀ u, readBack room limit file (.int n) ≠ .ok u) ∧
      Json.fileText? (.int n) = Json.fileText? (.int ↑(n + 1)) ∧
      ¬(Value.int n).Reordered (.int ↑(n + 1)) := by
  have hnone := fileText?_int_of_large h
  refine ⟨fun u hread => ?_, ?_, fun hreordered => ?_⟩
  · obtain ⟨text, -, -, htext, -⟩ := (readBack_eq_ok_iff room limit file).mp hread
    cases hnone.symm.trans htext
  · rw [hnone, fileText?_int_of_large (Nat.le_succ_of_le h)]
  · have hsame := hreordered.sorted_eq (.int n)
    simp [Value.sorted] at hsame

/-- Lists inside of each other. -/
def nestedLists : Nat → Value
  | 0 => .list []
  | depth + 1 => .list [nestedLists depth]

theorem isPlain_nestedLists
    (depth : Nat) :
    (nestedLists depth).IsPlain := by
  induction depth with
  | zero => exact .list (by simp)
  | succ depth ih => exact .list (by simpa using ih)

theorem lt_of_fits_nestedLists
    {depth d : Nat}
    (h : (nestedLists depth).Fits d) :
    depth < d := by
  induction depth generalizing d with
  | zero =>
      obtain ⟨d, rfl, -⟩ := h.items
      omega
  | succ depth ih =>
      obtain ⟨d, rfl, hitems⟩ := h.items
      have hinner := ih (hitems (nestedLists depth) (by simp))
      omega

/-- Integers with one digit too many do not come back, and do not differ in their text, whatever
there is room for; and whatever the limit of the reader is, lists that stand inside of each other
deeper do not come back either. -/
theorem not_read_back_beyond_limits :
    let n : Nat := 10 ^ Json.digitLimit
    ((Value.int n).IsPlain ∧ (Value.int ↑(n + 1)).IsPlain ∧
        ∀ depth, (nestedLists depth).IsPlain) ∧
      ∀ (room : Value → Bool) (limit : Nat),
        ((∀ u, readBack room limit "inventory.json" (.int n) ≠ .ok u) ∧
          Json.fileText? (.int n) = Json.fileText? (.int ↑(n + 1)) ∧
          ¬(Value.int n).Reordered (.int ↑(n + 1))) ∧
        ¬∃ u, readBack room limit "inventory.json" (nestedLists limit) = .ok u ∧
          (nestedLists limit).Reordered u := by
  intro n
  refine ⟨⟨.int n, .int _, isPlain_nestedLists⟩, fun room limit =>
    ⟨not_read_back_of_large room limit "inventory.json" (Nat.le_refl n), ?_⟩⟩
  rintro ⟨u, hread, hreordered⟩
  have hfits := hreordered.symm.fits (fits_of_readBack room limit "inventory.json" hread)
  exact absurd (lt_of_fits_nestedLists hfits) (Nat.lt_irrefl limit)

end Inventory
end Homelab
