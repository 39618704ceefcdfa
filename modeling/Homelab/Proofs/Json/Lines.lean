import Homelab.Proofs.Json.RoundTrip
import Homelab.Site

/-!
# Lines of JSON files

A JSON text has no carriage return: those of a text value are written as escapes, and
all line ends of a file are line feeds.  So a JSON file is read as it was written.
-/

namespace Homelab

/-- A text without carriage returns is read from a file as it is. -/
theorem Text.plainNewlines_eq
    {cs : List Char}
    (h : '\r' ∉ cs) :
    Text.plainNewlines cs = cs := by
  induction cs with
  | nil => rfl
  | cons c rest ih =>
      simp only [List.mem_cons, not_or] at h
      have hc : c ≠ '\r' := Ne.symm h.1
      rw [Text.plainNewlines.eq_3 _ _ (fun _ heq _ => hc heq), if_neg hc, ih h.2]

theorem Text.return_not_mem_digits
    {ds : List Char}
    (h : ∀ c ∈ ds, Text.isAsciiDigit c = true) :
    '\r' ∉ ds := by
  intro hmem
  exact absurd (h _ hmem) (by decide)

theorem Text.return_not_mem_toDigits
    (n : Nat) :
    '\r' ∉ Nat.toDigits 10 n :=
  Text.return_not_mem_digits fun _ hc => Text.isAsciiDigit_of_mem_toDigits hc

namespace Json

/-! ### Scalars -/

theorem return_not_mem_escapeUnit
    (n : Nat) :
    '\r' ∉ escapeUnit n := by
  have hdigit : ∀ d, d < 16 → '\r' ≠ Text.hexDigit d := by decide
  have hlt : ∀ k, k % 16 < 16 := fun k => Nat.mod_lt _ (by omega)
  rw [escapeUnit_eq]
  simp [hdigit _ (hlt _)]

theorem return_not_mem_escapeChar
    (c : Char) :
    '\r' ∉ escapeChar c := by
  have hfst := return_not_mem_escapeUnit (0xd800 + (c.toNat - 0x10000) / 0x400)
  have hsnd := return_not_mem_escapeUnit (0xdc00 + (c.toNat - 0x10000) % 0x400)
  unfold escapeChar
  repeat' split
  all_goals
    first
    | exact return_not_mem_escapeUnit _
    | simp [hfst, hsnd]
  rename_i hreturn _ _ _ _
  exact Ne.symm hreturn

theorem return_not_mem_stringText
    (s : String) :
    '\r' ∉ (stringText s).toList := by
  rw [stringText, String.toList_ofList]
  simp [return_not_mem_escapeChar]

theorem return_not_mem_layout
    (m : Nat) (e : Int) :
    '\r' ∉ (Double.layout m e).toList := by
  have hrepr : ∀ n, (Nat.repr n).toList = Nat.toDigits 10 n := by
    intro n
    rw [Nat.repr_eq_ofList_toDigits, String.toList_ofList]
  have hdigits := Text.return_not_mem_toDigits m
  have hpadded := fun k => Text.return_not_mem_digits (paddedDigits_spec k).1
  simp only [Double.layout, hrepr]
  generalize Nat.toDigits 10 m = digits at hdigits ⊢
  have htake : ∀ n, '\r' ∉ digits.take n := fun n h => hdigits (List.mem_of_mem_take h)
  have hdrop : ∀ n, '\r' ∉ digits.drop n := fun n h => hdigits (List.mem_of_mem_drop h)
  split
  · repeat' split
    all_goals simp [hdigits, htake, hdrop]
  · have hend := hpadded ((digits.length : Int) + e - 1).natAbs
    rw [paddedDigits] at hend
    rw [String.toList_ofList, List.mem_append, List.mem_cons, List.mem_cons, not_or, not_or,
      not_or]
    refine ⟨?_, by decide, by split <;> decide, hend⟩
    rcases digits with - | ⟨d, - | ⟨d', rest⟩⟩
    · simp
    · simpa using hdigits
    · simpa using hdigits

theorem return_not_mem_floatText
    (x : Double) :
    '\r' ∉ (floatText x).toList := by
  have hlayout := return_not_mem_layout x.shortest.1 x.shortest.2
  unfold floatText Double.text
  repeat' split
  all_goals simp_all

theorem return_not_mem_scalarText
    {s : Scalar} {t : String}
    (h : scalarText? s = some t) :
    '\r' ∉ t.toList := by
  cases s with
  | null =>
      rw [← Option.some.inj h]
      decide
  | bool b =>
      rw [← Option.some.inj h]
      cases b <;> decide
  | int n =>
      rw [scalarText?] at h
      split at h
      · simp at h
      · rw [← Option.some.inj h]
        cases n with
        | ofNat k =>
            rw [show toString (Int.ofNat k) = Nat.repr k from rfl,
              Nat.repr_eq_ofList_toDigits, String.toList_ofList]
            exact Text.return_not_mem_toDigits k
        | negSucc k =>
            rw [show toString (Int.negSucc k) = "-" ++ Nat.repr (k + 1) from rfl,
              Nat.repr_eq_ofList_toDigits, String.toList_append, String.toList_ofList]
            simpa using Text.return_not_mem_toDigits (k + 1)
  | float x => exact Option.some.inj h ▸ return_not_mem_floatText x
  | str s => exact Option.some.inj h ▸ return_not_mem_stringText s
  | bytes data => simp [scalarText?] at h
  | date d => simp [scalarText?] at h
  | moment t => simp [scalarText?] at h

/-! ### Values -/

theorem return_not_mem_lineBreak
    (depth : Nat) :
    '\r' ∉ (lineBreak depth).toList := by
  simp [lineBreak]

theorem return_not_mem_block
    {opening closing : String} {depth : Nat} {parts : List String}
    (hopening : '\r' ∉ opening.toList)
    (hclosing : '\r' ∉ closing.toList)
    (hparts : ∀ t ∈ parts, '\r' ∉ t.toList) :
    '\r' ∉ (block opening closing depth parts).toList := by
  cases parts with
  | nil => simp [block, hopening, hclosing]
  | cons t ts =>
      have hbreak := return_not_mem_lineBreak depth
      have hbreak' := return_not_mem_lineBreak (depth + 1)
      have hfirst := hparts t (by simp)
      have hrest : ∀ u ∈ ts, '\r' ∉ u.toList := fun u hu => hparts u (by simp [hu])
      rw [block_cons]
      simp only [joinedBy, List.mem_append, List.mem_flatMap, List.mem_map, not_or, not_exists,
        not_and]
      refine ⟨hopening, hbreak', ⟨hfirst, ?_⟩, hbreak, hclosing⟩
      rintro u ⟨t', ht', rfl⟩
      simp [hbreak', hrest t' ht']

theorem return_not_mem_written
    {d : Nat} {v : Value}
    (h : v.Fits d) :
    ∀ depth, (indented? depth v).isSome ∧ '\r' ∉ (written depth v).toList := by
  induction h with
  | scalar hs =>
      intro depth
      obtain ⟨t, ht⟩ := exists_scalarText? hs
      simp only [written, indented?, ht]
      exact ⟨rfl, return_not_mem_scalarText ht⟩
  | list h ih =>
      intro depth
      have hwritten := indentedItems_eq fun v hv => (ih v hv (depth + 1)).1
      simp only [written, indented?, hwritten]
      refine ⟨rfl, return_not_mem_block (by decide) (by decide) ?_⟩
      intro t ht
      obtain ⟨v, hv, rfl⟩ := List.mem_map.mp ht
      exact (ih v hv (depth + 1)).2
  | map keyed h ih =>
      intro depth
      have hwritten := indentedEntries_eq keyed.text fun e he => (ih e he (depth + 1)).1
      simp only [written, indented?, hwritten]
      refine ⟨rfl, return_not_mem_block (by decide) (by decide) ?_⟩
      intro t ht
      obtain ⟨p, hp, rfl⟩ := List.mem_map.mp ht
      obtain ⟨e, he, rfl⟩ := List.mem_map.mp ((List.mergeSort_perm _ _).mem_iff.mp hp)
      simp [writtenEntry, return_not_mem_stringText, (ih e he (depth + 1)).2]

/-- A JSON file is read as it was written. -/
theorem content_fileText
    {d : Nat} {v : Value} {text : String}
    (hfits : v.Fits d)
    (h : fileText? v = some text) :
    (Content.text text).read = .ok text := by
  obtain ⟨t, ht, rfl⟩ := Option.map_eq_some_iff.mp h
  have hplain := (return_not_mem_written hfits 0).2
  rw [written, ht, Option.getD_some] at hplain
  rw [Content.read, Text.plainNewlines_eq (by simpa using hplain), String.ofList_toList]

end Json
end Homelab
