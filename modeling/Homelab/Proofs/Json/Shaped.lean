import Homelab.Proofs.Json.RoundTrip

/-!
# Values in memory

A value in memory need not have a JSON form: there may be raw bytes in it, sets, or integers of
too many digits.  If only the keys of its mappings are different texts, it is enough that the
value was written: what has a text can stand in a JSON text, and is nested no deeper than it
is in memory.
-/

namespace Homelab

/-- There is one value only that is no number. -/
def Scalar.Canonical (s : Scalar) : Prop :=
  ∀ x, s = .float x → x.isNaN = true → x = Double.notANumber

/-- A value in which mappings have different text keys, with at most so many lists, mappings
and sets inside of each other. -/
inductive Value.Shaped : Nat → Value → Prop where
  | scalar {depth : Nat} {s : Scalar}
      (h : s.Canonical) : Shaped depth (.scalar s)
  | list {depth : Nat} {items : List Value}
      (h : ∀ v ∈ items, Shaped depth v) : Shaped (depth + 1) (.list items)
  | map {depth : Nat} {es : Entries}
      (keyed : es.Keyed) (h : ∀ e ∈ es, Shaped depth e.2) : Shaped (depth + 1) (.map es)
  | set {depth : Nat} {members : List Scalar}
      (h : ∀ s ∈ members, s.Canonical) : Shaped (depth + 1) (.set members)

theorem Scalar.canonical_of_ne_float
    {s : Scalar}
    (h : ∀ x, s ≠ .float x) :
    s.Canonical := fun x hx => absurd hx (h x)

theorem Scalar.Fits.canonical
    {s : Scalar}
    (h : s.Fits) :
    s.Canonical := by
  rintro x rfl
  exact h

namespace Value

variable {d : Nat} {v : Value}

theorem shaped_str
    (depth : Nat) (s : String) :
    (Value.str s).Shaped depth := .scalar (Scalar.canonical_of_ne_float (by simp))

theorem shaped_null
    (depth : Nat) :
    Value.null.Shaped depth := .scalar (Scalar.canonical_of_ne_float (by simp))

theorem shaped_int
    (depth : Nat) (n : Int) :
    (Value.int n).Shaped depth := .scalar (Scalar.canonical_of_ne_float (by simp))

theorem shaped_bool
    (depth : Nat) (b : Bool) :
    (Value.bool b).Shaped depth := .scalar (Scalar.canonical_of_ne_float (by simp))

theorem shaped_ofText?
    (depth : Nat) (s : Option String) :
    (ofText? s).Shaped depth := by
  cases s with
  | none => exact shaped_null depth
  | some s => exact shaped_str depth s

theorem Fits.shaped
    (h : v.Fits d) :
    v.Shaped d := by
  induction h with
  | scalar hs => exact .scalar hs.canonical
  | list h ih => exact .list ih
  | map keyed h ih => exact .map keyed ih

theorem Shaped.mono
    {d' : Nat}
    (h : v.Shaped d)
    (hle : d ≤ d') :
    v.Shaped d' := by
  induction h generalizing d' with
  | scalar hs => exact .scalar hs
  | list h ih =>
      obtain ⟨d', rfl⟩ : ∃ k, d' = k + 1 := ⟨d' - 1, by omega⟩
      exact .list fun v hv => ih v hv (by omega)
  | map keyed h ih =>
      obtain ⟨d', rfl⟩ : ∃ k, d' = k + 1 := ⟨d' - 1, by omega⟩
      exact .map keyed fun e he => ih e he (by omega)
  | set h =>
      obtain ⟨d', rfl⟩ : ∃ k, d' = k + 1 := ⟨d' - 1, by omega⟩
      exact .set h

/-! ### Levels -/

theorem levels_le_itemLevels
    {items : List Value}
    (h : v ∈ items) :
    v.levels ≤ itemLevels items := by
  induction items with
  | nil => simp at h
  | cons w rest ih =>
      rw [itemLevels]
      rcases List.mem_cons.mp h with rfl | h
      · exact Nat.le_max_left _ _
      · exact Nat.le_trans (ih h) (Nat.le_max_right _ _)

theorem levels_le_entryLevels
    {es : Entries} {e : Scalar × Value}
    (h : e ∈ es) :
    e.2.levels ≤ entryLevels es := by
  induction es with
  | nil => simp at h
  | cons f rest ih =>
      rw [entryLevels]
      rcases List.mem_cons.mp h with rfl | h
      · exact Nat.le_max_left _ _
      · exact Nat.le_trans (ih h) (Nat.le_max_right _ _)

/-- A value is nested no deeper than it has levels. -/
theorem Shaped.of_levels
    {d' : Nat}
    (h : v.Shaped d)
    (hlevels : v.levels ≤ d') :
    v.Shaped d' := by
  refine Shaped.mono ?_ hlevels
  clear hlevels
  induction h with
  | scalar hs => exact .scalar hs
  | list h ih =>
      rw [levels]
      exact .list fun v hv => (ih v hv).mono (levels_le_itemLevels hv)
  | map keyed h ih =>
      rw [levels]
      exact .map keyed fun e he => (ih e he).mono (levels_le_entryLevels he)
  | set h =>
      rw [levels]
      split
      · exact .set h
      · exact .set h

/-! ### Document form -/

/-- The document form of a value has the keys that it had. -/
theorem Shaped.kept
    (h : v.Shaped d) :
    v.kept.Shaped d := by
  induction h with
  | @scalar d s hs =>
      cases s with
      | float x =>
          rw [Value.kept]
          split
          · exact .scalar hs
          · exact shaped_null d
      | bytes data =>
          rw [Value.kept]
          exact shaped_str d _
      | null | bool b | int n | str s | date x | moment t =>
          simp only [Value.kept]
          exact .scalar hs
  | list h ih =>
      rw [Value.kept, keptItems_eq]
      refine .list fun v hv => ?_
      obtain ⟨w, hw, rfl⟩ := List.mem_map.mp hv
      exact ih w hw
  | map keyed h ih =>
      rw [Value.kept, keptEntries_eq]
      refine .map ⟨?_, ?_⟩ ?_
      · intro e he
        obtain ⟨f, hf, rfl⟩ := List.mem_map.mp he
        exact keyed.text f hf
      · simpa [Function.comp_def] using keyed.nodup
      · intro e he
        obtain ⟨f, hf, rfl⟩ := List.mem_map.mp he
        exact ih f hf
  | set h =>
      rw [Value.kept]
      refine .list fun v hv => ?_
      obtain ⟨s, hs, rfl⟩ := List.mem_map.mp hv
      exact .scalar (h s hs)

end Value

/-! ### What was written -/

namespace Json

open Value

theorem fits_of_scalarText?
    {s : Scalar}
    (hs : s.Canonical)
    (h : (scalarText? s).isSome = true) :
    s.Fits := by
  cases s with
  | null | bool b | str s => trivial
  | int n =>
      refine (Scalar.fits_int_iff n).mpr ?_
      cases hlarge : (Scalar.int n).isOversized with
      | false => rfl
      | true => simp [scalarText?, hlarge] at h
  | float x => exact hs x rfl
  | bytes data | date d | moment t => simp [scalarText?] at h

theorem isSome_of_indentedItems?
    {depth : Nat} {items : List Value}
    (h : (indentedItems? depth items).isSome = true) :
    ∀ v ∈ items, (indented? depth v).isSome = true := by
  induction items with
  | nil => simp
  | cons v rest ih =>
      rw [indentedItems?] at h
      cases hv : indented? depth v with
      | none => simp [hv] at h
      | some t =>
          cases hrest : indentedItems? depth rest with
          | none => simp [hv, hrest] at h
          | some ts => exact List.forall_mem_cons.mpr ⟨by simp [hv], ih (by simp [hrest])⟩

theorem isSome_of_indentedEntries?
    {depth : Nat} {es : Entries}
    (h : (indentedEntries? depth es).isSome = true) :
    ∀ e ∈ es, (indented? depth e.2).isSome = true := by
  induction es with
  | nil => simp
  | cons e rest ih =>
      obtain ⟨k, v⟩ := e
      rw [indentedEntries?] at h
      cases hk : keyText? k with
      | none => simp [hk] at h
      | some key =>
          cases hv : indented? depth v with
          | none => simp [hk, hv] at h
          | some t =>
              cases hrest : indentedEntries? depth rest with
              | none => simp [hk, hv, hrest] at h
              | some ts => exact List.forall_mem_cons.mpr ⟨by simp [hv], ih (by simp [hrest])⟩

/-- A value that has a text can stand in a JSON text. -/
theorem fits_of_indented?
    {d : Nat} {v : Value}
    (h : v.Shaped d) :
    ∀ depth, (indented? depth v).isSome = true → v.Fits d := by
  induction h with
  | scalar hs =>
      intro depth htext
      rw [indented?] at htext
      exact .scalar (fits_of_scalarText? hs htext)
  | list h ih =>
      intro depth htext
      rw [indented?, Option.isSome_map] at htext
      exact .list fun v hv => ih v hv _ (isSome_of_indentedItems? htext v hv)
  | map keyed h ih =>
      intro depth htext
      rw [indented?, Option.isSome_map] at htext
      exact .map keyed fun e he => ih e he _ (isSome_of_indentedEntries? htext e he)
  | set h =>
      intro depth htext
      simp [indented?] at htext

theorem fits_of_fileText?
    {d : Nat} {v : Value} {text : String}
    (h : v.Shaped d)
    (htext : fileText? v = some text) :
    v.Fits d := by
  obtain ⟨t, ht, -⟩ := Option.map_eq_some_iff.mp htext
  exact fits_of_indented? h 0 (by rw [ht]; rfl)

end Json
end Homelab
