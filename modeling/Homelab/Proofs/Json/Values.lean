import Homelab.Proofs.Json.RoundTrip

/-!
# What is read from JSON texts

Whatever a JSON text is read as can be written to one again: no integer has too many
digits, the keys of a mapping are different texts, and lists and mappings stand inside
of each other only as deep as they are read.
-/

namespace Homelab

/-! ### Numbers -/

namespace Double

theorem isNaN_ofParts
    {negative : Bool} {k : Nat}
    (hk : k ≤ infinityBits) :
    (ofParts negative k).isNaN = false := by
  have hbound : infinityBits < 9223372036854775808 := by decide
  rw [isNaN, (magnitude_ofParts (by omega)).1]
  simpa using hk

theorem isNaN_ofRatio
    (negative : Bool) (num den : Nat) :
    (ofRatio negative num den).isNaN = false := by
  unfold ofRatio
  split
  · exact isNaN_ofParts (Nat.zero_le _)
  · exact isNaN_ofParts (Nat.min_le_right _ _)

/-- A decimal is read as a number. -/
theorem isNaN_ofDecimal
    (negative : Bool) (m : Nat) (e : Int) :
    (ofDecimal negative m e).isNaN = false := by
  unfold ofDecimal
  simp only
  split
  · exact isNaN_ofParts (Nat.zero_le _)
  · split
    · exact isNaN_ofParts (Nat.le_refl _)
    · split
      · exact isNaN_ofParts (Nat.zero_le _)
      · split <;> exact isNaN_ofRatio _ _ _

end Double

theorem Double.isNaN_infinity
    (negative : Bool) :
    (Double.infinity negative).isNaN = false := Double.isNaN_ofParts (Nat.le_refl _)

namespace Json

/-! ### Values -/

theorem takeWhole_digits
    {cs whole left : List Char}
    (h : takeWhole cs = (whole, left)) :
    whole.all Text.isAsciiDigit = true := by
  unfold takeWhole at h
  split at h
  · simp only [Prod.mk.injEq] at h
    simp [← h.1, Text.isAsciiDigit]
  · simp only [takeDigits, Prod.mk.injEq] at h
    rw [← h.1]
    exact List.all_takeWhile

theorem fits_of_readNumber
    {negative : Bool} {start : Nat} {cs left : List Char} {v : Value}
    (h : readNumber negative start cs = .ok (v, left)) :
    ∃ s : Scalar, v = .scalar s ∧ s.Fits := by
  rw [readNumber_eq] at h
  cases hwhole : takeWhole cs with
  | mk whole afterWhole =>
      cases hfraction : readFraction afterWhole with
      | mk fraction afterFraction =>
          cases hexponent : readExponent afterFraction with
          | mk exponent rest =>
              simp only [hwhole, hfraction, hexponent] at h
              split at h
              · simp at h
              · split at h
                · split at h
                  · simp at h
                  · rename_i hlength
                    simp only [Except.ok.injEq, Prod.mk.injEq] at h
                    refine ⟨_, h.1.symm, ?_⟩
                    have hlt := Text.natOfDigits_lt whole (takeWhole_digits hwhole)
                    have hle := Nat.pow_le_pow_right (n := 10) (by omega)
                      (Nat.le_of_not_lt hlength)
                    have habs : (if negative = true then -(Text.natOfDigits whole : Int)
                        else Text.natOfDigits whole).natAbs = Text.natOfDigits whole := by
                      split <;> simp
                    rw [Scalar.Fits, habs]
                    exact Nat.lt_of_lt_of_le hlt hle
                · simp only [Except.ok.injEq, Prod.mk.injEq] at h
                  refine ⟨_, h.1.symm, ?_⟩
                  simp [Scalar.Fits, Double.isNaN_ofDecimal]

theorem fits_of_readWord
    {cs left : List Char} {v : Value}
    (h : readWord cs = .ok (v, left)) :
    ∃ s : Scalar, v = .scalar s ∧ s.Fits := by
  unfold readWord at h
  split at h
  all_goals
    first
    | exact fits_of_readNumber h
    | simp only [Except.ok.injEq, Prod.mk.injEq] at h
      obtain ⟨rfl, -⟩ := h
      exact ⟨_, rfl, by simp [Scalar.Fits, Double.isNaN_infinity]⟩

theorem map_eq_ok_iff
    {α β : Type} {f : α → β} {r : Except Fault α} {b : β} :
    r.map f = .ok b ↔ ∃ a, r = .ok a ∧ f a = b := by
  cases r <;> simp [Except.map]

/-- What is read with some fuel fits, as deep as lists and mappings are read. -/
structure ReadsFit (limit fuel : Nat) : Prop where
  value : ∀ {nesting cs v left}, readValue limit fuel nesting cs = .ok (v, left) →
    v.Fits (limit - nesting)
  items : ∀ {nesting cs vs left}, readItems limit fuel nesting cs = .ok (vs, left) →
    ∀ v ∈ vs, v.Fits (limit - nesting)
  members : ∀ {nesting cs es left}, readMembers limit fuel nesting cs = .ok (es, left) →
    ∀ e ∈ es, (∃ s, e.1 = .str s) ∧ e.2.Fits (limit - nesting)

section Step

variable {limit fuel nesting : Nat} {cs left : List Char}

theorem ReadsFit.readList
    {vs : List Value}
    (h : ReadsFit limit fuel)
    (hnesting : nesting < limit)
    (hread : readItems limit fuel (nesting + 1) cs = .ok (vs, left)) :
    (Value.list vs).Fits (limit - nesting) := by
  rw [show limit - nesting = limit - (nesting + 1) + 1 by omega]
  exact .list (h.items hread)

theorem ReadsFit.readMap
    {es : Entries}
    (h : ReadsFit limit fuel)
    (hnesting : nesting < limit)
    (hread : readMembers limit fuel (nesting + 1) cs = .ok (es, left)) :
    (Value.map (Entries.ofPairs es)).Fits (limit - nesting) := by
  have hfits := h.members hread
  obtain ⟨hkeyed, hfrom⟩ := Entries.keyed_ofPairs fun e he => (hfits e he).1
  rw [show limit - nesting = limit - (nesting + 1) + 1 by omega]
  exact .map hkeyed fun e he => (hfits e (hfrom e he)).2

theorem ReadsFit.value_succ
    {v : Value}
    (h : ReadsFit limit fuel)
    (hread : readValue limit (fuel + 1) nesting cs = .ok (v, left)) :
    v.Fits (limit - nesting) := by
  rw [readValue.eq_def] at hread
  simp only at hread
  split at hread
  · obtain ⟨r, -, hr⟩ := map_eq_ok_iff.mp hread
    rw [← (Prod.mk.inj hr).1]
    exact .scalar trivial
  · split at hread
    · cases hread
    · rename_i hlimit
      have hlt : nesting < limit := Nat.lt_of_not_le hlimit
      split at hread
      · rw [← (Prod.mk.inj (Except.ok.inj hread)).1,
          show limit - nesting = limit - (nesting + 1) + 1 by omega]
        exact .list (by simp)
      · obtain ⟨r, hitems, hr⟩ := map_eq_ok_iff.mp hread
        rw [← (Prod.mk.inj hr).1]
        exact h.readList hlt hitems
  · split at hread
    · cases hread
    · rename_i hlimit
      have hlt : nesting < limit := Nat.lt_of_not_le hlimit
      split at hread
      · rw [← (Prod.mk.inj (Except.ok.inj hread)).1,
          show limit - nesting = limit - (nesting + 1) + 1 by omega]
        exact .map ⟨by simp, by simp⟩ (by simp)
      · obtain ⟨r, hmembers, hr⟩ := map_eq_ok_iff.mp hread
        rw [← (Prod.mk.inj hr).1]
        exact h.readMap hlt hmembers
  · obtain ⟨s, rfl, hs⟩ := fits_of_readWord hread
    exact .scalar hs

theorem ReadsFit.items_succ
    {vs : List Value}
    (h : ReadsFit limit fuel)
    (hread : readItems limit (fuel + 1) nesting cs = .ok (vs, left)) :
    ∀ v ∈ vs, v.Fits (limit - nesting) := by
  rw [readItems] at hread
  split at hread
  · cases hread
  · rename_i v afterValue hvalue
    have hv := h.value hvalue
    split at hread
    · rw [← (Prod.mk.inj (Except.ok.inj hread)).1]
      simpa using hv
    · obtain ⟨r, hrest, hr⟩ := map_eq_ok_iff.mp hread
      rw [← (Prod.mk.inj hr).1]
      exact List.forall_mem_cons.mpr ⟨hv, h.items hrest⟩
    · cases hread

theorem ReadsFit.members_succ
    {es : Entries}
    (h : ReadsFit limit fuel)
    (hread : readMembers limit (fuel + 1) nesting cs = .ok (es, left)) :
    ∀ e ∈ es, (∃ s, e.1 = .str s) ∧ e.2.Fits (limit - nesting) := by
  rw [readMembers.eq_def] at hread
  simp only at hread
  split at hread
  · split at hread
    · cases hread
    · rename_i key afterKey hkey
      split at hread
      · split at hread
        · cases hread
        · rename_i v afterValue hvalue
          have hv := h.value hvalue
          split at hread
          · rw [← (Prod.mk.inj (Except.ok.inj hread)).1]
            simpa using hv
          · obtain ⟨r, hrest, hr⟩ := map_eq_ok_iff.mp hread
            rw [← (Prod.mk.inj hr).1]
            exact List.forall_mem_cons.mpr ⟨⟨⟨key, rfl⟩, hv⟩, h.members hrest⟩
          · cases hread
      · cases hread
  · cases hread

end Step

theorem readsFit
    (limit fuel : Nat) :
    ReadsFit limit fuel := by
  induction fuel with
  | zero => constructor <;> simp [readValue, readItems, readMembers]
  | succ fuel ih => exact ⟨ih.value_succ, ih.items_succ, ih.members_succ⟩

/-- What a JSON text is read as can be written to one. -/
theorem fits_of_readWithin
    {limit : Nat} {text : String} {v : Value}
    (h : readWithin limit text = .ok v) :
    v.Fits limit := by
  rw [readWithin, readChars] at h
  split at h
  · simp at h
  · split at h
    · simp at h
    · rename_i w left hread
      have hfits := (readsFit _ _).value hread
      split at h
      · simp only [Except.ok.injEq] at h
        exact h ▸ hfits
      · simp at h

theorem fits_of_read [DepthLimits]
    {text : String} {v : Value}
    (h : read text = .ok v) :
    v.Fits DepthLimits.reading :=
  fits_of_readWithin h

end Json
end Homelab
