import Homelab.Json.Reader
import Homelab.Json.Writer

/-!
# JSON texts read back

A text is written in ASCII, character by character, and read back as 16-bit units: one
for a character of the basic plane, a surrogate pair for every other.  The units joined
give the characters back.
-/

namespace Homelab
namespace Json

/-! ### Units -/

/-- The 16-bit units of a character. -/
def units (c : Char) : List Nat :=
  if c.toNat < 0x10000 then [c.toNat]
  else [0xd800 + (c.toNat - 0x10000) / 0x400, 0xdc00 + (c.toNat - 0x10000) % 0x400]

theorem toNat_lt
    (c : Char) :
    c.toNat < 0xd800 ∨ 0xe000 ≤ c.toNat ∧ c.toNat < 0x110000 := by
  have h : c.toNat < 0xd800 ∨ (0xdfff < c.toNat ∧ c.toNat < 0x110000) := c.valid
  omega

theorem isHighSurrogate_toNat
    (c : Char) :
    isHighSurrogate c.toNat = false := by
  have := toNat_lt c
  simp only [isHighSurrogate, Bool.and_eq_false_iff, decide_eq_false_iff_not]
  omega

theorem unitChar_toNat
    (c : Char) :
    unitChar c.toNat = c := by
  have := toNat_lt c
  have hnot : (0xd800 ≤ c.toNat && c.toNat < 0xe000) = false := by
    simp only [Bool.and_eq_false_iff, decide_eq_false_iff_not]
    omega
  rw [unitChar, hnot, if_neg (by simp)]
  exact Char.ofNat_toNat c

/-- The units of some characters joined are the characters. -/
theorem joinSurrogates_units
    (cs : List Char) :
    joinSurrogates (cs.flatMap units) = cs := by
  induction cs with
  | nil => rfl
  | cons c cs ih =>
      rw [List.flatMap_cons, units]
      split
      · rw [List.singleton_append]
        cases hrest : cs.flatMap units with
        | nil =>
            rw [hrest] at ih
            rw [joinSurrogates, unitChar_toNat, ← ih]
            rfl
        | cons low rest =>
            rw [hrest] at ih
            rw [joinSurrogates, isHighSurrogate_toNat, Bool.false_and, if_neg (by simp), ih,
              unitChar_toNat]
      · rename_i hlarge
        have := toNat_lt c
        have hhigh : isHighSurrogate (0xd800 + (c.toNat - 0x10000) / 0x400) = true := by
          simp only [isHighSurrogate, Bool.and_eq_true, decide_eq_true_eq]
          omega
        have hlow : isLowSurrogate (0xdc00 + (c.toNat - 0x10000) % 0x400) = true := by
          simp only [isLowSurrogate, Bool.and_eq_true, decide_eq_true_eq]
          omega
        have hpair : pairChar (0xd800 + (c.toNat - 0x10000) / 0x400)
            (0xdc00 + (c.toNat - 0x10000) % 0x400) = c := by
          rw [pairChar, show 0x10000 + (0xd800 + (c.toNat - 0x10000) / 0x400 - 0xd800) * 0x400 +
            (0xdc00 + (c.toNat - 0x10000) % 0x400 - 0xdc00) = c.toNat by omega]
          exact Char.ofNat_toNat c
        rw [List.cons_append, List.cons_append, List.nil_append, joinSurrogates, hhigh, hlow,
          Bool.and_self, if_pos rfl, hpair, ih]

/-! ### Escapes -/

theorem hexValue_hexDigit
    {d : Nat}
    (hd : d < 16) :
    Text.hexValue (Text.hexDigit d) = some d := by
  have hall : ∀ d, d < 16 → Text.hexValue (Text.hexDigit d) = some d := by decide
  exact hall d hd

/-- The four digits of a unit are read as the unit. -/
theorem unit?_hexDigits
    {n : Nat}
    (hn : n < 0x10000) :
    unit? (Text.hexDigit (n / 16 / 16 / 16 % 16)) (Text.hexDigit (n / 16 / 16 % 16))
      (Text.hexDigit (n / 16 % 16)) (Text.hexDigit (n % 16)) = some n := by
  simp only [unit?, hexValue_hexDigit (Nat.mod_lt _ (show 0 < 16 by omega)), Option.some.injEq]
  omega

theorem escapeUnit_eq
    (n : Nat) :
    escapeUnit n = ['\\', 'u', Text.hexDigit (n / 16 / 16 / 16 % 16),
      Text.hexDigit (n / 16 / 16 % 16), Text.hexDigit (n / 16 % 16), Text.hexDigit (n % 16)] := rfl

theorem readString_escapeUnit
    (start : Nat) {n : Nat} (next : Char) (rest : List Char)
    (hn : n < 0x10000) :
    readString start (escapeUnit n ++ next :: rest) =
      (readString start (next :: rest)).map fun r => (n :: r.1, r.2) := by
  rw [escapeUnit_eq]
  simp only [List.cons_append, List.nil_append]
  rw [readString.eq_4, unit?_hexDigits hn]

theorem readString_plain
    {start : Nat} {c : Char} {rest : List Char}
    (hquote : c ≠ '"')
    (hescape : c ≠ '\\')
    (hc : ¬ c.toNat < 0x20) :
    readString start (c :: rest) = (readString start rest).map fun r => (c.toNat :: r.1, r.2) := by
  rw [readString.eq_6 _ _ _ (fun h => hquote h) (fun h => absurd h hescape)
    (fun _ _ _ _ _ _ h => absurd h hescape) (fun _ _ h => absurd h hescape), if_neg hc]

/-- A character with a letter of its own is read back from the letter. -/
theorem readString_letter
    {start : Nat} {letter c : Char} {rest : List Char}
    (hletter : letter ≠ 'u')
    (hc : escapeLetter? letter = some c) :
    readString start ('\\' :: letter :: rest) =
      (readString start rest).map fun r => (c.toNat :: r.1, r.2) := by
  rw [readString.eq_5 _ _ _ (fun _ _ _ _ _ _ h => absurd h hletter), if_neg hletter, hc]

theorem eq_of_toNat_eq
    {c d : Char}
    (h : c.toNat = d.toNat) :
    c = d := by
  rw [← Char.ofNat_toNat c, h, Char.ofNat_toNat]

theorem units_small
    {c : Char}
    (h : c.toNat < 0x10000) :
    units c = [c.toNat] := if_pos h

/-- A character is read back as its units. -/
theorem readString_escapeChar
    {start : Nat} (c : Char) {next : Char} {rest : List Char} :
    readString start (escapeChar c ++ next :: rest) =
      (readString start (next :: rest)).map fun r => (units c ++ r.1, r.2) := by
  unfold escapeChar
  split
  · rename_i h
    rw [h]
    exact readString_letter (by decide) rfl
  split
  · rename_i h
    rw [h]
    exact readString_letter (by decide) rfl
  split
  · rename_i h
    rw [h]
    exact readString_letter (by decide) rfl
  split
  · rename_i h
    rw [h]
    exact readString_letter (by decide) rfl
  split
  · rename_i h
    rw [h]
    exact readString_letter (by decide) rfl
  split
  · rename_i h
    rw [eq_of_toNat_eq (d := Char.ofNat 0x0c) h]
    exact readString_letter (by decide) rfl
  split
  · rename_i h
    rw [eq_of_toNat_eq (d := Char.ofNat 0x08) h]
    exact readString_letter (by decide) rfl
  split
  · rename_i hquote hescape _ _ _ _ _ hplain
    simp only [Bool.and_eq_true, decide_eq_true_eq, Char.le_def, UInt32.le_iff_toNat_le] at hplain
    have hlow : 32 ≤ c.toNat := hplain.1
    have hhigh : c.toNat ≤ 126 := hplain.2
    rw [units_small (by omega)]
    exact readString_plain hquote hescape (by omega)
  split
  · rename_i h
    rw [units_small h]
    exact readString_escapeUnit _ _ _ h
  · rename_i h
    have := toNat_lt c
    rw [units, if_neg h, escapeUnit_eq (0xdc00 + (c.toNat - 0x10000) % 0x400), List.append_assoc]
    simp only [List.cons_append, List.nil_append]
    rw [readString_escapeUnit _ _ _ (by omega)]
    have hlow := readString_escapeUnit start next rest
      (show 0xdc00 + (c.toNat - 0x10000) % 0x400 < 0x10000 by omega)
    rw [escapeUnit_eq] at hlow
    simp only [List.cons_append, List.nil_append] at hlow
    rw [hlow]
    cases readString start (next :: rest) <;> rfl

/-- The characters of a text are read back as their units. -/
theorem readString_escaped
    (start : Nat) (cs rest : List Char) :
    readString start (cs.flatMap escapeChar ++ '"' :: rest) = .ok (cs.flatMap units, rest) := by
  induction cs with
  | nil => rfl
  | cons c cs ih =>
      obtain ⟨next, more, hnext⟩ : ∃ next more,
          cs.flatMap escapeChar ++ '"' :: rest = next :: more := by
        cases cs.flatMap escapeChar with
        | nil => exact ⟨_, _, rfl⟩
        | cons d ds => exact ⟨_, _, rfl⟩
      rw [List.flatMap_cons, List.append_assoc, hnext, readString_escapeChar, ← hnext, ih]
      rfl

/-- A text is read back. -/
theorem readText_stringText
    (start : Nat) (s : String) (rest : List Char) :
    ∃ cs, (stringText s).toList ++ rest = '"' :: cs ∧ readText start cs = .ok (s, rest) := by
  refine ⟨s.toList.flatMap escapeChar ++ '"' :: rest, ?_, ?_⟩
  · simp [stringText]
  · rw [readText, readString_escaped]
    simp [Except.map, joinSurrogates_units]

end Json
end Homelab
