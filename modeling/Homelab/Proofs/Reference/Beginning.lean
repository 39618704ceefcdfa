import Homelab.Proofs.Address.RoundTrip
import Homelab.Proofs.Inventory.WellFormed
import Homelab.Proofs.Reference.Allocated

/-!
# How tokens and addresses begin

A token begins with the keyword of its kind or with a brace.  An interface begins with a digit or
a colon, and with what may follow one, so that it is no token.  Tokens inside of a text are
replaced without a change to what stands before them: a text that does not begin like a token
becomes none, whatever its tokens are replaced by.
-/

namespace Homelab

/-! ### How an address begins -/

section Beginning

open Text

variable {start : List Char}

/-- No address begins like this: nothing is divided, and there is a character that is no digit. -/
structure BeginsNoAddress (start : List Char) : Prop where
  undivided : ':' ∉ start ∧ '%' ∉ start ∧ '/' ∉ start
  other : ∃ c ∈ start, isAsciiDigit c = false ∧ isHexDigit c = false ∧ c ≠ '.'

theorem BeginsNoAddress.ne_nil
    (h : BeginsNoAddress start)
    (piece : List Char) :
    start ++ piece ≠ [] := by
  obtain ⟨c, hc, -⟩ := h.other
  exact List.append_ne_nil_of_left_ne_nil (List.ne_nil_of_mem hc) piece

namespace Address

theorem group?_of_begins
    (h : BeginsNoAddress start)
    (piece : List Char) :
    group? (start ++ piece) = none := by
  obtain ⟨c, hc, -, hother, -⟩ := h.other
  have hall : (start ++ piece).all isHexDigit = false :=
    List.all_eq_false.mpr ⟨c, List.mem_append_left _ hc, by simp [hother]⟩
  simp [group?, hall]

theorem mapM_group?_of_begins
    (h : BeginsNoAddress start)
    (piece : List Char) (parts : List (List Char)) :
    ((start ++ piece) :: parts).mapM group? = none := by
  simp [group?_of_begins h]

/-- The first of the groups is read, whether or not there is a gap behind it. -/
theorem groups?_of_begins
    (h : BeginsNoAddress start)
    (piece : List Char) (parts : List (List Char)) :
    groups? ((start ++ piece) :: parts) = none := by
  unfold groups?
  split
  · rw [mapM_group?_of_begins h, ite_self]
  · rename_i k hk
    obtain ⟨j, -, rfl⟩ := Option.map_eq_some_iff.mp hk
    have hfirst : trimEdge (((start ++ piece) :: parts).take (j + 1)) =
        (start ++ piece) :: parts.take j := by
      rw [List.take_succ_cons, trimEdge, if_neg fun heq => h.ne_nil piece (List.cons.inj heq).1]
    rw [hfirst, mapM_group?_of_begins h]

theorem splitTail?_cons
    {piece : List Char} {parts split : List (List Char)}
    (hparts : parts ≠ [])
    (h : splitTail? (piece :: parts) = some split) :
    ∃ more, split = piece :: more := by
  unfold splitTail? at h
  split at h
  · split at h
    · obtain ⟨n, -, rfl⟩ := Option.map_eq_some_iff.mp h
      rw [List.dropLast_cons_of_ne_nil hparts]
      exact ⟨_, rfl⟩
    · exact ⟨parts, (Option.some.inj h).symm⟩
  · exact ⟨parts, (Option.some.inj h).symm⟩

/-- What is left without the zone begins in the same way. -/
theorem begins_dropZone?
    {cs plain : List Char}
    (h : BeginsNoAddress start)
    (hzone : dropZone? (start ++ cs) = some plain) :
    ∃ rest, plain = start ++ rest := by
  unfold dropZone? at hzone
  split at hzone
  · exact ⟨cs, (Option.some.inj hzone).symm⟩
  · rename_i before zone hcut
    obtain ⟨heq, -⟩ := cut?_eq_some_iff.mp hcut
    split at hzone
    · cases hzone
    · obtain rfl := Option.some.inj hzone
      obtain ⟨rest, rfl, -⟩ | ⟨rest, rfl, hrest⟩ := List.append_eq_append_iff.mp heq
      · exact ⟨rest, rfl⟩
      · cases rest with
        | nil => exact ⟨[], by simp⟩
        | cons c rest =>
            obtain ⟨rfl, -⟩ := List.cons.inj hrest
            exact absurd (by simp) h.undivided.2.1

theorem readV6?_of_begins
    (h : BeginsNoAddress start)
    (cs : List Char) :
    readV6? (start ++ cs) = none := by
  by_contra hread
  obtain ⟨n, hread⟩ := Option.ne_none_iff_exists'.mp hread
  simp only [readV6?, Option.bind_eq_bind, Option.bind_eq_some_iff] at hread
  obtain ⟨plain, hzone, hread⟩ := hread
  obtain ⟨rest, rfl⟩ := begins_dropZone? h hzone
  obtain ⟨piece, parts, -, hfields⟩ := fields_append_of_not_mem h.undivided.1 rest
  rw [hfields] at hread
  split at hread
  · cases hread
  · rename_i hmany
    simp only [Option.bind_eq_some_iff] at hread
    obtain ⟨split, hsplit, gs, hgroups, -⟩ := hread
    have hparts : parts ≠ [] := by
      rintro rfl
      simp at hmany
    obtain ⟨more, rfl⟩ := splitTail?_cons hparts hsplit
    rw [groups?_of_begins h] at hgroups
    cases hgroups

theorem readChars?_of_begins
    (h : BeginsNoAddress start)
    (cs : List Char) :
    readChars? (start ++ cs) = none := by
  obtain ⟨c, hc, hdigit, -, hpoint⟩ := h.other
  have hfour : readV4? (start ++ cs) = none := by
    by_contra hread
    obtain ⟨n, hread⟩ := Option.ne_none_iff_exists'.mp hread
    exact not_mem_of_readV4? hpoint hdigit hread (List.mem_append_left _ hc)
  rw [readChars?, hfour, readV6?_of_begins h]
  simp

end Address

/-- Nor does an interface begin like this. -/
theorem Interface.readChars?_of_begins
    (h : BeginsNoAddress start)
    (cs : List Char) :
    Interface.readChars? (start ++ cs) = none := by
  obtain ⟨piece, pieces, -, hfields⟩ := fields_append_of_not_mem h.undivided.2.2 cs
  rw [Interface.readChars?, hfields]
  rcases pieces with _ | ⟨suffix, _ | ⟨more, rest⟩⟩ <;> simp [Address.readChars?_of_begins h]

end Beginning

/-! ### How a token begins -/

namespace Reference

/-- What tokens begin with. -/
def keywords : List String :=
  ["host:ip", "vault:", "vm:id:", "lxc:id:", "ip:", "inventory:", "config:", "\x7b"]

theorem isPrefix_of_dropLineEnd
    {cs front : List Char}
    (h : front <+: dropLineEnd cs) :
    front <+: cs := by
  unfold dropLineEnd at h
  split at h
  · exact h.trans (List.dropLast_prefix cs)
  · exact h

/-- A token begins with its keyword. -/
theorem exists_keyword_of_wholeTarget?
    {cs : List Char} {t : Target}
    (h : wholeTarget? cs = some t) :
    ∃ word ∈ keywords, word.toList <+: cs := by
  unfold wholeTarget? at h
  split at h
  · rename_i hhost
    exact ⟨"host:ip", by decide, hhost ▸ List.prefix_rfl⟩
  split at h
  · rename_i found hsecret
    unfold secretTarget? at hsecret
    split at hsecret
    · cases hsecret
    · rename_i path hpath
      obtain ⟨hafter, -⟩ := Option.filter_eq_some_iff.mp hpath
      exact ⟨"vault:", by decide, path, (Text.after?_eq_some_iff.mp hafter).symm⟩
  simp only at h
  split at h
  · rename_i found hmachine
    obtain ⟨kind, label, -, -, hline⟩ := machineTarget?_eq_some_iff.mp hmachine
    refine ⟨kind.name ++ ":id:", by cases kind <;> decide, isPrefix_of_dropLineEnd ?_⟩
    exact ⟨label.toList, by simp [hline]⟩
  split at h
  · rename_i found haddress
    obtain ⟨network, label, -, -, -, hline⟩ := addressTarget?_eq_some_iff.mp haddress
    refine ⟨"ip:", by decide, isPrefix_of_dropLineEnd ⟨(network ++ ":" ++ label).toList, ?_⟩⟩
    rw [hline]
    simp
  split at h
  · obtain ⟨path, -, ⟨hline, -⟩ | ⟨hline, -⟩⟩ := pathTarget?_eq_some_iff.mp h
    · exact ⟨"inventory:", by decide,
        isPrefix_of_dropLineEnd (hline ▸ List.prefix_append _ _)⟩
    · exact ⟨"config:", by decide, isPrefix_of_dropLineEnd (hline ▸ List.prefix_append _ _)⟩
  · unfold bracedTarget? at h
    split at h
    · exact ⟨"\x7b", by decide, _, rfl⟩
    · cases h

/-- A text does not begin like a token, and what it begins with is before its first brace. -/
inductive BeginsPlain : List Char → Prop
  | other {c : Char} (rest : List Char)
      (hc : c ∉ ['h', 'v', 'l', 'i', 'c', '\x7b']) : BeginsPlain (c :: rest)
  | single : BeginsPlain ['c']
  | second {c : Char} (rest : List Char)
      (hc : c ∉ ['o', '\x7b']) : BeginsPlain ('c' :: c :: rest)

namespace BeginsPlain

variable {cs : List Char} {s : String}

theorem not_keyword
    (h : BeginsPlain cs) :
    ∀ word ∈ keywords, ¬ word.toList <+: cs := by
  simp only [keywords, List.forall_mem_cons]
  cases h with
  | other rest hc => simp_all [List.cons_prefix_cons, eq_comm]
  | single => simp [List.cons_prefix_cons]
  | second rest hc => simp_all [List.cons_prefix_cons, eq_comm]

theorem parse?_eq_none
    (h : BeginsPlain s.toList) :
    parse? s = none := by
  cases hwhole : wholeTarget? s.toList with
  | none => rw [parse?, hwhole, Option.map_none]
  | some t =>
      obtain ⟨word, hword, hbegins⟩ := exists_keyword_of_wholeTarget? hwhole
      exact absurd hbegins (h.not_keyword word hword)

/-- What stands before the first token inside of a text stays. -/
theorem pieces
    {f : Piece → List Char}
    (hf : ∀ c, f (.char c) = [c])
    (h : BeginsPlain cs) :
    BeginsPlain ((Reference.pieces cs).flatMap f) := by
  have hkept : ∀ (c : Char) (rest : List Char), c ≠ '\x7b' →
      (Reference.pieces (c :: rest)).flatMap f = c :: (Reference.pieces rest).flatMap f := by
    intro c rest hc
    rw [Reference.pieces, if_neg hc, List.flatMap_cons, hf, List.singleton_append]
  cases h with
  | other rest hc =>
      rw [hkept _ _ fun h => hc (by simp [h])]
      exact .other _ hc
  | single =>
      rw [hkept _ _ (by decide), Reference.pieces]
      exact .single
  | @second c rest hc =>
      rw [hkept _ _ (by decide), hkept _ _ fun h => hc (by simp [h])]
      exact .second _ hc

end BeginsPlain

/-- An interface does not begin like a token. -/
theorem beginsPlain_of_isInterface
    {s : String}
    (hs : IsInterface s) :
    BeginsPlain s.toList := by
  rw [IsInterface, Interface.read?] at hs
  have hread : ∀ start rest, BeginsNoAddress start → s.toList ≠ start ++ rest := by
    intro start rest hstart hchars
    rw [hchars, Interface.readChars?_of_begins hstart] at hs
    cases hs
  rcases hchars : s.toList with _ | ⟨c, rest⟩
  · rw [hchars] at hs
    exact absurd hs (by decide)
  by_cases hc : c = 'c'
  · subst hc
    rcases rest with _ | ⟨d, rest⟩
    · exact .single
    · refine .second rest fun hd => hread ['c', d] rest ?_ hchars
      simp only [List.mem_cons, List.not_mem_nil, or_false] at hd
      rcases hd with rfl | rfl
      · exact ⟨by decide, 'o', by simp, by decide⟩
      · exact ⟨by decide, '\x7b', by simp, by decide⟩
  · refine .other rest fun hmem => hread [c] rest ?_ hchars
    simp only [List.mem_cons, List.not_mem_nil, or_false, hc, false_or] at hmem
    rcases hmem with rfl | rfl | rfl | rfl | rfl <;>
      exact ⟨by decide, _, List.mem_singleton_self _, by decide⟩

/-- An interface is no token. -/
theorem parse?_of_isInterface
    {s : String}
    (hs : IsInterface s) :
    parse? s = none :=
  (beginsPlain_of_isInterface hs).parse?_eq_none

end Reference
end Homelab
