import Homelab.Proofs.Resolution.Tokens
import Homelab.Proofs.Text.Fields

/-!
# The groups of a text that are tokens

A group is a pair of braces with no brace between them.  It is a token if `host:ip` stands in
it, or a path after `inventory:` or `config:`.  Groups cannot overlap, since none of them holds a
brace; so one sweep from left to right, which goes on behind each token that it reads, comes to
every position at which a token begins.

The groups are told by their positions, without the sweep.  What is found in a text that is not
itself a token are the tokens at all these positions, once each and in their order.
-/

namespace Homelab
namespace Reference

/-- The characters of the path of a token: no double quotes, braces and blanks, and not dots
alone. -/
def IsPath (path : List Char) : Prop :=
  (∀ c ∈ path, c ≠ '"' ∧ c ≠ '\x7b' ∧ c ≠ '\x7d' ∧ Text.isBlank c = false) ∧
    ∃ c ∈ path, c ≠ '.'

/-- The parts of a path between dots that are not empty. -/
def parts (path : List Char) : List String :=
  ((path.splitOn '.').filter (· ≠ [])).map String.ofList

/-- What can stand in braces in a text, and what it stands for. -/
inductive Inside : List Char → Target → Prop
  | host : Inside "host:ip".toList .hostAddress
  | inventory {path : List Char}
      (h : IsPath path) : Inside ("inventory:".toList ++ path) (.inventory (parts path))
  | config {path : List Char}
      (h : IsPath path) : Inside ("config:".toList ++ path) (.config (parts path))

/-- At a position of a text stands a pair of braces with these characters between them, none of
which is a brace. -/
structure GroupAt (cs : List Char) (i : Nat) (inner : List Char) : Prop where
  plain : ∀ c ∈ inner, c ≠ '\x7b' ∧ c ≠ '\x7d'
  stands : '\x7b' :: inner ++ ['\x7d'] <+: cs.drop i

theorem segments_eq_parts
    (path : List Char) :
    segments path = parts path := by
  rw [segments, parts, Text.fields_eq_splitOn]
  congr 2
  funext piece
  cases piece <;> rfl

/-- Dots alone have no segment. -/
theorem segments_eq_nil_iff
    {path : List Char} :
    segments path = [] ↔ ∀ c ∈ path, c = '.' := by
  rw [segments, List.map_eq_nil_iff, List.filter_eq_nil_iff]
  constructor
  · intro h c hc
    by_contra hne
    obtain ⟨piece, hpiece, hmem⟩ := Text.exists_mem_fields hne hc
    cases piece with
    | nil => cases hmem
    | cons d rest => exact h _ hpiece rfl
  · intro h
    induction path with
    | nil => simp [Text.fields]
    | cons c rest ih =>
        obtain rfl := h c List.mem_cons_self
        rw [Text.fields_cons_sep]
        intro piece hpiece
        rcases List.mem_cons.mp hpiece with rfl | hpiece
        · simp
        · exact ih (fun d hd => h d (List.mem_cons_of_mem _ hd)) piece hpiece

theorem pathAfter?_eq_some_iff
    {keyword : String} {cs path : List Char} :
    pathAfter? keyword cs = some path ↔
      cs = (keyword ++ ":").toList ++ path ∧ isRun isPathChar path = true := by
  rw [pathAfter?, Option.filter_eq_some_iff, Text.after?_eq_some_iff, String.toList_append]
  rfl

theorem isPath_iff
    {path : List Char} :
    IsPath path ↔ isRun isPathChar path = true ∧ segments path ≠ [] := by
  rw [ne_eq, segments_eq_nil_iff]
  simp only [IsPath, isRun, isPathChar, Bool.and_eq_true, List.all_eq_true, not_forall]
  constructor
  · rintro ⟨hchars, c, hc, hdot⟩
    refine ⟨⟨?_, fun d hd => by simpa [and_assoc] using hchars d hd⟩, c, hc, hdot⟩
    cases path with
    | nil => cases hc
    | cons d rest => rfl
  · rintro ⟨⟨-, hchars⟩, c, hc, hdot⟩
    exact ⟨fun d hd => by simpa [and_assoc] using hchars d hd, c, hc, hdot⟩

theorem pathTarget?_eq_some_iff
    {cs : List Char} {t : Target} :
    pathTarget? cs = some t ↔
      ∃ path, IsPath path ∧
        (cs = "inventory:".toList ++ path ∧ t = .inventory (parts path) ∨
          cs = "config:".toList ++ path ∧ t = .config (parts path)) := by
  unfold pathTarget?
  constructor
  · intro h
    split at h
    · rename_i path hpath
      obtain ⟨hcs, hrun⟩ := pathAfter?_eq_some_iff.mp hpath
      split at h
      · cases h
      · rename_i hsegments
        rw [← Option.some.inj h, segments_eq_parts]
        exact ⟨path, isPath_iff.mpr ⟨hrun, hsegments⟩, .inl ⟨hcs, rfl⟩⟩
    · split at h
      · rename_i path hpath
        obtain ⟨hcs, hrun⟩ := pathAfter?_eq_some_iff.mp hpath
        split at h
        · cases h
        · rename_i hsegments
          rw [← Option.some.inj h, segments_eq_parts]
          exact ⟨path, isPath_iff.mpr ⟨hrun, hsegments⟩, .inr ⟨hcs, rfl⟩⟩
      · cases h
  · rintro ⟨path, hpath, ⟨hcs, rfl⟩ | ⟨hcs, rfl⟩⟩
    · obtain ⟨hrun, hsegments⟩ := isPath_iff.mp hpath
      rw [segments_eq_parts] at hsegments
      rw [pathAfter?_eq_some_iff.mpr ⟨hcs, hrun⟩]
      simp only [segments_eq_parts, if_neg hsegments]
    · obtain ⟨hrun, hsegments⟩ := isPath_iff.mp hpath
      have hother : pathAfter? "inventory" cs = none := by
        rw [Option.eq_none_iff_forall_ne_some]
        intro path' hpath'
        obtain ⟨hcs', -⟩ := pathAfter?_eq_some_iff.mp hpath'
        simp [hcs] at hcs'
      rw [segments_eq_parts] at hsegments
      rw [hother, pathAfter?_eq_some_iff.mpr ⟨hcs, hrun⟩]
      simp only [segments_eq_parts, if_neg hsegments]

/-- What the inside of an embedded token stands for. -/
theorem embeddedTarget?_eq_some_iff
    {inner : List Char} {t : Target} :
    embeddedTarget? inner = some t ↔ Inside inner t := by
  rw [embeddedTarget?]
  constructor
  · intro h
    split at h
    · rename_i hhost
      rw [hhost, ← Option.some.inj h]
      exact .host
    · obtain ⟨path, hpath, ⟨rfl, rfl⟩ | ⟨rfl, rfl⟩⟩ := pathTarget?_eq_some_iff.mp h
      · exact .inventory hpath
      · exact .config hpath
  · intro h
    cases h with
    | host => rw [if_pos rfl]
    | @inventory path hpath =>
        rw [if_neg (by simp)]
        exact pathTarget?_eq_some_iff.mpr ⟨path, hpath, .inl ⟨rfl, rfl⟩⟩
    | @config path hpath =>
        rw [if_neg (by simp)]
        exact pathTarget?_eq_some_iff.mpr ⟨path, hpath, .inr ⟨rfl, rfl⟩⟩

theorem isEmbeddable_of_embeddedTarget?
    {inner : List Char} {t : Target}
    (h : embeddedTarget? inner = some t) :
    isEmbeddable inner = true := by
  unfold isEmbeddable
  unfold embeddedTarget? at h
  split at h
  · rename_i hhost
    simp [hhost]
  · unfold pathTarget? at h
    split at h
    · rename_i hpath
      simp [hpath]
    · split at h
      · rename_i hpath
        simp [hpath]
      · cases h

/-- What is read as an embedded token after an opening brace. -/
theorem embedded?_eq_some_iff
    {cs inner rest : List Char} :
    embedded? cs = some (inner, rest) ↔
      cs = inner ++ '\x7d' :: rest ∧ (∀ c ∈ inner, notBrace c = true) ∧
        isEmbeddable inner = true := by
  constructor
  · intro h
    obtain ⟨hembeddable, hinner⟩ := of_embedded? h
    refine ⟨?_, hinner, hembeddable⟩
    unfold embedded? at h
    split at h
    · rename_i tail hdrop
      simp only at h
      split at h
      · obtain ⟨rfl, rfl⟩ := Prod.mk.inj (Option.some.inj h)
        rw [← hdrop, List.takeWhile_append_dropWhile]
      · cases h
    · cases h
  · rintro ⟨rfl, hinner, hembeddable⟩
    obtain ⟨htake, hdrop⟩ := takeWhile_inner hinner rest
    rw [embedded?, hdrop]
    simp only [htake, if_pos hembeddable]

/-- The tokens of pieces with the positions at which they stand, if the pieces begin at a
position. -/
def placed : Nat → List Piece → List (Nat × Reference)
  | _, [] => []
  | i, c :: rest => c.reference?.toList.map (i, ·) ++ placed (i + c.chars.length) rest

theorem snd_placed
    (i : Nat) (cs : List Piece) :
    (placed i cs).map Prod.snd = cs.filterMap Piece.reference? := by
  induction cs generalizing i with
  | nil => rfl
  | cons c rest ih =>
      rw [placed, List.map_append, ih, List.map_map]
      cases hc : c.reference? <;> simp [hc]

theorem le_of_mem_placed
    {cs : List Piece} {i j : Nat} {r : Reference}
    (h : (j, r) ∈ placed i cs) :
    i ≤ j := by
  induction cs generalizing i with
  | nil => cases h
  | cons c rest ih =>
      rcases List.mem_append.mp h with h | h
      · obtain ⟨q, -, heq⟩ := List.mem_map.mp h
        exact Nat.le_of_eq (congrArg Prod.fst heq)
      · exact Nat.le_trans (Nat.le_add_right _ _) (ih h)

/-- The text of a token is the piece that it stands in. -/
theorem text_of_reference?
    {c : Piece} {r : Reference}
    (h : c.reference? = some r) :
    r.text = String.ofList c.chars := by
  cases c with
  | char c => cases h
  | token inner =>
      obtain ⟨t, -, rfl⟩ := Option.map_eq_some_iff.mp h
      rfl

/-- Each token ends before the next one begins. -/
theorem pairwise_placed
    (i : Nat) (cs : List Piece) :
    (placed i cs).Pairwise fun p q => p.1 + p.2.text.length ≤ q.1 := by
  induction cs generalizing i with
  | nil => exact List.Pairwise.nil
  | cons c rest ih =>
      rw [placed]
      cases hc : c.reference? with
      | none => exact ih _
      | some r =>
          refine List.Pairwise.cons ?_ (ih _)
          rintro ⟨j, q⟩ hq
          have hlength : r.text.length = c.chars.length := by
            rw [text_of_reference? hc, String.length_ofList]
          simpa [hlength] using le_of_mem_placed hq

/-- At a position of a text stands a group that is a token. -/
def TokenAt (cs : List Char) (i : Nat) (r : Reference) : Prop :=
  ∃ inner t, GroupAt cs i inner ∧ Inside inner t ∧
    r = ⟨String.ofList ('\x7b' :: inner ++ ['\x7d']), t⟩

theorem notBrace_iff
    {c : Char} :
    notBrace c = true ↔ c ≠ '\x7b' ∧ c ≠ '\x7d' := by
  simp [notBrace]

theorem not_tokenAt_nil
    (i : Nat) (r : Reference) :
    ¬ TokenAt [] i r := by
  rintro ⟨inner, t, hgroup, -⟩
  simpa using hgroup.stands

/-- Where a group begins stands an opening brace. -/
theorem TokenAt.opens
    {cs : List Char} {i : Nat} {r : Reference}
    (h : TokenAt cs i r) :
    cs[i]? = some '\x7b' := by
  obtain ⟨inner, t, hgroup, -⟩ := h
  obtain ⟨more, hmore⟩ := hgroup.stands
  rw [← List.head?_drop, ← hmore]
  rfl

/-- A token further on in a text is one of what is left there. -/
theorem tokenAt_append_iff
    {front cs : List Char} {i : Nat} {r : Reference} :
    TokenAt (front ++ cs) (front.length + i) r ↔ TokenAt cs i r := by
  have hdrop : (front ++ cs).drop (front.length + i) = cs.drop i := List.drop_length_add_append ..
  constructor
  · rintro ⟨inner, t, ⟨hplain, hstands⟩, h⟩
    exact ⟨inner, t, ⟨hplain, hdrop ▸ hstands⟩, h⟩
  · rintro ⟨inner, t, ⟨hplain, hstands⟩, h⟩
    exact ⟨inner, t, ⟨hplain, hdrop.symm ▸ hstands⟩, h⟩

/-- The token at an opening brace is the one that is read after it. -/
theorem tokenAt_zero_iff
    {rest : List Char} {r : Reference} :
    TokenAt ('\x7b' :: rest) 0 r ↔
      ∃ inner left, embedded? rest = some (inner, left) ∧
        (Piece.token inner).reference? = some r := by
  constructor
  · rintro ⟨inner, t, ⟨hplain, hstands⟩, hinside, rfl⟩
    have htarget := embeddedTarget?_eq_some_iff.mpr hinside
    rw [List.drop_zero, List.cons_append, List.prefix_cons_inj] at hstands
    obtain ⟨left, rfl⟩ := hstands
    refine ⟨inner, left, ?_, by rw [Piece.reference?, htarget]; rfl⟩
    rw [List.append_assoc]
    exact embedded?_eq_some_iff.mpr
      ⟨rfl, fun c hc => notBrace_iff.mpr (hplain c hc), isEmbeddable_of_embeddedTarget? htarget⟩
  · rintro ⟨inner, left, hembedded, hr⟩
    obtain ⟨rfl, hinner, -⟩ := embedded?_eq_some_iff.mp hembedded
    obtain ⟨t, ht, rfl⟩ := Option.map_eq_some_iff.mp hr
    refine ⟨inner, t, ⟨fun c hc => notBrace_iff.mp (hinner c hc), left, by simp⟩,
      embeddedTarget?_eq_some_iff.mp ht, rfl⟩

/-- Inside of a token stands no other one. -/
theorem eq_zero_of_tokenAt_token
    {inner left : List Char} {i : Nat} {r : Reference}
    (hinner : ∀ c ∈ inner, notBrace c = true)
    (hi : i < (Piece.token inner).chars.length)
    (h : TokenAt ((Piece.token inner).chars ++ left) i r) :
    i = 0 := by
  cases i with
  | zero => rfl
  | succ i =>
      have hopens := h.opens
      rw [List.getElem?_append_left hi, Piece.chars, List.cons_append,
        List.getElem?_cons_succ] at hopens
      rcases List.mem_append.mp (List.mem_of_getElem? hopens) with hmem | hmem
      · exact absurd rfl (notBrace_iff.mp (hinner _ hmem)).1
      · simp at hmem

theorem mem_placed_cons
    {c : Piece} {cs : List Piece} {i j : Nat} {r : Reference} :
    (j, r) ∈ placed i (c :: cs) ↔
      c.reference? = some r ∧ j = i ∨ (j, r) ∈ placed (i + c.chars.length) cs := by
  rw [placed, List.mem_append]
  cases c.reference? <;> simp [eq_comm, and_comm]

/-- A token stands at the front of a text or in what is left of it. -/
theorem exists_tokenAt_append
    {front cs : List Char} {i j : Nat} {r : Reference} :
    (∃ k, j = i + k ∧ TokenAt (front ++ cs) k r) ↔
      (∃ k < front.length, j = i + k ∧ TokenAt (front ++ cs) k r) ∨
        ∃ k, j = i + front.length + k ∧ TokenAt cs k r := by
  constructor
  · rintro ⟨k, rfl, htoken⟩
    by_cases hk : k < front.length
    · exact .inl ⟨k, hk, rfl, htoken⟩
    · obtain ⟨k', rfl⟩ := Nat.exists_eq_add_of_le (Nat.le_of_not_lt hk)
      exact .inr ⟨k', (Nat.add_assoc ..).symm, tokenAt_append_iff.mp htoken⟩
  · rintro (⟨k, -, rfl, htoken⟩ | ⟨k, rfl, htoken⟩)
    · exact ⟨k, rfl, htoken⟩
    · exact ⟨front.length + k, Nat.add_assoc .., tokenAt_append_iff.mpr htoken⟩

/-- If the first piece tells which tokens begin in it, and the tokens of the other pieces are those
of what is left, the tokens of all the pieces are those of the text. -/
theorem mem_placed_cons_iff
    {c : Piece} {left : List Char} {i j : Nat} {r : Reference}
    (hfront : ∀ k < c.chars.length,
      TokenAt (c.chars ++ left) k r ↔ k = 0 ∧ c.reference? = some r)
    (hleft : ∀ i, (j, r) ∈ placed i (pieces left) ↔ ∃ k, j = i + k ∧ TokenAt left k r) :
    (j, r) ∈ placed i (c :: pieces left) ↔ ∃ k, j = i + k ∧ TokenAt (c.chars ++ left) k r := by
  rw [mem_placed_cons, exists_tokenAt_append, hleft]
  refine or_congr_left ?_
  constructor
  · rintro ⟨hr, rfl⟩
    have hpos : 0 < c.chars.length := by cases c <;> simp [Piece.chars]
    exact ⟨0, hpos, rfl, (hfront 0 hpos).mpr ⟨rfl, hr⟩⟩
  · rintro ⟨k, hk, rfl, htoken⟩
    obtain ⟨rfl, hr⟩ := (hfront k hk).mp htoken
    exact ⟨hr, rfl⟩

/-- The tokens of the pieces of a text are those that stand in it. -/
theorem mem_placed_pieces
    {cs : List Char} {i j : Nat} {r : Reference} :
    (j, r) ∈ placed i (pieces cs) ↔ ∃ k, j = i + k ∧ TokenAt cs k r := by
  fun_induction pieces cs generalizing i with
  | case1 =>
      constructor
      · intro h
        cases h
      · rintro ⟨k, -, htoken⟩
        exact absurd htoken (not_tokenAt_nil k r)
  | case2 rest inner left h ih =>
      obtain ⟨rfl, hinner, -⟩ := embedded?_eq_some_iff.mp h
      have hchars : '\x7b' :: (inner ++ '\x7d' :: left) = (Piece.token inner).chars ++ left := by
        simp [Piece.chars]
      rw [hchars]
      refine mem_placed_cons_iff (fun k hk => ?_) fun i => ih
      constructor
      · intro htoken
        obtain rfl := eq_zero_of_tokenAt_token hinner hk htoken
        rw [← hchars, tokenAt_zero_iff, h] at htoken
        obtain ⟨inner', left', heq, hr⟩ := htoken
        obtain ⟨rfl, -⟩ := Prod.mk.inj (Option.some.inj heq)
        exact ⟨rfl, hr⟩
      · rintro ⟨rfl, hr⟩
        rw [← hchars, tokenAt_zero_iff]
        exact ⟨inner, left, h, hr⟩
  | case3 rest h ih =>
      refine mem_placed_cons_iff (c := .char '\x7b') (fun k hk => ?_) fun i => ih
      obtain rfl : k = 0 := Nat.lt_one_iff.mp hk
      constructor
      · intro htoken
        obtain ⟨inner, left, hsome, -⟩ := tokenAt_zero_iff.mp htoken
        cases h.symm.trans hsome
      · rintro ⟨-, hr⟩
        cases hr
  | case4 c rest hc ih =>
      refine mem_placed_cons_iff (c := .char c) (fun k hk => ?_) fun i => ih
      obtain rfl : k = 0 := Nat.lt_one_iff.mp hk
      constructor
      · intro htoken
        exact absurd (Option.some.inj htoken.opens) hc
      · rintro ⟨-, hr⟩
        cases hr

/-- The tokens that are found in a longer text are the groups of it that are tokens, each once, from
left to right: none is missed, and none begins before another one ends. -/
theorem findAll_lists_groups
    {s : String}
    (h : parse? s = none) :
    ∃ found : List (Nat × Reference), findAll s = found.map Prod.snd ∧
      (∀ i r, (i, r) ∈ found ↔ TokenAt s.toList i r) ∧
      found.Pairwise fun p q => p.1 + p.2.text.length ≤ q.1 := by
  refine ⟨placed 0 (pieces s.toList), ?_, fun i r => ?_, pairwise_placed 0 _⟩
  · rw [snd_placed]
    simp only [findAll, h, embeddedIn]
  · rw [mem_placed_pieces]
    simp

/-- A text with a brace that has no partner, groups inside of others and a path of dots alone. -/
def sampleText : String :=
  "\x7b\x7bhost:ip\x7d\x7bconfig:..\x7d\x7bconfig:\x7binventory:a..b\x7d\x7d"

theorem findAll_lists_groups_sampleText :
    parse? sampleText = none ∧
      ∃ found : List (Nat × Reference), findAll sampleText = found.map Prod.snd ∧
        (∀ i r, (i, r) ∈ found ↔ TokenAt sampleText.toList i r) ∧
        found.Pairwise fun p q => p.1 + p.2.text.length ≤ q.1 :=
  ⟨by decide +kernel, findAll_lists_groups (by decide +kernel)⟩

end Reference
end Homelab
