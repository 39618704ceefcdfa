import Homelab.Address.Reader
import Homelab.Proofs.Address.Version4

/-!
# Addresses of version 6

The eight groups of an address are read back from its text, whether or not a run of
zero groups is left out of it.  What stands for the run is an empty piece between
two colons; it is the first empty piece that is not at an edge.
-/

namespace Homelab
namespace Address

open Text

/-! ### Groups -/

theorem group?_hexText
    {n : Nat}
    (hn : n < 65536) :
    group? (hexText n) = some n := by
  have hall : (hexText n).all isHexDigit = true := by
    rw [List.all_eq_true]
    intro c hc
    exact isHexDigit_of_mem_toDigits (by decide) (by decide) hc
  have hlen : (hexText n).length ≤ 4 :=
    (Nat.length_toDigits_le_iff (by decide) (by decide)).mpr (by omega)
  have hempty : (hexText n).isEmpty = false := by
    cases h : hexText n with
    | nil => exact absurd h Nat.toDigits_ne_nil
    | cons c cs => rfl
  rw [group?, if_neg]
  · rw [hexText, natOfBase_toDigits (by decide) (by decide)]
  · simpa [hempty, hall] using hlen

theorem group?_lt
    {cs : List Char} {n : Nat}
    (h : group? cs = some n) :
    n < 65536 := by
  unfold group? at h
  split at h
  · simp at h
  · rename_i hguard
    simp only [Bool.or_eq_true, decide_eq_true_eq, not_or, Nat.not_lt] at hguard
    have hvalue := natOfBase_lt cs
    have hpow : 16 ^ cs.length ≤ 16 ^ 4 := Nat.pow_le_pow_right (by decide) hguard.2
    simp only [Option.some.injEq] at h
    omega

theorem not_mem_hexText
    {c : Char}
    (hc : isHexDigit c = false)
    (n : Nat) :
    c ∉ hexText n :=
  not_mem_toDigits (by decide) (by decide) hc

theorem hexText_ne_nil
    (n : Nat) :
    hexText n ≠ [] :=
  Nat.toDigits_ne_nil

theorem groups_lt
    {n g : Nat}
    (hg : g ∈ groups n) :
    g < 65536 := by
  simp only [groups, List.mem_cons, List.not_mem_nil, or_false] at hg
  omega

/-- The groups of a number put together again. -/
theorem ofGroups_groups
    {n : Nat}
    (hn : n < 2 ^ 128) :
    ofGroups (groups n) = n := by
  have hstep : ∀ k, n / 2 ^ (k + 16) * 65536 + n / 2 ^ k % 65536 = n / 2 ^ k := by
    intro k
    rw [Nat.pow_add, ← Nat.div_div_eq_div_mul]
    omega
  have htop : n / 2 ^ 112 % 65536 = n / 2 ^ 112 := by
    apply Nat.mod_eq_of_lt
    omega
  have hlast := hstep 0
  simp only [Nat.pow_zero, Nat.div_one] at hlast
  simp only [ofGroups, groups, Nat.pow_eq, List.foldl_cons, List.foldl_nil, Nat.zero_mul,
    Nat.zero_add]
  rw [htop, hstep 96, hstep 80, hstep 64, hstep 48, hstep 32, hstep 16, hlast]

theorem ofGroups_lt
    {gs : List Nat}
    (hgs : ∀ g ∈ gs, g < 65536) :
    ofGroups gs < 65536 ^ gs.length := by
  have hgo : ∀ (gs : List Nat) (start : Nat), (∀ g ∈ gs, g < 65536) →
      gs.foldl (fun n g => n * 65536 + g) start < (start + 1) * 65536 ^ gs.length := by
    intro gs
    induction gs with
    | nil => intro start _; simp
    | cons g rest ih =>
        intro start hgs
        have hg := hgs g (by simp)
        have hrest := ih (start * 65536 + g) (fun x hx => hgs x (List.mem_cons_of_mem _ hx))
        have hle : (start * 65536 + g + 1) * 65536 ^ rest.length ≤
            ((start + 1) * 65536) * 65536 ^ rest.length :=
          Nat.mul_le_mul_right _ (by omega)
        rw [List.foldl_cons, List.length_cons, Nat.pow_succ', ← Nat.mul_assoc]
        omega
  simpa [ofGroups] using hgo gs 0 hgs

/-! ### The run of zeros -/

theorem zerosAhead_cons
    (g : Nat) (rest : List Nat) :
    zerosAhead (g :: rest) = if g = 0 then zerosAhead rest + 1 else 0 := by
  by_cases hg : g = 0 <;> simp [zerosAhead, hg]

theorem take_zerosAhead :
    ∀ gs : List Nat, gs.take (zerosAhead gs) = List.replicate (zerosAhead gs) 0
  | [] => rfl
  | g :: rest => by
      rw [zerosAhead_cons]
      split
      · rename_i hg
        rw [List.take_succ_cons, take_zerosAhead rest, hg, List.replicate_succ]
      · rfl

/-- What the run covers is zeros. -/
theorem longestRun_zeros :
    ∀ gs : List Nat,
      (gs.drop (longestRun gs).1).take (longestRun gs).2 =
        List.replicate (longestRun gs).2 0
  | [] => rfl
  | g :: rest => by
      rw [longestRun]
      split
      · exact take_zerosAhead (g :: rest)
      · exact longestRun_zeros rest

/-- The groups are those before the run, the run, and those behind it. -/
theorem take_longestRun_append
    (gs : List Nat) :
    gs.take (longestRun gs).1 ++
      (List.replicate (longestRun gs).2 0 ++ gs.drop ((longestRun gs).1 + (longestRun gs).2)) =
    gs := by
  rw [← longestRun_zeros gs, ← List.drop_drop, List.take_append_drop, List.take_append_drop]

/-! ### The gap -/

/-- The pieces of a text with a gap: an edge of the text gives an empty piece. -/
def pieces (groups : List Nat) : List (List Char) :=
  if groups = [] then [[]] else groups.map hexText

theorem fields_joined_hexText
    (gs : List Nat) :
    fields ':' (joined ':' (gs.map hexText)) = pieces gs := by
  rw [fields_joined]
  · simp [pieces]
  · intro piece hpiece
    obtain ⟨g, -, rfl⟩ := List.mem_map.mp hpiece
    exact not_mem_hexText (by decide) g

theorem trimEdge_pieces
    (gs : List Nat) :
    trimEdge (pieces gs) = gs.map hexText := by
  cases gs with
  | nil => simp [pieces, trimEdge]
  | cons g rest =>
      simp [pieces, trimEdge, hexText_ne_nil]

theorem pieces_ne_nil
    (gs : List Nat) :
    pieces gs ≠ [] := by
  cases gs <;> simp [pieces]

theorem isEmpty_of_mem_drop_pieces
    (gs : List Nat)
    {piece : List Char}
    (h : piece ∈ (pieces gs).drop 1) :
    piece.isEmpty = false := by
  cases gs with
  | nil => simp [pieces] at h
  | cons g rest =>
      simp only [pieces, List.cons_ne_nil, if_false, List.map_cons, List.drop_succ_cons,
        List.drop_zero, List.mem_map] at h
      obtain ⟨k, -, rfl⟩ := h
      simp [hexText_ne_nil]

/-- The gap is found between the pieces before and behind it. -/
theorem gap?_pieces
    (before behind : List Nat) :
    gap? (pieces before ++ [] :: pieces behind) = some (pieces before).length := by
  obtain ⟨first, more, hfirst⟩ := List.exists_cons_of_ne_nil (pieces_ne_nil before)
  have hmore : ∀ piece ∈ more, piece.isEmpty = false := by
    intro piece hpiece
    refine isEmpty_of_mem_drop_pieces before ?_
    simpa [hfirst] using hpiece
  have hinner : ((pieces before ++ [] :: pieces behind).dropLast.drop 1) =
      more ++ [] :: (pieces behind).dropLast := by
    rw [List.dropLast_append_of_ne_nil (by simp), List.dropLast_cons_of_ne_nil
      (pieces_ne_nil behind), hfirst]
    rfl
  rw [gap?, hinner, hfirst, List.findIdx?_append]
  rw [List.findIdx?_eq_none_iff.mpr hmore]
  simp [List.findIdx?_cons]

theorem groups?_pieces
    {before behind : List Nat}
    (hbefore : ∀ g ∈ before, g < 65536)
    (hbehind : ∀ g ∈ behind, g < 65536)
    (hlen : before.length + behind.length ≤ 7) :
    groups? (pieces before ++ [] :: pieces behind) =
      some (before ++ List.replicate (8 - before.length - behind.length) 0 ++ behind) := by
  have hread : ∀ gs : List Nat, (∀ g ∈ gs, g < 65536) →
      (gs.map hexText).mapM group? = some gs := by
    intro gs hgs
    exact mapM_map_eq_some fun g hg => group?_hexText (hgs g hg)
  have htake : (pieces before ++ [] :: pieces behind).take (pieces before).length =
      pieces before := by simp
  have hdrop : (pieces before ++ [] :: pieces behind).drop ((pieces before).length + 1) =
      pieces behind := by
    rw [← List.drop_drop, List.drop_left]
    rfl
  rw [groups?, gap?_pieces]
  simp only [htake, hdrop, trimEdge_pieces, hread before hbefore, hread behind hbehind]
  rw [if_pos hlen]

/-! ### Texts -/

theorem not_mem_groupsText
    {c : Char}
    (hcolon : c ≠ ':')
    (hc : isHexDigit c = false)
    (gs : List Nat) :
    c ∉ groupsText gs := by
  have hjoined : ∀ hs : List Nat, c ∉ joined ':' (hs.map hexText) := by
    intro hs
    refine not_mem_joined hcolon ?_
    intro piece hpiece
    obtain ⟨g, -, rfl⟩ := List.mem_map.mp hpiece
    exact not_mem_hexText hc g
  simp only [groupsText]
  split
  · exact hjoined gs
  · simp only [List.mem_append, List.mem_cons, not_or]
    exact ⟨hjoined _, hcolon, hcolon, hjoined _⟩

/-- Without a dot in its last piece an address is all groups. -/
theorem splitTail?_of_not_mem
    {parts : List (List Char)}
    (h : ∀ piece ∈ parts, '.' ∉ piece) :
    splitTail? parts = some parts := by
  rw [splitTail?]
  cases hlast : parts.getLast? with
  | none => rfl
  | some last =>
      have hdot := h last (List.mem_of_getLast? hlast)
      simp [hdot]

theorem not_mem_pieces
    {gs : List Nat} {piece : List Char}
    (h : piece ∈ pieces gs) :
    '.' ∉ piece := by
  cases gs with
  | nil =>
      simp only [pieces, if_true, List.mem_singleton] at h
      simp [h]
  | cons g rest =>
      simp only [pieces, List.cons_ne_nil, if_false, List.mem_map] at h
      obtain ⟨k, -, rfl⟩ := h
      exact not_mem_hexText (by decide) k

theorem fields_groupsText_of_run
    {gs : List Nat}
    (hrun : ¬ (longestRun gs).2 < 2) :
    fields ':' (groupsText gs) =
      pieces (gs.take (longestRun gs).1) ++
        [] :: pieces (gs.drop ((longestRun gs).1 + (longestRun gs).2)) := by
  simp only [groupsText, if_neg hrun]
  rw [fields_append_sep, fields_cons_sep, fields_joined_hexText, fields_joined_hexText]

/-- The pieces of the text of eight groups, which are read as the groups. -/
theorem groups?_fields_groupsText
    (gs : List Nat)
    (hlen : gs.length = 8)
    (hgs : ∀ g ∈ gs, g < 65536) :
    ∃ parts, fields ':' (groupsText gs) = parts ∧ 3 ≤ parts.length ∧
      splitTail? parts = some parts ∧ groups? parts = some gs := by
  have hne : gs ≠ [] := by
    intro h
    simp [h] at hlen
  refine ⟨_, rfl, ?_⟩
  by_cases hrun : (longestRun gs).2 < 2
  · have htext : fields ':' (groupsText gs) = gs.map hexText := by
      simp only [groupsText, if_pos hrun, fields_joined_hexText]
      simp [pieces, hne]
    have hgap : gap? (gs.map hexText) = none := by
      simp only [gap?, Option.map_eq_none_iff, List.findIdx?_eq_none_iff]
      intro piece hpiece
      have hmem := (List.dropLast_subset _) (List.mem_of_mem_drop hpiece)
      obtain ⟨g, -, rfl⟩ := List.mem_map.mp hmem
      simp [hexText_ne_nil]
    have hread : (gs.map hexText).mapM group? = some gs :=
      mapM_map_eq_some fun g hg => group?_hexText (hgs g hg)
    rw [htext]
    refine ⟨by simp [hlen], splitTail?_of_not_mem ?_, ?_⟩
    · intro piece hpiece
      obtain ⟨g, -, rfl⟩ := List.mem_map.mp hpiece
      exact not_mem_hexText (by decide) g
    · simp [groups?, hgap, hlen, hread]
  · have hparts := take_longestRun_append gs
    have hsplit := fields_groupsText_of_run hrun
    generalize hb : gs.take (longestRun gs).1 = before at hparts hsplit
    generalize ha : gs.drop ((longestRun gs).1 + (longestRun gs).2) = behind at hparts hsplit
    generalize (longestRun gs).2 = k at hrun hparts
    have hcount : before.length + (k + behind.length) = 8 := by
      rw [← hlen, ← hparts]
      simp
    have hbefore : ∀ g ∈ before, g < 65536 := by
      intro g hg
      exact hgs g (hparts ▸ List.mem_append_left _ hg)
    have hbehind : ∀ g ∈ behind, g < 65536 := by
      intro g hg
      exact hgs g (hparts ▸ List.mem_append_right _ (List.mem_append_right _ hg))
    have hzeros : 8 - before.length - behind.length = k := by omega
    rw [hsplit]
    refine ⟨?_, splitTail?_of_not_mem ?_, ?_⟩
    · have h₁ := List.length_pos_iff.mpr (pieces_ne_nil before)
      have h₂ := List.length_pos_iff.mpr (pieces_ne_nil behind)
      simp
      omega
    · intro piece hpiece
      rcases List.mem_append.mp hpiece with hpiece | hpiece
      · exact not_mem_pieces hpiece
      · rcases List.mem_cons.mp hpiece with rfl | hpiece
        · simp
        · exact not_mem_pieces hpiece
    · rw [groups?_pieces hbefore hbehind (by omega), hzeros, List.append_assoc, hparts]

end Address
end Homelab
