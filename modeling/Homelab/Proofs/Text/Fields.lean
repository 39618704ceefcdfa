import Homelab.Address

/-!
# Pieces of a text

Cutting at a separator undoes putting the separator between pieces, as long as no
piece holds the separator itself.
-/

namespace Homelab
namespace Text

theorem fields_cons_sep
    (sep : Char) (cs : List Char) :
    fields sep (sep :: cs) = [] :: fields sep cs := by
  simp [fields]

theorem fields_cons_of_ne
    {sep c : Char}
    (hc : c ≠ sep)
    (cs : List Char) :
    ∃ piece pieces,
      fields sep cs = piece :: pieces ∧
      fields sep (c :: cs) = (c :: piece) :: pieces := by
  cases h : fields sep cs with
  | nil => exact absurd h (fields_ne_nil sep cs)
  | cons piece pieces =>
      refine ⟨piece, pieces, rfl, ?_⟩
      simp [fields, hc, h]

/-- What stands before the first separator belongs to the first piece. -/
theorem fields_append_of_not_mem
    {sep : Char} {front : List Char}
    (h : sep ∉ front)
    (cs : List Char) :
    ∃ piece pieces,
      fields sep cs = piece :: pieces ∧
      fields sep (front ++ cs) = (front ++ piece) :: pieces := by
  induction front with
  | nil => exact ⟨_, _, (List.cons_head_tail (fields_ne_nil sep cs)).symm,
      (List.cons_head_tail (fields_ne_nil sep cs)).symm⟩
  | cons c rest ih =>
      simp only [List.mem_cons, not_or] at h
      obtain ⟨piece, pieces, hcs, hrest⟩ := ih h.2
      obtain ⟨piece', pieces', hrest', hall⟩ := fields_cons_of_ne (Ne.symm h.1) (rest ++ cs)
      obtain ⟨rfl, rfl⟩ := List.cons.inj (hrest.symm.trans hrest')
      exact ⟨piece, pieces, hcs, hall⟩

/-- A text without the separator is one piece. -/
theorem fields_of_not_mem
    {sep : Char} {cs : List Char}
    (h : sep ∉ cs) :
    fields sep cs = [cs] := by
  induction cs with
  | nil => rfl
  | cons c rest ih =>
      simp only [List.mem_cons, not_or] at h
      simp [fields, Ne.symm h.1, ih h.2]

theorem fields_eq_splitOn
    (sep : Char) (cs : List Char) :
    fields sep cs = cs.splitOn sep := by
  induction cs with
  | nil => rfl
  | cons c rest ih =>
      rw [List.splitOn, List.splitOnP_cons_eq_if_modifyHead, ← List.splitOn, ← ih]
      by_cases hc : c = sep
      · subst hc
        simp [fields]
      · obtain ⟨piece, pieces, hrest, hcons⟩ := fields_cons_of_ne hc rest
        rw [hcons, hrest]
        simp [hc]

/-- Each occurrence of the separator is a cut, whatever stands around it. -/
theorem fields_append_sep
    (sep : Char) (front back : List Char) :
    fields sep (front ++ sep :: back) = fields sep front ++ fields sep back := by
  induction front with
  | nil => simp [fields]
  | cons c rest ih =>
      by_cases hc : c = sep
      · subst hc
        simp [fields, ih]
      · obtain ⟨piece, pieces, hrest, hfront⟩ := fields_cons_of_ne hc rest
        rw [List.cons_append, hfront]
        simp [fields, hc, ih, hrest]

/-- A character of a text that is no separator is in one of the pieces. -/
theorem exists_mem_fields
    {sep c : Char} {cs : List Char}
    (hc : c ≠ sep)
    (h : c ∈ cs) :
    ∃ piece ∈ fields sep cs, c ∈ piece := by
  induction cs with
  | nil => simp at h
  | cons d rest ih =>
      by_cases hd : d = sep
      · subst hd
        rw [fields_cons_sep]
        rcases List.mem_cons.mp h with rfl | hrest
        · exact absurd rfl hc
        · obtain ⟨piece, hpiece, hmem⟩ := ih hrest
          exact ⟨piece, List.mem_cons_of_mem _ hpiece, hmem⟩
      · obtain ⟨first, others, hfields, hcons⟩ := fields_cons_of_ne hd rest
        rw [hcons]
        rcases List.mem_cons.mp h with rfl | hrest
        · exact ⟨c :: first, by simp, by simp⟩
        · obtain ⟨piece, hpiece, hmem⟩ := ih hrest
          rw [hfields] at hpiece
          rcases List.mem_cons.mp hpiece with rfl | hpiece
          · exact ⟨d :: piece, by simp, List.mem_cons_of_mem _ hmem⟩
          · exact ⟨piece, List.mem_cons_of_mem _ hpiece, hmem⟩

/-- If all pieces are read, each of them is. -/
theorem mapM_all_some
    {α β : Type} {f : α → Option β}
    {pieces : List α} {values : List β}
    (h : pieces.mapM f = some values) :
    ∀ a ∈ pieces, ∃ b, f a = some b := by
  induction pieces generalizing values with
  | nil => simp
  | cons a rest ih =>
      simp only [List.mapM_cons, Option.pure_def, Option.bind_eq_bind, Option.bind_eq_some_iff,
        Option.some.injEq] at h
      obtain ⟨b, hb, bs, hbs, -⟩ := h
      intro x hx
      rcases List.mem_cons.mp hx with rfl | hx
      · exact ⟨b, hb⟩
      · exact ih hbs x hx

/-- Pieces that are all read give as many values, each the value of some piece. -/
theorem mapM_eq_some
    {α β : Type} {f : α → Option β} :
    ∀ {pieces : List α} {values : List β},
      pieces.mapM f = some values →
      values.length = pieces.length ∧
      ∀ b ∈ values, ∃ a ∈ pieces, f a = some b
  | [], values, h => by
      simp only [List.mapM_nil, Option.pure_def, Option.some.injEq] at h
      subst h
      simp
  | a :: rest, values, h => by
      cases ha : f a with
      | none => simp [List.mapM_cons, ha] at h
      | some b =>
          cases hrest : rest.mapM f with
          | none => simp [List.mapM_cons, ha, hrest] at h
          | some bs =>
              obtain ⟨hlen, hmem⟩ := mapM_eq_some hrest
              simp only [List.mapM_cons, ha, hrest, Option.pure_def, Option.bind_eq_bind,
                Option.bind_some, Option.some.injEq] at h
              subst h
              refine ⟨by simp [hlen], ?_⟩
              intro x hx
              rcases List.mem_cons.mp hx with rfl | hx
              · exact ⟨a, by simp, ha⟩
              · obtain ⟨y, hy, hyx⟩ := hmem x hx
                exact ⟨y, List.mem_cons_of_mem _ hy, hyx⟩

/-- Pieces that are written from values and each read back give the values. -/
theorem mapM_map_eq_some
    {α β : Type} {f : α → Option β} {g : β → α} :
    ∀ {values : List β},
      (∀ b ∈ values, f (g b) = some b) →
      (values.map g).mapM f = some values
  | [], _ => rfl
  | b :: rest, h => by
      have hrest : (rest.map g).mapM f = some rest :=
        mapM_map_eq_some fun x hx => h x (List.mem_cons_of_mem _ hx)
      simp [List.mapM_cons, h b (by simp), hrest]

theorem cut?_of_not_mem
    {sep : Char} {cs : List Char}
    (h : sep ∉ cs) :
    cut? sep cs = none := by
  induction cs with
  | nil => rfl
  | cons c rest ih =>
      simp only [List.mem_cons, not_or] at h
      simp [cut?, Ne.symm h.1, ih h.2]

/-- What stands before the first separator has none. -/
theorem cut?_eq_some_iff
    {sep : Char} {cs before after : List Char} :
    cut? sep cs = some (before, after) ↔ cs = before ++ sep :: after ∧ sep ∉ before := by
  induction cs generalizing before with
  | nil => simp [cut?]
  | cons c rest ih =>
      by_cases hc : c = sep
      · subst hc
        rw [cut?, if_pos rfl]
        cases before with
        | nil => simp [eq_comm]
        | cons b before =>
            simp only [List.cons_append, List.cons.injEq, List.mem_cons, not_or]
            constructor
            · intro h
              cases h
            · rintro ⟨⟨rfl, -⟩, hne, -⟩
              exact absurd rfl hne
      · rw [cut?, if_neg hc, Option.map_eq_some_iff]
        constructor
        · rintro ⟨⟨front, back⟩, hcut, heq⟩
          obtain ⟨rfl, rfl⟩ := Prod.mk.inj heq
          obtain ⟨rfl, hnot⟩ := ih.mp hcut
          exact ⟨rfl, by simp [Ne.symm hc, hnot]⟩
        · rintro ⟨heq, hnot⟩
          cases before with
          | nil => exact absurd (List.head_eq_of_cons_eq heq) hc
          | cons b before =>
              obtain ⟨rfl, rfl⟩ := List.cons.inj heq
              exact ⟨(before, after), ih.mpr ⟨rfl, fun h => hnot (List.mem_cons_of_mem _ h)⟩, rfl⟩

theorem after?_eq_some_iff
    {start cs rest : List Char} :
    after? start cs = some rest ↔ cs = start ++ rest := by
  induction start generalizing cs with
  | nil => exact ⟨fun h => Option.some.inj h, fun h => congrArg some h⟩
  | cons a start ih =>
      cases cs with
      | nil => simp [after?]
      | cons c cs =>
          by_cases hac : a = c
          · subst hac
            simp [after?, ih]
          · simp [after?, hac, Ne.symm hac]

end Text

namespace Address

open Text

/-- The pieces of joined pieces; nothing joined is one empty piece. -/
theorem fields_joined
    {mark : Char} :
    ∀ {pieces : List (List Char)},
      (∀ piece ∈ pieces, mark ∉ piece) →
      fields mark (joined mark pieces) = if pieces = [] then [[]] else pieces
  | [], _ => rfl
  | [piece], h => by
      simp [joined, fields_of_not_mem (h piece (by simp))]
  | piece :: next :: rest, h => by
      have hrest : fields mark (joined mark (next :: rest)) = next :: rest := by
        rw [fields_joined fun p hp => h p (List.mem_cons_of_mem _ hp)]
        simp
      rw [joined, fields_append_sep, fields_of_not_mem (h piece (by simp)), hrest]
      · simp
      · simp

theorem not_mem_joined
    {mark c : Char}
    (hc : c ≠ mark) :
    ∀ {pieces : List (List Char)},
      (∀ piece ∈ pieces, c ∉ piece) →
      c ∉ joined mark pieces
  | [], _ => by simp [joined]
  | [piece], h => by
      simpa [joined] using h piece (by simp)
  | piece :: next :: rest, h => by
      have hrest : c ∉ joined mark (next :: rest) :=
        not_mem_joined hc fun p hp => h p (List.mem_cons_of_mem _ hp)
      have hpiece := h piece (by simp)
      rw [joined]
      · simp [hpiece, hc, hrest]
      · simp

end Address
end Homelab
