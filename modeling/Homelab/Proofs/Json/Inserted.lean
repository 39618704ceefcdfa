import Homelab.Proofs.Json.Reordered

/-!
# One entry more

A mapping can have one entry more than another one, somewhere among the others, and another value in
the place of one that is there.  What is found under a key then is what was found before, but for
these two keys.
-/

namespace Homelab

/-- A list with one member more, somewhere among the others. -/
def Inserted {α : Type} (a : α) (l l' : List α) : Prop :=
  ∃ before after, l = before ++ after ∧ l' = before ++ a :: after

namespace Inserted

variable {α β : Type} {a : α} {l l' : List α}

theorem perm
    (h : Inserted a l l') :
    (a :: l).Perm l' := by
  obtain ⟨before, after, rfl, rfl⟩ := h
  exact List.perm_middle.symm

theorem mem_iff
    {b : α}
    (h : Inserted a l l') :
    b ∈ l' ↔ b = a ∨ b ∈ l := by
  rw [← h.perm.mem_iff, List.mem_cons]

theorem map
    (h : Inserted a l l')
    (f : α → β) :
    Inserted (f a) (l.map f) (l'.map f) := by
  obtain ⟨before, after, rfl, rfl⟩ := h
  exact ⟨before.map f, after.map f, List.map_append, by rw [List.map_append, List.map_cons]⟩

theorem filter
    {p : α → Bool}
    (h : Inserted a l l')
    (ha : p a = true) :
    Inserted a (l.filter p) (l'.filter p) := by
  obtain ⟨before, after, rfl, rfl⟩ := h
  exact ⟨before.filter p, after.filter p, List.filter_append ..,
    by rw [List.filter_append, List.filter_cons_of_pos ha]⟩

theorem flatMap_eq
    {f : α → List β}
    (h : Inserted a l l')
    (ha : f a = []) :
    l'.flatMap f = l.flatMap f := by
  obtain ⟨before, after, rfl, rfl⟩ := h
  rw [List.flatMap_append, List.flatMap_append, List.flatMap_cons, ha, List.nil_append]

end Inserted

namespace Entries

variable {es es' front back : Entries} {key name : String} {v w : Value}

theorem find?_of_inserted
    (h : Inserted (.str key, v) es es')
    (hname : name ≠ key) :
    find? name es' = find? name es := by
  obtain ⟨before, after, rfl, rfl⟩ := h
  have hne : (Scalar.str name == Scalar.str key) = false := by simpa using hname
  rw [find?, find?, List.lookup_append, List.lookup_append, List.lookup_cons, hne]

theorem find?_inserted
    (h : Inserted (.str key, v) es es')
    (hnew : find? key es = none) :
    find? key es' = some v := by
  obtain ⟨before, after, rfl, rfl⟩ := h
  rw [find?, List.lookup_append, Option.or_eq_none_iff] at hnew
  rw [find?, List.lookup_append, hnew.1, List.lookup_cons_self, Option.none_or]

theorem Keyed.inserted
    (hes : es.Keyed)
    (h : Inserted (.str key, v) es es')
    (hnew : find? key es = none) :
    es'.Keyed := by
  refine Keyed.perm ⟨?_, ?_⟩ h.perm
  · rintro e he
    rcases List.mem_cons.mp he with rfl | he
    · exact ⟨key, rfl⟩
    · exact hes.text e he
  · rw [List.map_cons, List.nodup_cons]
    refine ⟨fun hmem => ?_, hes.nodup⟩
    obtain ⟨e, he, hkey⟩ := List.mem_map.mp hmem
    have hnone := List.lookup_eq_none_iff.mp hnew e he
    simp [hkey] at hnone

/-- Another value in the place of one is found under its key, and nothing else changes. -/
theorem find?_replaced
    (hes : Keyed (front ++ (.str key, v) :: back))
    (name : String) :
    find? name (front ++ (.str key, w) :: back) =
      if name = key then some w else find? name (front ++ (.str key, v) :: back) := by
  rw [find?, find?, List.lookup_append, List.lookup_append, List.lookup_cons, List.lookup_cons]
  by_cases hname : name = key
  · have hfront : List.lookup (Scalar.str key) front = none := by
      rw [List.lookup_eq_none_iff]
      intro e he
      have hnodup := hes.nodup
      rw [List.map_append, List.map_cons, List.nodup_append] at hnodup
      have hne := hnodup.2.2 e.1 (List.mem_map_of_mem he) (.str key) List.mem_cons_self
      simpa using fun heq => hne heq.symm
    subst hname
    simp [hfront]
  · have hne : (Scalar.str name == Scalar.str key) = false := by simpa using hname
    rw [hne, if_neg hname]

/-- A new key is none that is there. -/
theorem ne_of_new
    {field : String}
    (hes : Keyed (front ++ (.str field, v) :: back))
    (hnew : find? key (front ++ (.str field, v) :: back) = none) :
    key ≠ field := by
  rintro rfl
  rw [find?_replaced (w := v) hes, if_pos rfl] at hnew
  cases hnew

/-- What is found when a value is set aside. -/
theorem find?_setAside
    {field : String}
    (hes : Keyed (front ++ (.str field, v) :: back))
    (hnew : find? key (front ++ (.str field, v) :: back) = none)
    (h : Inserted (.str key, v) (front ++ (.str field, w) :: back) es')
    (name : String) :
    find? name es' =
      if name = key then some v
      else if name = field then some w
      else find? name (front ++ (.str field, v) :: back) := by
  by_cases hname : name = key
  · rw [if_pos hname, hname, find?_inserted h]
    rw [find?_replaced hes, if_neg (ne_of_new hes hnew), hnew]
  · rw [if_neg hname, find?_of_inserted h hname, find?_replaced hes]

end Entries

end Homelab
