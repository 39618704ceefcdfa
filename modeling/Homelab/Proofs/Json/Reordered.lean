import Homelab.Proofs.Inventory.Sorted

/-!
# Documents up to the order of keys

Two documents are equal up to the order of the keys in their mappings if one comes from the
other by putting the entries of one mapping after the other in a new order.  Exactly one of
the documents that are equal in this sense has its keys in order everywhere, and that is
the sorted one.
-/

namespace Homelab

theorem forall_mem_replace
    {α : Type} {p : α → Prop} {front back : List α} {a b : α}
    (h : ∀ c ∈ front ++ a :: back, p c)
    (hb : p b) :
    ∀ c ∈ front ++ b :: back, p c := by
  intro c hc
  rcases List.mem_append.mp hc with hc | hc
  · exact h c (by simp [hc])
  · rcases List.mem_cons.mp hc with rfl | hc
    · exact hb
    · exact h c (by simp [hc])

namespace Entries

theorem Keyed.perm
    {es fs : Entries}
    (h : es.Keyed)
    (hperm : es.Perm fs) :
    fs.Keyed :=
  ⟨fun e he => h.text e (hperm.mem_iff.mpr he), (hperm.map Prod.fst).nodup_iff.mp h.nodup⟩

theorem Keyed.replace
    {front back : Entries} {key : Scalar} {v w : Value}
    (h : Keyed (front ++ (key, v) :: back)) :
    Keyed (front ++ (key, w) :: back) := by
  refine ⟨forall_mem_replace h.text (h.text (key, v) (by simp)), ?_⟩
  simpa using h.nodup

end Entries

namespace Value

/-- A document of JSON without fractions: its mappings have different texts as keys. -/
inductive IsPlain : Value → Prop where
  | null : IsPlain .null
  | bool (b : Bool) : IsPlain (.bool b)
  | int (n : Int) : IsPlain (.int n)
  | str (s : String) : IsPlain (.str s)
  | list {items : List Value}
      (h : ∀ v ∈ items, IsPlain v) : IsPlain (.list items)
  | map {es : Entries}
      (keyed : es.Keyed) (h : ∀ e ∈ es, IsPlain e.2) : IsPlain (.map es)

/-- One document comes from the other by new orders of the entries in its mappings. -/
inductive Reordered : Value → Value → Prop where
  | refl (v : Value) : Reordered v v
  | trans {v w u : Value} (hfst : Reordered v w) (hsnd : Reordered w u) : Reordered v u
  | order {es fs : Entries} (h : es.Perm fs) : Reordered (.map es) (.map fs)
  | item {v w : Value} (front back : List Value) (h : Reordered v w) :
      Reordered (.list (front ++ v :: back)) (.list (front ++ w :: back))
  | entry {v w : Value} (front : Entries) (key : Scalar) (back : Entries) (h : Reordered v w) :
      Reordered (.map (front ++ (key, v) :: back)) (.map (front ++ (key, w) :: back))

/-- The keys of all mappings are in the order of their characters. -/
inductive InOrder : Value → Prop where
  | scalar (s : Scalar) : InOrder (.scalar s)
  | list {items : List Value}
      (h : ∀ v ∈ items, InOrder v) : InOrder (.list items)
  | map {es : Entries}
      (order : es.Pairwise fun a b => a.1.keyText ≤ b.1.keyText) (h : ∀ e ∈ es, InOrder e.2) :
      InOrder (.map es)

variable {v w : Value}

theorem Reordered.symm
    (h : v.Reordered w) :
    w.Reordered v := by
  induction h with
  | refl v => exact .refl v
  | trans _ _ ihfst ihsnd => exact ihsnd.trans ihfst
  | order h => exact .order h.symm
  | item front back _ ih => exact .item front back ih
  | entry front key back _ ih => exact .entry front key back ih

/-! ### What a new order keeps -/

theorem Reordered.isPlain
    (h : v.Reordered w)
    (hv : v.IsPlain) :
    w.IsPlain := by
  induction h with
  | refl v => exact hv
  | trans _ _ ihfst ihsnd => exact ihsnd (ihfst hv)
  | order hperm =>
      cases hv with
      | map keyed hvalues =>
          exact .map (keyed.perm hperm) fun e he => hvalues e (hperm.mem_iff.mpr he)
  | item front back _ ih =>
      cases hv with
      | list hitems => exact .list (forall_mem_replace hitems (ih (hitems _ (by simp))))
  | entry front key back _ ih =>
      cases hv with
      | map keyed hvalues =>
          exact .map keyed.replace (forall_mem_replace hvalues (ih (hvalues (key, _) (by simp))))

/-- The order of keys does not matter to what can stand in a JSON text. -/
theorem Reordered.fits
    {d : Nat}
    (h : v.Reordered w)
    (hv : v.Fits d) :
    w.Fits d := by
  induction h generalizing d with
  | refl v => exact hv
  | trans _ _ ihfst ihsnd => exact ihsnd (ihfst hv)
  | order hperm =>
      obtain ⟨d, rfl, hes⟩ := hv.entries
      exact .map (hes.keyed.perm hperm) fun e he => hes.values e (hperm.mem_iff.mpr he)
  | item front back _ ih =>
      obtain ⟨d, rfl, hitems⟩ := hv.items
      exact .list (forall_mem_replace hitems (ih (hitems _ (by simp))))
  | entry front key back _ ih =>
      obtain ⟨d, rfl, hes⟩ := hv.entries
      exact .map hes.keyed.replace
        (forall_mem_replace hes.values (ih (hes.values (key, _) (by simp))))

/-! ### The sorted document -/

/-- Documents that are equal up to the order of keys are sorted alike. -/
theorem Reordered.sorted_eq
    (h : v.Reordered w)
    (hv : v.IsPlain) :
    v.sorted = w.sorted := by
  induction h with
  | refl v => rfl
  | trans hfst _ ihfst ihsnd => rw [ihfst hv, ihsnd (hfst.isPlain hv)]
  | order hperm =>
      cases hv with
      | map keyed hvalues =>
          rw [Entries.sorted_map, Entries.sorted_map, Entries.sorted, Entries.sorted,
            Entries.sortByKey_sorted, Entries.sortByKey_sorted,
            Entries.sortByKey_eq_of_perm keyed hperm]
  | item front back _ ih =>
      cases hv with
      | list hitems => simp [sorted, sortedItems_eq, ih (hitems _ (by simp))]
  | entry front key back _ ih =>
      cases hv with
      | map keyed hvalues => simp [sorted, sortedEntries_eq, ih (hvalues (key, _) (by simp))]

theorem reordered_list
    {f : Value → Value} {items : List Value}
    (h : ∀ v ∈ items, v.Reordered (f v)) :
    (list items).Reordered (list (items.map f)) := by
  have hgo : ∀ front : List Value,
      (list (front ++ items)).Reordered (list (front ++ items.map f)) := by
    induction items with
    | nil => exact fun front => .refl _
    | cons v rest ih =>
        intro front
        have hrest := ih (fun w hw => h w (by simp [hw])) (front ++ [f v])
        rw [List.append_assoc, List.append_assoc] at hrest
        exact (Reordered.item front rest (h v (by simp))).trans hrest
  exact hgo []

theorem reordered_map
    {f : Value → Value} {es : Entries}
    (h : ∀ e ∈ es, e.2.Reordered (f e.2)) :
    (map es).Reordered (map (es.map fun e => (e.1, f e.2))) := by
  have hgo : ∀ front : Entries, (map (front ++ es)).Reordered
      (map (front ++ es.map fun e => (e.1, f e.2))) := by
    induction es with
    | nil => exact fun front => .refl _
    | cons e rest ih =>
        intro front
        have hrest := ih (fun g hg => h g (by simp [hg])) (front ++ [(e.1, f e.2)])
        rw [List.append_assoc, List.append_assoc] at hrest
        exact (Reordered.entry front e.1 rest (h e (by simp))).trans hrest
  exact hgo []

/-- Sorting only puts keys in a new order. -/
theorem IsPlain.reordered_sorted
    (h : v.IsPlain) :
    v.Reordered v.sorted := by
  induction h with
  | null | bool b | int n | str s => exact .refl _
  | list _ ih =>
      rw [sorted, sortedItems_eq]
      exact reordered_list ih
  | map _ _ ih =>
      rw [Entries.sorted_map]
      exact (reordered_map ih).trans (.order (Entries.sorted_perm _).symm)

theorem IsPlain.inOrder_sorted
    (h : v.IsPlain) :
    v.sorted.InOrder := by
  induction h with
  | null | bool b | int n | str s => exact .scalar _
  | list _ ih =>
      rw [sorted, sortedItems_eq]
      refine .list fun v hv => ?_
      obtain ⟨w, hw, rfl⟩ := List.mem_map.mp hv
      exact ih w hw
  | map _ _ ih =>
      rw [Entries.sorted_map]
      refine .map (Entries.pairwise_sortByKey _) fun e he => ?_
      obtain ⟨f, hf, rfl⟩ := List.mem_map.mp ((Entries.sorted_perm _).mem_iff.mp he)
      exact ih f hf

theorem IsPlain.sorted_eq_iff
    (hv : v.IsPlain)
    (hw : w.IsPlain) :
    v.sorted = w.sorted ↔ v.Reordered w := by
  refine ⟨fun h => ?_, fun h => h.sorted_eq hv⟩
  have hsorted := hv.reordered_sorted
  rw [h] at hsorted
  exact hsorted.trans hw.reordered_sorted.symm

end Value
end Homelab
