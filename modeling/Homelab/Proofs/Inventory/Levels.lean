import Homelab.Proofs.Inventory.Kept
import Homelab.Resolution

/-!
# How deep the document of an inventory is

An inventory can be written if what its records keep is not nested too deeply.  Each record adds a
level or two of its own, so the document of such an inventory is always shallow enough to be
walked.
-/

namespace Homelab

open Inventory (levelLimit)

namespace Value

theorem levels_list_map_le
    {α : Type} {write : α → Value} {as : List α} {n : Nat}
    (h : ∀ a ∈ as, (write a).levels ≤ n) :
    (list (as.map write)).levels ≤ n + 1 := by
  rw [levels, Nat.add_le_add_iff_right, itemLevels_le_iff]
  intro v hv
  obtain ⟨a, ha, rfl⟩ := List.mem_map.mp hv
  exact h a ha

theorem levels_object_le
    {fields : List (String × Value)} {n : Nat}
    (h : ∀ f ∈ fields, f.2.levels ≤ n) :
    (object fields).levels ≤ n + 1 := by
  rw [object, levels, Nat.add_le_add_iff_right, entryLevels_le_iff]
  intro e he
  obtain ⟨f, hf, rfl⟩ := List.mem_map.mp he
  exact h f hf

/-- The document of a record is one level deeper than its fields and what it keeps. -/
theorem levels_ofFields_le
    {fields : List (String × Value)} {extra : Extra} {n : Nat}
    (hfields : ∀ f ∈ fields, f.2.levels ≤ levelLimit + n)
    (hextra : extra.IsShallow) :
    (ofFields fields extra).levels ≤ levelLimit + (n + 1) := by
  refine levels_object_le fun f hf => ?_
  rcases List.mem_append.mp hf with hf | hf
  · exact hfields f (List.mem_filter.mp hf).1
  · obtain ⟨g, hg, rfl⟩ := List.mem_map.mp hf
    exact Nat.le_trans (levels_kept g.2)
      (Nat.le_add_right_of_le (hextra g (List.mem_filter.mp hg).1))

theorem levels_scalar_le
    (s : Scalar) (n : Nat) :
    (scalar s).levels ≤ levelLimit + n := by
  rw [levels, levelLimit]
  omega

theorem levels_ofText?_le
    (s : Option String) (n : Nat) :
    (ofText? s).levels ≤ levelLimit + n := by
  cases s <;> exact levels_scalar_le _ n

end Value

open Value

/-! ### Records -/

theorem ClusterConfig.levels_toValue_le
    {c : ClusterConfig}
    (h : c.extra.IsShallow) :
    c.toValue.levels ≤ levelLimit + 1 := by
  refine levels_ofFields_le ?_ h
  simp only [List.forall_mem_cons]
  exact ⟨levels_scalar_le _ _, levels_scalar_le _ _, levels_ofText?_le _ _, levels_scalar_le _ _,
    levels_ofText?_le _ _, levels_ofText?_le _ _, by simp⟩

theorem StateBackend.levels_toValue_le
    {b : StateBackend}
    (h : b.extra.IsShallow)
    (hconfig : Extra.IsShallow b.config) :
    b.toValue.levels ≤ levelLimit + 2 := by
  refine levels_ofFields_le ?_ h
  simp only [List.forall_mem_cons]
  refine ⟨levels_scalar_le _ _, levels_object_le fun f hf => ?_, by simp⟩
  obtain ⟨g, hg, rfl⟩ := List.mem_map.mp hf
  exact Nat.le_trans (levels_kept g.2) (hconfig g hg)

theorem ModuleSettings.levels_toValue_le
    {m : ModuleSettings}
    (h : m.extra.IsShallow)
    (hbackend : m.backend.extra.IsShallow)
    (hconfig : Extra.IsShallow m.backend.config) :
    m.toValue.levels ≤ levelLimit + 3 := by
  refine levels_ofFields_le ?_ h
  simp only [List.forall_mem_cons]
  exact ⟨StateBackend.levels_toValue_le hbackend hconfig, by simp⟩

theorem StaticRange.levels_toValue_le
    {r : StaticRange}
    (h : r.extra.IsShallow) :
    r.toValue.levels ≤ levelLimit + 1 := by
  refine levels_ofFields_le ?_ h
  simp only [List.forall_mem_cons]
  exact ⟨levels_ofText?_le _ _, levels_ofText?_le _ _, by simp⟩

theorem Network.levels_toValue_le
    {n : Network}
    (h : n.extra.IsShallow)
    (hrange : ∀ r, n.staticRange = some r → r.extra.IsShallow) :
    n.toValue.levels ≤ levelLimit + 2 := by
  refine levels_ofFields_le ?_ h
  simp only [List.forall_mem_cons]
  refine ⟨levels_scalar_le _ _, levels_scalar_le _ _, levels_scalar_le _ _, levels_scalar_le _ _, ?_,
    levels_ofText?_le _ _, ?_, levels_ofText?_le _ _, by simp⟩
  · cases hr : n.staticRange with
    | none => exact levels_scalar_le _ _
    | some r => exact StaticRange.levels_toValue_le (hrange r hr)
  · cases n.dhcpEnabled <;> exact levels_scalar_le _ _

theorem HostInterface.levels_toValue_le
    {i : HostInterface}
    (h : i.extra.IsShallow) :
    i.toValue.levels ≤ levelLimit + 1 := by
  refine levels_ofFields_le ?_ h
  simp only [List.forall_mem_cons]
  exact ⟨levels_scalar_le _ _, levels_scalar_le _ _, by simp⟩

theorem Host.levels_toValue_le
    {host : Host}
    (h : host.extra.IsShallow)
    (hinterfaces : ∀ i ∈ host.interfaces, i.extra.IsShallow) :
    host.toValue.levels ≤ levelLimit + 3 := by
  refine levels_ofFields_le ?_ h
  simp only [List.forall_mem_cons]
  exact ⟨levels_scalar_le _ _, levels_scalar_le _ _, levels_scalar_le _ _,
    levels_list_map_le fun i hi => HostInterface.levels_toValue_le (hinterfaces i hi), by simp⟩

theorem Template.levels_toValue_le
    {t : Template}
    (h : t.extra.IsShallow) :
    t.toValue.levels ≤ levelLimit + 1 := by
  refine levels_ofFields_le ?_ h
  simp only [List.forall_mem_cons]
  exact ⟨levels_scalar_le _ _, levels_scalar_le _ _, levels_scalar_le _ _, by simp⟩

theorem Reservation.levels_vmidValue_le
    {e : Reservation Int}
    (h : e.extra.IsShallow) :
    (vmidValue e).levels ≤ levelLimit + 1 := by
  refine levels_ofFields_le ?_ h
  simp only [List.forall_mem_cons]
  exact ⟨levels_scalar_le _ _, levels_scalar_le _ _, by simp⟩

theorem Reservation.levels_ipValue_le
    {e : Reservation String}
    (h : e.extra.IsShallow) :
    (ipValue e).levels ≤ levelLimit + 1 := by
  refine levels_ofFields_le ?_ h
  simp only [List.forall_mem_cons]
  exact ⟨levels_scalar_le _ _, levels_scalar_le _ _, by simp⟩

theorem Reserved.levels_toValue_le
    {r : Reserved}
    (h : r.extra.IsShallow)
    (hvmids : ∀ e ∈ r.vmids, e.extra.IsShallow)
    (hips : ∀ e ∈ r.ips, e.extra.IsShallow) :
    r.toValue.levels ≤ levelLimit + 3 := by
  refine levels_ofFields_le ?_ h
  simp only [List.forall_mem_cons]
  exact ⟨levels_list_map_le fun e he => Reservation.levels_vmidValue_le (hvmids e he),
    levels_list_map_le fun e he => Reservation.levels_ipValue_le (hips e he), by simp⟩

/-! ### The inventory -/

namespace Inventory

variable {inv : Inventory} {document : Value}

theorem levels_toValue_le
    (h : inv.isWritable = true) :
    inv.toValue.levels ≤ levelLimit + 5 := by
  rw [isWritable_iff] at h
  simp only [extras, List.mem_append, List.mem_cons, List.mem_map, List.mem_filterMap,
    List.mem_flatMap, Option.map_eq_some_iff] at h
  refine levels_ofFields_le ?_ (h _ (by simp))
  simp only [List.forall_mem_cons]
  refine ⟨?_, ?_, levels_list_map_le fun n hn => ?_, levels_list_map_le fun host hhost => ?_,
    levels_list_map_le fun t ht => ?_, ?_, by simp⟩
  · exact Nat.le_trans (ClusterConfig.levels_toValue_le (h _ (by simp))) (by omega)
  · exact Nat.le_trans (ModuleSettings.levels_toValue_le (h _ (by simp)) (h _ (by simp))
      (h _ (by simp))) (by omega)
  · exact Nat.le_trans (Network.levels_toValue_le (h _ (by grind)) fun r hr => h _ (by grind))
      (by omega)
  · exact Host.levels_toValue_le (h _ (by grind)) fun i hi => h _ (by grind)
  · exact Nat.le_trans (Template.levels_toValue_le (h _ (by grind))) (by omega)
  · exact Nat.le_trans (Reserved.levels_toValue_le (h _ (by simp)) (fun e he => h _ (by grind))
      fun e he => h _ (by grind)) (by omega)

/-- So the document of an inventory has few levels more than what is kept in it. -/
theorem levels_document_le
    (h : inv.document = .ok document) :
    document.levels ≤ levelLimit + 5 := by
  unfold Inventory.document at h
  split at h
  · rename_i hwritable
    rw [← Except.ok.inj h]
    exact levels_toValue_le hwritable
  · cases h

end Inventory
end Homelab
