import Homelab.Proofs.Inventory.Stored

/-!
# Reservations that are written again

What a file holds after a commit has its keys in order, and nothing in it is empty.  When it is
read and written once more, it stays the same: the reservations in a file are those that were
written to it first, whatever was written in between.
-/

namespace Homelab

/-! ### Values -/

namespace Value

@[simp] theorem isNull_sorted
    (v : Value) :
    v.sorted.isNull = v.isNull := by
  cases v <;> simp [sorted, isNull]

/-- The document form of a value is in document form. -/
theorem Fits.kept_kept
    {d : Nat} {v : Value}
    (h : v.Fits d) :
    v.kept.kept = v.kept := by
  induction h with
  | @scalar d s hs =>
      cases s with
      | float x =>
          rw [Value.kept]
          split
          · rename_i hfinite
            rw [Value.kept, if_pos hfinite]
          · rfl
      | bytes data => exact hs.elim
      | null | bool b | int n | str s | date x | moment t => simp only [Value.kept]
  | list h ih =>
      rw [Value.kept, Value.kept, keptItems_eq, keptItems_eq, List.map_map]
      congr 1
      exact List.map_congr_left ih
  | map keyed h ih =>
      rw [Value.kept, Value.kept, keptEntries_eq, keptEntries_eq, List.map_map]
      congr 1
      exact List.map_congr_left fun e he => Prod.ext rfl (ih e he)

/-- A value whose keys are in order has them in order. -/
theorem Fits.sorted_sorted
    {d : Nat} {v : Value}
    (h : v.Fits d) :
    v.sorted.sorted = v.sorted := by
  induction h with
  | scalar hs => rw [Value.sorted, Value.sorted]
  | list h ih =>
      rw [Value.sorted, Value.sorted, sortedItems_eq, sortedItems_eq, List.map_map]
      congr 1
      exact List.map_congr_left ih
  | @map d es keyed h ih =>
      have horder := Entries.sortByKey_of_pairwise (Entries.pairwise_sortByKey (sortedEntries es))
      rw [Value.sorted, Value.sorted, Entries.sortByKey_sorted, horder, Entries.sortByKey_sorted, List.map_map]
      congr 1
      refine List.map_congr_left fun e he => Prod.ext rfl (ih e ?_)
      exact (Entries.sortByKey_perm es).mem_iff.mp he

theorem Fits.kept_sorted
    {d : Nat} {v : Value}
    (h : v.Fits d) :
    v.sorted.kept = v.kept.sorted := by
  induction h with
  | @scalar d s hs =>
      cases s with
      | float x =>
          rw [Value.sorted, Value.kept]
          split <;> rw [Value.sorted]
      | bytes data => exact hs.elim
      | null | bool b | int n | str s | date x | moment t => simp only [Value.sorted, Value.kept]
  | list h ih =>
      rw [Value.sorted, Value.kept, Value.kept, Value.sorted, keptItems_eq, sortedItems_eq, sortedItems_eq, keptItems_eq,
        List.map_map, List.map_map]
      congr 1
      exact List.map_congr_left ih
  | @map d es keyed h ih =>
      rw [Value.sorted, Value.kept, Value.kept, Value.sorted, keptEntries_eq, Entries.sortByKey_sorted,
        Entries.sortByKey_sorted, keptEntries_eq, Entries.sortByKey_mapValues, List.map_map,
        List.map_map]
      congr 1
      refine List.map_congr_left fun e he => Prod.ext rfl (ih e ?_)
      exact (Entries.sortByKey_perm es).mem_iff.mp he

/-- Everything is under its key with all keys in order. -/
theorem Fits.get?_sorted
    {d : Nat} {v : Value}
    (h : v.Fits d)
    (key : String) :
    v.sorted.get? key = (v.get? key).map Value.sorted := by
  cases h with
  | scalar hs => rfl
  | list h => rfl
  | map keyed h =>
      rw [Entries.sorted_map]
      exact Entries.find?_sorted keyed key

theorem entryLevels_perm
    {es fs : Entries}
    (h : es.Perm fs) :
    entryLevels es ≤ entryLevels fs :=
  entryLevels_le_iff.mpr fun e he =>
    entryLevels_le_iff.mp (Nat.le_refl _) e (h.mem_iff.mp he)

mutual

/-- With its keys in order a value has no more levels. -/
theorem levels_sorted : ∀ v : Value, v.sorted.levels ≤ v.levels
  | scalar s => by rw [sorted]
  | list items => by
      simpa only [sorted, levels, Nat.add_le_add_iff_right] using itemLevels_sorted items
  | map entries => by
      simp only [sorted, levels, Nat.add_le_add_iff_right]
      exact Nat.le_trans (entryLevels_perm (Entries.sortByKey_perm _)) (entryLevels_sorted entries)
  | set members => by rw [sorted]

theorem itemLevels_sorted : ∀ items : List Value, itemLevels (sortedItems items) ≤ itemLevels items
  | [] => Nat.le_refl _
  | v :: rest => by
      have hv := levels_sorted v
      have hrest := itemLevels_sorted rest
      simp only [sortedItems, itemLevels]
      omega

theorem entryLevels_sorted :
    ∀ entries : List (Scalar × Value), entryLevels (sortedEntries entries) ≤ entryLevels entries
  | [] => Nat.le_refl _
  | (k, v) :: rest => by
      have hv := levels_sorted v
      have hrest := entryLevels_sorted rest
      simp only [sortedEntries, entryLevels]
      omega

end

end Value

/-! ### What is kept -/

namespace Extra

theorem sorted_perm
    (extra : Extra) :
    (Extra.sorted extra).Perm (extra.map fun f => (f.1, f.2.sorted)) := by
  have hperm := (Entries.sorted_perm (extra.map fun f => (.str f.1, f.2))).map
    fun e => (e.1.keyText, e.2)
  simpa [Extra.sorted, Function.comp_def, Scalar.keyText] using hperm

theorem normal_perm
    {extra extra' : Extra}
    (h : extra.Perm extra') :
    extra.normal.Perm extra'.normal :=
  (h.filter _).map _

theorem Fits.normal_mapSorted
    {d : Nat} {extra : Extra}
    (h : extra.Fits d) :
    Extra.normal (extra.map fun f => (f.1, f.2.sorted)) =
      extra.normal.map fun f => (f.1, f.2.sorted) := by
  simp only [Extra.normal, List.filter_map, List.map_map, Function.comp_def, Value.isNull_sorted]
  refine List.map_congr_left fun f hf => Prod.ext rfl ?_
  exact (h.values f (List.mem_filter.mp hf).1).kept_sorted

/-- After two times in document form no more is left out. -/
theorem Fits.normal_normal_normal
    {d : Nat} {extra : Extra}
    (h : extra.Fits d) :
    extra.normal.normal.normal = extra.normal.normal := by
  have hkept : ∀ f ∈ extra.normal.normal, !f.2.isNull ∧ f.2.kept = f.2 := by
    intro f hf
    obtain ⟨g, hg, rfl⟩ := List.mem_map.mp hf
    obtain ⟨hmem, hnull⟩ := List.mem_filter.mp hg
    obtain ⟨g', hg', rfl⟩ := List.mem_map.mp hmem
    have hkept := (h.values g' (List.mem_filter.mp hg').1).kept_kept
    simp only [hkept] at hnull ⊢
    exact ⟨hnull, trivial⟩
  calc extra.normal.normal.normal
    _ = extra.normal.normal.map fun f => (f.1, f.2.kept) := by
        rw [Extra.normal, List.filter_eq_self.mpr fun f hf => (hkept f hf).1]
    _ = extra.normal.normal.map id :=
        List.map_congr_left fun f hf => Prod.ext rfl (hkept f hf).2
    _ = extra.normal.normal := List.map_id _

/-- What is kept, read again from a file that it was written to. -/
def reread (extra : Extra) : Extra := Extra.sorted extra.normal.normal

theorem Clear.normal
    {fields : List (List String)} {extra : Extra}
    (h : extra.Clear fields) :
    extra.normal.Clear fields := by
  intro f hf
  obtain ⟨g, hg, hname⟩ := fst_of_mem_normal hf
  exact hname ▸ h g hg

/-- What was read again from a file is written as it was before, apart from the order. -/
theorem Fits.normal_reread_perm
    {d : Nat} {extra : Extra}
    (h : extra.Fits d) :
    extra.reread.normal.normal.Perm (extra.normal.normal.map fun f => (f.1, f.2.sorted)) := by
  have hperm := normal_perm (normal_perm (sorted_perm extra.normal.normal))
  rw [h.normal.normal.normal_mapSorted, h.normal_normal_normal, h.normal.normal.normal_mapSorted,
    h.normal_normal_normal] at hperm
  exact hperm

theorem sorted_congr
    {extra extra' : Extra}
    (hnodup : (extra.map Prod.fst).Nodup)
    (h : extra.Perm extra') :
    Extra.sorted extra = Extra.sorted extra' := by
  have hkeyed : Entries.Keyed (extra.map fun f => (.str f.1, f.2.sorted)) := by
    have hsorted : ((extra.map fun f => (f.1, f.2.sorted)).map Prod.fst).Nodup := by
      simpa [Function.comp_def] using hnodup
    simpa [Function.comp_def] using Entries.keyed_map_iff.mpr hsorted
  have hentries : ∀ extra : Extra, Value.sortedEntries (extra.map fun f => (.str f.1, f.2)) =
      extra.map fun f => (.str f.1, f.2.sorted) := by
    intro extra
    rw [Value.sortedEntries_eq, List.map_map]
    rfl
  rw [Extra.sorted, Extra.sorted, Entries.sorted, Entries.sorted, hentries, hentries,
    Entries.sortByKey_eq_of_perm hkeyed (h.map _)]

/-- What was read again from a file is read so every time. -/
theorem Fits.reread_reread
    {d : Nat} {extra : Extra}
    (h : extra.Fits d) :
    extra.reread.reread = extra.reread := by
  have hnodup : (extra.reread.normal.normal.map Prod.fst).Nodup := by
    rw [(h.normal_reread_perm.map Prod.fst).nodup_iff, List.map_map]
    exact h.normal.normal.nodup
  have hsorted : Value.sortedEntries ((extra.normal.normal.map fun f => (f.1, f.2.sorted)).map
      fun f => (.str f.1, f.2)) =
        Value.sortedEntries (extra.normal.normal.map fun f => (.str f.1, f.2)) := by
    rw [Value.sortedEntries_eq, Value.sortedEntries_eq, List.map_map, List.map_map, List.map_map]
    exact List.map_congr_left fun f hf =>
      Prod.ext rfl (h.normal.normal.values f hf).sorted_sorted
  rw [reread, sorted_congr hnodup h.normal_reread_perm, Extra.sorted, Entries.sorted, hsorted]
  rfl

end Extra

namespace Value

/-- Mappings with the same entries are the same with their keys in order. -/
theorem sorted_map_congr
    {es fs : Entries}
    (hes : es.Keyed)
    (h : (es.map fun e => (e.1, e.2.sorted)).Perm (fs.map fun e => (e.1, e.2.sorted))) :
    (Value.map es).sorted = (Value.map fs).sorted := by
  have hkeyed : Entries.Keyed (es.map fun e => (e.1, e.2.sorted)) := by
    constructor
    · intro e he
      obtain ⟨f, hf, rfl⟩ := List.mem_map.mp he
      exact hes.text f hf
    · simpa [Function.comp_def] using hes.nodup
  rw [sorted, sorted, sortedEntries_eq, sortedEntries_eq, Entries.sortByKey_eq_of_perm hkeyed h]

/-- A record with what was read again from a file is written as before. -/
theorem sorted_ofFields_reread
    {d d' : Nat} {fields fields' : List (String × Value)} {extra : Extra}
    (hfits : (ofFields fields extra.normal).Fits d)
    (hextra : extra.Fits d')
    (hfields : fields'.map (fun f => (f.1, f.2.sorted)) = fields.map fun f => (f.1, f.2.sorted)) :
    (ofFields fields' extra.reread.normal).sorted = (ofFields fields extra.normal).sorted := by
  have hgiven : (fields'.filter fun f => !f.2.isNull).map (fun f => (f.1, f.2.sorted)) =
      (fields.filter fun f => !f.2.isNull).map fun f => (f.1, f.2.sorted) := by
    have hfilter : ∀ fs : List (String × Value),
        (fs.filter fun f => !f.2.isNull).map (fun f => (f.1, f.2.sorted)) =
          (fs.map fun f => (f.1, f.2.sorted)).filter fun f => !f.2.isNull := by
      intro fs
      simp [List.filter_map, Function.comp_def]
    rw [hfilter, hfilter, hfields]
  have hkept : (extra.reread.normal.normal.map fun f => (f.1, f.2.sorted)).Perm
      (extra.normal.normal.map fun f => (f.1, f.2.sorted)) := by
    have hperm := hextra.normal_reread_perm.map fun f => (f.1, f.2.sorted)
    rw [List.map_map] at hperm
    refine hperm.trans (List.Perm.of_eq (List.map_congr_left fun f hf => Prod.ext rfl ?_))
    exact (hextra.normal.normal.values f hf).sorted_sorted
  obtain ⟨_, -, hes⟩ := (ofFields_eq fields extra.normal ▸ hfits).entries
  rw [ofFields_eq, ofFields_eq]
  refine (sorted_map_congr hes.keyed ?_).symm
  have hparts : ∀ (fs : List (String × Value)) (extra : Extra),
      (fieldEntries fs extra).map (fun e => (e.1, e.2.sorted)) =
        ((fs.filter fun f => !f.2.isNull).map (fun f => (f.1, f.2.sorted)) ++
          extra.normal.map fun f => (f.1, f.2.sorted)).map fun f => (Scalar.str f.1, f.2) := by
    intro fs extra
    simp [fieldEntries, Function.comp_def]
  rw [hparts, hparts, hgiven]
  exact (hkept.symm.append_left _).map _

end Value

/-! ### Reservations -/

/-- A reservation that is read again from a file that it was written to. -/
def Reservation.reread {α : Type} (e : Reservation α) : Reservation α :=
  { e with extra := e.extra.reread }

/-- Reservations that are read again from a file that they were written to. -/
def Reserved.reread (r : Reserved) : Reserved :=
  { vmids := r.vmids.map Reservation.reread
    ips := r.ips.map Reservation.reread
    extra := r.extra.reread }

theorem Reserved.sorted_normal_normal
    (r : Reserved) :
    r.normal.normal.sorted = r.reread := by
  simp [normal, sorted, reread, Function.comp_def, Reservation.normal, Reservation.sorted,
    Reservation.reread, Extra.reread]

theorem Reserved.Fits.reread_reread
    {depth : Nat} {r : Reserved}
    (h : r.Fits depth) :
    r.reread.reread = r.reread := by
  have hvmids : ∀ e ∈ r.vmids, e.reread.reread = e.reread := by
    intro e he
    simp only [Reservation.reread, (h.vmids e he).extra.reread_reread]
  have hips : ∀ e ∈ r.ips, e.reread.reread = e.reread := by
    intro e he
    simp only [Reservation.reread, (h.ips e he).reread_reread]
  simp only [reread, List.map_map, Function.comp_def, h.extra.reread_reread]
  rw [List.map_congr_left hvmids, List.map_congr_left hips]

theorem Reserved.WellFormed.normal
    {r : Reserved}
    (h : r.WellFormed) :
    r.normal.WellFormed := by
  refine ⟨?_, ?_, h.clear.normal⟩
  · intro e he
    obtain ⟨f, hf, rfl⟩ := List.mem_map.mp he
    exact (h.vmids f hf).normal
  · intro e he
    obtain ⟨f, hf, rfl⟩ := List.mem_map.mp he
    exact ⟨(h.ips f hf).ip, (h.ips f hf).clear.normal⟩

/-- Reservations that were read again from a file are written to it as before. -/
theorem Reserved.sorted_toValue_reread
    {depth : Nat} {r : Reserved}
    (hform : r.WellFormed)
    (h : r.Fits depth) :
    r.reread.normal.toValue.sorted = r.normal.toValue.sorted := by
  have hvmids : ∀ e ∈ r.vmids, (Reservation.vmidValue e.reread.normal).sorted =
      (Reservation.vmidValue e.normal).sorted := by
    intro e he
    have hmem : e.normal ∈ r.normal.vmids := List.mem_map_of_mem he
    exact Value.sorted_ofFields_reread
      (Reservation.fits_vmidValue (hform.normal.vmids _ hmem) (h.normal.vmids _ hmem))
      (h.vmids e he).extra rfl
  have hips : ∀ e ∈ r.ips, (Reservation.ipValue e.reread.normal).sorted =
      (Reservation.ipValue e.normal).sorted := by
    intro e he
    have hmem : e.normal ∈ r.normal.ips := List.mem_map_of_mem he
    exact Value.sorted_ofFields_reread
      (Reservation.fits_ipValue (hform.normal.ips _ hmem) (h.normal.ips _ hmem)) (h.ips e he) rfl
  refine Value.sorted_ofFields_reread (Reserved.fits_toValue hform.normal h.normal) h.extra ?_
  simp only [reread, normal, List.map_cons, List.map_nil, List.map_map, Value.sorted,
    Value.sortedItems_eq, Function.comp_def]
  rw [List.map_congr_left hvmids, List.map_congr_left hips]

/-! ### Writing -/

namespace Extra

theorem IsShallow.normal
    {extra : Extra}
    (h : extra.IsShallow) :
    extra.normal.IsShallow := by
  intro f hf
  obtain ⟨g, hg, rfl⟩ := List.mem_map.mp hf
  exact Nat.le_trans (Value.levels_kept g.2) (h g (List.mem_filter.mp hg).1)

theorem IsShallow.sorted
    {extra : Extra}
    (h : extra.IsShallow) :
    (Extra.sorted extra).IsShallow := by
  intro f hf
  obtain ⟨g, hg, rfl⟩ := List.mem_map.mp ((sorted_perm extra).mem_iff.mp hf)
  exact Nat.le_trans (Value.levels_sorted g.2) (h g hg)

end Extra

namespace Inventory

theorem extras_sorted
    (inv : Inventory) :
    inv.sorted.extras = inv.extras.map Extra.sorted := by
  have hranges : (inv.networks.map Network.sorted).filterMap
        (fun n => n.staticRange.map StaticRange.extra) =
      (inv.networks.filterMap fun n => n.staticRange.map StaticRange.extra).map
        Extra.sorted := by
    rw [List.filterMap_map, List.map_filterMap]
    congr 1
    funext n
    simp only [Function.comp_apply, Network.sorted, Option.map_map]
    rfl
  simp only [extras, List.map_append, hranges.symm]
  simp [sorted, List.flatMap_map, List.map_flatMap, Function.comp_def, ClusterConfig.sorted,
    ModuleSettings.sorted, StateBackend.sorted, Reserved.sorted, Reservation.sorted,
    Network.sorted, Host.sorted, HostInterface.sorted, Template.sorted]

theorem isWritable_sorted
    {inv : Inventory}
    (h : inv.isWritable = true) :
    inv.sorted.isWritable = true := by
  rw [isWritable_iff] at h ⊢
  rw [extras_sorted]
  intro extra hextra
  obtain ⟨kept, hkept, rfl⟩ := List.mem_map.mp hextra
  exact (h kept hkept).sorted

theorem isWritable_iff_reserved
    {inv : Inventory} {r : Reserved} :
    isWritable { inv with reserved := r } = true ↔
      isWritable { inv with reserved := .empty } = true ∧ r.extra.IsShallow ∧
        (∀ e ∈ r.vmids, e.extra.IsShallow) ∧ ∀ e ∈ r.ips, e.extra.IsShallow := by
  simp only [isWritable, extras, Reserved.empty, List.all_append, List.all_cons, List.all_map,
    List.all_nil, Bool.and_eq_true, List.map_nil, Bool.and_true]
  simp only [Extra.IsShallow, List.all_eq_true, decide_eq_true_eq, Function.comp_apply]
  tauto

/-- What can be written can be written with its reservations in document form. -/
theorem isWritable_reserved_normal
    {inv : Inventory} {r : Reserved}
    (h : isWritable { inv with reserved := r } = true) :
    isWritable { inv with reserved := r.normal } = true := by
  rw [isWritable_iff_reserved] at h ⊢
  obtain ⟨hrest, hextra, hvmids, hips⟩ := h
  refine ⟨hrest, hextra.normal, fun e he => ?_, fun e he => ?_⟩
  · obtain ⟨f, hf, rfl⟩ := List.mem_map.mp he
    exact (hvmids f hf).normal
  · obtain ⟨f, hf, rfl⟩ := List.mem_map.mp he
    exact (hips f hf).normal

end Inventory
end Homelab
