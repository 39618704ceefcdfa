import Homelab.Inventory.Document
import Homelab.Json.Reader
import Homelab.Json.Writer
import Mathlib.Algebra.Group.Nat.Defs
import Mathlib.Data.List.Nodup

/-!
# Values of JSON texts

A value that can stand in a JSON text has mappings whose keys are different texts, and
lists and mappings that stand inside of each other only so deep.  A file holds it with
the keys of every mapping sorted.
-/

namespace Homelab

/-! ### Sorted values -/

/-- The text of a key. -/
def Scalar.keyText : Scalar → String
  | .str s => s
  | _ => ""

/-- Entries in the order of their keys. -/
def Entries.sortByKey (es : Entries) : Entries :=
  es.mergeSort fun a b => decide (a.1.keyText ≤ b.1.keyText)

namespace Value

mutual

/-- A value with the keys of all mappings in order. -/
def sorted : Value → Value
  | scalar s => scalar s
  | list items => list (sortedItems items)
  | map entries => map (Entries.sortByKey (sortedEntries entries))
  | set members => set members

/-- Values with the keys of all mappings in order. -/
def sortedItems : List Value → List Value
  | [] => []
  | v :: rest => sorted v :: sortedItems rest

/-- Entries with the keys of all mappings in their values in order. -/
def sortedEntries : List (Scalar × Value) → List (Scalar × Value)
  | [] => []
  | (k, v) :: rest => (k, sorted v) :: sortedEntries rest

end

theorem sortedItems_eq
    (items : List Value) :
    sortedItems items = items.map sorted := by
  induction items with
  | nil => rfl
  | cons v rest ih => rw [sortedItems, ih, List.map_cons]

theorem sortedEntries_eq
    (entries : Entries) :
    sortedEntries entries = entries.map fun e => (e.1, sorted e.2) := by
  induction entries with
  | nil => rfl
  | cons e rest ih => rw [sortedEntries, ih, List.map_cons]

end Value

theorem Entries.sortByKey_map
    {β : Type} (f : Scalar × Value → String × β) (es : Entries)
    (hf : ∀ e ∈ es, (f e).1 = e.1.keyText) :
    Json.sortByKey (es.map f) = (Entries.sortByKey es).map f := by
  rw [Json.sortByKey, Entries.sortByKey, List.map_mergeSort]
  intro a ha b hb
  rw [hf a ha, hf b hb]

/-- Entries are put in order by their keys, whatever becomes of their values. -/
theorem Entries.sortByKey_mapValues
    (f : Value → Value) (es : Entries) :
    Entries.sortByKey (es.map fun e => (e.1, f e.2)) =
      (Entries.sortByKey es).map fun e => (e.1, f e.2) := by
  rw [Entries.sortByKey, Entries.sortByKey, List.map_mergeSort]
  intro a ha b hb
  rfl

theorem Entries.sortByKey_sorted
    (es : Entries) :
    Entries.sortByKey (Value.sortedEntries es) =
      (Entries.sortByKey es).map fun e => (e.1, e.2.sorted) := by
  rw [Value.sortedEntries_eq, Entries.sortByKey_mapValues]

theorem Entries.sortByKey_perm
    (es : Entries) :
    (Entries.sortByKey es).Perm es := List.mergeSort_perm _ _

/-! ### Entries with text keys -/

/-- Entries with different keys, all of them texts. -/
structure Entries.Keyed (es : Entries) : Prop where
  text : ∀ e ∈ es, ∃ s, e.1 = .str s
  nodup : (es.map Prod.fst).Nodup

/-- Entries with text keys come from pairs of a text and a value. -/
theorem Entries.Keyed.eq_map
    {es : Entries}
    (h : es.Keyed) :
    ∃ fs : List (String × Value), es = fs.map fun f => (.str f.1, f.2) := by
  refine ⟨es.map fun e => (e.1.keyText, e.2), ?_⟩
  rw [List.map_map]
  refine (List.map_id es).symm.trans (List.map_congr_left fun e he => ?_)
  obtain ⟨k, v⟩ := e
  obtain ⟨s, hs⟩ := h.text (k, v) he
  simp only at hs
  subst hs
  rfl

/-- Pairs of a text and a value are entries with text keys if the texts are different. -/
theorem Entries.keyed_map_iff
    {fs : List (String × Value)} :
    Entries.Keyed (fs.map fun f => (.str f.1, f.2)) ↔ (fs.map Prod.fst).Nodup := by
  have hkeys : (fs.map fun f => (Scalar.str f.1, f.2)).map Prod.fst =
      (fs.map Prod.fst).map Scalar.str := by
    simp [Function.comp_def]
  constructor
  · intro h
    have hnodup := h.nodup
    rw [hkeys] at hnodup
    exact hnodup.of_map Scalar.str
  · refine fun hnodup => ⟨fun e he => ?_, ?_⟩
    · obtain ⟨f, -, rfl⟩ := List.mem_map.mp he
      exact ⟨f.1, rfl⟩
    · rw [hkeys]
      exact hnodup.map fun a b heq => Scalar.str.inj heq

theorem Scalar.sameKey_str
    (s t : String) :
    (Scalar.str s).sameKey (.str t) = decide (s = t) := by
  by_cases h : s = t <;> simp [Scalar.sameKey, Scalar.keyNumber?, h]

theorem Entries.put_new
    {key : String} {v : Value} {es : Entries}
    (h : Scalar.str key ∉ es.map Prod.fst)
    (hkeys : ∀ e ∈ es, ∃ s, e.1 = .str s) :
    Entries.put (.str key) v es = es ++ [(.str key, v)] := by
  induction es with
  | nil => rfl
  | cons e es ih =>
      obtain ⟨k, w⟩ := e
      obtain ⟨s, hs⟩ := hkeys (k, w) (by simp)
      simp only at hs
      subst hs
      simp only [List.map_cons, List.mem_cons, not_or] at h
      have hne : s ≠ key := fun heq => h.1 (by rw [heq])
      rw [Entries.put, Scalar.sameKey_str, if_neg (by simpa using hne),
        ih h.2 fun e he => hkeys e (by simp [he])]
      rfl

/-- Entries with different text keys are kept as they are. -/
theorem Entries.Keyed.ofPairs_eq
    {es : Entries}
    (h : es.Keyed) :
    Entries.ofPairs es = es := by
  have hgo : ∀ (rest front : Entries), (front ++ rest).Keyed →
      rest.foldl (fun es p => Entries.put p.1 p.2 es) front = front ++ rest := by
    intro rest
    induction rest with
    | nil => simp
    | cons e rest ih =>
        intro front hkeyed
        obtain ⟨k, v⟩ := e
        obtain ⟨s, hs⟩ := hkeyed.text (k, v) (by simp)
        simp only at hs
        subst hs
        have hnew : Scalar.str s ∉ front.map Prod.fst := by
          have hnodup := hkeyed.nodup
          rw [List.map_append, List.map_cons, List.nodup_append] at hnodup
          intro hmem
          exact hnodup.2.2 _ hmem _ (by simp) rfl
        rw [List.foldl_cons, Entries.put_new hnew fun e he => hkeyed.text e (by simp [he])]
        have hrest := ih (front ++ [(.str s, v)]) (by simpa using hkeyed)
        simpa using hrest
  simpa [Entries.ofPairs] using hgo es [] (by simpa using h)

namespace Entries

theorem fst_put
    {key : String} {v : Value} {es : Entries}
    (hkeys : ∀ e ∈ es, ∃ s, e.1 = .str s)
    (hmem : Scalar.str key ∈ es.map Prod.fst) :
    (put (.str key) v es).map Prod.fst = es.map Prod.fst := by
  induction es with
  | nil => simp at hmem
  | cons e es ih =>
      obtain ⟨k, w⟩ := e
      obtain ⟨s, hs⟩ := hkeys (k, w) (by simp)
      simp only at hs
      subst hs
      by_cases hkey : s = key
      · rw [put, Scalar.sameKey_str, if_pos (by simpa using hkey)]
        rfl
      · rw [put, Scalar.sameKey_str, if_neg (by simpa using hkey)]
        have hrest : Scalar.str key ∈ es.map Prod.fst := by
          rw [List.map_cons, List.mem_cons] at hmem
          rcases hmem with heq | hmem
          · exact absurd (Scalar.str.inj heq).symm hkey
          · exact hmem
        rw [List.map_cons, List.map_cons, ih (fun e he => hkeys e (by simp [he])) hrest]

theorem mem_put
    {key : String} {v : Value} {es : Entries}
    (hkeys : ∀ e ∈ es, ∃ s, e.1 = .str s) :
    ∀ e ∈ put (.str key) v es, e ∈ es ∨ e = (.str key, v) := by
  induction es with
  | nil => simp [put]
  | cons e es ih =>
      obtain ⟨k, w⟩ := e
      obtain ⟨s, hs⟩ := hkeys (k, w) (by simp)
      simp only at hs
      subst hs
      have hrec := ih fun e he => hkeys e (by simp [he])
      intro e he
      by_cases hkey : s = key
      · rw [put, Scalar.sameKey_str, if_pos (by simpa using hkey)] at he
        rcases List.mem_cons.mp he with rfl | he
        · exact .inr (by rw [hkey])
        · exact .inl (by simp [he])
      · rw [put, Scalar.sameKey_str, if_neg (by simpa using hkey)] at he
        rcases List.mem_cons.mp he with rfl | he
        · exact .inl (by simp)
        · rcases hrec e he with he | he
          · exact .inl (by simp [he])
          · exact .inr he

/-- A text key can be set in entries with text keys. -/
theorem Keyed.put
    {key : String} {v : Value} {es : Entries}
    (h : es.Keyed) :
    (Entries.put (.str key) v es).Keyed := by
  constructor
  · intro e he
    rcases mem_put h.text e he with he | rfl
    · exact h.text e he
    · exact ⟨key, rfl⟩
  · by_cases hmem : Scalar.str key ∈ es.map Prod.fst
    · rw [fst_put h.text hmem]
      exact h.nodup
    · rw [put_new hmem h.text, List.map_append, List.nodup_append]
      refine ⟨h.nodup, by simp, ?_⟩
      rintro a ha b hb rfl
      exact hmem (by simpa [List.mem_singleton.mp hb] using ha)

/-- Pairs with text keys become entries with different keys, and their values come from
the pairs. -/
theorem keyed_ofPairs
    {pairs : List (Scalar × Value)}
    (h : ∀ p ∈ pairs, ∃ s, p.1 = .str s) :
    (ofPairs pairs).Keyed ∧ ∀ e ∈ ofPairs pairs, e ∈ pairs := by
  have hgo : ∀ (rest : List (Scalar × Value)) (es : Entries),
      (∀ p ∈ rest, ∃ s, p.1 = .str s) → es.Keyed →
      (rest.foldl (fun es p => Entries.put p.1 p.2 es) es).Keyed ∧
        ∀ e ∈ rest.foldl (fun es p => Entries.put p.1 p.2 es) es, e ∈ es ∨ e ∈ rest := by
    intro rest
    induction rest with
    | nil => exact fun es _ hes => ⟨hes, fun e he => .inl he⟩
    | cons p rest ih =>
        intro es hrest hes
        obtain ⟨k, v⟩ := p
        obtain ⟨s, hs⟩ := hrest (k, v) (by simp)
        simp only at hs
        subst hs
        obtain ⟨hkeyed, hfrom⟩ := ih (Entries.put (.str s) v es)
          (fun p hp => hrest p (by simp [hp])) hes.put
        refine ⟨hkeyed, ?_⟩
        intro e he
        rcases hfrom e he with he | he
        · rcases mem_put hes.text e he with he | rfl
          · exact .inl he
          · exact .inr (by simp)
        · exact .inr (by simp [he])
  obtain ⟨hkeyed, hfrom⟩ := hgo pairs [] h ⟨by simp, by simp⟩
  exact ⟨hkeyed, fun e he => by simpa using hfrom e he⟩

end Entries

/-! ### Values of JSON texts -/

/-- A value without parts that can stand in a JSON text, and is the same after it was
read. -/
def Scalar.Fits : Scalar → Prop
  | .null | .bool _ | .str _ => True
  | .int n => n.natAbs < 10 ^ Json.digitLimit
  | .float x => x.isNaN = true → x = Double.notANumber
  | .bytes _ | .date _ | .moment _ => False

theorem Scalar.fits_int_iff
    (n : Int) :
    (Scalar.int n).Fits ↔ (Scalar.int n).isOversized = false := by
  rw [Scalar.isOversized, show Text.digitLimit = Json.digitLimit from rfl, Nat.pow_eq,
    decide_eq_false_iff_not, Nat.not_le, Scalar.Fits]

/-- An integer of a few digits is not oversized. -/
theorem Scalar.isOversized_of_lt
    {n : Int}
    (h : n.natAbs < 10 ^ 4) :
    (Scalar.int n).isOversized = false := by
  rw [← Scalar.fits_int_iff]
  have hdigits : 4 ≤ Json.digitLimit := by decide
  show n.natAbs < 10 ^ Json.digitLimit
  -- The power is not to be evaluated.
  generalize Json.digitLimit = digits at hdigits
  exact Nat.lt_of_lt_of_le h (Nat.pow_le_pow_right (by omega) hdigits)

/-- A value that can stand in a JSON text, with at most so many lists and mappings inside
of each other, and is the same after it was read. -/
inductive Value.Fits : Nat → Value → Prop where
  | scalar {depth : Nat} {s : Scalar}
      (h : s.Fits) : Fits depth (.scalar s)
  | list {depth : Nat} {items : List Value}
      (h : ∀ v ∈ items, Fits depth v) : Fits (depth + 1) (.list items)
  | map {depth : Nat} {es : Entries}
      (keyed : es.Keyed) (h : ∀ e ∈ es, Fits depth e.2) : Fits (depth + 1) (.map es)

/-- Entries with different text keys, whose values fit. -/
structure Entries.Fits (depth : Nat) (es : Entries) : Prop where
  keyed : es.Keyed
  values : ∀ e ∈ es, e.2.Fits depth

theorem Value.Fits.entries
    {depth : Nat} {es : Entries}
    (h : (Value.map es).Fits depth) :
    ∃ d, depth = d + 1 ∧ es.Fits d := by
  cases h with
  | @map d _ keyed h => exact ⟨d, rfl, keyed, h⟩

theorem Value.Fits.items
    {depth : Nat} {vs : List Value}
    (h : (Value.list vs).Fits depth) :
    ∃ d, depth = d + 1 ∧ ∀ v ∈ vs, v.Fits d := by
  cases h with
  | @list d _ h => exact ⟨d, rfl, h⟩

/-- With more room a value still fits. -/
theorem Value.Fits.mono
    {d d' : Nat} {v : Value}
    (h : v.Fits d)
    (hle : d ≤ d') :
    v.Fits d' := by
  induction h generalizing d' with
  | scalar hs => exact .scalar hs
  | list h ih =>
      obtain ⟨d', rfl⟩ : ∃ k, d' = k + 1 := ⟨d' - 1, by omega⟩
      exact .list fun v hv => ih v hv (by omega)
  | map keyed h ih =>
      obtain ⟨d', rfl⟩ : ∃ k, d' = k + 1 := ⟨d' - 1, by omega⟩
      exact .map keyed fun e he => ih e he (by omega)

/-! ### Document form -/

namespace Value

theorem keptItems_eq
    (items : List Value) :
    keptItems items = items.map kept := by
  induction items with
  | nil => rfl
  | cons v rest ih => rw [keptItems, ih, List.map_cons]

theorem keptEntries_eq
    (entries : Entries) :
    keptEntries entries = entries.map fun e => (e.1, kept e.2) := by
  induction entries with
  | nil => rfl
  | cons e rest ih => rw [keptEntries, ih, List.map_cons]

/-- The document form of a value that fits does so too. -/
theorem Fits.kept
    {d : Nat} {v : Value}
    (h : v.Fits d) :
    v.kept.Fits d := by
  induction h with
  | @scalar d s hs =>
      cases s with
      | float x =>
          rw [Value.kept]
          split
          · exact .scalar hs
          · exact .scalar trivial
      | bytes data => exact hs.elim
      | null | bool b | int n | str s | date x | moment t =>
          simp only [Value.kept]
          exact .scalar hs
  | list h ih =>
      rw [Value.kept, keptItems_eq]
      refine .list fun v hv => ?_
      obtain ⟨w, hw, rfl⟩ := List.mem_map.mp hv
      exact ih w hw
  | map keyed h ih =>
      rw [Value.kept, keptEntries_eq]
      refine .map ⟨?_, ?_⟩ ?_
      · intro e he
        obtain ⟨f, hf, rfl⟩ := List.mem_map.mp he
        exact keyed.text f hf
      · simpa [Function.comp_def] using keyed.nodup
      · intro e he
        obtain ⟨f, hf, rfl⟩ := List.mem_map.mp he
        exact ih f hf

end Value

/-! ### Looking up a key -/

theorem lookup_eq_some_iff_mem
    {es : Entries} {k : Scalar} {v : Value}
    (h : (es.map Prod.fst).Nodup) :
    es.lookup k = some v ↔ (k, v) ∈ es := by
  rw [List.lookup_eq_some_iff]
  constructor
  · rintro ⟨front, back, rfl, -⟩
    simp
  · intro hmem
    obtain ⟨front, back, rfl⟩ := List.append_of_mem hmem
    refine ⟨front, back, rfl, ?_⟩
    rw [List.map_append, List.nodup_append] at h
    intro p hp
    have hne := h.2.2 p.1 (List.mem_map_of_mem hp) k (by simp)
    simpa using Ne.symm hne

namespace Entries

/-- The entries of a mapping with all keys in order. -/
def sorted (es : Entries) : Entries := sortByKey (Value.sortedEntries es)

theorem sorted_map
    (es : Entries) :
    (Value.map es).sorted = .map es.sorted := by
  rw [Value.sorted]
  rfl

theorem sorted_perm
    (es : Entries) :
    es.sorted.Perm (es.map fun e => (e.1, e.2.sorted)) := by
  rw [sorted, Value.sortedEntries_eq]
  exact sortByKey_perm _

theorem Keyed.sorted
    {es : Entries}
    (h : es.Keyed) :
    es.sorted.Keyed := by
  constructor
  · intro e he
    obtain ⟨f, hf, rfl⟩ := List.mem_map.mp ((sorted_perm es).mem_iff.mp he)
    exact h.text f hf
  · rw [((sorted_perm es).map Prod.fst).nodup_iff]
    simpa [Function.comp_def] using h.nodup

/-- Sorting leaves everything under its key. -/
theorem find?_sorted
    {es : Entries}
    (h : es.Keyed)
    (key : String) :
    find? key es.sorted = (find? key es).map Value.sorted := by
  refine Option.ext fun v => ?_
  rw [find?, lookup_eq_some_iff_mem h.sorted.nodup, (sorted_perm es).mem_iff, Option.map_eq_some_iff]
  simp only [find?, lookup_eq_some_iff_mem h.nodup, List.mem_map, Prod.mk.injEq]
  constructor
  · rintro ⟨⟨k, w⟩, hmem, rfl, rfl⟩
    exact ⟨w, hmem, rfl⟩
  · rintro ⟨w, hmem, rfl⟩
    exact ⟨(.str key, w), hmem, rfl, rfl⟩

theorem find?_cons
    (name s : String) (w : Value) (es : Entries) :
    find? name ((.str s, w) :: es) = if name = s then some w else find? name es := by
  by_cases hname : name = s
  · subst hname
    simp [find?]
  · have hbeq : (Scalar.str name == Scalar.str s) = false := by simp [hname]
    rw [find?, List.lookup_cons, hbeq, if_neg hname, find?]

/-- Setting a text key replaces what is under it, and nothing else. -/
theorem find?_put
    {es : Entries}
    (h : es.Keyed)
    (key name : String) (v : Value) :
    find? name (put (.str key) v es) = if name = key then some v else find? name es := by
  induction es with
  | nil => rw [put, find?_cons]
  | cons e es ih =>
      obtain ⟨k, w⟩ := e
      obtain ⟨s, hs⟩ := h.text (k, w) (by simp)
      simp only at hs
      subst hs
      have hrest : Entries.Keyed es :=
        ⟨fun e he => h.text e (by simp [he]), (List.nodup_cons.mp h.nodup).2⟩
      by_cases hkey : s = key
      · subst hkey
        rw [put, Scalar.sameKey_str, if_pos (by simp), find?_cons, find?_cons]
        by_cases hname : name = s <;> simp [hname]
      · rw [put, Scalar.sameKey_str, if_neg (by simpa using hkey), find?_cons, find?_cons,
          ih hrest]
        by_cases hname : name = s
        · simp [hname, hkey]
        · simp [hname]

/-- Removing a text key removes what is under it, and nothing else. -/
theorem find?_erase
    (es : Entries) (key name : String) :
    find? name (erase key es) = if name = key then none else find? name es := by
  induction es with
  | nil => simp [erase, find?]
  | cons e es ih =>
      obtain ⟨k, w⟩ := e
      simp only [erase, find?] at ih
      rw [erase, find?, find?, List.filter_cons]
      by_cases hkey : k = .str key
      · subst hkey
        rw [if_neg (by simp), ih, List.lookup_cons]
        by_cases hname : name = key
        · simp [hname]
        · have hbeq : (Scalar.str name == Scalar.str key) = false := by simpa using hname
          rw [hbeq]
      · rw [if_pos (by simpa using hkey), List.lookup_cons, List.lookup_cons, ih]
        by_cases hname : Scalar.str name = k
        · have hne : name ≠ key := by
            rintro rfl
            exact hkey hname.symm
          simp [hname, hne]
        · have hbeq : (Scalar.str name == k) = false := by simpa using hname
          rw [hbeq]

theorem Keyed.erase
    {es : Entries}
    (h : es.Keyed)
    (key : String) :
    (erase key es).Keyed :=
  ⟨fun e he => h.text e (List.mem_filter.mp he).1, h.nodup.sublist (List.filter_sublist.map _)⟩

end Entries

/-- A value that fits does so with its keys in order, too. -/
theorem Value.Fits.sorted
    {depth : Nat} {v : Value}
    (h : v.Fits depth) :
    v.sorted.Fits depth := by
  induction h with
  | scalar hs => exact .scalar hs
  | list h ih =>
      rw [Value.sorted, sortedItems_eq]
      refine .list fun v hv => ?_
      obtain ⟨w, hw, rfl⟩ := List.mem_map.mp hv
      exact ih w hw
  | map keyed h ih =>
      rw [Entries.sorted_map]
      refine .map keyed.sorted fun e he => ?_
      obtain ⟨f, hf, rfl⟩ := List.mem_map.mp ((Entries.sorted_perm _).mem_iff.mp he)
      exact ih f hf

/-! ### Objects -/

namespace Value

theorem fits_object
    {depth : Nat} {fs : List (String × Value)}
    (hnodup : (fs.map Prod.fst).Nodup)
    (h : ∀ f ∈ fs, f.2.Fits depth) :
    (object fs).Fits (depth + 1) := by
  refine .map (Entries.keyed_map_iff.mpr hnodup) fun e he => ?_
  obtain ⟨f, hf, rfl⟩ := List.mem_map.mp he
  exact h f hf

/-- An object whose keys are in order stays as it is, apart from its values. -/
theorem sorted_object
    {fs : List (String × Value)}
    (h : (fs.map Prod.fst).Pairwise (· ≤ ·)) :
    (object fs).sorted = object (fs.map fun f => (f.1, f.2.sorted)) := by
  rw [object, Entries.sorted_map, Entries.sorted, sortedEntries_eq, Entries.sortByKey,
    List.mergeSort_of_pairwise, object, List.map_map, List.map_map]
  · rfl
  · rw [List.map_map, List.pairwise_map]
    rw [List.pairwise_map] at h
    exact h.imp fun hle => decide_eq_true hle

end Value

/-! ### Values on one line -/

namespace Json

theorem exists_scalarText?
    {s : Scalar}
    (h : s.Fits) :
    ∃ t, scalarText? s = some t := by
  cases s with
  | int n =>
      have hsize := (Scalar.fits_int_iff n).mp h
      exact ⟨toString n, by rw [scalarText?, hsize]; rfl⟩
  | null | bool b | float x | str s => exact ⟨_, rfl⟩
  | bytes data | date d | moment t => exact h.elim

theorem exists_compactItems?
    {items : List Value}
    (h : ∀ v ∈ items, ∃ t, compact? v = some t) :
    ∃ parts, compactItems? items = some parts := by
  induction items with
  | nil => exact ⟨[], rfl⟩
  | cons v rest ih =>
      obtain ⟨t, ht⟩ := h v List.mem_cons_self
      obtain ⟨ts, hts⟩ := ih fun w hw => h w (List.mem_cons_of_mem v hw)
      exact ⟨t :: ts, by rw [compactItems?, ht, hts]⟩

theorem exists_compactEntries?
    {es : Entries}
    (hkeys : ∀ e ∈ es, ∃ s, e.1 = .str s)
    (h : ∀ e ∈ es, ∃ t, compact? e.2 = some t) :
    ∃ parts, compactEntries? es = some parts := by
  induction es with
  | nil => exact ⟨[], rfl⟩
  | cons e rest ih =>
      obtain ⟨k, v⟩ := e
      obtain ⟨s, rfl⟩ : ∃ s, k = .str s := hkeys (k, v) List.mem_cons_self
      obtain ⟨t, ht⟩ : ∃ t, compact? v = some t := h (.str s, v) List.mem_cons_self
      obtain ⟨ts, hts⟩ := ih (fun e he => hkeys e (List.mem_cons_of_mem _ he))
        fun e he => h e (List.mem_cons_of_mem _ he)
      exact ⟨_, by rw [compactEntries?, keyText?, ht, hts]⟩

/-- What can stand in a JSON text can be written on one line. -/
theorem exists_compact?
    {d : Nat} {v : Value}
    (h : v.Fits d) :
    ∃ t, compact? v = some t := by
  induction h with
  | scalar hs => exact exists_scalarText? hs
  | list h ih =>
      obtain ⟨parts, hparts⟩ := exists_compactItems? ih
      exact ⟨_, by rw [compact?, hparts]; rfl⟩
  | map keyed h ih =>
      obtain ⟨parts, hparts⟩ := exists_compactEntries? keyed.text ih
      exact ⟨_, by rw [compact?, hparts]; rfl⟩

end Json

end Homelab
