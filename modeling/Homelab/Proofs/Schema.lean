import Homelab.Inventory.Document

/-!
# Reading records

What it takes for a record to be read, field by field, and what is read from the
document of a record: a field that is written is found under its name, and the
entries that belong to no field are found again as they were kept.
-/

namespace Homelab

/-! ### Checked values -/

namespace Checked

variable {α β : Type}

@[simp] theorem map_eq
    (f : α → β) (x : Checked α) :
    f <$> x = map f x := rfl

@[simp] theorem seq_eq
    (f : Checked (α → β)) (x : Checked α) :
    f <*> x = ap f x := rfl

theorem map_eq_ok_iff
    {f : α → β} {x : Checked α} {b : β} :
    map f x = ok b ↔ ∃ a, x = ok a ∧ f a = b := by
  cases x <;> simp [map]

theorem ap_eq_ok_iff
    {f : Checked (α → β)} {x : Checked α} {b : β} :
    ap f x = ok b ↔ ∃ g, f = ok g ∧ ∃ a, x = ok a ∧ g a = b := by
  cases f <;> cases x <;> simp [ap]

@[simp] theorem map_ok
    (f : α → β) (a : α) :
    map f (ok a) = ok (f a) := rfl

@[simp] theorem ap_ok
    (f : α → β) (a : α) :
    ap (ok f) (ok a) = ok (f a) := rfl

@[simp] theorem under_ok
    (step : PlaceStep) (a : α) :
    under step (ok a) = ok a := rfl

theorem under_eq_ok_iff
    {step : PlaceStep} {x : Checked α} {a : α} :
    under step x = ok a ↔ x = ok a := by
  cases x <;> simp [under]

/-- Every member of a list that is read comes from a member of the document. -/
theorem exists_of_mem_items
    {f : Value → Checked α} :
    ∀ {vs : List Value} {position : Nat} {as : List α},
      items f position vs = ok as →
      ∀ a ∈ as, ∃ v ∈ vs, f v = ok a
  | [], position, as, h => by
      simp only [items, ok.injEq] at h
      subst h
      simp
  | v :: rest, position, as, h => by
      simp only [items, ap_eq_ok_iff, map_eq_ok_iff, under_eq_ok_iff] at h
      obtain ⟨-, ⟨a, ha, rfl⟩, as, hrest, rfl⟩ := h
      intro x hx
      rcases List.mem_cons.mp hx with rfl | hx
      · exact ⟨v, by simp, ha⟩
      · obtain ⟨w, hw, hwx⟩ := exists_of_mem_items hrest x hx
        exact ⟨w, List.mem_cons_of_mem _ hw, hwx⟩

/-- A list is read as soon as its members are. -/
theorem items_map
    {γ : Type} {f : Value → Checked α} {write : γ → Value} {read : γ → α} :
    ∀ {cs : List γ} {position : Nat},
      (∀ c ∈ cs, f (write c) = ok (read c)) →
      items f position (cs.map write) = ok (cs.map read)
  | [], _, _ => rfl
  | c :: rest, position, h => by
      have hrest : items f (position + 1) (rest.map write) = ok (rest.map read) :=
        items_map fun x hx => h x (List.mem_cons_of_mem _ hx)
      simp [items, h c (by simp), hrest]

end Checked

namespace Checked

variable {α β : Type}

/-- What is read has a property. -/
def All (P : α → Prop) (x : Checked α) : Prop := ∀ a, x = ok a → P a

theorem all_true
    (x : Checked α) :
    All (fun _ => True) x := fun _ _ => trivial

theorem all_issue
    {P : α → Prop} (kind : IssueKind) :
    All P (issue kind) := by
  intro a h
  simp [issue] at h

theorem all_map
    {P : α → Prop} {Q : β → Prop} {f : α → β} {x : Checked α}
    (hf : ∀ a, P a → Q (f a))
    (hx : All P x) :
    All Q (map f x) := by
  intro b h
  obtain ⟨a, ha, rfl⟩ := map_eq_ok_iff.mp h
  exact hf a (hx a ha)

theorem all_ap
    {P : α → Prop} {Q : β → Prop} {f : Checked (α → β)} {x : Checked α}
    (hf : All (fun g => ∀ a, P a → Q (g a)) f)
    (hx : All P x) :
    All Q (ap f x) := by
  intro b h
  obtain ⟨g, hg, a, ha, rfl⟩ := ap_eq_ok_iff.mp h
  exact hf g hg a (hx a ha)

theorem all_under
    {P : α → Prop} {step : PlaceStep} {x : Checked α}
    (hx : All P x) :
    All P (under step x) := by
  intro a h
  exact hx a (under_eq_ok_iff.mp h)

end Checked

/-! ### Kept entries -/

namespace Extra

/-- No entry goes by the first name of a field. -/
def Clear (fields : List (List String)) (extra : Extra) : Prop :=
  ∀ f ∈ extra, ∀ names ∈ fields, names.head? ≠ some f.1

/-- The entries as they are read again: empty ones are left out, and the others have
the form that they have in a document. -/
def normal (extra : Extra) : Extra :=
  (extra.filter fun f => !f.2.isNull).map fun f => (f.1, f.2.kept)

theorem fst_of_mem_normal
    {extra : Extra} {f : String × Value}
    (h : f ∈ normal extra) :
    ∃ g ∈ extra, g.1 = f.1 := by
  obtain ⟨g, hg, rfl⟩ := List.mem_map.mp h
  exact ⟨g, (List.mem_filter.mp hg).1, rfl⟩

end Extra

/-! ### The document of a record -/

namespace Value

/-- The entries of the document of a record. -/
def fieldEntries (fields : List (String × Value)) (extra : Extra) : Entries :=
  (fields.filter (fun f => !f.2.isNull) ++ extra.normal).map fun f => (.str f.1, f.2)

theorem ofFields_eq
    (fields : List (String × Value)) (extra : Extra) :
    ofFields fields extra = .map (fieldEntries fields extra) := rfl

theorem lookup_map_str
    (name : String) :
    ∀ fs : List (String × Value),
      (fs.map fun f => (Scalar.str f.1, f.2)).lookup (.str name) = fs.lookup name
  | [] => rfl
  | (k, v) :: rest => by
      by_cases hk : name = k
      · subst hk
        simp
      · have hk' : (Scalar.str name == Scalar.str k) = false := by simp [hk]
        have hk'' : (name == k) = false := by simp [hk]
        simp only [List.map_cons, List.lookup_cons, hk', hk'']
        exact lookup_map_str name rest

theorem lookup_eq_none_of_forall_ne
    {name : String} :
    ∀ {fs : List (String × Value)},
      (∀ f ∈ fs, f.1 ≠ name) →
      fs.lookup name = none
  | [], _ => rfl
  | (k, v) :: rest, h => by
      have hk : (name == k) = false := by
        simpa using Ne.symm (h (k, v) (by simp))
      rw [List.lookup_cons, hk]
      exact lookup_eq_none_of_forall_ne fun f hf => h f (List.mem_cons_of_mem _ hf)

theorem lookup_filter
    {p : String × Value → Bool} (name : String) :
    ∀ {fs : List (String × Value)},
      (fs.map Prod.fst).Nodup →
      (fs.filter p).lookup name = (fs.lookup name).filter fun v => p (name, v)
  | [], _ => rfl
  | (k, v) :: rest, h => by
      simp only [List.map_cons, List.nodup_cons] at h
      by_cases hk : name = k
      · subst hk
        have hrest : (rest.filter p).lookup name = none := by
          apply lookup_eq_none_of_forall_ne
          intro f hf hname
          exact h.1 (List.mem_map.mpr ⟨f, (List.mem_filter.mp hf).1, hname⟩)
        by_cases hp : p (name, v) = true
        · simp [hp, Option.filter]
        · simp [hp, Option.filter, hrest]
      · have hk' : (name == k) = false := by simp [hk]
        by_cases hp : p (k, v) = true
        · simp [hp, List.lookup_cons, hk', lookup_filter name h.2]
        · simp [hp, List.lookup_cons, hk', lookup_filter name h.2]

/-- A field is found under its name unless it is empty. -/
theorem find?_fieldEntries
    {fields : List (String × Value)} {extra : Extra} {name : String}
    (hnodup : (fields.map Prod.fst).Nodup)
    (hextra : ∀ f ∈ extra, f.1 ≠ name) :
    Entries.find? name (fieldEntries fields extra) =
      (fields.lookup name).filter fun v => !v.isNull := by
  have hnone : (Extra.normal extra).lookup name = none := by
    apply lookup_eq_none_of_forall_ne
    intro f hf
    obtain ⟨g, hg, hgf⟩ := Extra.fst_of_mem_normal hf
    rw [← hgf]
    exact hextra g hg
  rw [Entries.find?, fieldEntries, lookup_map_str, List.lookup_append, hnone,
    Option.or_none, lookup_filter name hnodup]

theorem lookup_of_mem
    {f : String × Value} :
    ∀ {fs : List (String × Value)},
      (fs.map Prod.fst).Nodup →
      f ∈ fs →
      fs.lookup f.1 = some f.2
  | g :: rest, h, hf => by
      simp only [List.map_cons, List.nodup_cons] at h
      rcases List.mem_cons.mp hf with rfl | hf
      · rw [List.lookup_cons, beq_self_eq_true]
      · have hne : (f.1 == g.1) = false := by
          rw [beq_eq_false_iff_ne]
          intro hfg
          exact h.1 (List.mem_map.mpr ⟨f, hf, hfg⟩)
        rw [List.lookup_cons, hne]
        exact lookup_of_mem h.2 hf

end Value

/-! ### Fields of a document that was written -/

namespace Schema

/-- The fields of a document that was written go by the first names of the schema, and
a field with several names is not empty. -/
structure Layout
    (names : List (List String)) (fields : List (String × Value)) (extra : Extra) : Prop where
  nodup : (fields.map Prod.fst).Nodup
  heads : names.map List.head? = fields.map fun f => some f.1
  first : ∀ n ∈ names, n.length = 1 ∨ ∃ v, fields.lookup (n.headD "") = some v ∧ v.isNull = false
  clear : extra.Clear names

namespace Layout

variable {names : List (List String)} {fields : List (String × Value)} {extra : Extra}
  (layout : Layout names fields extra)
include layout

theorem find?_eq
    {name : String} {v : Value}
    (hv : fields.lookup name = some v) :
    Entries.find? name (Value.fieldEntries fields extra) =
      if v.isNull then none else some v := by
  have hextra : ∀ f ∈ extra, f.1 ≠ name := by
    intro f hf hfname
    obtain ⟨front, back, hsplit, -⟩ := List.lookup_eq_some_iff.mp hv
    have hhead : some name ∈ names.map List.head? := by
      rw [layout.heads, hsplit]
      simp
    obtain ⟨n, hn, hnf⟩ := List.mem_map.mp hhead
    exact layout.clear f hf n hn (by rw [hnf, hfname])
  rw [Value.find?_fieldEntries layout.nodup hextra, hv, Option.filter]
  cases v.isNull <;> rfl

theorem given?_eq
    {name : String} {v : Value}
    (hv : fields.lookup name = some v)
    (hfull : v.isNull = false)
    (others : List String) :
    given? (name :: others) (Value.fieldEntries fields extra) = some (name, v) := by
  simp [given?, layout.find?_eq hv, hfull]

/-- A field that is written is read. -/
theorem required_eq
    {α : Type} {f : Value → Checked α}
    (name : String)
    {others : List String} {v : Value}
    (hv : fields.lookup name = some v)
    (hfull : v.isNull = false) :
    required (name :: others) f (Value.fieldEntries fields extra) =
      (f v).under (.key name) := by
  simp [required, layout.given?_eq hv hfull]

theorem withDefault_eq
    {α : Type} {f : Value → Checked α} {d : α}
    (name : String)
    {others : List String} {v : Value}
    (hv : fields.lookup name = some v)
    (hfull : v.isNull = false) :
    withDefault (name :: others) f d (Value.fieldEntries fields extra) =
      (f v).under (.key name) := by
  simp [withDefault, layout.given?_eq hv hfull]

/-- A field that may be empty is read, whether it is or not. -/
theorem optional_eq
    {α : Type} {f : Value → Checked α}
    (name : String)
    {v : Value}
    (hv : fields.lookup name = some v) :
    optional [name] f (Value.fieldEntries fields extra) =
      (orNull f v).under (.key name) := by
  cases hnull : v.isNull with
  | true =>
      have hempty : orNull f v = .ok none := by
        unfold orNull
        unfold Value.isNull at hnull
        split at hnull
        · rfl
        · simp at hnull
      simp [optional, withDefault, given?, layout.find?_eq hv, hnull, hempty]
  | false =>
      simp [optional, withDefault, layout.given?_eq hv hnull]

theorem mem_usedNames
    {f : String × Value}
    (hf : f ∈ fields)
    (hfull : f.2.isNull = false) :
    f.1 ∈ usedNames names (Value.fieldEntries fields extra) := by
  have hhead : some f.1 ∈ names.map List.head? := by
    rw [layout.heads]
    exact List.mem_map.mpr ⟨f, hf, rfl⟩
  obtain ⟨n, hn, hnf⟩ := List.mem_map.mp hhead
  cases n with
  | nil => simp at hnf
  | cons name others =>
      simp only [List.head?_cons, Option.some.injEq] at hnf
      subst hnf
      have hgiven := layout.given?_eq (Value.lookup_of_mem layout.nodup hf) hfull others
      rw [usedNames, List.mem_filterMap]
      exact ⟨_, hn, by rw [hgiven]; rfl⟩

theorem not_mem_usedNames
    {f : String × Value}
    (hf : f ∈ extra) :
    f.1 ∉ usedNames names (Value.fieldEntries fields extra) := by
  intro hused
  rw [usedNames, List.mem_filterMap] at hused
  obtain ⟨n, hn, hgiven⟩ := hused
  rw [Option.map_eq_some_iff] at hgiven
  obtain ⟨⟨name, v⟩, hgiven, hname⟩ := hgiven
  simp only at hname
  subst hname
  refine layout.clear f hf n hn ?_
  cases n with
  | nil => simp [given?] at hgiven
  | cons first others =>
      rcases layout.first _ hn with hone | ⟨w, hw, hfull⟩
      · have hothers : others = [] := by simpa using hone
        subst hothers
        simp only [given?] at hgiven
        split at hgiven
        · simp only [Option.some.injEq, Prod.mk.injEq] at hgiven
          simp [hgiven.1]
        · simp at hgiven
      · rw [layout.given?_eq (by simpa using hw) hfull] at hgiven
        simp only [Option.some.injEq, Prod.mk.injEq] at hgiven
        simp [hgiven.1]

end Layout

/-- The entries with text keys that belong to no field. -/
theorem extras_map_str
    (names : List (List String)) (fs : List (String × Value)) :
    extras names (fs.map fun f => (.str f.1, f.2)) =
      .ok (fs.filter fun f =>
        !(usedNames names (fs.map fun f => (.str f.1, f.2))).contains f.1) := by
  rw [extras]
  generalize usedNames names (fs.map fun f => (.str f.1, f.2)) = used
  induction fs with
  | nil => rfl
  | cons f rest ih =>
      simp only [List.map_cons, List.foldr_cons, ih]
      by_cases hf : used.contains f.1 = true
      · rw [if_pos hf, List.filter_cons_of_neg (by simpa using hf)]
      · rw [if_neg hf, List.filter_cons_of_pos (by simpa using hf)]
        rfl

/-- What a record keeps without knowing it is found again in its document. -/
theorem Layout.extras_eq
    {names : List (List String)} {fields : List (String × Value)} {extra : Extra}
    (layout : Layout names fields extra) :
    extras names (Value.fieldEntries fields extra) = .ok extra.normal := by
  have hread := extras_map_str names (fields.filter (fun f => !f.2.isNull) ++ extra.normal)
  rw [Value.fieldEntries] at *
  rw [hread, List.filter_append]
  have hnone : (fields.filter fun f => !f.2.isNull).filter (fun f =>
      !(usedNames names (Value.fieldEntries fields extra)).contains f.1) = [] := by
    rw [List.filter_eq_nil_iff]
    intro f hf
    obtain ⟨hmem, hfull⟩ := List.mem_filter.mp hf
    simpa using layout.mem_usedNames hmem (by simpa using hfull)
  have hall : (Extra.normal extra).filter (fun f =>
      !(usedNames names (Value.fieldEntries fields extra)).contains f.1) = Extra.normal extra := by
    rw [List.filter_eq_self]
    intro f hf
    obtain ⟨g, hg, hgf⟩ := Extra.fst_of_mem_normal hf
    rw [← hgf]
    simpa using layout.not_mem_usedNames hg
  rw [Value.fieldEntries] at hnone hall
  rw [hnone, hall, List.nil_append]

/-- What a record keeps is in its document, and belongs to no field. -/
theorem mem_of_extras
    {names : List (List String)} {es : Entries} {extra : Extra}
    (h : extras names es = .ok extra)
    {f : String × Value}
    (hf : f ∈ extra) :
    (.str f.1, f.2) ∈ es ∧ f.1 ∉ usedNames names es := by
  rw [extras] at h
  generalize usedNames names es = used at h ⊢
  induction es generalizing extra with
  | nil =>
      simp only [List.foldr_nil, Checked.ok.injEq] at h
      simp [← h] at hf
  | cons e rest ih =>
      obtain ⟨k, v⟩ := e
      rw [List.foldr_cons] at h
      split at h
      · rename_i s hs
        split at h
        · obtain ⟨hmem, hused⟩ := ih hf h
          exact ⟨List.mem_cons_of_mem _ hmem, hused⟩
        · rename_i hfresh
          obtain ⟨g, hg, more, hmore, rfl⟩ := Checked.ap_eq_ok_iff.mp h
          simp only [Checked.ok.injEq] at hg
          subst hg
          rcases List.mem_cons.mp hf with rfl | hf
          · refine ⟨?_, by simpa using hfresh⟩
            simp only at hs
            simp [hs]
          · obtain ⟨hmem, hused⟩ := ih hf hmore
            exact ⟨List.mem_cons_of_mem _ hmem, hused⟩
      · obtain ⟨g, hg, -⟩ := Checked.ap_eq_ok_iff.mp h
        simp at hg

/-- No kept entry goes by the first name of a field. -/
theorem clear_of_extras
    {names : List (List String)} {es : Entries} {extra : Extra}
    (h : extras names es = .ok extra) :
    extra.Clear names := by
  intro f hf n hn hhead
  obtain ⟨hmem, hused⟩ := mem_of_extras h hf
  refine hused ?_
  cases n with
  | nil => simp at hhead
  | cons first others =>
      simp only [List.head?_cons, Option.some.injEq] at hhead
      subst hhead
      have hfind : (Entries.find? f.1 es).isSome = true := by
        rw [Entries.find?, List.lookup_isSome_iff]
        exact ⟨_, hmem, by simp⟩
      obtain ⟨v, hv⟩ := Option.isSome_iff_exists.mp hfind
      rw [usedNames, List.mem_filterMap]
      exact ⟨_, hn, by simp [given?, hv]⟩

/-! ### What is read has a property -/

section All

variable {α : Type} {P : α → Prop} {f : Value → Checked α}

theorem all_required
    (names : List String) (es : Entries)
    (hf : ∀ v, Checked.All P (f v)) :
    Checked.All P (required names f es) := by
  unfold required
  split
  · exact Checked.all_under (hf _)
  · intro a h
    simp at h

theorem all_withDefault
    {d : α} (names : List String) (es : Entries)
    (hf : ∀ v, Checked.All P (f v))
    (hd : P d) :
    Checked.All P (withDefault names f d es) := by
  unfold withDefault
  split
  · exact Checked.all_under (hf _)
  · intro a h
    simp only [Checked.ok.injEq] at h
    exact h ▸ hd

theorem all_list
    (hf : ∀ v, Checked.All P (f v))
    (v : Value) :
    Checked.All (fun as => ∀ a ∈ as, P a) (list f v) := by
  have hitems : ∀ vs, Checked.All (fun as => ∀ a ∈ as, P a) (Checked.items f 0 vs) := by
    intro vs as h a ha
    obtain ⟨w, -, hw⟩ := Checked.exists_of_mem_items h a ha
    exact hf w a hw
  unfold list
  split
  · exact hitems _
  · exact hitems _
  · exact Checked.all_issue _

theorem all_record
    {fields : Entries → Checked α} (name : String)
    (hfields : ∀ es, Checked.All P (fields es))
    (v : Value) :
    Checked.All P (record name fields v) := by
  unfold record
  split
  · exact hfields _
  · exact Checked.all_issue _

theorem all_textWith
    (rule : String → Option String) (v : Value) :
    Checked.All (fun s => rule s = none) (textWith rule v) := by
  unfold textWith
  intro s h
  split at h
  · simp at h
  · split at h
    · rename_i hrule
      simp only [Checked.ok.injEq] at h
      exact h ▸ hrule
    · simp [Checked.issue] at h

end All

/-- A mapping with text keys and any values is read as it is. -/
theorem mapping_object
    (fs : List (String × Value)) :
    mapping any (Value.object fs) = .ok fs := by
  have hentries : ∀ fs : List (String × Value),
      entries any (fs.map fun f => (.str f.1, f.2)) = .ok fs := by
    intro fs
    induction fs with
    | nil => rfl
    | cons f rest ih =>
        simp [entries, text, any, ih]
  exact hentries fs

end Schema
end Homelab
