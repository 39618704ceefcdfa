import Homelab.Resolution

/-!
# What a path selects

A path can be followed in two parts: what stands at the second part in the value that the first
part selects is what the whole path selects.  Below an empty value nothing is selected, so it does
not matter whether a walk ends there or goes on to the end of its path.

A value other than the empty one is selected exactly if the path leads to it, segment by segment:
from a mapping to the value under the key, and from a list to the first mapping by that name.  It
is a part of the value that the path begins at.
-/

namespace Homelab

/-- The first entry of a mapping with a text key has a value. -/
inductive Entries.Holds (key : String) (v : Value) : Entries → Prop
  | intro {front back : Entries}
      (first : ∀ e ∈ front, e.1 ≠ .str key) : Holds key v (front ++ (.str key, v) :: back)

theorem Entries.find?_eq_some_iff
    {key : String} {es : Entries} {v : Value} :
    find? key es = some v ↔ es.Holds key v := by
  rw [find?, List.lookup_eq_some_iff]
  constructor
  · rintro ⟨front, back, rfl, hfirst⟩
    exact .intro fun e he => Ne.symm (bne_iff_ne.mp (hfirst e he))
  · rintro ⟨hfirst⟩
    exact ⟨_, _, rfl, fun e he => bne_iff_ne.mpr (hfirst e he).symm⟩

namespace Value

variable {segment : String} {path : List String} {u v w : Value}

/-- A mapping whose name is a text. -/
inductive GoesBy (name : String) : Value → Prop
  | intro {es : Entries} (h : es.Holds "name" (.str name)) : GoesBy name (.map es)

theorem isNamed_iff :
    isNamed segment v = true ↔ v.GoesBy segment := by
  constructor
  · intro h
    unfold isNamed at h
    split at h
    · rename_i s hs
      rw [decide_eq_true_iff] at h
      subst h
      cases v with
      | map es => exact .intro (Entries.find?_eq_some_iff.mp hs)
      | scalar a => cases hs
      | list items => cases hs
      | set members => cases hs
    · cases h
  · rintro ⟨h⟩
    rw [isNamed, get?, Entries.find?_eq_some_iff.mpr h]
    exact decide_eq_true rfl

theorem find?_isNamed_eq_some_iff
    {items : List Value} :
    items.find? (isNamed segment) = some w ↔
      w.GoesBy segment ∧
        ∃ front back, items = front ++ w :: back ∧ ∀ item ∈ front, ¬ item.GoesBy segment := by
  simp [List.find?_eq_some_iff_append, ← isNamed_iff]

/-! ### One segment -/

/-- A segment leads from a mapping to the value under the key, and from a list to the first mapping
by that name. -/
inductive Selects (segment : String) : Value → Value → Prop
  | entry {es : Entries} {w : Value}
      (h : es.Holds segment w) : Selects segment (.map es) w
  | item {front back : List Value} {w : Value}
      (named : w.GoesBy segment)
      (first : ∀ item ∈ front, ¬ item.GoesBy segment) :
      Selects segment (.list (front ++ w :: back)) w

theorem Selects.child_eq
    (h : Selects segment v w) :
    v.child segment = w := by
  cases h with
  | entry h => rw [child, Entries.find?_eq_some_iff.mpr h, Option.getD_some]
  | @item front back w named first =>
      have hfind : (front ++ w :: back).find? (isNamed segment) = some w :=
        find?_isNamed_eq_some_iff.mpr ⟨named, front, back, rfl, first⟩
      rw [child, hfind, Option.getD_some]

/-- A segment leads to what is selected, unless that is empty. -/
theorem selects_child
    (h : v.child segment ≠ null) :
    Selects segment v (v.child segment) := by
  cases v with
  | scalar a => exact absurd rfl h
  | set members => exact absurd rfl h
  | map es =>
      cases hfind : Entries.find? segment es with
      | none => exact absurd (by rw [child, hfind, Option.getD_none]) h
      | some w =>
          rw [child, hfind, Option.getD_some]
          exact .entry (Entries.find?_eq_some_iff.mp hfind)
  | list items =>
      cases hfind : items.find? (isNamed segment) with
      | none => exact absurd (by rw [child, hfind, Option.getD_none]) h
      | some w =>
          obtain ⟨named, front, back, rfl, first⟩ := find?_isNamed_eq_some_iff.mp hfind
          rw [child, hfind, Option.getD_some]
          exact .item named first

/-! ### Paths -/

/-- A path leads to a value, one segment after the other. -/
inductive Reaches : Value → List String → Value → Prop
  | here (v : Value) : Reaches v [] v
  | onward {v w u : Value} {segment : String} {path : List String}
      (selects : Selects segment v w) (reaches : Reaches w path u) :
      Reaches v (segment :: path) u

/-- Where a path leads to is what it selects. -/
theorem Reaches.lookup_eq
    (h : Reaches v path w) :
    v.lookup path = w := by
  induction h with
  | here v => rfl
  | onward selects _ ih => rw [lookup, selects.child_eq, ih]

/-- A path leads to what it selects, unless that is empty. -/
theorem reaches_lookup
    (h : v.lookup path ≠ null) :
    Reaches v path (v.lookup path) := by
  induction path generalizing v with
  | nil => exact .here v
  | cons segment path ih =>
      rw [lookup] at h ⊢
      -- an empty value on the way would have nothing below it
      have hchild : v.child segment ≠ null := by
        intro hnull
        rw [hnull, lookup_null] at h
        exact h rfl
      exact .onward (selects_child hchild) (ih h)

theorem lookup_append
    (v : Value) (p q : List String) :
    v.lookup (p ++ q) = (v.lookup p).lookup q := by
  induction p generalizing v with
  | nil => rfl
  | cons segment p ih => exact ih (v.child segment)

theorem eq_null_of_isNull
    (h : v.isNull = true) :
    v = null := by
  unfold isNull at h
  split at h
  · rfl
  · cases h

/-- A walk may end as soon as a segment selects nothing. -/
theorem lookup_eq_foldlM
    (v : Value) (path : List String) :
    v.lookup path =
      (path.foldlM (fun w segment => Pass.found? (w.child segment)) v).getD null := by
  induction path generalizing v with
  | nil => rfl
  | cons segment path ih =>
      rw [lookup, List.foldlM_cons, Pass.found?]
      cases hnull : (v.child segment).isNull with
      | false => exact ih _
      | true =>
          rw [eq_null_of_isNull hnull, lookup_null]
          rfl

/-! ### Parts -/

/-- A value is another one or stands in it, at any depth. -/
inductive IsPart : Value → Value → Prop
  | refl (v : Value) : IsPart v v
  | item {u v : Value} {items : List Value}
      (mem : v ∈ items) (h : IsPart u v) : IsPart u (.list items)
  | entry {u v : Value} {key : Scalar} {es : Entries}
      (mem : (key, v) ∈ es) (h : IsPart u v) : IsPart u (.map es)

theorem IsPart.of_selects
    (h : IsPart u w)
    (hselects : Selects segment v w) :
    IsPart u v := by
  cases hselects with
  | entry holds =>
      cases holds with
      | intro first => exact .entry (List.mem_append_right _ (List.mem_cons_self ..)) h
  | item named first => exact .item (List.mem_append_right _ (List.mem_cons_self ..)) h

/-- A path leads to parts only. -/
theorem Reaches.isPart
    (h : Reaches v path w) :
    IsPart w v := by
  induction h with
  | here v => exact .refl v
  | onward selects _ ih => exact ih.of_selects selects

/-- A path can be followed in two parts, from any value and along any segments.  What is selected
is empty, or it is a part of the value and the path leads to it; and what a path leads to is
selected.  A walk that ends at the first empty value selects the same. -/
theorem lookup_append_reached
    (v : Value) (p q : List String) :
    v.lookup (p ++ q) = (v.lookup p).lookup q ∧
    (v.lookup p ≠ null → Reaches v p (v.lookup p) ∧ IsPart (v.lookup p) v) ∧
    (∀ w, Reaches v p w → v.lookup p = w) ∧
    v.lookup p = (p.foldlM (fun w segment => Pass.found? (w.child segment)) v).getD null := by
  refine ⟨lookup_append v p q, fun h => ?_, fun w h => h.lookup_eq, lookup_eq_foldlM v p⟩
  have hreaches := reaches_lookup h
  exact ⟨hreaches, hreaches.isPart⟩

/-- Networks in a list with other values: a text, a mapping without a name, and two mappings by the
same name, the first of them with an empty value. -/
def listedNetworks : Value :=
  .object [("networks", .list [
    .str "lan",
    .object [("name", .null)],
    .object [("name", .str "dmz"), ("gateway", .str "10.1.0.1")],
    .object [("name", .str "lan"), ("dns", .null), ("gateway", .str "10.0.0.1")],
    .object [("name", .str "lan"), ("dns", .str "10.0.0.2")]])]

theorem lookup_append_reached_sample :
    listedNetworks.lookup (["networks", "lan", "gateway"] ++ ["port"]) =
      (Value.str "10.0.0.1").lookup ["port"] ∧
    Reaches listedNetworks ["networks", "lan", "gateway"] (.str "10.0.0.1") ∧
    IsPart (.str "10.0.0.1") listedNetworks := by
  have hfound : listedNetworks.lookup ["networks", "lan", "gateway"] = .str "10.0.0.1" := by
    rfl
  obtain ⟨happend, hreached, -⟩ :=
    lookup_append_reached listedNetworks ["networks", "lan", "gateway"] ["port"]
  rw [hfound] at happend hreached
  obtain ⟨hreaches, hpart⟩ := hreached (by simp)
  exact ⟨happend, hreaches, hpart⟩

/-- The second mapping by the name is not looked at. -/
example : listedNetworks.lookup ["networks", "lan", "dns"] = null := rfl

end Value
end Homelab
