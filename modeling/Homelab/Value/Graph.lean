import Homelab.DepthLimits
import Homelab.Value.Written

/-!
# Documents that may hold themselves

A document in which a collection may stand in several places, also inside itself, is a
graph: its collections are numbered, and a part of one is a value or the number of a
collection.  A graph without circles has a value.  The text of a graph shows a
collection that it stands inside of by dots.
-/

namespace Homelab

/-- A part of a document: a value, or a collection by its number. -/
inductive Part where
  | whole (v : Value)
  | held (number : Nat)
deriving Inhabited

/-- A key of a mapping.  Only one kind of values differs from itself; a key of this
kind tells where it stands, if it is not the one that is shared. -/
structure Key where
  value : Scalar
  origin : Option Nat
deriving Inhabited

/-- Two keys are one. -/
def Key.same (a b : Key) : Bool := a.origin == b.origin && a.value.sameKey b.value

/-- A collection: a list, a mapping, a set, or a list of pairs. -/
inductive Collection where
  | list (items : List Part)
  | map (entries : List (Key × Part))
  | set (members : List Key)
  | pairs (items : List (Part × Part))
deriving Inhabited

/-- A document: its collections, and the part that is all of it. -/
structure Graph where
  collections : Array Collection
  root : Part

namespace Collection

/-- Entries with one more: under a key that is there it replaces the value, otherwise
it goes to the end. -/
def put (key : Key) (part : Part) : List (Key × Part) → List (Key × Part)
  | [] => [(key, part)]
  | (k, p) :: rest => if k.same key then (k, part) :: rest else (k, p) :: put key part rest

/-- A collection has no parts. -/
def isEmpty : Collection → Bool
  | list items => items.isEmpty
  | map entries => entries.isEmpty
  | set members => members.isEmpty
  | pairs items => items.isEmpty

/-- The brackets around a collection. -/
def brackets : Collection → String × String
  | list _ | pairs _ => ("[", "]")
  | map _ | set _ => ("\x7b", "\x7d")

end Collection

namespace Graph

/-- The document that a value is. -/
def ofValue (v : Value) : Graph := ⟨#[], .whole v⟩

/-- The value of a part that has at most so many levels. -/
def valueOf (g : Graph) : (levels : Nat) → Part → Except Failure Value
  | _, .whole v => .ok v
  | 0, .held _ => .error .depthExceeded
  | levels + 1, .held number =>
      match g.collections[number]? with
      | none => .ok .null
      | some (.list items) => (items.mapM (valueOf g levels)).map .list
      | some (.map entries) =>
          (entries.mapM fun (e : Key × Part) => (valueOf g levels e.2).map fun v => (e.1.value, v)).map .map
      | some (.set members) =>
          .ok (.set ((members.map Key.value).mergeSort Scalar.precedes))
      | some (.pairs items) =>
          (items.mapM fun (p : Part × Part) => do
            let first ← valueOf g levels p.1
            let second ← valueOf g levels p.2
            return Value.list [first, second]).map .list

/-- The value of a document. -/
def value [DepthLimits] (g : Graph) : Except Failure Value := g.valueOf DepthLimits.walking g.root

/-- The entries of a document that is a mapping. -/
def entries? (g : Graph) : Option (List (Scalar × Part)) :=
  match g.root with
  | .whole (.map entries) => some (entries.map fun e => (e.1, .whole e.2))
  | .whole _ => none
  | .held number =>
      match g.collections[number]? with
      | some (.map entries) => some (entries.map fun e => (e.1.value, e.2))
      | _ => none

/-- A part counts as given unless it is empty, false, zero or without parts. -/
def isGiven (g : Graph) : Part → Bool
  | .whole v => v.isGiven
  | .held number => (g.collections[number]?).any fun c => !c.isEmpty

/-- A scalar as it stands inside a collection, if it has a text. -/
def scalarText (s : Scalar) : Except Failure String := (Value.scalar s).writtenQuoted

/-- The texts of members between brackets, with commas between them. -/
def enclosed (brackets : String × String) (texts : List String) : String :=
  brackets.1 ++ ", ".intercalate texts ++ brackets.2

/-- A part as it stands inside the collections `around`. -/
def quoted (g : Graph) : (levels : Nat) → (around : List Nat) → Part → Except Failure String
  | _, _, .whole v => v.writtenQuoted
  | 0, _, .held _ => .error .depthExceeded
  | levels + 1, around, .held number =>
      match g.collections[number]? with
      | none => .ok ""
      | some c =>
          if around.contains number then .ok (enclosed c.brackets ["..."])
          else
            let inside := quoted g levels (number :: around)
            match c with
            | .list items => (items.mapM inside).map (enclosed c.brackets)
            | .map entries =>
                (entries.mapM fun (e : Key × Part) => do
                  let key ← scalarText e.1.value
                  let part ← inside e.2
                  return key ++ ": " ++ part).map (enclosed c.brackets)
            | .set members =>
                (Value.set ((members.map Key.value).mergeSort Scalar.precedes)).writtenQuoted
            | .pairs items =>
                (items.mapM fun (p : Part × Part) => do
                  let first ← inside p.1
                  let second ← inside p.2
                  return enclosed ("(", ")") [first, second]).map (enclosed c.brackets)

/-- A part as plain text. -/
def text [DepthLimits] (g : Graph) : Part → Except Failure String
  | .whole v => v.written
  | part => g.quoted DepthLimits.showing [] part

end Graph
end Homelab
