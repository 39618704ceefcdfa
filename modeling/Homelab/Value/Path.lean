import Homelab.Value

/-!
# Paths into documents

A path is a list of segments.  A segment selects the entry of a mapping with
that key, or the first member of a list that is a mapping whose name is the
segment.  Where nothing is selected the result is the empty value, and from
there nothing more is selected.
-/

namespace Homelab
namespace Value

/-- A member of a list that goes by a name. -/
def isNamed (segment : String) (item : Value) : Bool :=
  match item.get? "name" with
  | some (str s) => s = segment
  | _ => false

/-- What one segment selects. -/
def child (v : Value) (segment : String) : Value :=
  match v with
  | list items => (items.find? (isNamed segment)).getD null
  | map entries => (Entries.find? segment entries).getD null
  | _ => null

/-- What a path selects. -/
def lookup : Value → List String → Value
  | v, [] => v
  | v, segment :: path => lookup (v.child segment) path

/-- The empty value has no children. -/
@[simp] theorem child_null (segment : String) : null.child segment = null := rfl

/-- Nothing is selected below the empty value. -/
@[simp] theorem lookup_null (path : List String) : null.lookup path = null := by
  induction path with
  | nil => rfl
  | cons segment path ih => simpa [lookup] using ih

end Value
end Homelab
