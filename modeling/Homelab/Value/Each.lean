import Homelab.Failure

/-!
# Going through a value

What comes, one by one, when a value is gone through as if it were a list: the members
of a list, the keys of a mapping, the characters of a text.  Other values cannot be
gone through.
-/

namespace Homelab
namespace Value

/-- The parts of a value one by one. -/
def each : Value → Except Failure (List Value)
  | .list items => .ok items
  | .map entries => .ok (entries.map fun e => .scalar e.1)
  | .set keys => .ok (keys.map .scalar)
  | .str s => .ok (s.toList.map fun c => .str (String.singleton c))
  | v => .error (.wrongType ("'" ++ v.kindName ++ "' object is not iterable"))

end Value
end Homelab
