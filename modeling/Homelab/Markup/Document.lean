import Homelab.Markup.Construction

/-!
# Documents in markup

A text holds one document at most, and a text without one has the empty value.
-/

namespace Homelab
namespace Markup

/-- The document of a text as far as it can be read: behind `broken` characters it
cannot. -/
def read [DepthLimits] (cs : List Char) (broken : Option (Nat × Failure)) : Except Fault Graph := do
  match ← (scan cs (broken.map fun b => (b.1, .refused b.2))).document? with
  | (some root, nodes) => graphOf nodes root
  | (none, _) => return Graph.ofValue .null

end Markup
end Homelab
