import Homelab.Markup.Plain
import Homelab.Markup.Time
import Homelab.Markup.Token

/-!
# Nodes of a markup document

A document is made of nodes: texts, sequences and mappings, each with the kind of value
that it is to be read as.  The kind is that of the node's tag; without a tag it follows
from the form of a text without quotes, and is text, list or mapping otherwise.

Nodes go by their places in the document's list of nodes.  An alias is the place of the
node that has its anchor, so a node may stand in several places, also inside itself.
-/

namespace Homelab
namespace Markup

/-- The place of a node in the list of nodes. -/
abbrev NodeId := Nat

/-- What a node is. -/
inductive Shape where
  | scalar (text : List Char)
  | sequence (items : List NodeId)
  | mapping (entries : List (NodeId × NodeId))

/-- A node: the kind that it is read as, and what it is. -/
structure Node where
  kind : Kind
  shape : Shape

instance : Inhabited Node := ⟨⟨.unknown, .scalar []⟩⟩

/-- The nodes of a document. -/
abbrev Nodes := Array Node

/-- The node at a place. -/
def nodeAt (nodes : Nodes) (id : NodeId) : Node := nodes.getD id default

namespace Kind

/-- The name space of the tags of known kinds. -/
def space : String := "tag:yaml.org,2002:"

/-- The kind of a tag. -/
def ofTag (tag : String) : Kind :=
  match Text.after? space.toList tag.toList with
  | none => unknown
  | some name =>
      match String.ofList name with
      | "null" => null
      | "bool" => bool
      | "int" => int
      | "float" => float
      | "timestamp" => time
      | "merge" => merge
      | "value" => default
      | "str" => str
      | "binary" => bytes
      | "seq" => list
      | "map" => map
      | "set" => set
      | "omap" => pairs
      | "pairs" => pairs
      | _ => unknown

/-- The kind that follows from a text.  A line end as the last character changes
nothing, unless it is all there is. -/
def ofText (cs : List Char) : Kind :=
  let form := Plain.line cs
  let s := String.ofList form
  if cs.isEmpty then null
  else if s = "" then str
  else if (Plain.truthValue? s).isSome then bool
  else if Plain.isFraction form then float
  else if Plain.isInteger form then int
  else if s = "<<" then merge
  else if ["~", "null", "Null", "NULL"].contains s then null
  else if Time.isTime form then time
  else if s = "=" then default
  else if ["!", "&", "*"].contains s then unknown
  else str

end Kind
end Markup
end Homelab
