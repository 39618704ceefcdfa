import Homelab.Markup.Node.Reader
import Homelab.Markup.Scalar
import Homelab.Value.Graph

/-!
# The values of nodes

Each node has one value.  A text has it at once.  A collection is made empty and filled
later: collections are filled in the order in which they were made, so a fault near the
top of a document comes before one further inside, and a collection may stand inside
itself.

A mapping may take over the entries of others: those are before its own, and its own
replace them; of several mappings the earlier ones replace the later.  A key is a text,
a number or another value without parts.
-/

namespace Homelab
namespace Markup

/-- What is known while values are made: the nodes, the values of nodes so far, the
collections, the node of each collection, and how many steps merges may take. -/
structure Building where
  nodes : Nodes
  made : Array (Option Part)
  collections : Array Collection
  sources : Array NodeId
  mergeSteps : Nat

/-- Making values of nodes. -/
abbrev Construction := StateT Building (Except Fault)

/-- The entries of a node; only a mapping has any. -/
def Node.entries (n : Node) : List (NodeId × NodeId) :=
  match n.shape with
  | .mapping entries => entries
  | _ => []

/-- The text of a node: its own, or that of its default entry. -/
def textOf (nodes : Nodes) : (fuel : Nat) → NodeId → Except Fault (List Char)
  | 0, _ => .error (.refused .depthExceeded)
  | fuel + 1, id =>
      match (nodeAt nodes id).shape with
      | .scalar cs => .ok cs
      | .sequence _ => .error .malformed
      | .mapping entries =>
          match entries.find? fun e => (nodeAt nodes e.1).kind = .default with
          | some e => textOf nodes fuel e.2
          | none => .error .malformed

/-- The value of a text as one of a kind; a time is a text of its own. -/
def scalarOf [DepthLimits] (nodes : Nodes) (id : NodeId) : Except Fault Scalar := do
  let cs ← textOf nodes DepthLimits.following id
  match (nodeAt nodes id).kind, (nodeAt nodes id).shape with
  | .time, .mapping _ => .error (.refused (.wrongType "expected string or bytes-like object, got 'list'"))
  | kind, _ => Scalar.value kind cs

/-- How many steps the merges of a document take at most. -/
def mergeSteps (nodes : Nodes) : Nat :=
  nodes.foldl (fun n node => n + sizeOf node.shape) 8
where
  /-- The steps for one node. -/
  sizeOf : Shape → Nat
    | .mapping entries => 4 * entries.length + 4
    | .sequence items => 4 * items.length + 4
    | .scalar _ => 4

namespace Construction

/-- A node. -/
def node (id : NodeId) : Construction Node := return nodeAt (← get).nodes id

/-- A node is changed. -/
def change (id : NodeId) (f : Node → Node) : Construction Unit :=
  modify fun s => { s with nodes := s.nodes.modify id f }

/-- The value of a node is known. -/
def keep (id : NodeId) (part : Part) : Construction Part := do
  modify fun s => { s with made := s.made.setIfInBounds id (some part) }
  return part

/-- A collection is made for a node, to be filled later. -/
def make (id : NodeId) (empty : Collection) : Construction Part := do
  let number := (← get).collections.size
  modify fun s =>
    { s with collections := s.collections.push empty, sources := s.sources.push id }
  keep id (.held number)

/-- The value of a node. -/
def part [DepthLimits] (id : NodeId) : Construction Part := do
  let s ← get
  match s.made[id]? with
  | some (some part) => return part
  | _ =>
      match (nodeAt s.nodes id).kind with
      | .list => make id (.list [])
      | .map => make id (.map [])
      | .set => make id (.set [])
      | .pairs => make id (.pairs [])
      | _ => keep id (.whole (.scalar (← scalarOf s.nodes id)))

/-- The value of a node as a key. -/
def key [DepthLimits] (id : NodeId) : Construction Key := do
  match ← part id with
  | .whole (.scalar (.float x)) =>
      let shared := (textOf (← get).nodes DepthLimits.following id).toOption.any Scalar.namesNaN
      return ⟨.float x, if x.isNaN && !shared then some id else none⟩
  | .whole (.scalar s) => return ⟨s, none⟩
  | _ => throw .malformed

/-- The first merge of a mapping is taken out of it: the node whose entries are taken
over. -/
def nextMerge (id : NodeId) : Construction (Option NodeId) := do
  let nodes := (← get).nodes
  let entries := (nodeAt nodes id).entries
  let isMerge (e : NodeId × NodeId) : Bool := (nodeAt nodes e.1).kind = .merge
  match entries.find? isMerge with
  | none => return none
  | some (_, source) =>
      change id fun n => { n with shape := .mapping (entries.eraseP isMerge) }
      return some source

/-- The default keys of a mapping are texts from here on. -/
def plainKeys (id : NodeId) : Construction Unit := do
  for e in (← node id).entries do
    change e.1 fun n => if n.kind = .default then { n with kind := .str } else n

mutual

/-- The entries that a mapping takes over become its own. -/
def flatten [DepthLimits] : (fuel : Nat) → (depth : Nat) → NodeId → Construction Unit
  | 0, _, _ => throw (.refused .depthExceeded)
  | fuel + 1, depth, id => do
      if DepthLimits.following ≤ depth then throw (.refused .depthExceeded)
      let taken ← merges fuel depth id
      plainKeys id
      change id fun n => { n with shape := .mapping (taken ++ n.entries) }

/-- The entries that a mapping takes over. -/
def merges [DepthLimits] :
    (fuel : Nat) → (depth : Nat) → NodeId → Construction (List (NodeId × NodeId))
  | 0, _, _ => throw (.refused .depthExceeded)
  | fuel + 1, depth, id => do
      match ← nextMerge id with
      | none => return []
      | some source => do
          let taken ← match (← node source).shape with
            | .mapping _ => merged fuel depth [source]
            | .sequence items => merged fuel depth items
            | .scalar _ => throw .malformed
          let more ← merges fuel depth id
          return taken ++ more

/-- The entries of some mappings, those of the last one first. -/
def merged [DepthLimits] :
    (fuel : Nat) → (depth : Nat) → List NodeId → Construction (List (NodeId × NodeId))
  | _, _, [] => return []
  | 0, _, _ => throw (.refused .depthExceeded)
  | fuel + 1, depth, id :: rest => do
      match (← node id).shape with
      | .mapping _ =>
          flatten fuel (depth + 1) id
          let own := (← node id).entries
          let later ← merged fuel depth rest
          return later ++ own
      | _ => throw .malformed

end

/-- The entries of a mapping, with those that it takes over. -/
def entries [DepthLimits] (id : NodeId) : Construction (List (Key × Part)) := do
  match (← node id).shape with
  | .mapping _ =>
      flatten (← get).mergeSteps 0 id
      (← node id).entries.foldlM (fun before e => do
        let k ← key e.1
        let p ← part e.2
        return Collection.put k p before) []
  | _ => throw .malformed

/-- The pair that a mapping with one entry is. -/
def pair [DepthLimits] (id : NodeId) : Construction (Part × Part) := do
  match (← node id).shape with
  | .mapping [(k, v)] => return (← part k, ← part v)
  | _ => throw .malformed

/-- What the collection of a node holds. -/
def content [DepthLimits] (id : NodeId) : Construction Collection := do
  let n ← node id
  match n.kind, n.shape with
  | .list, .sequence items => return .list (← items.mapM part)
  | .pairs, .sequence items => return .pairs (← items.mapM pair)
  | .map, _ => return .map (← entries id)
  | .set, _ => return .set ((← entries id).map Prod.fst)
  | _, _ => throw .malformed

/-- The collections from a number on are filled. -/
def fillFrom [DepthLimits] : (fuel : Nat) → (number : Nat) → Construction Unit
  | 0, _ => return
  | fuel + 1, number => do
      match (← get).sources[number]? with
      | none => return
      | some id =>
          let c ← content id
          modify fun s => { s with collections := s.collections.setIfInBounds number c }
          fillFrom fuel (number + 1)

end Construction

/-- The document of a node. -/
def graphOf [DepthLimits] (nodes : Nodes) (root : NodeId) : Except Fault Graph := do
  let build : Construction Part := do
    let part ← Construction.part root
    Construction.fillFrom (nodes.size + 1) 0
    return part
  let (part, s) ← build.run ⟨nodes, Array.replicate nodes.size none, #[], #[], mergeSteps nodes⟩
  return ⟨s.collections, part⟩

end Markup
end Homelab
