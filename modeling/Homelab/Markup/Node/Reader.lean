import Homelab.DepthLimits
import Homelab.Markup.Node
import Homelab.Markup.Token.Reader

/-!
# The nodes of a document

The tokens of a text as the nodes of its one document.  A collection ends where its
tokens say; a key without a value and a value without a key have the empty text for
it, and so has an item without content.  An anchor is defined once and before its
aliases.

Tokens are looked at one by one.  Where the text cannot be taken apart any further
there are no more of them, and that fault counts only once the next token is wanted:
any fault before it comes first.
-/

namespace Homelab
namespace Markup

/-- What is known while nodes are read: the tokens that are left and the fault after
them, what the handles of tags stand for, the nodes with anchors, and all nodes. -/
structure TreeState where
  tokens : List Token
  fault : Fault
  handles : List (String × String)
  anchors : List (String × NodeId)
  nodes : Nodes

/-- Reading nodes from tokens. -/
abbrev Reading := StateT TreeState (Except Fault)

namespace Reading

/-- The next token. -/
def peek : Reading Token := do
  let s ← get
  match s.tokens with
  | t :: _ => return t
  | [] => throw s.fault

/-- The next token is passed. -/
def next : Reading Unit :=
  modify fun s => { s with tokens := s.tokens.drop 1 }

/-- The next token is one of some. -/
def at? (ts : List Token) : Reading Bool := do
  return ts.contains (← peek)

/-- A token that must come next is passed. -/
def expect (t : Token) : Reading Unit := do
  if (← peek) = t then next else throw .malformed

/-- A node is added, and its anchor defined. -/
def add (anchor : Option String) (n : Node) : Reading NodeId := do
  let s ← get
  let anchors := match anchor with
    | some a => (a, s.nodes.size) :: s.anchors
    | none => s.anchors
  set { s with nodes := s.nodes.push n, anchors := anchors }
  return s.nodes.size

/-- A node gets its shape. -/
def fill (id : NodeId) (shape : Shape) : Reading Unit :=
  modify fun s => { s with nodes := s.nodes.modify id fun n => { n with shape := shape } }

end Reading

/-- A tag as it is written: a handle, if it has one, and the rest. -/
abbrev WrittenTag := Option String × String

/-- The tag that a written one stands for. -/
def resolveTag : Option WrittenTag → Reading (Option String)
  | none => return none
  | some (none, tag) => return some tag
  | some (some h, rest) => do
      match (← get).handles.lookup h with
      | some start => return some (start ++ rest)
      | none => throw .malformed

/-- The anchor that comes next, if there is one. -/
def anchorHere : Reading (Option String) := do
  match ← Reading.peek with
  | .anchor a =>
      Reading.next
      return some a
  | _ => return none

/-- The tag that comes next, if there is one. -/
def tagHere : Reading (Option WrittenTag) := do
  match ← Reading.peek with
  | .tag h t =>
      Reading.next
      return some (h, t)
  | _ => return none

/-- The anchor and the tag in front of a node, in either order. -/
def properties : Reading (Option String × Option WrittenTag) := do
  match ← anchorHere with
  | some a => return (some a, ← tagHere)
  | none =>
      match ← tagHere with
      | some t => return (← anchorHere, some t)
      | none => return (none, none)

/-- The kind of a text. -/
def textKind (tag : Option String) (plain : Bool) (cs : List Char) : Kind :=
  match tag with
  | none => if plain then Kind.ofText cs else .str
  | some t => if t = "!" then Kind.ofText cs else Kind.ofTag t

/-- The kind of a collection. -/
def collectionKind (tag : Option String) (usual : Kind) : Kind :=
  match tag with
  | none => usual
  | some t => if t = "!" then usual else Kind.ofTag t

/-- The node of an item, a key or a value without content. -/
def emptyNode : Reading NodeId := Reading.add none ⟨.null, .scalar []⟩

/-- How a node may stand: between brackets, in a block, or in a block in which the
items of a sequence need no indentation. -/
inductive Setting where
  | brackets
  | block
  | entry
deriving DecidableEq

/-- What the content of a node begins with. -/
inductive Content where
  | text (cs : List Char) (plain : Bool)
  | bracketList
  | bracketMap
  | bareList
  | blockList
  | blockMap
  | nothing

/-- What the content of a node begins with, by the next token. -/
def contentOf (setting : Setting) : Token → Content
  | .scalar cs plain => .text cs plain
  | .openList => .bracketList
  | .openMap => .bracketMap
  | .item => if setting = .entry then .bareList else .nothing
  | .blockSequence => if setting = .brackets then .nothing else .blockList
  | .blockMapping => if setting = .brackets then .nothing else .blockMap
  | _ => .nothing

mutual

/-- A node inside so many collections. -/
def node [DepthLimits] : (fuel : Nat) → (depth : Nat) → Setting → Reading NodeId
  | 0, _, _ => throw .malformed
  | fuel + 1, depth, setting => do
      match ← Reading.peek with
      | .alias a =>
          Reading.next
          match (← get).anchors.lookup a with
          | some n => return n
          | none => throw .malformed
      | _ =>
          let (anchor, written) ← properties
          let tag ← resolveTag written
          let found := contentOf setting (← Reading.peek)
          if found matches .nothing && anchor.isNone && tag.isNone then throw .malformed
          let s ← get
          if anchor.any fun a => (s.anchors.lookup a).isSome then throw .malformed
          match found with
          | .text cs plain =>
              Reading.next
              Reading.add anchor ⟨textKind tag plain cs, .scalar cs⟩
          | .nothing => Reading.add anchor ⟨textKind tag true [], .scalar []⟩
          | found =>
              if DepthLimits.composing ≤ depth then throw (.refused .depthExceeded)
              match found with
              | .bracketMap | .blockMap =>
                  let id ← Reading.add anchor ⟨collectionKind tag .map, .mapping []⟩
                  Reading.next
                  let entries ← match found with
                    | .blockMap => blockEntries fuel (depth + 1)
                    | _ => bracketEntries fuel (depth + 1) true
                  Reading.fill id (.mapping entries)
                  return id
              | _ =>
                  let id ← Reading.add anchor ⟨collectionKind tag .list, .sequence []⟩
                  let items ← match found with
                    | .bareList => bareItems fuel (depth + 1)
                    | .blockList => do
                        Reading.next
                        blockItems fuel (depth + 1)
                    | _ => do
                        Reading.next
                        bracketItems fuel (depth + 1) true
                  Reading.fill id (.sequence items)
                  return id

/-- A node, or the empty one if a token that ends it comes next. -/
def nodeOrEmpty [DepthLimits] : (fuel : Nat) → (depth : Nat) → Setting → List Token → Reading NodeId
  | 0, _, _, _ => throw .malformed
  | fuel + 1, depth, setting, ends => do
      if ← Reading.at? ends then emptyNode else node fuel depth setting

/-- The items of a sequence up to its end. -/
def blockItems [DepthLimits] : (fuel : Nat) → (depth : Nat) → Reading (List NodeId)
  | 0, _ => throw .malformed
  | fuel + 1, depth => do
      if (← Reading.peek) = .item then
        Reading.next
        let n ← nodeOrEmpty fuel depth .block [.item, .blockEnd]
        return n :: (← blockItems fuel depth)
      else
        Reading.expect .blockEnd
        return []

/-- The items of a sequence that has no indentation. -/
def bareItems [DepthLimits] : (fuel : Nat) → (depth : Nat) → Reading (List NodeId)
  | 0, _ => throw .malformed
  | fuel + 1, depth => do
      if (← Reading.peek) = .item then
        Reading.next
        let n ← nodeOrEmpty fuel depth .block [.item, .key, .value, .blockEnd]
        return n :: (← bareItems fuel depth)
      else return []

/-- The value of an entry, or the empty node if it has none. -/
def valueOrEmpty [DepthLimits] :
    (fuel : Nat) → (depth : Nat) → Setting → List Token → Reading NodeId
  | 0, _, _, _ => throw .malformed
  | fuel + 1, depth, setting, ends => do
      if (← Reading.peek) = .value then
        Reading.next
        nodeOrEmpty fuel depth setting ends
      else emptyNode

/-- The entries of a mapping up to its end. -/
def blockEntries [DepthLimits] : (fuel : Nat) → (depth : Nat) → Reading (List (NodeId × NodeId))
  | 0, _ => throw .malformed
  | fuel + 1, depth => do
      if (← Reading.peek) = .key then
        Reading.next
        let k ← nodeOrEmpty fuel depth .entry [.key, .value, .blockEnd]
        let v ← valueOrEmpty fuel depth .entry [.key, .value, .blockEnd]
        return (k, v) :: (← blockEntries fuel depth)
      else
        Reading.expect .blockEnd
        return []

/-- An entry with the mark of a key, between brackets that close with the token
given. -/
def markedEntry [DepthLimits] :
    (fuel : Nat) → (depth : Nat) → (closing : Token) → Reading (NodeId × NodeId)
  | 0, _, _ => throw .malformed
  | fuel + 1, depth, closing => do
      Reading.next
      let k ← nodeOrEmpty fuel depth .brackets [.value, .comma, closing]
      let v ← valueOrEmpty fuel depth .brackets [.comma, closing]
      return (k, v)

/-- The items up to a closing bracket; an entry with the mark of a key is a mapping of
its own. -/
def bracketItems [DepthLimits] :
    (fuel : Nat) → (depth : Nat) → (first : Bool) → Reading (List NodeId)
  | 0, _, _ => throw .malformed
  | fuel + 1, depth, first => do
      if !first && (← Reading.peek) ≠ .closeList then Reading.expect .comma
      match ← Reading.peek with
      | .closeList =>
          Reading.next
          return []
      | .key =>
          if DepthLimits.composing ≤ depth then throw (.refused .depthExceeded)
          let id ← Reading.add none ⟨.map, .mapping []⟩
          let e ← markedEntry fuel (depth + 1) .closeList
          Reading.fill id (.mapping [e])
          return id :: (← bracketItems fuel depth false)
      | _ =>
          let n ← node fuel depth .brackets
          return n :: (← bracketItems fuel depth false)

/-- The entries up to a closing brace; without the mark of a key a node is a key that
has no value. -/
def bracketEntries [DepthLimits] : (fuel : Nat) → (depth : Nat) → (first : Bool) →
    Reading (List (NodeId × NodeId))
  | 0, _, _ => throw .malformed
  | fuel + 1, depth, first => do
      if !first && (← Reading.peek) ≠ .closeMap then Reading.expect .comma
      match ← Reading.peek with
      | .closeMap =>
          Reading.next
          return []
      | .key =>
          let e ← markedEntry fuel depth .closeMap
          return e :: (← bracketEntries fuel depth false)
      | _ =>
          let k ← node fuel depth .brackets
          let v ← emptyNode
          return (k, v) :: (← bracketEntries fuel depth false)

end

/-- What the handles that need no directive stand for. -/
def usualHandles : List (String × String) := [("!", "!"), ("!!", Kind.space)]

/-- The directives in front of a document: what handles stand for.  There is one
version at most, and it is a first one; a handle is defined once. -/
def directives : (fuel : Nat) → (versioned : Bool) → List (String × String) →
    Reading (List (String × String))
  | 0, _, _ => throw .malformed
  | fuel + 1, versioned, handles => do
      match ← Reading.peek with
      | .directive d =>
          Reading.next
          match d with
          | .version major =>
              if versioned || major ≠ 1 then throw .malformed
              directives fuel true handles
          | .handle name written =>
              if (handles.lookup name).isSome then throw .malformed
              directives fuel versioned ((name, written) :: handles)
          | .unknown => directives fuel versioned handles
      | _ => return handles ++ usualHandles

/-- The marks of the ends of documents are passed. -/
def passEnds : (fuel : Nat) → Reading Unit
  | 0 => return
  | fuel + 1 => do
      if (← Reading.peek) = .documentEnd then
        Reading.next
        passEnds fuel

/-- A document without a mark begins here. -/
def beginsBare : Token → Bool
  | .directive _ | .documentStart | .textEnd => false
  | _ => true

/-- A document ends here before it has content. -/
def endsAtOnce : Token → Bool
  | .directive _ | .documentStart | .documentEnd | .textEnd => true
  | _ => false

/-- The mark of a document, and the directives in front of it. -/
def documentStart (fuel : Nat) : Reading Unit := do
  let handles ← directives fuel false []
  Reading.expect .documentStart
  modify fun s => { s with handles := handles }

/-- The document of a text, if it has one; it has no more than one. -/
def document [DepthLimits] (fuel : Nat) : Reading (Option NodeId) := do
  let root ← (do
    if beginsBare (← Reading.peek) then return some (← node fuel 0 .block)
    passEnds fuel
    if (← Reading.peek) = .textEnd then return none
    documentStart fuel
    if endsAtOnce (← Reading.peek) then return some (← emptyNode)
    return some (← node fuel 0 .block) : Reading (Option NodeId))
  passEnds fuel
  if (← Reading.peek) ≠ .textEnd then
    documentStart fuel
    throw .malformed
  return root

/-- The document of what a text has been taken apart into, if it has one: its first
node, and all of them. -/
def Scan.document? [DepthLimits] (scan : Scan) : Except Fault (Option NodeId × Nodes) :=
  ((document (8 * scan.tokens.length + 8)).run
    ⟨scan.tokens, scan.fault, usualHandles, [], #[]⟩).map fun r => (r.1, r.2.nodes)

end Markup
end Homelab
