import Homelab.Markup.Token.Bare
import Homelab.Markup.Token.Block
import Homelab.Markup.Token.Mark
import Homelab.Markup.Token.Quoted
import Homelab.Text.Pieces

/-!
# The tokens of a text

A text is taken apart from the left.  Outside brackets the column of a token tells
which collections it ends: those that are indented further.  A key needs no mark: it
is known by the colon after it.  So the first token of whatever may turn out to be a
key is remembered, and when the colon comes the mark of a key is put in front of it.
A key without a mark is on one line and has at most a thousand characters and a few
more.

A text is read in pieces.  A fault in a piece, or a token that cannot be read, is found
only when the reading comes to it, so it leaves the tokens in front of it to be used
first; but a token that may still turn out to be a key has to wait for those behind it.
-/

namespace Homelab
namespace Markup

/-- What may turn out to be a key: the number of tokens in front of it, where it
begins, and whether it must be one. -/
structure PossibleKey where
  before : Nat
  place : Cursor
  required : Bool

/-- The state of reading: the place, the indentation of the collection around it and
of those around that one, for each bracket that is open and for the text around them
all what may turn out to be a key, whether a key may begin here, and the tokens read,
the last one first. -/
structure Lexer where
  place : Cursor
  indent : Int
  outer : List Int
  keys : List (Option PossibleKey)
  keyAllowed : Bool
  tokens : List Token
  count : Nat

namespace Lexer

/-- Nothing has been read of a text but what is in front of a place. -/
def start (place : Cursor) : Lexer := ⟨place, -1, [], [none], true, [], 0⟩

/-- The place is between brackets. -/
def inBrackets (l : Lexer) : Bool := 1 < l.keys.length

/-- A token is added. -/
def push (t : Token) (l : Lexer) : Lexer :=
  { l with tokens := t :: l.tokens, count := l.count + 1 }

/-- A token is put in front of all but the first so many tokens. -/
def insert (before : Nat) (t : Token) (l : Lexer) : Lexer :=
  let later := l.count - before
  { l with tokens := l.tokens.take later ++ t :: l.tokens.drop later, count := l.count + 1 }

/-- The place is moved. -/
def moveTo (c : Cursor) (l : Lexer) : Lexer := { l with place := c }

/-- Whether a key may begin here is set. -/
def allowKey (b : Bool) (l : Lexer) : Lexer := { l with keyAllowed := b }

/-- A possible key can be one no longer. -/
def isStale (place : Cursor) (k : PossibleKey) : Bool :=
  k.place.line != place.line || k.place.index + 1024 < place.index

/-- Possible keys that can be one no longer are forgotten; one that must be a key is a
fault. -/
def dropStale (l : Lexer) : Except Fault Lexer :=
  let stale (k : Option PossibleKey) : Bool := k.any (isStale l.place)
  if l.keys.any fun k => stale k && k.any PossibleKey.required then .error .malformed
  else .ok { l with keys := l.keys.map fun k => if stale k then none else k }

/-- What may turn out to be a key here is forgotten; if it must be a key that is a
fault. -/
def dropKey (l : Lexer) : Except Fault Lexer :=
  match l.keys with
  | some k :: rest => if k.required then .error .malformed else .ok { l with keys := none :: rest }
  | _ => .ok l

/-- What begins here may turn out to be a key. -/
def markKey (l : Lexer) : Except Fault Lexer :=
  if l.keyAllowed then
    (l.dropKey).map fun l =>
      let required := !l.inBrackets && l.indent = l.place.column
      { l with keys := some ⟨l.count, l.place, required⟩ :: l.keys.drop 1 }
  else .ok l

/-- The collections that are indented further than a column are ended. -/
def closeTo (column : Int) : (outer : List Int) → Lexer → Lexer
  | [], l => l
  | i :: rest, l =>
      if column < l.indent then
        closeTo column rest { l with
          indent := i
          outer := rest
          tokens := .blockEnd :: l.tokens
          count := l.count + 1 }
      else l

/-- The collections that are indented further than a column are ended, unless the
place is between brackets. -/
def unwind (column : Int) (l : Lexer) : Lexer :=
  if l.inBrackets then l else closeTo column l.outer l

/-- The place belongs to a collection at a column; whether it is a new one. -/
def deepen (column : Nat) (l : Lexer) : Bool × Lexer :=
  if l.indent < column then
    (true, { l with indent := column, outer := l.indent :: l.outer })
  else (false, l)

/-- A collection begins here unless one is open at this column. -/
def openHere (t : Token) (l : Lexer) : Lexer :=
  match l.deepen l.place.column with
  | (true, l) => l.push t
  | (false, l) => l

/-- Blanks, comments and line ends are passed. -/
def passBlanks : (fuel : Nat) → Lexer → Lexer
  | 0, l => l
  | fuel + 1, l =>
      let c := l.place.skipSpaces.skipComment
      match c.lineBreak? with
      | some (_, next) =>
          passBlanks fuel { l with place := next, keyAllowed := l.keyAllowed || !l.inBrackets }
      | none => l.moveTo c

/-- The end of the text. -/
def finish (l : Lexer) : Except Fault Lexer :=
  ((l.unwind (-1)).dropKey).map (push .textEnd)

/-- A token that stands outside all collections, up to the given place. -/
def outside (t : Token) (c : Cursor) (l : Lexer) : Except Fault Lexer :=
  ((l.unwind (-1)).dropKey).map fun l => ((l.allowKey false).push t).moveTo c

/-- A bracket opens. -/
def openBracket (t : Token) (l : Lexer) : Except Fault Lexer :=
  (l.markKey).map fun l =>
    { (l.push t) with keys := none :: l.keys, keyAllowed := true, place := l.place.next }

/-- A bracket closes. -/
def closeBracket (t : Token) (l : Lexer) : Except Fault Lexer :=
  match l.dropKey with
  | .error e => .error e
  | .ok l =>
      if l.inBrackets then
        .ok { (l.push t) with keys := l.keys.drop 1, keyAllowed := false, place := l.place.next }
      else .error .malformed

/-- A comma. -/
def comma (l : Lexer) : Except Fault Lexer :=
  (l.dropKey).map fun l => ((l.allowKey true).push .comma).moveTo l.place.next

/-- The mark of an item. -/
def item (l : Lexer) : Except Fault Lexer :=
  if l.inBrackets || l.keyAllowed then
    let l := if l.inBrackets then l else l.openHere .blockSequence
    (l.dropKey).map fun l => ((l.allowKey true).push .item).moveTo l.place.next
  else .error .malformed

/-- The mark of a key. -/
def keyMark (l : Lexer) : Except Fault Lexer :=
  if l.inBrackets || l.keyAllowed then
    let l := if l.inBrackets then l else l.openHere .blockMapping
    (l.dropKey).map fun l => ((l.allowKey !l.inBrackets).push .key).moveTo l.place.next
  else .error .malformed

/-- The colon after a key that has no mark: the mark is put in front of it, and with it
the beginning of a mapping if the key is the first one. -/
def valueAfter (k : PossibleKey) (l : Lexer) : Lexer :=
  let l := ({ l with keys := none :: l.keys.drop 1, keyAllowed := false }).insert k.before .key
  let l :=
    if l.inBrackets then l
    else
      match l.deepen k.place.column with
      | (true, l) => l.insert k.before .blockMapping
      | (false, l) => l
  (l.push .value).moveTo l.place.next

/-- The colon after a key. -/
def value (l : Lexer) : Except Fault Lexer :=
  match l.keys with
  | some k :: _ => .ok (l.valueAfter k)
  | _ =>
      if l.inBrackets || l.keyAllowed then
        let l := if l.inBrackets then l else l.openHere .blockMapping
        (l.dropKey).map fun l => ((l.allowKey !l.inBrackets).push .value).moveTo l.place.next
      else .error .malformed

/-- A token that may turn out to be a key. -/
def simple (read : Cursor → Except Fault (Token × Cursor)) (l : Lexer) : Except Fault Lexer := do
  let l ← l.markKey
  let (t, after) ← read l.place
  return ((l.allowKey false).push t).moveTo after

/-- A text set off by indentation. -/
def block (folded : Bool) (l : Lexer) : Except Fault Lexer := do
  let l ← l.dropKey
  let (cs, after) ← Block.read folded (max (l.indent + 1) 1).toNat l.place
  return ((l.allowKey true).push (.scalar cs false)).moveTo after

/-- A text without quotes. -/
def bare (l : Lexer) : Except Fault Lexer :=
  (l.markKey).map fun l =>
    let (cs, after, newLine) := Bare.read l.inBrackets (l.indent + 1).toNat l.place
    ((l.allowKey newLine).push (.scalar cs true)).moveTo after

/-- The token that begins with a character. -/
def token (ch : Char) (l : Lexer) : Except Fault Lexer :=
  let c := l.place
  let alone := endsWord (c.peekAt 1)
  if ch = '%' && c.column = 0 then
    match Mark.directive c with
    | .ok (d, after) => l.outside (.directive d) after
    | .error e => .error e
  else if c.column = 0 && c.marks '-' then l.outside .documentStart (c.skip 3)
  else if c.column = 0 && c.marks '.' then l.outside .documentEnd (c.skip 3)
  else if ch = '[' then l.openBracket .openList
  else if ch = '\x7b' then l.openBracket .openMap
  else if ch = ']' then l.closeBracket .closeList
  else if ch = '\x7d' then l.closeBracket .closeMap
  else if ch = ',' then l.comma
  else if ch = '-' && alone then l.item
  else if ch = '?' && (l.inBrackets || alone) then l.keyMark
  else if ch = ':' && (l.inBrackets || alone) then l.value
  else if ch = '*' then l.simple fun c => (Mark.name c).map fun r => (.alias r.1, r.2)
  else if ch = '&' then l.simple fun c => (Mark.name c).map fun r => (.anchor r.1, r.2)
  else if ch = '!' then l.simple Mark.tag
  else if ch = '|' && !l.inBrackets then l.block false
  else if ch = '>' && !l.inBrackets then l.block true
  else if ch = '\'' || ch = '"' then
    l.simple fun c => (Quoted.read (ch = '"') c).map fun r => (.scalar r.1 false, r.2)
  else if Bare.startsHere l.inBrackets c then l.bare
  else .error .malformed

/-- The number of tokens that do not wait for others. -/
def ready (l : Lexer) : Nat :=
  (l.keys.filterMap fun k => if k.any (isStale l.place) then none else k.map PossibleKey.before).foldl
    min l.count

/-- The next token and its like, or the end of the text; nothing at or behind `limit`
can be read. -/
def step (limit : Option (Nat × Fault)) (l : Lexer) : Except Fault (Bool × Lexer) := do
  let within (l : Lexer) : Except Fault Lexer :=
    match limit with
    | some (index, fault) => if index ≤ l.place.index then .error fault else .ok l
    | none => .ok l
  let l ← within (passBlanks (l.place.rest.length + 1) l)
  let l ← l.dropStale
  let l := l.unwind l.place.column
  match l.place.peek with
  | none => return (true, ← l.finish)
  | some ch => return (false, ← within (← l.token ch))

end Lexer

/-- What a text has been taken apart into: its tokens, and the fault that is found when
more of them are wanted. -/
structure Scan where
  tokens : List Token
  fault : Fault

namespace Lexer

/-- The tokens of the rest of a text. -/
def run (limit : Option (Nat × Fault)) : (fuel : Nat) → Lexer → Scan
  | 0, l => ⟨l.tokens.reverse, .malformed⟩
  | fuel + 1, l =>
      match l.step limit with
      | .error fault => ⟨l.tokens.reverse.take l.ready, fault⟩
      | .ok (true, l) => ⟨l.tokens.reverse, .malformed⟩
      | .ok (false, l) => run limit fuel l

end Lexer

/-- Where the piece begins that holds a position; the first two pieces are read at
once. -/
def pieceStart (position : Nat) : Nat :=
  if position < 2 * Text.pieceLength then 0
  else position / Text.pieceLength * Text.pieceLength

/-- The tokens of a text; the byte order mark in front of it is none of them.  `broken`
is behind how many characters the text cannot be read, and why, if that is so. -/
def scan (cs : List Char) (broken : Option (Nat × Fault)) : Scan :=
  let strange := (cs.findIdx? fun c => !isAllowed c).map fun n => (pieceStart n, Fault.malformed)
  let unread := broken.map fun b => (pieceStart b.1, b.2)
  let limit := match unread, strange with
    | some a, some b => some (if a.1 ≤ b.1 then a else b)
    | a, b => a.or b
  let first := Cursor.start cs
  let place := if cs.head? = some (Char.ofNat 0xfeff) then first.next else first
  Lexer.run limit (cs.length + 1) (Lexer.start place)

end Markup
end Homelab
