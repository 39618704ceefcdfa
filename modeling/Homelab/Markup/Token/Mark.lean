import Homelab.Markup.Token
import Homelab.Text.Utf8

/-!
# Anchors, tags and directives

The short forms of the markup: the name of an anchor or of an alias, the tag of a
node, and the lines with word for the reader.  A tag is written in full between angle
brackets, or as the rest of one after a handle; a byte of it may be written as a
percent sign and two hexadecimal digits.
-/

namespace Homelab
namespace Markup
namespace Mark

/-- The name of an anchor or of an alias, from the mark in front of it on. -/
def name (c : Cursor) : Except Fault (String × Cursor) :=
  let (cs, after) := c.next.takeWhile isNameChar
  let ends := endsWord after.peek ||
    (match after.peek with
      | some ch => "?:,]\x7d%@\x60".toList.contains ch
      | none => false)
  if cs.isEmpty || !ends then .error .malformed else .ok (String.ofList cs, after)

/-- A character of a tag. -/
def isTagChar (c : Char) : Bool :=
  c.isAlphanum || "-;/?:@&=+$,_.!~*'()[]".toList.contains c

/-- The bytes written with percent signs, and the place after them. -/
def percentBytes : (fuel : Nat) → Cursor → Except Fault (List UInt8 × Cursor)
  | 0, _ => .error .malformed
  | fuel + 1, c =>
      match c.rest with
      | '%' :: a :: b :: _ =>
          if Text.isHexDigit a && Text.isHexDigit b then
            (percentBytes fuel (c.skip 3)).map fun r =>
              (UInt8.ofNat (Text.natOfBase 16 [a, b]) :: r.1, r.2)
          else .error .malformed
      | '%' :: _ => .error .malformed
      | _ => .ok ([], c)

/-- The characters of a tag, and the place after them. -/
def tagChars : (fuel : Nat) → Cursor → Except Fault (List Char × Cursor)
  | 0, _ => .error .malformed
  | fuel + 1, c =>
      match c.rest with
      | [] => .ok ([], c)
      | ch :: _ =>
          if ch = '%' then
            match percentBytes (c.rest.length + 1) c with
            | .error e => .error e
            | .ok (bytes, after) =>
                match Text.ofBytes? bytes with
                | some s => (tagChars fuel after).map fun r => (s.toList ++ r.1, r.2)
                | none => .error .malformed
          else if isTagChar ch then (tagChars fuel c.next).map fun r => (ch :: r.1, r.2)
          else .ok ([], c)

/-- A tag, or the rest of one; it has at least one character. -/
def tagText (c : Cursor) : Except Fault (String × Cursor) :=
  if c.peek = some '%' || (match c.peek with
      | some ch => isTagChar ch
      | none => false) then
    (tagChars (c.rest.length + 1) c).map fun r => (String.ofList r.1, r.2)
  else .error .malformed

/-- A handle: a name between exclamation marks, or one mark alone. -/
def handle (c : Cursor) : Except Fault (String × Cursor) :=
  if c.peek ≠ some '!' then .error .malformed
  else if c.peekAt 1 = some ' ' then .ok ("!", c.next)
  else
    let (cs, after) := c.next.takeWhile isNameChar
    if after.peek = some '!' then .ok (String.ofList ('!' :: cs ++ ['!']), after.next)
    else .error .malformed

/-- A tag from its mark on: its handle, if it has one, and the rest. -/
def tag (c : Cursor) : Except Fault (Token × Cursor) := do
  let (token, after) ← (match c.peekAt 1 with
    | some '<' => do
        let (s, after) ← tagText (c.skip 2)
        if after.peek = some '>' then pure (Token.tag none s, after.next) else .error .malformed
    | next =>
        if endsWord next then pure (Token.tag none "!", c.next)
        else do
          let field := c.next.rest.takeWhile fun ch => !endsField (some ch)
          let (h, start) ← if field.contains '!' then handle c else pure ("!", c.next)
          let (s, after) ← tagText start
          pure (Token.tag (some h) s, after) : Except Fault (Token × Cursor))
  if endsField after.peek then pure (token, after) else .error .malformed

/-- A number in a directive. -/
def number (c : Cursor) : Except Fault (Nat × Cursor) :=
  let (cs, after) := c.takeWhile Text.isAsciiDigit
  if cs.isEmpty then .error .malformed else .ok (Text.natOfDigits cs, after)

/-- A directive of a known name, from after its name on. -/
def known (name : List Char) (c : Cursor) : Except Fault (Directive × Cursor) := do
  if name = "YAML".toList then
    let (major, point) ← number c.skipSpaces
    if point.peek ≠ some '.' then .error .malformed
    else
      let (_, after) ← number point.next
      if endsField after.peek then pure (.version major, after) else .error .malformed
  else if name = "TAG".toList then
    let (h, gap) ← handle c.skipSpaces
    if gap.peek ≠ some ' ' then .error .malformed
    else
      let (s, after) ← tagText gap.skipSpaces
      if endsField after.peek then pure (.handle h s, after) else .error .malformed
  else pure (.unknown, c.skipWhile (!isBreak ·))

/-- A directive, from its mark on, with the rest of its line. -/
def directive (c : Cursor) : Except Fault (Directive × Cursor) := do
  let (name, gap) := c.next.takeWhile isNameChar
  if name.isEmpty || !endsField gap.peek then .error .malformed
  else
    let (d, after) ← known name gap
    let last := after.skipSpaces.skipComment
    if endsLine last.peek then pure (d, last.skipBreak) else .error .malformed

end Mark
end Markup
end Homelab
