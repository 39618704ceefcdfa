import Homelab.Failure

/-!
# A place in a markup text

Markup is read from the left; what is still to be read is kept together with the
number of characters read, the line and the column, because the structure of a
document is in its columns.  Lines end with a line feed, a carriage return or both,
with the control character for a next line, or with a separator of lines or
paragraphs; a byte order mark takes no column.
-/

namespace Homelab
namespace Markup

/-- Why a text is no document: it does not follow the rules of the markup, or it
writes a value that cannot be. -/
inductive Fault where
  | malformed
  | refused (f : Failure)

/-- A place in a text: what follows it, and where it is. -/
structure Cursor where
  rest : List Char
  index : Nat
  line : Nat
  column : Nat
deriving DecidableEq

/-- A character that may stand in a markup text. -/
def isAllowed (c : Char) : Bool :=
  let n := c.toNat
  n = 0x09 || n = 0x0a || n = 0x0d || (0x20 ≤ n && n ≤ 0x7e) || n = 0x85 ||
    (0xa0 ≤ n && n ≤ 0xd7ff) || (0xe000 ≤ n && n ≤ 0xfffd) || (0x10000 ≤ n && n ≤ 0x10ffff)

/-- A character that ends a line. -/
def isBreak (c : Char) : Bool :=
  c = '\n' || c = '\r' || c.toNat = 0x85 || c.toNat = 0x2028 || c.toNat = 0x2029

/-- A blank inside a line. -/
def isBlank (c : Char) : Bool := c = ' ' || c = '\t'

/-- The end of a line or of the text. -/
def endsLine : Option Char → Bool
  | none => true
  | some c => isBreak c

/-- A blank that is no tab, the end of a line, or the end of the text. -/
def endsField (c : Option Char) : Bool := c = some ' ' || endsLine c

/-- A blank, the end of a line, or the end of the text. -/
def endsWord (c : Option Char) : Bool := c = some '\t' || endsField c

/-- A character of the name of an anchor, a directive or a tag handle. -/
def isNameChar (c : Char) : Bool := c.isAlphanum || c = '-' || c = '_'

namespace Cursor

/-- The beginning of a text. -/
def start (cs : List Char) : Cursor := ⟨cs, 0, 0, 0⟩

/-- The next character. -/
def peek (c : Cursor) : Option Char := c.rest.head?

/-- The character at some distance. -/
def peekAt (c : Cursor) (n : Nat) : Option Char := c.rest[n]?

/-- The place after a character, given what follows it. -/
def advance (c : Cursor) (ch : Char) (rest : List Char) : Cursor :=
  if isBreak ch && !(ch = '\r' && rest.head? = some '\n') then
    ⟨rest, c.index + 1, c.line + 1, 0⟩
  else ⟨rest, c.index + 1, c.line, if ch.toNat = 0xfeff then c.column else c.column + 1⟩

/-- The place after the next character. -/
def next (c : Cursor) : Cursor :=
  match c.rest with
  | [] => c
  | ch :: rest => c.advance ch rest

/-- The place some characters further. -/
def skip (c : Cursor) : Nat → Cursor
  | 0 => c
  | n + 1 => c.next.skip n

/-- The characters that follow as long as they are of a kind, and the place after
them. -/
def takeWhile (p : Char → Bool) (c : Cursor) : List Char × Cursor :=
  let taken := c.rest.takeWhile p
  (taken, c.skip taken.length)

/-- The place after the characters that are of a kind. -/
def skipWhile (p : Char → Bool) (c : Cursor) : Cursor := (c.takeWhile p).2

/-- The place after the blanks that are no tabs. -/
def skipSpaces (c : Cursor) : Cursor := c.skipWhile (· = ' ')

/-- The place after a comment, if one begins here. -/
def skipComment (c : Cursor) : Cursor :=
  if c.peek = some '#' then c.skipWhile (!isBreak ·) else c

/-- The end of a line as it counts in a text, and the place after it. -/
def lineBreak? (c : Cursor) : Option (Char × Cursor) :=
  match c.rest with
  | '\r' :: '\n' :: _ => some ('\n', c.skip 2)
  | ch :: _ =>
      if ch = '\n' || ch = '\r' || ch.toNat = 0x85 then some ('\n', c.next)
      else if isBreak ch then some (ch, c.next)
      else none
  | [] => none

/-- The place after the end of a line, if one is here. -/
def skipBreak (c : Cursor) : Cursor :=
  match c.lineBreak? with
  | some (_, after) => after
  | none => c

/-- Three equal characters stand here, and a word ends after them. -/
def marks (ch : Char) (c : Cursor) : Bool :=
  c.rest.take 3 = [ch, ch, ch] && endsWord (c.peekAt 3)

/-- A line that separates documents begins here. -/
def atSeparator (c : Cursor) : Bool := c.marks '-' || c.marks '.'

end Cursor
end Markup
end Homelab
