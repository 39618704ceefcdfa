import Homelab.Markup.Token

/-!
# Text without quotes

A text without quotes goes on until a comment, a colon that ends a key, or, between
brackets, a character of the markup.  It may go on over lines that are indented
further than the collection around it; a line end between its words is one blank,
and of several line ends the first is dropped.
-/

namespace Homelab
namespace Markup
namespace Bare

/-- A character that ends a text between brackets. -/
def isBracketMark (c : Char) : Bool := [',', '[', ']', '\x7b', '\x7d'].contains c

/-- A text may begin here. -/
def startsHere (inBrackets : Bool) (c : Cursor) : Bool :=
  match c.peek with
  | none => false
  | some ch =>
      (!endsWord (some ch) && !("-?:,[]\x7b\x7d#&*!|>'\"%@\x60".toList.contains ch)) ||
        (!endsWord (c.peekAt 1) && (ch = '-' || (!inBrackets && (ch = '?' || ch = ':'))))

/-- A colon before this character ends a key. -/
def afterColon (inBrackets : Bool) (c : Option Char) : Bool :=
  endsWord c ||
    (inBrackets && match c with
      | some ch => isBracketMark ch
      | none => false)

/-- The length of the word that begins a text. -/
def wordLength (inBrackets : Bool) : List Char → Nat
  | [] => 0
  | ch :: rest =>
      if endsWord (some ch) then 0
      else if ch = ':' && afterColon inBrackets rest.head? then 0
      else if inBrackets && (isBracketMark ch || ch = '?') then 0
      else wordLength inBrackets rest + 1

/-- The line ends that follow, and the place after them and the blanks; none if the
next line separates documents. -/
def breaks : (fuel : Nat) → Cursor → Option (List Char) × Cursor
  | 0, c => (some [], c)
  | fuel + 1, c =>
      if c.peek = some ' ' then breaks fuel c.next
      else
        match c.lineBreak? with
        | some (b, next) =>
            if next.atSeparator then (none, next)
            else
              let (more, after) := breaks fuel next
              (more.map (b :: ·), after)
        | none => (some [], c)

/-- What the blanks and line ends that follow stand for if the text goes on; nothing
if it cannot.  The last part tells whether there was a line end. -/
def gap (c : Cursor) : List Char × Cursor × Bool :=
  let (blanks, after) := c.takeWhile (· = ' ')
  match after.lineBreak? with
  | some (b, next) =>
      if next.atSeparator then ([], next, true)
      else
        match breaks (next.rest.length + 1) next with
        | (some more, last) =>
            (if b ≠ '\n' then b :: more else if more.isEmpty then [' '] else more, last, true)
        | (none, last) => ([], last, true)
  | none => (blanks, after, false)

/-- The rest of a text; `before` is what stands between it and what has been read, and
`onNewLine` tells whether that is a line end.  The last part tells whether the place
after the text is on a line that the text has not begun. -/
def words (inBrackets : Bool) (indent : Nat) (before : List Char) (onNewLine : Bool) :
    (fuel : Nat) → Cursor → List Char × Cursor × Bool
  | 0, c => ([], c, onNewLine)
  | fuel + 1, c =>
      let size := if c.peek = some '#' then 0 else wordLength inBrackets c.rest
      if size = 0 then ([], c, onNewLine)
      else
        let word := c.rest.take size
        let (between, after, broken) := gap (c.skip size)
        if between.isEmpty || after.peek = some '#' ||
            (!inBrackets && after.column < indent) then
          (before ++ word, after, broken)
        else
          let (more, last, newLine) := words inBrackets indent between broken fuel after
          (before ++ word ++ more, last, newLine)

/-- A text without quotes, the place after it, and whether that place is on a line
that the text has not begun. -/
def read (inBrackets : Bool) (indent : Nat) (c : Cursor) : List Char × Cursor × Bool :=
  words inBrackets indent [] false (c.rest.length + 1) c

end Bare
end Markup
end Homelab
