import Homelab.Markup.Token
import Homelab.Text.Digit

/-!
# Text set off by indentation

A text whose lines are set off from the markup around it by their indentation.  The
lines of a literal text stay as they are.  In a folded text a line end between two
lines that begin with no blank is a blank, or is dropped if blank lines follow it.
What is done with the line ends after the last line is said in front of the text:
one of them stays, or none, or all; so is the indentation if it is not that of the
first line.
-/

namespace Homelab
namespace Markup
namespace Block

/-- Which line ends after the last line stay. -/
inductive Chomping where
  | clip
  | strip
  | keep
deriving DecidableEq

/-- What is said in front of a text. -/
structure Header where
  chomping : Chomping
  increment : Option Nat
deriving DecidableEq

/-- The chomping that a character asks for. -/
def chomping? : Option Char → Option Chomping
  | some '+' => some .keep
  | some '-' => some .strip
  | _ => none

/-- The digit that a character is. -/
def digit? : Option Char → Option Nat
  | some c => if Text.isAsciiDigit c then some (Text.natOfDigits [c]) else none
  | none => none

/-- What is said in front of a text, with the place after it. -/
def indicators (c : Cursor) : Header × Cursor :=
  match chomping? c.peek with
  | some chomping =>
      match digit? c.next.peek with
      | some n => (⟨chomping, some n⟩, c.skip 2)
      | none => (⟨chomping, none⟩, c.next)
  | none =>
      match digit? c.peek with
      | some n =>
          match chomping? c.next.peek with
          | some chomping => (⟨chomping, some n⟩, c.skip 2)
          | none => (⟨.clip, some n⟩, c.next)
      | none => (⟨.clip, none⟩, c)

/-- What is said in front of a text, with the beginning of the line after it. -/
def header (c : Cursor) : Except Fault (Header × Cursor) :=
  let (header, after) := indicators c
  if header.increment = some 0 || !endsField after.peek then .error .malformed
  else
    let last := after.skipSpaces.skipComment
    if endsLine last.peek then .ok (header, last.skipBreak) else .error .malformed

/-- The line ends before the first line of a text, the greatest indentation among the
lines passed, and the place where the first line begins. -/
def leading (deepest : Nat) : (fuel : Nat) → Cursor → List Char × Nat × Cursor
  | 0, c => ([], deepest, c)
  | fuel + 1, c =>
      if c.peek = some ' ' then leading (max deepest c.next.column) fuel c.next
      else
        match c.lineBreak? with
        | some (b, next) =>
            let (breaks, most, after) := leading deepest fuel next
            (b :: breaks, most, after)
        | none => ([], deepest, c)

/-- The place after the indentation of a line. -/
def indented (indent : Nat) : (fuel : Nat) → Cursor → Cursor
  | 0, c => c
  | fuel + 1, c =>
      if c.column < indent && c.peek = some ' ' then indented indent fuel c.next else c

/-- The line ends that follow, and the place after the indentation of the next line. -/
def breaks (indent : Nat) : (fuel : Nat) → Cursor → List Char × Cursor
  | 0, c => ([], c)
  | fuel + 1, c =>
      let after := indented indent indent c
      match after.lineBreak? with
      | some (b, next) =>
          let (more, last) := breaks indent fuel next
          (b :: more, last)
      | none => ([], after)

/-- A line of a text begins here. -/
def atLine (indent : Nat) (c : Cursor) : Bool := c.column = indent && !c.rest.isEmpty

/-- A character that is no blank. -/
def isSolid : Option Char → Bool
  | some c => !isBlank c
  | none => true

/-- The lines of a text; `before` are the line ends in front of the first one. -/
def lines (folded : Bool) (chomping : Chomping) (indent : Nat) (before : List Char) :
    (fuel : Nat) → Cursor → List Char × Cursor
  | 0, c => ([], c)
  | fuel + 1, c =>
      if atLine indent c then
        let (line, after) := c.takeWhile (!isBreak ·)
        let (ending, next) : List Char × Cursor := match after.lineBreak? with
          | some (b, next) => ([b], next)
          | none => ([], after)
        let (gap, following) := breaks indent (next.rest.length + 1) next
        if atLine indent following then
          let joint :=
            if folded && ending = ['\n'] && isSolid c.peek && isSolid following.peek then
              if gap.isEmpty then [' '] else []
            else ending
          let (more, last) := lines folded chomping indent gap fuel following
          (before ++ line ++ joint ++ more, last)
        else
          let tail := match chomping with
            | .clip => ending
            | .strip => []
            | .keep => ending ++ gap
          (before ++ line ++ tail, following)
      else (if chomping = .keep then before else [], c)

/-- A text set off by indentation, from the mark in front of it on; `least` is the
least indentation of its lines. -/
def read (folded : Bool) (least : Nat) (c : Cursor) : Except Fault (List Char × Cursor) :=
  (header c.next).map fun (header, start) =>
    let (before, indent, first) := match header.increment with
      | some n =>
          let indent := least + n - 1
          let (before, first) := breaks indent (start.rest.length + 1) start
          (before, indent, first)
      | none =>
          let (before, deepest, first) := leading 0 (start.rest.length + 1) start
          (before, max least deepest, first)
    lines folded header.chomping indent before (first.rest.length + 1) first

end Block
end Markup
end Homelab
