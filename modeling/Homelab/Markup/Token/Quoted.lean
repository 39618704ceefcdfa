import Homelab.Markup.Token
import Homelab.Text.Digit

/-!
# Quoted text in markup

Between single quotes every character stands for itself, and a quote is written
twice.  Between double quotes a backslash begins an escape.  A line end inside
quotes, with the blanks around it, is one blank; of several line ends the first is
dropped and the others stay.  A line that separates documents must not come inside
quotes.
-/

namespace Homelab
namespace Markup
namespace Quoted

/-- The character that a letter after a backslash stands for. -/
def letter? (c : Char) : Option Char :=
  match c with
  | '0' => some (Char.ofNat 0x00)
  | 'a' => some (Char.ofNat 0x07)
  | 'b' => some (Char.ofNat 0x08)
  | 't' => some '\t'
  | '\t' => some '\t'
  | 'n' => some '\n'
  | 'v' => some (Char.ofNat 0x0b)
  | 'f' => some (Char.ofNat 0x0c)
  | 'r' => some '\r'
  | 'e' => some (Char.ofNat 0x1b)
  | ' ' => some ' '
  | '"' => some '"'
  | '\\' => some '\\'
  | '/' => some '/'
  | 'N' => some (Char.ofNat 0x85)
  | '_' => some (Char.ofNat 0xa0)
  | 'L' => some (Char.ofNat 0x2028)
  | 'P' => some (Char.ofNat 0x2029)
  | _ => none

/-- The number of hexadecimal digits after a letter. -/
def digitCount? (c : Char) : Option Nat :=
  match c with
  | 'x' => some 2
  | 'u' => some 4
  | 'U' => some 8
  | _ => none

/-- The line ends that follow, and the place after them and the blanks. -/
def breaks : (fuel : Nat) → Cursor → Except Fault (List Char × Cursor)
  | 0, _ => .error .malformed
  | fuel + 1, c =>
      if c.atSeparator then .error .malformed
      else
        let after := c.skipWhile isBlank
        match after.lineBreak? with
        | some (b, next) => (breaks fuel next).map fun r => (b :: r.1, r.2)
        | none => .ok ([], after)

/-- What the blanks and line ends that follow stand for. -/
def gap (c : Cursor) : Except Fault (List Char × Cursor) :=
  let (blanks, after) := c.takeWhile isBlank
  match after.lineBreak? with
  | some (b, next) =>
      (breaks (next.rest.length + 1) next).map fun r =>
        (if b ≠ '\n' then b :: r.1 else if r.1.isEmpty then [' '] else r.1, r.2)
  | none => if after.rest.isEmpty then .error .malformed else .ok (blanks, after)

/-- What an escape stands for, from the character after the backslash on. -/
def escape (c : Cursor) : Except Fault (List Char × Cursor) :=
  match c.peek with
  | none => .error .malformed
  | some ch =>
      match letter? ch, digitCount? ch with
      | some d, _ => .ok ([d], c.next)
      | none, some n =>
          let digits := c.next.rest.take n
          if digits.length = n && digits.all Text.isHexDigit then
            let code := Text.natOfBase 16 digits
            if code < 0x110000 then .ok ([Char.ofNat code], c.next.skip n)
            else if code < Nat.pow 2 31 then
              .error (.refused (.value "chr() arg not in range(0x110000)"))
            else .error (.refused (.outOfRange "Python int too large to convert to C int"))
          else .error .malformed
      | none, none =>
          match c.lineBreak? with
          | some (_, next) => breaks (next.rest.length + 1) next
          | none => .error .malformed

/-- The text up to a blank, a line end, or the closing quote. -/
def word (double : Bool) : (fuel : Nat) → Cursor → Except Fault (List Char × Cursor)
  | 0, _ => .error .malformed
  | fuel + 1, c =>
      match c.rest with
      | [] => .ok ([], c)
      | ch :: rest =>
          if isBlank ch || isBreak ch then .ok ([], c)
          else if double && ch = '\\' then
            match escape c.next with
            | .ok (cs, next) => (word double fuel next).map fun r => (cs ++ r.1, r.2)
            | .error e => .error e
          else if double && ch = '"' then .ok ([], c)
          else if !double && ch = '\'' then
            if rest.head? = some '\'' then
              (word double fuel (c.skip 2)).map fun r => ('\'' :: r.1, r.2)
            else .ok ([], c)
          else (word double fuel c.next).map fun r => (ch :: r.1, r.2)

/-- The text up to the closing quote, and the place after it. -/
def inside (double : Bool) : (fuel : Nat) → Cursor → Except Fault (List Char × Cursor)
  | 0, _ => .error .malformed
  | fuel + 1, c =>
      match word double (c.rest.length + 1) c with
      | .error e => .error e
      | .ok (cs, after) =>
          if after.peek = some (if double then '"' else '\'') then .ok (cs, after.next)
          else
            match gap after with
            | .error e => .error e
            | .ok (blanks, next) =>
                (inside double fuel next).map fun r => (cs ++ blanks ++ r.1, r.2)

/-- A quoted text, from its opening quote on. -/
def read (double : Bool) (c : Cursor) : Except Fault (List Char × Cursor) :=
  inside double (c.rest.length + 1) c.next

end Quoted
end Markup
end Homelab
