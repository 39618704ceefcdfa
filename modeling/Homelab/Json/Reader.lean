import Homelab.DepthLimits
import Homelab.Text.Digit
import Homelab.Value

/-!
# Reading JSON

A JSON text as a value.  The reader works on the characters that are left, so
the place of a fault is the number of characters left at it; the message counts
lines and columns from there.

Besides the grammar of JSON the names of the values that are no finite numbers
are read.  In a mapping a repeated key keeps its first place and its last
value.  An escape of a single surrogate has no character; it is read as the
replacement character.  There is a limit to the number of lists and mappings inside of
each other.
-/

namespace Homelab
namespace Json

/-- What the reader found missing or wrong. -/
inductive FaultKind where
  | value
  | propertyName
  | colon
  | comma
  | unterminated
  | controlCharacter
  | escape
  | unicodeEscape
  | extraData
  | byteOrderMark
deriving DecidableEq

/-- A fault, with the number of characters left at its place, or an integer with
more digits than are read, or lists and mappings nested more deeply than is read, which
is found at a list or at a mapping. -/
inductive Fault where
  | at (kind : FaultKind) (left : Nat)
  | oversized (digits : Nat)
  | nested (inList : Bool)
deriving DecidableEq

/-- What a fault is called. -/
def FaultKind.title : FaultKind → String
  | value => "Expecting value"
  | propertyName => "Expecting property name enclosed in double quotes"
  | colon => "Expecting ':' delimiter"
  | comma => "Expecting ',' delimiter"
  | unterminated => "Unterminated string starting at"
  | controlCharacter => "Invalid control character at"
  | escape => "Invalid \\escape"
  | unicodeEscape => "Invalid \\uXXXX escape"
  | extraData => "Extra data"
  | byteOrderMark => "Unexpected UTF-8 BOM (decode using utf-8-sig)"

/-- A blank between the parts of a JSON text. -/
def isSpace (c : Char) : Bool :=
  c = ' ' || c = '\t' || c = '\n' || c = '\r'

/-- The text without leading blanks. -/
def skipSpace (cs : List Char) : List Char :=
  cs.dropWhile isSpace

/-- The unit that four hexadecimal digits write. -/
def unit? (a b c d : Char) : Option Nat :=
  match Text.hexValue a, Text.hexValue b, Text.hexValue c, Text.hexValue d with
  | some w, some x, some y, some z => some (((w * 16 + x) * 16 + y) * 16 + z)
  | _, _, _, _ => none

/-- The first unit of a surrogate pair. -/
def isHighSurrogate (n : Nat) : Bool := 0xd800 ≤ n && n < 0xdc00

/-- The second unit of a surrogate pair. -/
def isLowSurrogate (n : Nat) : Bool := 0xdc00 ≤ n && n < 0xe000

/-- The character of a unit that stands alone. -/
def unitChar (n : Nat) : Char :=
  if 0xd800 ≤ n && n < 0xe000 then Char.ofNat 0xfffd else Char.ofNat n

/-- The character of a surrogate pair. -/
def pairChar (high low : Nat) : Char :=
  Char.ofNat (0x10000 + (high - 0xd800) * 0x400 + (low - 0xdc00))

/-- The character of a one-letter escape. -/
def escapeLetter? (c : Char) : Option Char :=
  if c = '"' || c = '\\' || c = '/' then some c
  else if c = 'n' then some '\n'
  else if c = 't' then some '\t'
  else if c = 'r' then some '\r'
  else if c = 'b' then some (Char.ofNat 0x08)
  else if c = 'f' then some (Char.ofNat 0x0c)
  else none

/-- The code points of a text up to its closing quote, surrogates still apart,
and what is left after it.  `start` is what was left at the opening quote. -/
def readString (start : Nat) : List Char → Except Fault (List Nat × List Char)
  | [] => .error (.at .unterminated start)
  | '"' :: rest => .ok ([], rest)
  | ['\\'] => .error (.at .unterminated start)
  | '\\' :: 'u' :: a :: b :: c :: d :: next :: rest =>
      match unit? a b c d with
      | none => .error (.at .unicodeEscape (rest.length + 6))
      | some n => (readString start (next :: rest)).map fun r => (n :: r.1, r.2)
  | '\\' :: c :: rest =>
      if c = 'u' then .error (.at .unicodeEscape (rest.length + 1))
      else
        match escapeLetter? c with
        | some e => (readString start rest).map fun r => (e.toNat :: r.1, r.2)
        | none => .error (.at .escape (rest.length + 2))
  | c :: rest =>
      if c.toNat < 0x20 then .error (.at .controlCharacter (rest.length + 1))
      else (readString start rest).map fun r => (c.toNat :: r.1, r.2)

/-- The characters of a list of code points, each surrogate pair joined. -/
def joinSurrogates : List Nat → List Char
  | [] => []
  | high :: low :: rest =>
      if isHighSurrogate high && isLowSurrogate low then pairChar high low :: joinSurrogates rest
      else unitChar high :: joinSurrogates (low :: rest)
  | [n] => [unitChar n]

/-- A text value up to its closing quote, and what is left after it. -/
def readText (start : Nat) (cs : List Char) : Except Fault (String × List Char) :=
  (readString start cs).map fun r => (String.ofList (joinSurrogates r.1), r.2)

/-- The digits at the beginning of a text, and what is left. -/
def takeDigits (cs : List Char) : List Char × List Char :=
  (cs.takeWhile Text.isAsciiDigit, cs.dropWhile Text.isAsciiDigit)

/-- The fraction of a number, if one begins here: its digits, and what is left. -/
def readFraction (cs : List Char) : Option (List Char) × List Char :=
  match cs with
  | '.' :: rest =>
      match takeDigits rest with
      | ([], _) => (none, cs)
      | (digits, left) => (some digits, left)
  | _ => (none, cs)

/-- The exponent of a number, if one begins here, and what is left. -/
def readExponent (cs : List Char) : Option Int × List Char :=
  match cs with
  | e :: rest =>
      if e = 'e' || e = 'E' then
        let (sign, digitsFrom) : Int × List Char := match rest with
          | '+' :: more => (1, more)
          | '-' :: more => (-1, more)
          | _ => (1, rest)
        match takeDigits digitsFrom with
        | ([], _) => (none, cs)
        | (digits, left) => (some (sign * (Text.natOfDigits digits : Int)), left)
      else (none, cs)
  | [] => (none, cs)

/-- The most digits an integer may have. -/
def digitLimit : Nat := 4300

/-- A number after its sign. -/
def readNumber (negative : Bool) (start : Nat) (cs : List Char) :
    Except Fault (Value × List Char) :=
  let (whole, afterWhole) := match cs with
    | '0' :: rest => (['0'], rest)
    | _ => takeDigits cs
  if whole = [] then .error (.at .value start)
  else
    let (fraction, afterFraction) := readFraction afterWhole
    let (exponent, left) := readExponent afterFraction
    match fraction, exponent with
    | none, none =>
        if digitLimit < whole.length then .error (.oversized whole.length)
        else
          let n : Int := Text.natOfDigits whole
          .ok (.int (if negative then -n else n), left)
    | _, _ =>
        let places := fraction.getD []
        .ok (.float (Double.ofDecimal negative (Text.natOfDigits (whole ++ places))
          (exponent.getD 0 - places.length)), left)

/-- A value that is a word or a number. -/
def readWord (cs : List Char) : Except Fault (Value × List Char) :=
  match cs with
  | 'n' :: 'u' :: 'l' :: 'l' :: rest => .ok (.null, rest)
  | 't' :: 'r' :: 'u' :: 'e' :: rest => .ok (.bool true, rest)
  | 'f' :: 'a' :: 'l' :: 's' :: 'e' :: rest => .ok (.bool false, rest)
  | 'N' :: 'a' :: 'N' :: rest => .ok (.float Double.notANumber, rest)
  | 'I' :: 'n' :: 'f' :: 'i' :: 'n' :: 'i' :: 't' :: 'y' :: rest =>
      .ok (.float (Double.infinity false), rest)
  | '-' :: 'I' :: 'n' :: 'f' :: 'i' :: 'n' :: 'i' :: 't' :: 'y' :: rest =>
      .ok (.float (Double.infinity true), rest)
  | '-' :: rest => readNumber true cs.length rest
  | _ => readNumber false cs.length cs

mutual

/-- A value inside of some lists and mappings, and what is left after it; no more than `limit`
lists and mappings may stand inside of each other. -/
def readValue (limit : Nat) : (fuel : Nat) → (nesting : Nat) → List Char →
    Except Fault (Value × List Char)
  | 0, _, cs => .error (.at .value cs.length)
  | fuel + 1, nesting, cs =>
      match cs with
      | '"' :: rest => (readText cs.length rest).map fun r => (.str r.1, r.2)
      | '[' :: rest =>
          if limit ≤ nesting then .error (.nested true)
          else
            match skipSpace rest with
            | ']' :: left => .ok (.list [], left)
            | left => (readItems limit fuel (nesting + 1) left).map fun r => (.list r.1, r.2)
      | '\x7b' :: rest =>
          if limit ≤ nesting then .error (.nested false)
          else
            match skipSpace rest with
            | '\x7d' :: left => .ok (.map [], left)
            | left =>
                (readMembers limit fuel (nesting + 1) left).map fun r =>
                  (.map (Entries.ofPairs r.1), r.2)
      | _ => readWord cs

/-- The members of a list up to its closing bracket. -/
def readItems (limit : Nat) : (fuel : Nat) → (nesting : Nat) → List Char →
    Except Fault (List Value × List Char)
  | 0, _, cs => .error (.at .value cs.length)
  | fuel + 1, nesting, cs =>
      match readValue limit fuel nesting cs with
      | .error e => .error e
      | .ok (v, afterValue) =>
          match skipSpace afterValue with
          | ']' :: left => .ok ([v], left)
          | ',' :: more =>
              (readItems limit fuel nesting (skipSpace more)).map fun r => (v :: r.1, r.2)
          | left => .error (.at .comma left.length)

/-- The entries of a mapping up to its closing brace. -/
def readMembers (limit : Nat) : (fuel : Nat) → (nesting : Nat) → List Char →
    Except Fault (List (Scalar × Value) × List Char)
  | 0, _, cs => .error (.at .propertyName cs.length)
  | fuel + 1, nesting, cs =>
      match cs with
      | '"' :: rest =>
          match readText cs.length rest with
          | .error e => .error e
          | .ok (key, afterKey) =>
              match skipSpace afterKey with
              | ':' :: more =>
                  match readValue limit fuel nesting (skipSpace more) with
                  | .error e => .error e
                  | .ok (v, afterValue) =>
                      let entry := (Scalar.str key, v)
                      match skipSpace afterValue with
                      | '\x7d' :: left => .ok ([entry], left)
                      | ',' :: more =>
                          (readMembers limit fuel nesting (skipSpace more)).map fun r =>
                            (entry :: r.1, r.2)
                      | left => .error (.at .comma left.length)
              | left => .error (.at .colon left.length)
      | _ => .error (.at .propertyName cs.length)

end

/-- A whole JSON text as a value. -/
def readChars (limit : Nat) (cs : List Char) : Except Fault Value :=
  if cs.head? = some (Char.ofNat 0xfeff) then .error (.at .byteOrderMark cs.length)
  else
    match readValue limit (2 * cs.length + 1) 0 (skipSpace cs) with
    | .error e => .error e
    | .ok (v, left) =>
        match skipSpace left with
        | [] => .ok v
        | rest => .error (.at .extraData rest.length)

/-- A whole JSON text as a value in which no more lists and mappings stand inside of each other
than the limit says. -/
def readWithin (limit : Nat) (s : String) : Except Fault Value :=
  readChars limit s.toList

/-- A whole JSON text as a value. -/
def read [DepthLimits] (s : String) : Except Fault Value :=
  readWithin DepthLimits.reading s

/-- The line, column and offset of the place at which `left` characters are left
of a text. -/
def place (cs : List Char) (left : Nat) : Nat × Nat × Nat :=
  let before := cs.take (cs.length - left)
  let line := before.count '\n' + 1
  let column := (before.reverse.takeWhile (· ≠ '\n')).length + 1
  (line, column, before.length)

/-- A fault with its place in the text. -/
def Fault.message (text : String) : Fault → String
  | .at kind left =>
      let (line, column, offset) := place text.toList left
      kind.title ++ ": line " ++ Nat.repr line ++ " column " ++ Nat.repr column ++
        " (char " ++ Nat.repr offset ++ ")"
  | .oversized digits =>
      "Exceeds the limit (" ++ Nat.repr digitLimit ++
        " digits) for integer string conversion: value has " ++ Nat.repr digits ++
        " digits; use sys.set_int_max_str_digits() to increase the limit"
  | .nested inList =>
      "maximum recursion depth exceeded while decoding a JSON " ++
        (if inList then "array" else "object") ++ " from a unicode string"

end Json
end Homelab
