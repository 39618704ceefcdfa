import Homelab.Text.Blank
import Homelab.Text.Digit
import Homelab.Text.Quoted

/-!
# Integers as text

An integer is written in the digits of a base: with blanks around it, one sign at most,
a mark of the base in front of the digits, and single underscores between them.  The
digits may be those of any script.  In a base that is no power of two there is a limit
to their number.
-/

namespace Homelab
namespace Text

/-- Why a text is no integer. -/
inductive IntegerFault where
  | malformed
  | oversized (digits : Nat)
deriving DecidableEq

/-- The ASCII digit or blank that a character of another script stands for; all else
that is no ASCII stands for a character that no number has. -/
def asciiForm (c : Char) : Char :=
  if c.toNat < 127 then c
  else if isBlank c then ' '
  else
    match digitValue c with
    | some n => Char.ofNat ('0'.toNat + n)
    | none => '?'

/-- A text in ASCII digits and blanks. -/
def inAscii (cs : List Char) : List Char := cs.map asciiForm

/-- A blank that may stand around a number in ASCII. -/
def isNumberSpace (c : Char) : Bool :=
  c = ' ' || (0x09 ≤ c.toNat && c.toNat ≤ 0x0d)

/-- The letter that marks a base. -/
def isBaseMark (base : Nat) (c : Char) : Bool :=
  (base = 2 && (c = 'b' || c = 'B')) || (base = 8 && (c = 'o' || c = 'O')) ||
    (base = 16 && (c = 'x' || c = 'X'))

/-- The digits behind the mark of the base, if there is one; one underscore may stand
between them. -/
def afterBaseMark (base : Nat) (cs : List Char) : List Char :=
  match cs with
  | '0' :: mark :: rest =>
      if isBaseMark base mark then
        match rest with
        | '_' :: digits => digits
        | digits => digits
      else cs
  | _ => cs

/-- A digit of a base up to sixteen. -/
def isBaseDigit (base : Nat) (c : Char) : Bool := (hexValue c).any (· < base)

/-- Underscores stand between digits only, never two of them side by side. -/
def isSpaced : List Char → Bool
  | [] => true
  | ['_'] => false
  | '_' :: '_' :: _ => false
  | _ :: rest => isSpaced rest

/-- The most digits of a number in a base that is no power of two. -/
def digitLimit : Nat := 4300

/-- The number that begins a text, and nothing but blanks behind it. -/
def readNatural (base : Nat) (cs : List Char) : Except IntegerFault Nat :=
  let isPart (c : Char) : Bool := isBaseDigit base c || c = '_'
  let run := cs.takeWhile isPart
  let digits := run.filter (· ≠ '_')
  if run.head? = some '_' || !isSpaced run then .error .malformed
  else if base = 10 && digitLimit < digits.length then .error (.oversized digits.length)
  else if digits.isEmpty || !(cs.dropWhile isPart).all isNumberSpace then .error .malformed
  else .ok (natOfBase base digits)

/-- The integer that a text writes in a base. -/
def readInteger (base : Nat) (cs : List Char) : Except IntegerFault Int :=
  match (inAscii cs).dropWhile isNumberSpace with
  | '-' :: rest => (readNatural base (afterBaseMark base rest)).map fun n => -(n : Int)
  | '+' :: rest => (readNatural base (afterBaseMark base rest)).map fun n => (n : Int)
  | rest => (readNatural base (afterBaseMark base rest)).map fun n => (n : Int)

/-- The most characters of a text that a message shows. -/
def shownLength : Nat := 200

/-- The message about a text that is no integer; a long text is shown in part. -/
def IntegerFault.message (base : Nat) (cs : List Char) : IntegerFault → String
  | malformed =>
      "invalid literal for int() with base " ++ toString base ++ ": " ++
        String.ofList ((quoted (String.ofList cs)).toList.take shownLength)
  | oversized digits =>
      "Exceeds the limit (" ++ toString digitLimit ++
        " digits) for integer string conversion: value has " ++ toString digits ++
        " digits; use sys.set_int_max_str_digits() to increase the limit"

end Text
end Homelab
