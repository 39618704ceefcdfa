import Homelab.Text.Digit
import Homelab.Text.Lines

/-!
# What a text without quotes is

A text without quotes may be the empty value, a truth value, a number or a time.
Which it is follows from its form alone: truth values have six names in three letter
cases each, integers have four bases and may be written in sixtieths, and so may
numbers with a fraction; a time begins with a date.  Everything else is text.
-/

namespace Homelab
namespace Markup

/-- The kinds of values that nodes are read as. -/
inductive Kind where
  | null
  | bool
  | int
  | float
  | time
  | merge
  | default
  | str
  | bytes
  | list
  | map
  | set
  | pairs
  | unknown
deriving DecidableEq

namespace Plain

/-- The names of truth values. -/
def truthValue? (s : String) : Option Bool :=
  if ["yes", "Yes", "YES", "true", "True", "TRUE", "on", "On", "ON"].contains s then some true
  else if ["no", "No", "NO", "false", "False", "FALSE", "off", "Off", "OFF"].contains s then
    some false
  else none

/-- A digit or an underscore. -/
def isLoose (p : Char → Bool) (c : Char) : Bool := p c || c = '_'

/-- At least one character, all of a kind. -/
def some? (p : Char → Bool) (cs : List Char) : Bool := !cs.isEmpty && cs.all p

/-- A digit, and then digits and underscores. -/
def isDigits (cs : List Char) : Bool :=
  match cs with
  | c :: rest => Text.isAsciiDigit c && rest.all (isLoose Text.isAsciiDigit)
  | [] => false

/-- The text without the line end that it may have as its last character. -/
def line (cs : List Char) : List Char :=
  if cs.getLast? = some '\n' then cs.dropLast else cs

/-- The text without a sign in front. -/
def unsigned (cs : List Char) : List Char :=
  match cs with
  | '+' :: rest | '-' :: rest => rest
  | _ => cs

/-- A number of sixtieths. -/
def isSixtieth (cs : List Char) : Bool :=
  match cs with
  | [c] => Text.isAsciiDigit c
  | [c, d] => '0' ≤ c && c ≤ '5' && Text.isAsciiDigit d
  | _ => false

/-- An integer: to the base two, eight, ten or sixteen, or in sixtieths. -/
def isInteger (cs : List Char) : Bool :=
  match unsigned cs with
  | '0' :: 'b' :: rest => some? (isLoose fun c => c = '0' || c = '1') rest
  | '0' :: 'x' :: rest => some? (isLoose Text.isHexDigit) rest
  | ['0'] => true
  | '0' :: rest => some? (isLoose fun c => '0' ≤ c && c ≤ '7') rest
  | number =>
      match Text.fields ':' number with
      | whole :: parts => isDigits whole && parts.all isSixtieth
      | [] => false

/-- An exponent with a sign, or nothing. -/
def isExponent (cs : List Char) : Bool :=
  match cs with
  | [] => true
  | e :: sign :: digits =>
      (e = 'e' || e = 'E') && (sign = '+' || sign = '-') && some? Text.isAsciiDigit digits
  | _ => false

/-- A number with a point: digits on both sides of it, those after it or those before
it missing, with an exponent; or in sixtieths; or the name of an infinity or of the
value that is not a number. -/
def isFraction (cs : List Char) : Bool :=
  let number := unsigned cs
  let names := [".inf", ".Inf", ".INF"].map String.toList
  let notNumbers := [".nan", ".NaN", ".NAN"].map String.toList
  names.contains number || notNumbers.contains cs ||
    (match Text.cut? '.' number with
      | none => false
      | some (whole, rest) =>
          let places := rest.takeWhile (isLoose Text.isAsciiDigit)
          let tail := rest.dropWhile (isLoose Text.isAsciiDigit)
          if whole.isEmpty then number = cs && isDigits places && isExponent tail
          else
            match Text.fields ':' whole with
            | [digits] => isDigits digits && isExponent tail
            | first :: parts => isDigits first && parts.all isSixtieth && tail.isEmpty
            | [] => false)

end Plain
end Markup
end Homelab
