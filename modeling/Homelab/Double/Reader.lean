import Homelab.Double
import Homelab.Text.LetterCase
import Homelab.Text.Lines

/-!
# Reading decimal numbers

The text of a number with a fraction: a sign, digits with at most one point and
at least one digit around it, and an exponent; or the name of an infinity or of
the value that is not a number, in any letter case.
-/

namespace Homelab
namespace Double

/-- The exponent of a decimal, from its mark on; no text stands for zero. -/
def exponent? (cs : List Char) : Option Int :=
  match cs with
  | [] => some 0
  | e :: rest =>
      if e = 'e' || e = 'E' then
        let (negative, digits) : Bool × List Char := match rest with
          | '+' :: more => (false, more)
          | '-' :: more => (true, more)
          | _ => (false, rest)
        if digits.isEmpty || !digits.all Text.isAsciiDigit then none
        else
          let n : Int := Text.natOfDigits digits
          some (if negative then -n else n)
      else none

/-- A decimal without its sign. -/
def unsigned? (negative : Bool) (cs : List Char) : Option Double :=
  let word := String.ofList (cs.map Text.asciiLower)
  if word = "inf" || word = "infinity" then some (infinity negative)
  else if word = "nan" then some notANumber
  else
    let whole := cs.takeWhile Text.isAsciiDigit
    let behind := cs.dropWhile Text.isAsciiDigit
    let (places, tail) := match behind with
      | '.' :: rest => (rest.takeWhile Text.isAsciiDigit, rest.dropWhile Text.isAsciiDigit)
      | _ => ([], behind)
    if whole.isEmpty && places.isEmpty then none
    else
      (exponent? tail).map fun e =>
        ofDecimal negative (Text.natOfDigits (whole ++ places)) (e - places.length)

/-- The number that a text writes. -/
def read? (cs : List Char) : Option Double :=
  match cs with
  | '+' :: rest => unsigned? false rest
  | '-' :: rest => unsigned? true rest
  | _ => unsigned? false cs

end Double
end Homelab
