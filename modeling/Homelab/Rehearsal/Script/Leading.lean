import Homelab.Rehearsal.Script.Quantity
import Homelab.Text.LetterCase
import Homelab.Text.Lines

/-!
# Numbers at the beginning of a text

Commands read a number as far as a text goes on with one, with blanks and a sign in
front of it; what they make of the rest is for them to say.  Integers are written to the
base ten, after a zero to the base eight, and after a zero and an `x` to the base sixteen.
-/

namespace Homelab
namespace Script

/-- A number at the beginning of a text: its value, what is left of the text, whether there
is one at all, and whether it was out of range.  If there is none, all is left. -/
structure Leading (α : Type) where
  value : α
  left : List Char
  isFound : Bool
  isOutOfRange : Bool

namespace Leading

/-- A blank that may stand in front of a number. -/
def isBlank (c : Char) : Bool := c = ' ' || (0x09 ≤ c.toNat && c.toNat ≤ 0x0d)

/-- A digit to the base eight. -/
def isOctal (c : Char) : Bool := '0' ≤ c && c ≤ '7'

/-- Whether a number is negative, and its text without blanks and the sign. -/
def signed (cs : List Char) : Bool × List Char :=
  match cs.dropWhile isBlank with
  | '-' :: rest => (true, rest)
  | '+' :: rest => (false, rest)
  | rest => (false, rest)

/-- A natural number, and what is left; none if there is no digit. -/
def natural? (cs : List Char) : Option (Nat × List Char) :=
  match cs with
  | '0' :: rest =>
      let (mark, digits) : Bool × List Char := match rest with
        | x :: digits => (x = 'x' || x = 'X', digits.takeWhile Text.isHexDigit)
        | [] => (false, [])
      if mark && !digits.isEmpty then some (Text.natOfBase 16 digits, rest.drop (digits.length + 1))
      else
        let digits := rest.takeWhile isOctal
        some (Text.natOfBase 8 digits, rest.drop digits.length)
  | _ =>
      let digits := cs.takeWhile Text.isAsciiDigit
      if digits.isEmpty then none else some (Text.natOfDigits digits, cs.drop digits.length)

/-- An integer of sixty-four bits with a sign; beyond the range it is the end of it. -/
def integer (cs : List Char) : Leading Int :=
  let (negative, rest) := signed cs
  match natural? rest with
  | none => ⟨0, cs, false, false⟩
  | some (n, left) =>
      let most := Nat.pow 2 63 - (if negative then 0 else 1)
      let size := min n most
      ⟨if negative then -(size : Int) else size, left, true, most < n⟩

/-- An integer of sixty-four bits without a sign; below zero it goes on from the end of
the range, and beyond the range it is the end of it. -/
def unsigned (cs : List Char) : Leading Nat :=
  let (negative, rest) := signed cs
  match natural? rest with
  | none => ⟨0, cs, false, false⟩
  | some (n, left) =>
      let size := Nat.pow 2 64
      if size ≤ n then ⟨size - 1, left, true, true⟩
      else ⟨if negative then (size - n) % size else n, left, true, false⟩

/-- The digits around a point, and what is left; none if there is no digit. -/
def digits? (isDigit : Char → Bool) (cs : List Char) : Option (List Char × List Char × List Char) :=
  let whole := cs.takeWhile isDigit
  let behind := cs.dropWhile isDigit
  let (places, left) := match behind with
    | '.' :: rest => (rest.takeWhile isDigit, rest.dropWhile isDigit)
    | _ => ([], behind)
  if whole.isEmpty && places.isEmpty then none else some (whole, places, left)

/-- The power behind a mark, and what is left; without digits there is none. -/
def power (mark : Char) (cs : List Char) : Int × List Char :=
  match cs with
  | c :: rest =>
      let (negative, digits) : Bool × List Char := match rest with
        | '-' :: more => (true, more)
        | '+' :: more => (false, more)
        | _ => (false, rest)
      let run := digits.takeWhile Text.isAsciiDigit
      if Text.asciiLower c = mark && !run.isEmpty then
        let n : Int := Text.natOfDigits run
        (if negative then -n else n, digits.drop run.length)
      else (0, cs)
  | [] => (0, [])

/-- A number to the base ten, or to the base sixteen with its mark in front. -/
def finite? (f : Fineness) (negative : Bool) (cs : List Char) : Option ((Quantity × Bool) × List Char) :=
  let hexadecimal := match cs with
    | '0' :: x :: rest => if x = 'x' || x = 'X' then digits? Text.isHexDigit rest else none
    | _ => none
  match hexadecimal with
  | some (whole, places, left) =>
      let (e, left) := power 'p' left
      let m := Text.natOfBase 16 (whole ++ places)
      some (f.ofBinary negative m (e - 4 * places.length), left)
  | none =>
      (digits? Text.isAsciiDigit cs).map fun (whole, places, left) =>
        let (e, left) := power 'e' left
        (f.ofDecimal negative (Text.natOfDigits (whole ++ places)) (e - places.length), left)

/-- What is left behind the words for what is not a number: letters and digits in brackets
belong to them. -/
def afterUndefined (cs : List Char) : List Char :=
  match cs with
  | '(' :: rest =>
      match rest.dropWhile fun c => c.isAlphanum || c = '_' with
      | ')' :: left => left
      | _ => cs
  | _ => cs

/-- A number with a fraction, an infinity, or what is not a number. -/
def quantity (f : Fineness) (cs : List Char) : Leading Quantity :=
  let (negative, rest) := signed cs
  let begins (word : String) : Bool := word.toList.isPrefixOf (rest.map Text.asciiLower)
  if begins "infinity" then ⟨.infinite negative, rest.drop 8, true, false⟩
  else if begins "inf" then ⟨.infinite negative, rest.drop 3, true, false⟩
  else if begins "nan" then ⟨.undefined negative, afterUndefined (rest.drop 3), true, false⟩
  else
    match finite? f negative rest with
    | some ((x, outside), left) => ⟨x, left, true, outside⟩
    | none => ⟨f.zero false, cs, false, false⟩

end Leading
end Script
end Homelab
