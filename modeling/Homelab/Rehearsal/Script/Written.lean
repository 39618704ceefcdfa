import Homelab.Rehearsal.Script.Quantity
import Homelab.Text.LetterCase

/-!
# Written numbers

The texts of a number with a fraction: with a fixed number of places, with a power of
ten, the shorter one of the two, and to the base sixteen.  They are exact up to the last
digit, which is rounded to the nearest one, a tie to the even one.
-/

namespace Homelab
namespace Script
namespace Written

/-- A mantissa times a power of two, as a fraction. -/
def ratio (m : Nat) (q : Int) : Nat × Nat := (m * Nat.pow 2 q.toNat, Nat.pow 2 (-q).toNat)

/-- Digits up to a length, with zeros in front. -/
def filled (length : Nat) (digits : List Char) : List Char :=
  List.replicate (length - digits.length) '0' ++ digits

/-- A whole part and the places behind it; the point stands if there are places, or if it
is asked for. -/
def pointed (marked : Bool) (whole places : List Char) : List Char :=
  if places.isEmpty && !marked then whole else whole ++ '.' :: places

/-- Places without the zeros at their end. -/
def trimmed (places : List Char) : List Char := (places.reverse.dropWhile (· = '0')).reverse

/-- The digits of a decimal with a number of places, in front of the point and behind it. -/
def places (m : Nat) (q : Int) (count : Nat) : List Char × List Char :=
  let (num, den) := ratio m q
  let scaled := Double.roundDiv (num * Nat.pow 10 count) den
  let digits := filled (count + 1) (Nat.repr scaled).toList
  digits.splitAt (digits.length - count)

/-- The digits of a number, one in front of the point and the given number behind it, and
the power of ten that they are taken times. -/
def scientific (m : Nat) (q : Int) (count : Nat) : (List Char × List Char) × Int :=
  let (num, den) := ratio m q
  let scaled (e : Int) : Nat :=
    let shift : Int := (count : Int) - e
    Double.roundDiv (num * Nat.pow 10 shift.toNat) (den * Nat.pow 10 (-shift).toNat)
  if m = 0 then ((['0'], List.replicate count '0'), 0)
  else
    let guess : Int := ((Nat.repr num).length : Int) - (Nat.repr den).length
    let e := if num * Nat.pow 10 (-guess).toNat < den * Nat.pow 10 guess.toNat then guess - 1 else guess
    let digits := (Nat.repr (scaled e)).toList
    if digits.length = count + 1 then (digits.splitAt 1, e)
    else ((Nat.repr (scaled (e + 1))).toList.splitAt 1, e + 1)

/-- A power behind a number, with at least the given number of digits. -/
def powerText (letter : Char) (length : Nat) (e : Int) : List Char :=
  letter :: (if e < 0 then '-' else '+') :: filled length (Nat.repr e.natAbs).toList

/-- A number with a power of ten, or with places: as is shorter.  Zeros at the end are
left away unless the form is marked. -/
def shorter (marked : Bool) (m : Nat) (q : Int) (count : Nat) : List Char :=
  let count := max count 1
  let kept (digits : List Char × List Char) :=
    pointed marked digits.1 (if marked then digits.2 else trimmed digits.2)
  let (digits, e) := scientific m q (count - 1)
  if e < (count : Int) && -4 ≤ e then kept (places m q ((count : Int) - 1 - e).toNat)
  else kept digits ++ powerText 'e' 2 e

/-- A mantissa to the base sixteen, and the power of two that it is taken times; without
a number of places there are as many as are needed. -/
def hexadecimal (f : Fineness) (marked : Bool) (m : Nat) (q : Int) (count : Option Nat) : List Char :=
  let all := f.behindPoint / 4
  let kept := count.getD all
  let scaled :=
    if kept < all then Double.roundDiv m (Nat.pow 16 (all - kept)) else m * Nat.pow 16 (kept - all)
  let whole := scaled / Nat.pow 16 kept
  let (whole, carry) : Nat × Int := if whole = 16 then (1, 4) else (whole, 0)
  let digits := filled kept (if kept = 0 then [] else Nat.toDigits 16 (scaled % Nat.pow 16 kept))
  pointed marked (Nat.toDigits 16 whole) (if count.isNone then trimmed digits else digits) ++
    powerText 'p' 1 (q + f.behindPoint + carry)

end Written
end Script
end Homelab
