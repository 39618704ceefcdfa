import Homelab.Text.Digit

/-!
# Binary floating-point numbers

Numbers with a fraction are IEEE binary64, kept as their 64 bits, so that
equality is decidable and negative zero stays apart from zero.  Reading a
decimal rounds to the nearest number, a tie to the even one.  Writing picks the
fewest digits that read back as the same number, and of those the nearest; all
arithmetic is exact, on natural numbers.
-/

namespace Homelab

/-- A binary64 number, by its bits. -/
structure Double where
  /-- sign, exponent and fraction, from the highest bit down -/
  bits : UInt64
deriving DecidableEq, Inhabited

namespace Double

/-- The bits of positive infinity. -/
def infinityBits : Nat := 0x7ff * Nat.pow 2 52

/-- The number with the given sign and the given bits below the sign. -/
def ofParts (negative : Bool) (magnitude : Nat) : Double :=
  ⟨UInt64.ofNat ((if negative then Nat.pow 2 63 else 0) + magnitude)⟩

/-- Zero with a sign. -/
def zero (negative : Bool) : Double := ofParts negative 0

/-- Infinity with a sign. -/
def infinity (negative : Bool) : Double := ofParts negative infinityBits

/-- The value that is not a number. -/
def notANumber : Double := ofParts false (infinityBits + Nat.pow 2 51)

/-- The sign bit. -/
def negative (x : Double) : Bool := Nat.pow 2 63 ≤ x.bits.toNat

/-- The bits below the sign. -/
def magnitude (x : Double) : Nat := x.bits.toNat % Nat.pow 2 63

/-- The place of a number among all numbers: of two, the lower has the lower
rank, and both zeros have one. -/
def rank (x : Double) : Int := if x.negative then -(x.magnitude : Int) else x.magnitude

/-- Not a number. -/
def isNaN (x : Double) : Bool := infinityBits < x.magnitude

/-- One of the two infinities. -/
def isInfinite (x : Double) : Bool := x.magnitude == infinityBits

/-- A number with a finite value. -/
def isFinite (x : Double) : Bool := x.magnitude < infinityBits

/-- Zero of either sign. -/
def isZero (x : Double) : Bool := x.magnitude == 0

/-- The value of a finite number without its sign: it is `m` times two to the
power `q`. -/
def mantissaExponent (x : Double) : Nat × Int :=
  let exponent : Nat := x.magnitude / Nat.pow 2 52
  let fraction : Nat := x.magnitude % Nat.pow 2 52
  if exponent = 0 then (fraction, -1074) else (Nat.pow 2 52 + fraction, (exponent : Int) - 1075)

/-- The quotient rounded to the nearest integer, a tie to the even one. -/
def roundDiv (num den : Nat) : Nat :=
  let q := num / den
  let r := num % den
  if 2 * r < den then q
  else if den < 2 * r then q + 1
  else if q % 2 = 0 then q else q + 1

/-- The number nearest to a positive fraction. -/
def ofRatio (negative : Bool) (num den : Nat) : Double :=
  if num = 0 then zero negative
  else
    let guess : Int := (Nat.log2 num : Int) - Nat.log2 den
    -- the power of two just below the value
    let low : Int :=
      if guess ≥ 0 then (if den * Nat.pow 2 guess.toNat ≤ num then guess else guess - 1)
      else (if den ≤ num * Nat.pow 2 (-guess).toNat then guess else guess - 1)
    let scale : Int := max (low - 52) (-1074)
    let rounded :=
      if scale ≥ 0 then roundDiv num (den * Nat.pow 2 scale.toNat)
      else roundDiv (num * Nat.pow 2 (-scale).toNat) den
    let magnitude := (scale + 1074).toNat * Nat.pow 2 52 + rounded
    ofParts negative (min magnitude infinityBits)

/-- The number of decimal digits of a natural number; zero has none. -/
def digitCount (n : Nat) : Nat :=
  if n = 0 then 0 else digitCount (n / 10) + 1
termination_by n
decreasing_by omega

/-- The number nearest to `m` times ten to the power `e`.  Far outside the range
of the format the exponent alone decides. -/
def ofDecimal (negative : Bool) (m : Nat) (e : Int) : Double :=
  if m = 0 then zero negative
  else
    let top := (digitCount m : Int) + e
    if top > 320 then infinity negative
    else if top < -340 then zero negative
    else if e ≥ 0 then ofRatio negative (m * Nat.pow 10 e.toNat) 1
    else ofRatio negative m (Nat.pow 10 (-e).toNat)

/-- The number nearest to an integer. -/
def ofInt (n : Int) : Double := ofRatio (n < 0) n.natAbs 1

/-- The integer that a number is, if it has no fraction. -/
def toInt? (x : Double) : Option Int :=
  if x.isFinite then
    let (m, q) := x.mantissaExponent
    let sign : Int := if x.negative then -1 else 1
    if q ≥ 0 then some (sign * (m * Nat.pow 2 q.toNat : Nat))
    else
      let unit := Nat.pow 2 (-q).toNat
      if m % unit = 0 then some (sign * (m / unit : Nat)) else none
  else none

/-- The integer part of a finite number. -/
def truncate (x : Double) : Int :=
  let (m, q) := x.mantissaExponent
  let size : Nat := if q ≥ 0 then m * Nat.pow 2 q.toNat else m / Nat.pow 2 (-q).toNat
  if x.negative then -(size : Int) else size

/-! ### The fewest digits -/

/-- The least `t` of at most `fuel` steps with `den ≤ num * 10 ^ t`. -/
def leadingZeros (den : Nat) : (fuel : Nat) → Nat → Nat
  | 0, _ => 0
  | fuel + 1, num => if den ≤ num then 0 else leadingZeros den fuel (num * 10) + 1

/-- The exponent `e` such that a positive fraction lies from `10 ^ (e - 1)` up to
below `10 ^ e`. -/
def decimalExponent (num den : Nat) : Int :=
  if den ≤ num then digitCount (num / den)
  else 1 - (leadingZeros den 400 num : Int)

/-- The decimals of `n` digits next to a value, tried for growing `n`: the first
grid that has a point in the interval from `low` to `high` wins.  Numerators are
over the common denominator `den`; the result is a mantissa and a power of ten. -/
def firstGrid (low value high den : Nat) (closed : Bool) (exponent : Int) :
    (left : Nat) → (n : Nat) → Nat × Int
  | 0, n => (roundDiv (value * Nat.pow 10 n) den, -n)
  | left + 1, n =>
      let unit : Int := exponent - n
      -- the value, the interval and the step of the grid, scaled to integers
      let up := Nat.pow 10 (-unit).toNat
      let step := den * Nat.pow 10 unit.toNat
      let below := value * up / step
      let above := below + 1
      let inside (k : Nat) : Bool :=
        if closed then low * up ≤ k * step && k * step ≤ high * up
        else low * up < k * step && k * step < high * up
      let toBelow := value * up - below * step
      let toAbove := above * step - value * up
      match inside below, inside above with
      | true, true =>
          if toBelow < toAbove || (toBelow == toAbove && below % 2 == 0) then (below, unit)
          else (above, unit)
      | true, false => (below, unit)
      | false, true => (above, unit)
      | false, false => firstGrid low value high den closed exponent left (n + 1)

/-- A mantissa without its final zeros, and the power of ten that goes with it. -/
def dropZeros (m : Nat) (e : Int) : Nat × Int :=
  if h : m = 0 ∨ m % 10 ≠ 0 then (m, e) else dropZeros (m / 10) (e + 1)
termination_by m
decreasing_by omega

/-- The shortest decimal that reads back as a finite positive number, nearest to
it among those, as a mantissa and a power of ten. -/
def shortest (x : Double) : Nat × Int :=
  let (m, q) := x.mantissaExponent
  let up := Nat.pow 2 (q - 2).toNat
  let den := Nat.pow 2 (2 - q).toNat
  let lowGap := if m = Nat.pow 2 52 && q > -1074 then 1 else 2
  let value := 4 * m * up
  let found := firstGrid ((4 * m - lowGap) * up) value ((4 * m + 2) * up) den (m % 2 == 0)
    (decimalExponent value den) 17 1
  dropZeros found.1 found.2

/-- The digits of a decimal with the point put in: from `0.0001` up to sixteen
digits before the point it is written out, beyond that with an exponent of at
least two digits. -/
def layout (m : Nat) (e : Int) : String :=
  let digits := (Nat.repr m).toList
  let point : Int := digits.length + e
  if -4 < point && point ≤ 16 then
    if point ≤ 0 then
      String.ofList ('0' :: '.' :: List.replicate (-point).toNat '0' ++ digits)
    else if (digits.length : Int) ≤ point then
      String.ofList (digits ++ List.replicate (point - digits.length).toNat '0' ++ ['.', '0'])
    else
      String.ofList (digits.take point.toNat ++ '.' :: digits.drop point.toNat)
  else
    let power := point - 1
    let body := match digits with
      | [] => []
      | [d] => [d]
      | d :: rest => d :: '.' :: rest
    let size := (Nat.repr power.natAbs).toList
    let padded := if size.length < 2 then '0' :: size else size
    String.ofList (body ++ 'e' :: (if power < 0 then '-' else '+') :: padded)

/-- The text of a number. -/
def text (x : Double) : String :=
  if x.isNaN then "nan"
  else
    let sign := if x.negative then "-" else ""
    if x.isInfinite then sign ++ "inf"
    else if x.isZero then sign ++ "0.0"
    else
      let (m, e) := x.shortest
      sign ++ layout m e

end Double
end Homelab
