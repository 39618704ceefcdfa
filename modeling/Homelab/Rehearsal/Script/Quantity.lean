import Homelab.Double

/-!
# Numbers with a fraction, of any fineness

A number is a mantissa times a power of two.  How many bits a mantissa has and how far
the powers reach is the fineness of a kind of numbers; what lies between two of them
becomes the nearer one, a tie the even one.  What is too large for a kind is an infinity,
and the reader is told; so it is when digits are lost below the smallest normal number.
-/

namespace Homelab
namespace Script

/-- A number as it is computed with. -/
inductive Quantity where
  | finite (negative : Bool) (mantissa : Nat) (power : Int)
  | infinite (negative : Bool)
  | undefined (negative : Bool)
deriving DecidableEq

/-- The sign of a number. -/
def Quantity.negative : Quantity → Bool
  | finite negative _ _ | infinite negative | undefined negative => negative

/-- A kind of numbers: the bits of a mantissa, the least and the greatest power of two
that a mantissa is taken times, and how many of its bits stand behind the point when it
is written to the base sixteen. -/
structure Fineness where
  bits : Nat
  least : Int
  greatest : Int
  behindPoint : Nat
deriving DecidableEq

namespace Fineness

/-- Numbers of sixty-four bits. -/
def double : Fineness := ⟨53, -1074, 971, 52⟩

/-- Numbers of eighty bits. -/
def extended : Fineness := ⟨64, -16445, 16320, 60⟩

/-- Zero with a sign. -/
def zero (f : Fineness) (negative : Bool) : Quantity := .finite negative 0 (-(f.behindPoint : Int))

/-- A finite number; every zero has the same power. -/
def finite (f : Fineness) (negative : Bool) (mantissa : Nat) (power : Int) : Quantity :=
  if mantissa = 0 then f.zero negative else .finite negative mantissa power

/-- The power of two just below a positive fraction. -/
def floorLog (num den : Nat) : Int :=
  let guess : Int := (Nat.log2 num : Int) - Nat.log2 den
  if den * Nat.pow 2 guess.toNat ≤ num * Nat.pow 2 (-guess).toNat then guess else guess - 1

/-- The mantissa of a fraction that is taken times a power of two, and whether it is
exact. -/
def mantissa (num den : Nat) (power : Int) : Nat × Bool :=
  let num := num * Nat.pow 2 (-power).toNat
  let den := den * Nat.pow 2 power.toNat
  (Double.roundDiv num den, num % den = 0)

/-- The number nearest to a fraction, and whether it has left the range. -/
def ofRatio (f : Fineness) (negative : Bool) (num den : Nat) : Quantity × Bool :=
  if num = 0 then (f.zero negative, false)
  else
    let fitting := floorLog num den - (f.bits - 1 : Nat)
    let power := max fitting f.least
    let (m, exact) := mantissa num den power
    let isSmall := fitting < f.least &&
      !(fitting = f.least - 1 && (mantissa num den fitting).1 = Nat.pow 2 f.bits)
    let (m, power) := if m = Nat.pow 2 f.bits then (m / 2, power + 1) else (m, power)
    if f.greatest < power then (.infinite negative, true)
    else (f.finite negative m power, isSmall && !exact)

/-- The number nearest to a natural number. -/
def ofNat (f : Fineness) (n : Nat) : Quantity := (f.ofRatio false n 1).1

/-- The number nearest to `m` times a power of a base; `size` is how far the number may be
from one, as a power of the base, without being out of every range. -/
def ofPower (f : Fineness) (negative : Bool) (base size digits m : Nat) (e : Int) : Quantity × Bool :=
  if m = 0 then (f.zero negative, false)
  else
    let top := (digits : Int) + e
    if (size : Int) < top then (.infinite negative, true)
    else if top < -(size : Int) then (f.zero negative, true)
    else f.ofRatio negative (m * Nat.pow base e.toNat) (Nat.pow base (-e).toNat)

/-- The number nearest to `m` times ten to the power `e`. -/
def ofDecimal (f : Fineness) (negative : Bool) (m : Nat) (e : Int) : Quantity × Bool :=
  f.ofPower negative 10 5100 (Double.digitCount m) m e

/-- The number nearest to `m` times two to the power `e`. -/
def ofBinary (f : Fineness) (negative : Bool) (m : Nat) (e : Int) : Quantity × Bool :=
  f.ofPower negative 2 17000 (Nat.log2 m) m e

end Fineness
end Script
end Homelab
