import Homelab.Text.Digit
import Homelab.Text.Lines

/-!
# Internet addresses

An address is a number of one of the two families: below `2 ^ 32` in version 4
and below `2 ^ 128` in version 6.  Addresses are compared by family and number.
The text of an address is canonical: four decimal octets, or eight groups of
hexadecimal digits in which the first longest run of at least two zero groups is
left out.

An interface is an address with the length of its network part; the subnet of an
interface holds the addresses that agree with it on that many leading bits.
-/

namespace Homelab

/-- The two versions of the internet protocol. -/
inductive Family where
  | v4
  | v6
deriving DecidableEq

namespace Family

/-- The number of bits of an address. -/
def bits : Family → Nat
  | v4 => 32
  | v6 => 128

/-- The number of the version. -/
def version : Family → Nat
  | v4 => 4
  | v6 => 6

end Family

/-- An address: a family and a number. -/
structure Address where
  family : Family
  number : Nat
deriving DecidableEq

namespace Address

/-- The four octets of a version 4 number, the highest first. -/
def octets (n : Nat) : List Nat :=
  [n / Nat.pow 2 24 % 256, n / Nat.pow 2 16 % 256, n / Nat.pow 2 8 % 256, n % 256]

/-- The eight groups of a version 6 number, the highest first. -/
def groups (n : Nat) : List Nat :=
  [n / Nat.pow 2 112 % 65536, n / Nat.pow 2 96 % 65536, n / Nat.pow 2 80 % 65536,
   n / Nat.pow 2 64 % 65536, n / Nat.pow 2 48 % 65536, n / Nat.pow 2 32 % 65536,
   n / Nat.pow 2 16 % 65536, n % 65536]

/-- The hexadecimal digits of a number, without leading zeros. -/
def hexText (n : Nat) : List Char :=
  Nat.toDigits 16 n

/-- Pieces with a mark between neighbours. -/
def joined (mark : Char) : List (List Char) → List Char
  | [] => []
  | [piece] => piece
  | piece :: rest => piece ++ mark :: joined mark rest

/-- The number of zeros at the beginning. -/
def zerosAhead (gs : List Nat) : Nat :=
  (gs.takeWhile (· == 0)).length

/-- The place and length of the first longest run of zeros. -/
def longestRun : List Nat → Nat × Nat
  | [] => (0, 0)
  | g :: rest =>
      let here := zerosAhead (g :: rest)
      let later := longestRun rest
      if later.2 ≤ here then (0, here) else (later.1 + 1, later.2)

/-- The text of eight groups. -/
def groupsText (gs : List Nat) : List Char :=
  let run := longestRun gs
  if run.2 < 2 then joined ':' (gs.map hexText)
  else
    joined ':' ((gs.take run.1).map hexText) ++ ':' :: ':' ::
      joined ':' ((gs.drop (run.1 + run.2)).map hexText)

/-- The canonical text of an address. -/
def text (a : Address) : String :=
  String.ofList <|
    match a.family with
    | .v4 => joined '.' ((octets a.number).map fun n => (Nat.repr n).toList)
    | .v6 => groupsText (groups a.number)

/-- Order by number; only addresses of one family are compared. -/
def le (a b : Address) : Bool := a.number ≤ b.number

end Address

/-- An address with the length of its network part. -/
structure Interface where
  address : Address
  length : Nat
deriving DecidableEq

namespace Interface

/-- The subnet of an interface holds an address of its family that agrees with it
on the leading bits. -/
def covers (subnet : Interface) (a : Address) : Bool :=
  let host := subnet.address.family.bits - subnet.length
  a.family == subnet.address.family &&
    a.number / Nat.pow 2 host == subnet.address.number / Nat.pow 2 host

end Interface
end Homelab
