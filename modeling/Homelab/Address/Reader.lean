import Homelab.Address
import Homelab.Text.Quoted

/-!
# Reading addresses

An address of version 4 is four octets in decimal, none with a leading zero.  One
of version 6 is eight groups of up to four hexadecimal digits; a double colon
stands for the groups that are missing, the last two groups may be written as a
version 4 address, and the name of a zone may follow after a percent sign.

An interface may carry a length after a slash: a number of bits or, in version 4,
a mask whose one bits all come first or all come last.  A subnet is written like
an interface.
-/

namespace Homelab

/-- What a text was meant to be. -/
inductive AddressKind where
  | address
  | interface
  | network
deriving DecidableEq

namespace AddressKind

/-- The word of messages. -/
def title : AddressKind → String
  | address => "address"
  | interface => "interface"
  | network => "network"

end AddressKind

/-- The message for a text that is no address, interface or subnet. -/
def notAnAddress (kind : AddressKind) (s : String) : String :=
  Text.quoted s ++ " does not appear to be an IPv4 or IPv6 " ++ kind.title

namespace Address

/-- One octet: up to three digits, without a leading zero, at most 255. -/
def octet? (cs : List Char) : Option Nat :=
  if cs.isEmpty || !cs.all Text.isAsciiDigit || 3 < cs.length then none
  else if cs.head? = some '0' && cs.length ≠ 1 then none
  else
    let n := Text.natOfDigits cs
    if n ≤ 255 then some n else none

/-- The number of four octets. -/
def readV4? (cs : List Char) : Option Nat :=
  match (Text.fields '.' cs).mapM octet? with
  | some [a, b, c, d] => some (((a * 256 + b) * 256 + c) * 256 + d)
  | _ => none

/-- One group: one to four hexadecimal digits. -/
def group? (cs : List Char) : Option Nat :=
  if cs.isEmpty || !cs.all Text.isHexDigit || 4 < cs.length then none
  else some (Text.natOfBase 16 cs)

/-- The last two groups may be a version 4 address. -/
def splitTail? (parts : List (List Char)) : Option (List (List Char)) :=
  match parts.getLast? with
  | some last =>
      if last.contains '.' then
        (readV4? last).map fun n =>
          parts.dropLast ++ [hexText (n / 65536), hexText (n % 65536)]
      else some parts
  | none => some parts

/-- A gap at the end of the text has an empty piece beside it. -/
def trimEdge (parts : List (List Char)) : List (List Char) :=
  if parts = [[]] then [] else parts

/-- The number of groups, the highest first. -/
def ofGroups (gs : List Nat) : Nat :=
  gs.foldl (fun n g => n * 65536 + g) 0

/-- The place of the first empty piece that is neither the first nor the last. -/
def gap? (parts : List (List Char)) : Option Nat :=
  (parts.dropLast.drop 1).findIdx? List.isEmpty |>.map (· + 1)

/-- The eight groups of a version 6 address. -/
def groups? (parts : List (List Char)) : Option (List Nat) :=
  match gap? parts with
  | none => if parts.length = 8 then parts.mapM group? else none
  | some k =>
      match (trimEdge (parts.take k)).mapM group?, (trimEdge (parts.drop (k + 1))).mapM group? with
      | some before, some behind =>
          if before.length + behind.length ≤ 7 then
            some (before ++ List.replicate (8 - before.length - behind.length) 0 ++ behind)
          else none
      | _, _ => none

/-- A version 6 address without its zone: the zone is not empty and holds no
further percent sign. -/
def dropZone? (cs : List Char) : Option (List Char) :=
  match Text.cut? '%' cs with
  | none => some cs
  | some (before, zone) => if zone.isEmpty || zone.contains '%' then none else some before

/-- The number of a version 6 address. -/
def readV6? (cs : List Char) : Option Nat := do
  let plain ← dropZone? cs
  let parts := Text.fields ':' plain
  if parts.length < 3 then none
  else
    let parts ← splitTail? parts
    (← groups? parts) |> ofGroups |> some

/-- An address of either family. -/
def readChars? (cs : List Char) : Option Address :=
  match readV4? cs with
  | some n => some ⟨.v4, n⟩
  | none => if cs.contains '/' then none else (readV6? cs).map fun n => ⟨.v6, n⟩

/-- An address of either family. -/
def read? (s : String) : Option Address :=
  readChars? s.toList

end Address

namespace Interface

/-- A number of bits in decimal, at most the width of the family. -/
def bitLength? (family : Family) (cs : List Char) : Option Nat :=
  if cs.isEmpty || !cs.all Text.isAsciiDigit then none
  else
    let n := Text.natOfDigits cs
    if n ≤ family.bits then some n else none

/-- The number of leading one bits of a version 4 mask in which no one bit follows
a zero bit. -/
def maskLength? (mask : Nat) : Option Nat :=
  (List.range 33).find? fun n => mask = Nat.pow 2 32 - Nat.pow 2 (32 - n)

/-- The length that stands after the slash. -/
def length? (family : Family) (cs : List Char) : Option Nat :=
  match bitLength? family cs with
  | some n => some n
  | none =>
      match family with
      | .v6 => none
      | .v4 =>
          match Address.readV4? cs with
          | none => none
          | some mask =>
              match maskLength? mask with
              | some n => some n
              | none => maskLength? (Nat.pow 2 32 - 1 - mask)

/-- An interface or subnet; without a slash the length is the full width. -/
def readChars? (cs : List Char) : Option Interface :=
  match Text.fields '/' cs with
  | [plain] => (Address.readChars? plain).map fun a => ⟨a, a.family.bits⟩
  | [plain, suffix] => do
      let a ← Address.readChars? plain
      let n ← length? a.family suffix
      some ⟨a, n⟩
  | _ => none

/-- An interface or subnet. -/
def read? (s : String) : Option Interface :=
  readChars? s.toList

end Interface

/-- The address part of a text that may carry a length after a slash. -/
def addressOf? (s : String) : Option Address :=
  (Interface.read? s).map Interface.address

/-- The length of a subnet; none if it carries no slash. -/
def subnetLength? (s : String) : Except String (Option Nat) :=
  if s.toList.contains '/' then
    match Interface.read? s with
    | some i => .ok (some i.length)
    | none => .error (notAnAddress .network s)
  else .ok none

end Homelab
