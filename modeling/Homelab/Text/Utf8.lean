import Homelab.Text.Digit

/-!
# Text stored as bytes

UTF-8: a character takes one to four bytes, each character the fewest it can, and
the numbers of surrogates stand for no character.  Bytes that follow no such pattern
are refused, with the place of the first of them and what is wrong there.
-/

namespace Homelab
namespace Text

/-- What is wrong with bytes that are no text. -/
inductive ByteFaultKind where
  | startByte
  | continuationByte
  | endOfData
deriving DecidableEq

/-- The words for what is wrong. -/
def ByteFaultKind.title : ByteFaultKind → String
  | startByte => "invalid start byte"
  | continuationByte => "invalid continuation byte"
  | endOfData => "unexpected end of data"

/-- Bytes that are no text: where they begin, which they are, and what is wrong. -/
structure ByteFault where
  position : Nat
  bytes : List UInt8
  kind : ByteFaultKind
deriving DecidableEq

/-- The sentence about bytes that are no text. -/
def ByteFault.message (f : ByteFault) : String :=
  let place := match f.bytes with
    | [b] =>
        "byte 0x" ++ String.ofList (hexDigits 2 b.toNat) ++ " in position " ++ toString f.position
    | bs =>
        "bytes in position " ++ toString f.position ++ "-" ++
          toString (f.position + bs.length - 1)
  "'utf-8' codec can't decode " ++ place ++ ": " ++ f.kind.title

/-- The bytes of a character. -/
def charBytes (c : Char) : List UInt8 :=
  let n := c.toNat
  let more (k : Nat) : UInt8 := UInt8.ofNat (0x80 + n / Nat.pow 64 k % 64)
  if n < 0x80 then [UInt8.ofNat n]
  else if n < 0x800 then [UInt8.ofNat (0xc0 + n / 64), more 0]
  else if n < 0x10000 then [UInt8.ofNat (0xe0 + n / Nat.pow 64 2), more 1, more 0]
  else [UInt8.ofNat (0xf0 + n / Nat.pow 64 3), more 2, more 1, more 0]

/-- The bytes of a text. -/
def toBytes (cs : List Char) : List UInt8 := cs.flatMap charBytes

/-- A byte that carries six bits of a character begun before it. -/
def isContinuation (b : UInt8) : Bool := 0x80 ≤ b.toNat && b.toNat < 0xc0

/-- The number of bytes of a character by its first byte. -/
def sequenceLength? (b : UInt8) : Option Nat :=
  if b.toNat < 0x80 then some 1
  else if b.toNat < 0xc2 then none
  else if b.toNat < 0xe0 then some 2
  else if b.toNat < 0xf0 then some 3
  else if b.toNat < 0xf5 then some 4
  else none

/-- The second byte of a character: it decides whether fewer bytes would do, and
whether the number is one of a surrogate or too high. -/
def isSecond (first second : UInt8) : Bool :=
  isContinuation second &&
    (first != 0xe0 || 0xa0 ≤ second.toNat) && (first != 0xed || second.toNat < 0xa0) &&
    (first != 0xf0 || 0x90 ≤ second.toNat) && (first != 0xf4 || second.toNat < 0x90)

/-- The bits that a character's bytes carry. -/
def sequenceValue : List UInt8 → Nat
  | [a] => a.toNat
  | [a, b] => (a.toNat - 0xc0) * 64 + (b.toNat - 0x80)
  | [a, b, c] => ((a.toNat - 0xe0) * 64 + (b.toNat - 0x80)) * 64 + (c.toNat - 0x80)
  | [a, b, c, d] =>
      (((a.toNat - 0xf0) * 64 + (b.toNat - 0x80)) * 64 + (c.toNat - 0x80)) * 64 +
        (d.toNat - 0x80)
  | _ => 0

/-- The number of bytes, after the first, that continue a character of the given
length. -/
def goodBytes (first : UInt8) (length : Nat) (rest : List UInt8) : Nat :=
  match rest with
  | [] => 0
  | second :: more =>
      if length ≤ 1 then 0
      else if isSecond first second then
        1 + ((more.take (length - 2)).takeWhile isContinuation).length
      else 0

/-- Bytes as text, read from the given position on: the characters as far as there are
any, and what is wrong behind them. -/
def decodeFrom (position : Nat) : List UInt8 → List Char × Option ByteFault
  | [] => ([], none)
  | first :: rest =>
      match sequenceLength? first with
      | none => ([], some ⟨position, [first], .startByte⟩)
      | some length =>
          let good := goodBytes first length rest
          if good + 1 = length then
            let (cs, fault) := decodeFrom (position + length) (rest.drop good)
            (Char.ofNat (sequenceValue (first :: rest.take good)) :: cs, fault)
          else if rest.length = good then ([], some ⟨position, first :: rest, .endOfData⟩)
          else ([], some ⟨position, first :: rest.take good, .continuationByte⟩)
termination_by bytes => bytes.length
decreasing_by
  simp only [List.length_cons, List.length_drop]
  omega

/-- Bytes as text. -/
def decode (bytes : List UInt8) : Except ByteFault String :=
  match decodeFrom 0 bytes with
  | (cs, none) => .ok (String.ofList cs)
  | (_, some fault) => .error fault

/-- The text that bytes are, if they are one. -/
def ofBytes? (bytes : List UInt8) : Option String :=
  (decode bytes).toOption

end Text
end Homelab
