import Homelab.Double.Reader
import Homelab.Double.Sum
import Homelab.Json.Reader
import Homelab.Markup.Node
import Homelab.Text.Integer
import Homelab.Text.Utf8

/-!
# Values of texts in markup

The value that a text has as one of a kind.  A text that has the kind by its form has
a value in nearly all cases; one that has it by a tag may have none, and then it is
refused.
-/

namespace Homelab
namespace Markup
namespace Scalar

/-- The text without underscores. -/
def joined (cs : List Char) : List Char := cs.filter (· ≠ '_')

/-- The integer of a text in a base. -/
def inBase (base : Nat) (cs : List Char) : Except Failure Int :=
  (Text.readInteger base cs).mapError fun fault => .value (fault.message base cs)

/-- An integer without its sign. -/
def unsignedInteger (cs : List Char) : Except Failure Int :=
  match cs with
  | [] => .error .emptyText
  | ['0'] => .ok 0
  | '0' :: 'b' :: rest => inBase 2 rest
  | '0' :: 'x' :: rest => inBase 16 rest
  | '0' :: _ => inBase 8 cs
  | _ =>
      if cs.contains ':' then
        ((Text.fields ':' cs).mapM (inBase 10)).map fun parts =>
          parts.foldl (fun n part => n * 60 + part) 0
      else inBase 10 cs

/-- The text begins with a minus sign. -/
def isNegative (cs : List Char) : Bool := cs.head? = some '-'

/-- An integer. -/
def integer (cs : List Char) : Except Failure Int :=
  let text := joined cs
  (unsignedInteger (Plain.unsigned text)).map fun n => if isNegative text then -n else n

/-- A number with a fraction and without sixtieths, with blanks around it. -/
def number (cs : List Char) : Except Failure Double :=
  let inside := (Text.inAscii cs).dropWhile Text.isNumberSpace
  match Double.read? (inside.reverse.dropWhile Text.isNumberSpace).reverse with
  | some x => .ok x
  | none =>
      .error (.value ("could not convert string to float: " ++ Text.quoted (String.ofList cs)))

/-- The number of some parts, the last one first, each of which counts for sixty of
those before it. -/
def sixtieths (sum : Double) (unit : Nat) : List Double → Except Failure Double
  | [] => .ok sum
  | x :: rest =>
      let size := Double.ofInt unit
      if size.isFinite then sixtieths (sum.plus (x.times size)) (unit * 60) rest
      else .error (.outOfRange "int too large to convert to float")

/-- A text in small letters. -/
def lowered (cs : List Char) : List Char := (Text.lower (String.ofList cs)).toList

/-- A number with a fraction. -/
def fraction (cs : List Char) : Except Failure Double :=
  let text := lowered (joined cs)
  let size := Plain.unsigned text
  let signed (x : Double) : Double := if isNegative text then x.negate else x
  if text.isEmpty then .error .emptyText
  else if size = ".inf".toList then .ok (signed (.infinity false))
  else if size = ".nan".toList then .ok .notANumber
  else if size.contains ':' then do
    let parts ← (Text.fields ':' size).mapM number
    return signed (← sixtieths (.zero false) 1 parts.reverse)
  else (number size).map signed

/-- The name of the value that is not a number. -/
def namesNaN (cs : List Char) : Bool := Plain.unsigned (lowered (joined cs)) = ".nan".toList

/-- A truth value by its name in any letter case. -/
def truthValue (cs : List Char) : Except Failure Bool :=
  let name := String.ofList (lowered cs)
  match Plain.truthValue? name with
  | some b => .ok b
  | none => .error (.missingKey name)

/-- A time. -/
def time (cs : List Char) : Except Failure Homelab.Scalar :=
  match Time.form? (Plain.line cs) with
  | some f => Time.value f
  | none => .error (.noSuchMember "'NoneType' object has no attribute 'groupdict'")

/-- The six bits that a character stands for. -/
def sextet? (c : Char) : Option Nat :=
  if 'A' ≤ c && c ≤ 'Z' then some (c.toNat - 'A'.toNat)
  else if 'a' ≤ c && c ≤ 'z' then some (c.toNat - 'a'.toNat + 26)
  else if Text.isAsciiDigit c then some (c.toNat - '0'.toNat + 52)
  else if c = '+' then some 62
  else if c = '/' then some 63
  else none

/-- Bytes written with four characters for three of them: `held` are the characters of
a group that have been read, the last one first, and `pads` counts the padding after
them.  Other characters are passed over. -/
def bytesFrom (held : List Nat) (pads : Nat) : List Char → Option (List UInt8)
  | [] => if held.isEmpty then some [] else none
  | c :: rest =>
      if c = '=' then
        if 2 ≤ held.length then
          if 4 ≤ held.length + pads + 1 then some [] else bytesFrom held (pads + 1) rest
        else bytesFrom held pads rest
      else
        match sextet? c with
        | none => bytesFrom held pads rest
        | some n =>
            match held with
            | [] => bytesFrom [n] 0 rest
            | m :: before =>
                let byte := match before.length with
                  | 0 => m * 4 + n / 16
                  | 1 => m % 16 * 16 + n / 4
                  | _ => m % 4 * 64 + n
                (bytesFrom (if before.length = 2 then [] else n :: held) 0 rest).map
                  (UInt8.ofNat byte :: ·)

/-- The value of a text as one of a kind. -/
def value (kind : Kind) (cs : List Char) : Except Fault Homelab.Scalar :=
  let refused (r : Except Failure Homelab.Scalar) : Except Fault Homelab.Scalar :=
    r.mapError .refused
  match kind with
  | .null => .ok .null
  | .bool => refused ((truthValue cs).map .bool)
  | .int => refused ((integer cs).map .int)
  | .float => refused ((fraction cs).map .float)
  | .time => refused (time cs)
  | .str => .ok (.str (String.ofList cs))
  | .bytes =>
      if cs.all fun c => c.toNat < 128 then
        match bytesFrom [] 0 cs with
        | some data => .ok (.bytes data)
        | none => .error .malformed
      else .error .malformed
  | .merge | .default | .list | .map | .set | .pairs | .unknown => .error .malformed

end Scalar
end Markup
end Homelab
