import Homelab.Rehearsal.Script.Leading
import Homelab.Text.Utf8

/-!
# Escapes

What a backslash and the characters behind it stand for.  The commands that print agree
on the letters for control characters and on numbers to the base eight; in all else they
differ, also in whether the text is a format or an argument.
-/

namespace Homelab
namespace Script
namespace Escape

/-- Where a text with escapes stands: in a format or an argument of the shell itself, in
a format or an argument of the program, or in what the program prints as it is. -/
inductive Context where
  | shellFormat
  | shellText
  | format
  | text
  | echo
deriving DecidableEq

namespace Context

/-- A zero may stand in front of a number to the base eight. -/
def zeroFirst : Context → Bool
  | shellText | text | echo => true
  | shellFormat | format => false

/-- An escape ends all output. -/
def canEnd : Context → Bool
  | shellFormat => false
  | _ => true

/-- Bytes can be written to the base sixteen. -/
def hasBytes : Context → Bool
  | format | text | echo => true
  | shellFormat | shellText => false

/-- Quotes can be escaped and characters be written by their numbers; a number without
its digits is a fault. -/
def isStrict : Context → Bool
  | format | text => true
  | _ => false

end Context

/-- What is wrong with an escape: a number has too few digits, or there is no such
character. -/
inductive Fault where
  | noDigits
  | noCharacter (letter : Char) (digits : Nat) (code : Nat)
deriving DecidableEq

/-- What is wrong, in words. -/
def Fault.message : Fault → String
  | noDigits => "missing hexadecimal number in escape"
  | noCharacter letter digits code =>
      "invalid universal character name \\" ++ String.ofList (letter :: Text.hexDigits digits code)

/-- What an escape comes to: bytes and what is left of the text, the end of all output, or
a fault. -/
inductive Outcome where
  | bytes (bytes : List UInt8) (left : List Char)
  | ending
  | fault (fault : Fault)

/-- The character that a letter after a backslash stands for. -/
def control? : Char → Option Char
  | 'n' => some '\n'
  | 't' => some '\t'
  | 'r' => some '\r'
  | 'a' => some (Char.ofNat 0x07)
  | 'b' => some (Char.ofNat 0x08)
  | 'f' => some (Char.ofNat 0x0c)
  | 'v' => some (Char.ofNat 0x0b)
  | 'e' => some (Char.ofNat 0x1b)
  | '\\' => some '\\'
  | _ => none

/-- A code that can be written by its number: none of a control character, of the usual
characters but for three of them, or of a surrogate. -/
def isWritable (code : Nat) : Bool :=
  (0xa0 ≤ code || code = 0x24 || code = 0x40 || code = 0x60) && !(0xd800 ≤ code && code ≤ 0xdfff)

/-- The bytes of a character with a code; where there is no such character, or the
characters are bytes, its number is written. -/
def codeBytes (wide : Bool) (code : Nat) : List UInt8 :=
  if wide && code < 0x110000 then Text.charBytes (Char.ofNat code)
  else
    let (letter, digits) : Char × Nat := if code < 0x10000 then ('u', 4) else ('U', 8)
    Text.toBytes ('\\' :: letter :: (Text.hexDigits digits code).map Char.toUpper)

/-- A character by its number, behind the letter. -/
def character (wide : Bool) (letter : Char) (rest : List Char) : Outcome :=
  let length := if letter = 'u' then 4 else 8
  let digits := (rest.take length).takeWhile Text.isHexDigit
  let code := Text.natOfBase 16 digits
  if digits.length < length then .fault .noDigits
  else if isWritable code then .bytes (codeBytes wide code) (rest.drop length)
  else .fault (.noCharacter letter length code)

/-- A byte to the base sixteen, behind the letter; none without digits. -/
def byte? (rest : List Char) : Option (UInt8 × List Char) :=
  let digits := (rest.take 2).takeWhile Text.isHexDigit
  if digits.isEmpty then none else some (UInt8.ofNat (Text.natOfBase 16 digits), rest.drop digits.length)

/-- A byte to the base eight; a zero in front is none of its three digits. -/
def octal (zeroFirst : Bool) (cs : List Char) : UInt8 × List Char :=
  let number := if zeroFirst && cs.head? = some '0' then cs.drop 1 else cs
  let digits := (number.take 3).takeWhile Leading.isOctal
  (UInt8.ofNat (Text.natOfBase 8 digits), number.drop digits.length)

/-- What the text behind a backslash stands for. -/
def read (wide : Bool) (context : Context) (cs : List Char) : Outcome :=
  match cs with
  | [] => .bytes [0x5c] []
  | c :: rest =>
      if c = 'c' && context.canEnd then .ending
      else if c = '"' && context.isStrict then .bytes [0x22] rest
      else if Leading.isOctal c then
        let (byte, left) := octal context.zeroFirst cs
        .bytes [byte] left
      else if c = 'x' && context.hasBytes then
        match byte? rest with
        | some (byte, left) => .bytes [byte] left
        | none => if context.isStrict then .fault .noDigits else .bytes [0x5c] cs
      else if (c = 'u' || c = 'U') && context.isStrict then character wide c rest
      else
        match control? c with
        | some e => .bytes (Text.charBytes e) rest
        | none => if context.isStrict then .bytes (0x5c :: Text.charBytes c) rest else .bytes [0x5c] cs

/-- Text with escapes as bytes, and what has ended the output: an escape, or a fault. -/
structure Output where
  bytes : List UInt8
  isEnded : Bool
  fault : Option Fault

/-- An output with bytes in front. -/
def Output.after (bytes : List UInt8) (o : Output) : Output := { o with bytes := bytes ++ o.bytes }

/-- Text with escapes, for at most the given number of characters and escapes. -/
def outputFrom (wide : Bool) (context : Context) : (fuel : Nat) → List Char → Output
  | 0, _ => ⟨[], false, none⟩
  | _, [] => ⟨[], false, none⟩
  | fuel + 1, '\\' :: rest =>
      match read wide context rest with
      | .bytes bytes left => (outputFrom wide context fuel left).after bytes
      | .ending => ⟨[], true, none⟩
      | .fault fault => ⟨[], true, some fault⟩
  | fuel + 1, c :: rest => (outputFrom wide context fuel rest).after (Text.charBytes c)

/-- Text with escapes. -/
def output (wide : Bool) (context : Context) (text : String) : Output :=
  let cs := text.toList
  outputFrom wide context (cs.length + 1) cs

end Escape
end Script
end Homelab
