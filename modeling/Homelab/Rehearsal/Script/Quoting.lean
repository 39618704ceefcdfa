import Homelab.Text.Printable
import Homelab.Text.Utf8

/-!
# Quoted text in what programs say

In a message a program puts marks around a text and shows its control characters as
escapes.  A text for a shell is quoted so that a shell reads it back: bare if nothing in
it means something to a shell, between double quotes if only a single quote does, and
between single quotes otherwise, with what cannot be shown as escapes between quotes of
their own.  Where characters are no wider than a byte, all that is not ASCII is shown as
bytes.
-/

namespace Homelab
namespace Script
namespace Quoting

/-- Characters that a terminal prints although they cannot be seen: blanks, marks that
shape the text around them, and characters for private use. -/
def unseenRanges : List (Nat × Nat) :=
  [(0xa0, 0xa0), (0xad, 0xad), (0x600, 0x605), (0x61c, 0x61c), (0x6dd, 0x6dd), (0x70f, 0x70f), (0x890, 0x891),
   (0x8e2, 0x8e2), (0x1680, 0x1680), (0x180e, 0x180e), (0x2000, 0x200f), (0x202a, 0x202f), (0x205f, 0x2064),
   (0x2066, 0x206f), (0x3000, 0x3000), (0xe000, 0xf8ff), (0xfeff, 0xfeff), (0xfff9, 0xfffb), (0x110bd, 0x110bd),
   (0x110cd, 0x110cd), (0x13430, 0x13438), (0x1bca0, 0x1bca3), (0x1d173, 0x1d17a), (0xe0001, 0xe0001),
   (0xe0020, 0xe007f), (0xf0000, 0xffffd), (0x100000, 0x10fffd)]

/-- A character that is shown as itself. -/
def isShown (wide : Bool) (c : Char) : Bool :=
  if c.toNat < 0x80 then 0x20 ≤ c.toNat && c.toNat < 0x7f
  else wide && (Text.isPrintable c || Text.inRanges unseenRanges c.toNat)

/-- The letter of a control character, behind a backslash. -/
def letter? (c : Char) : Option Char :=
  match c.toNat with
  | 0x07 => some 'a'
  | 0x08 => some 'b'
  | 0x09 => some 't'
  | 0x0a => some 'n'
  | 0x0b => some 'v'
  | 0x0c => some 'f'
  | 0x0d => some 'r'
  | _ => none

/-- A byte to the base eight, behind a backslash. -/
def octal (b : UInt8) : List Char :=
  let digit (n : Nat) : Char := Char.ofNat ('0'.toNat + n % 8)
  ['\\', digit (b.toNat / 64), digit (b.toNat / 8), digit b.toNat]

/-- The escape of a character that is not shown as itself. -/
def escape (c : Char) : List Char :=
  match letter? c with
  | some letter => ['\\', letter]
  | none => (Text.charBytes c).flatMap octal

/-- A text in a message. -/
def inMessage (wide : Bool) (text : String) : String :=
  let (opening, closing) : Char × Char := if wide then ('‘', '’') else ('\'', '\'')
  let shown (c : Char) : List Char :=
    if c = closing || c = '\\' then ['\\', c]
    else if isShown wide c then [c]
    else escape c
  String.ofList (opening :: text.toList.flatMap shown ++ [closing])

/-- A character that means something to a shell wherever it stands. -/
def isSpecial (c : Char) : Bool := "?\\ !\"$&()*;<=>[^|'".toList.contains c || c.toNat = 0x60

/-- A text that means something to a shell, or cannot be shown. -/
def isMarked (wide : Bool) (cs : List Char) : Bool :=
  cs.isEmpty || cs.any (fun c => isSpecial c || !isShown wide c) ||
    (cs.head?.any fun c => c = '#' || c = '~') || cs = ['\x7b'] || cs = ['\x7d']

/-- A character that means the same between double quotes. -/
def isPlain (wide : Bool) (c : Char) : Bool :=
  c.isAlphanum || " '%+,-./:@]_".toList.contains c || (0x80 ≤ c.toNat && isShown wide c)

/-- A text with single quotes that stands between double quotes: all else in it is plain,
but for a mark at the beginning. -/
def isPlainWithQuotes (wide : Bool) (cs : List Char) : Bool :=
  let rest := if cs.head?.any fun c => c = '#' || c = '~' then cs.drop 1 else cs
  cs.contains '\'' && rest.all (isPlain wide)

/-- Characters between single quotes; `inEscapes` says whether escapes have been begun. -/
def quotedFrom (wide : Bool) : (inEscapes : Bool) → List Char → List Char
  | inEscapes, c :: rest =>
      if c = '\'' then "'\\''".toList ++ quotedFrom wide false rest
      else if isShown wide c then
        (if inEscapes then ['\'', '\''] else []) ++ c :: quotedFrom wide false rest
      else (if inEscapes then [] else "'$'".toList) ++ escape c ++ quotedFrom wide true rest
  | _, [] => ['\'']

/-- Escapes are taken for begun in front of a text with a single quote that ends in them. -/
def beginsInEscapes (wide : Bool) (cs : List Char) : Bool :=
  cs.contains '\'' && cs.getLast?.any fun c => !isShown wide c

/-- A text that a shell reads back; with `always` also one that needs no quotes has them. -/
def forShell (wide always : Bool) (text : String) : String :=
  let cs := text.toList
  if !always && !isMarked wide cs then text
  else if isPlainWithQuotes wide cs then "\"" ++ text ++ "\""
  else String.ofList ('\'' :: quotedFrom wide (beginsInEscapes wide cs) cs)

end Quoting
end Script
end Homelab
