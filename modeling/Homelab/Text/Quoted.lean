import Homelab.Text.Digit
import Homelab.Text.Printable

/-!
# Quoted text in messages

A message shows a text value between quotes, on one line and with every
character visible.  Single quotes are used, unless the text has a single quote
and no double quote.  The quote in use and the backslash get a backslash, tab
and line ends their letters, and a character that is not printable its code
point in hexadecimal.
-/

namespace Homelab
namespace Text

/-- The quote put around a text. -/
def quoteMark (cs : List Char) : Char :=
  if cs.contains '\'' && !cs.contains '"' then '"' else '\''

/-- One character between quotes. -/
def quoteChar (mark c : Char) : List Char :=
  if c = mark || c = '\\' then ['\\', c]
  else if c = '\t' then ['\\', 't']
  else if c = '\n' then ['\\', 'n']
  else if c = '\r' then ['\\', 'r']
  else if isPrintable c then [c]
  else if c.toNat < 0x100 then '\\' :: 'x' :: hexDigits 2 c.toNat
  else if c.toNat < 0x10000 then '\\' :: 'u' :: hexDigits 4 c.toNat
  else '\\' :: 'U' :: hexDigits 8 c.toNat

/-- A text as messages show it. -/
def quoted (s : String) : String :=
  let cs := s.toList
  let mark := quoteMark cs
  String.ofList (mark :: cs.flatMap (quoteChar mark) ++ [mark])

/-- A list of texts as messages show it. -/
def quotedList (items : List String) : String :=
  "[" ++ ", ".intercalate (items.map quoted) ++ "]"

end Text
end Homelab
