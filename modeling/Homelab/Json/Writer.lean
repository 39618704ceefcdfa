import Homelab.Value.Display

/-!
# Writing JSON

A value as JSON text in ASCII.  The compact form stands on one line, with a
blank after each comma and colon, and keeps the order of keys; it is what a
token inside a longer text turns into.  The file form puts each member on a
line of its own, indented by two blanks, with the keys of every mapping sorted
by code point.

Text, numbers and the like have a JSON form; raw bytes, dates, moments, sets and
integers of too many digits have none, and then neither has a value that holds one.
-/

namespace Homelab
namespace Json

/-- The four hexadecimal digits of a 16-bit unit, after the escape mark. -/
def escapeUnit (n : Nat) : List Char :=
  '\\' :: 'u' :: Text.hexDigits 4 n

/-- One character of a JSON text.  A character beyond the basic plane is
written as the two units of its surrogate pair. -/
def escapeChar (c : Char) : List Char :=
  if c = '"' then ['\\', '"']
  else if c = '\\' then ['\\', '\\']
  else if c = '\n' then ['\\', 'n']
  else if c = '\r' then ['\\', 'r']
  else if c = '\t' then ['\\', 't']
  else if c.toNat = 0x0c then ['\\', 'f']
  else if c.toNat = 0x08 then ['\\', 'b']
  else if ' ' ≤ c && c ≤ '~' then [c]
  else if c.toNat < 0x10000 then escapeUnit c.toNat
  else
    escapeUnit (0xd800 + (c.toNat - 0x10000) / 0x400) ++
      escapeUnit (0xdc00 + (c.toNat - 0x10000) % 0x400)

/-- A text between quotes. -/
def stringText (s : String) : String :=
  String.ofList ('"' :: s.toList.flatMap escapeChar ++ ['"'])

/-- A number with a fraction; the values that are no finite number have names. -/
def floatText (x : Double) : String :=
  if x.isNaN then "NaN"
  else if x.isInfinite then (if x.negative then "-Infinity" else "Infinity")
  else x.text

/-- A scalar without its quotes, if JSON has a form for it. -/
def scalarText? : Scalar → Option String
  | .null => some "null"
  | .bool b => some (if b then "true" else "false")
  | .int n => if (Scalar.int n).isOversized then none else some (toString n)
  | .float x => some (floatText x)
  | .str s => some (stringText s)
  | .bytes _ | .date _ | .moment _ => none

/-- The text of a key: JSON keys are texts, so other scalars are spelled out. -/
def keyText? : Scalar → Option String
  | .str s => some s
  | .null => some "null"
  | .bool b => some (if b then "true" else "false")
  | .int n => if (Scalar.int n).isOversized then none else some (toString n)
  | .float x => some (floatText x)
  | .bytes _ | .date _ | .moment _ => none

mutual

/-- A value on one line. -/
def compact? : Value → Option String
  | .scalar s => scalarText? s
  | .list items => (compactItems? items).map fun parts => "[" ++ ", ".intercalate parts ++ "]"
  | .map entries =>
      (compactEntries? entries).map fun parts => "\x7b" ++ ", ".intercalate parts ++ "\x7d"
  | .set _ => none

/-- The members of a list, each on one line. -/
def compactItems? : List Value → Option (List String)
  | [] => some []
  | v :: rest =>
      match compact? v, compactItems? rest with
      | some t, some ts => some (t :: ts)
      | _, _ => none

/-- The entries of a mapping, each on one line. -/
def compactEntries? : List (Scalar × Value) → Option (List String)
  | [] => some []
  | (k, v) :: rest =>
      match keyText? k, compact? v, compactEntries? rest with
      | some key, some t, some ts => some ((stringText key ++ ": " ++ t) :: ts)
      | _, _, _ => none

end

/-- A line end and the indentation of a depth. -/
def lineBreak (depth : Nat) : String :=
  String.ofList ('\n' :: List.replicate (2 * depth) ' ')

/-- Parts between brackets, each on a line of its own at the given depth. -/
def block (opening closing : String) (depth : Nat) : List String → String
  | [] => opening ++ closing
  | parts =>
      opening ++ lineBreak (depth + 1) ++ ("," ++ lineBreak (depth + 1)).intercalate parts ++
        lineBreak depth ++ closing

/-- Keyed parts in the order of their keys. -/
def sortByKey {α : Type} (parts : List (String × α)) : List (String × α) :=
  parts.mergeSort fun a b => decide (a.1 ≤ b.1)

mutual

/-- A value over several lines, its parts indented from the given depth. -/
def indented? (depth : Nat) : Value → Option String
  | .scalar s => scalarText? s
  | .list items => (indentedItems? (depth + 1) items).map (block "[" "]" depth)
  | .map entries =>
      (indentedEntries? (depth + 1) entries).map fun parts =>
        block "\x7b" "\x7d" depth ((sortByKey parts).map fun p => stringText p.1 ++ ": " ++ p.2)
  | .set _ => none

/-- The members of a list, written at the given depth. -/
def indentedItems? (depth : Nat) : List Value → Option (List String)
  | [] => some []
  | v :: rest =>
      match indented? depth v, indentedItems? depth rest with
      | some t, some ts => some (t :: ts)
      | _, _ => none

/-- The entries of a mapping with their keys, written at the given depth. -/
def indentedEntries? (depth : Nat) : List (Scalar × Value) → Option (List (String × String))
  | [] => some []
  | (k, v) :: rest =>
      match keyText? k, indented? depth v, indentedEntries? depth rest with
      | some key, some t, some ts => some ((key, t) :: ts)
      | _, _, _ => none

end

/-- The text of a JSON file: indented, sorted, with a line end after it. -/
def fileText? (v : Value) : Option String :=
  (indented? 0 v).map (· ++ "\n")

/-- Why a value has no JSON form: a part of it is of a kind without one, or an integer
has too many digits. -/
inductive Obstacle where
  | kind (words : String)
  | digits
deriving DecidableEq

/-- The obstacle that a part of some kind is. -/
def memberObstacle (kind : String) : Obstacle :=
  .kind ("Object of type " ++ kind ++ " is not JSON serializable")

/-- The obstacle that a key of some kind is. -/
def keyObstacle (kind : String) : Obstacle :=
  .kind ("keys must be str, int, float, bool or None, not " ++ kind)

mutual

/-- Why a value has no JSON form: the first of its parts that has none. -/
def obstacle? : Value → Option Obstacle
  | .scalar s =>
      if s.isOversized then some .digits
      else if (scalarText? s).isSome then none
      else some (memberObstacle s.kindName)
  | .list items => itemsObstacle? items
  | .map entries => entriesObstacle? entries
  | .set _ => some (memberObstacle "set")

/-- Why the members of a list have no JSON form. -/
def itemsObstacle? : List Value → Option Obstacle
  | [] => none
  | v :: rest => obstacle? v <|> itemsObstacle? rest

/-- Why the entries of a mapping have no JSON form. -/
def entriesObstacle? : List (Scalar × Value) → Option Obstacle
  | [] => none
  | (k, v) :: rest =>
      if k.isOversized then some .digits
      else if (keyText? k).isSome then obstacle? v <|> entriesObstacle? rest
      else some (keyObstacle k.kindName)

end
end Json
end Homelab
