import Homelab.Text.Integer
import Homelab.Text.Quoted
import Homelab.Value

/-!
# Values as text

The text that stands for a value where a plain text is wanted: in messages, in
credentials and in file names.  A text stands for itself; inside a list or a
mapping it is quoted.
-/

namespace Homelab

/-- A number with at least `width` digits. -/
def padded (width n : Nat) : String :=
  let digits := (Nat.repr n).toList
  String.ofList (List.replicate (width - digits.length) '0' ++ digits)

namespace Date

/-- Year, month and day with hyphens. -/
def text (d : Date) : String :=
  padded 4 d.year ++ "-" ++ padded 2 d.month ++ "-" ++ padded 2 d.day

end Date

namespace Moment

/-- The distance to universal time, with its sign. -/
def offsetText : Option Int → String
  | none => ""
  | some minutes =>
      (if minutes < 0 then "-" else "+") ++ padded 2 (minutes.natAbs / 60) ++ ":" ++
        padded 2 (minutes.natAbs % 60)

/-- Date and time of day with a separator between them; a fraction of a second
is written with six digits, if there is one. -/
def text (t : Moment) (separator : String) : String :=
  t.date.text ++ separator ++ padded 2 t.hour ++ ":" ++ padded 2 t.minute ++ ":" ++
    padded 2 t.second ++ (if t.micro = 0 then "" else "." ++ padded 6 t.micro) ++
    offsetText t.offset

end Moment

namespace Scalar

/-- One byte between quotes. -/
def quoteByte (mark : Char) (b : UInt8) : List Char :=
  let c := Char.ofNat b.toNat
  if c = mark || c = '\\' then ['\\', c]
  else if c = '\t' then ['\\', 't']
  else if c = '\n' then ['\\', 'n']
  else if c = '\r' then ['\\', 'r']
  else if 0x20 ≤ b.toNat && b.toNat < 0x7f then [c]
  else '\\' :: 'x' :: Text.hexDigits 2 b.toNat

/-- Raw bytes between quotes, after a mark of their kind. -/
def quotedBytes (data : List UInt8) : String :=
  let mark := Text.quoteMark (data.map fun b => Char.ofNat b.toNat)
  String.ofList ('b' :: mark :: data.flatMap (quoteByte mark) ++ [mark])

/-- Numbers with commas between them. -/
def numberList (ns : List Nat) : String :=
  ", ".intercalate (ns.map Nat.repr)

/-- The time of day as a list of numbers: seconds and microseconds only as far
as they are needed. -/
def clockNumbers (t : Moment) : List Nat :=
  [t.hour, t.minute] ++
    (if t.second = 0 && t.micro = 0 then [] else [t.second]) ++
    (if t.micro = 0 then [] else [t.micro])

/-- The distance to universal time as a part of a quoted moment. -/
def quotedOffset : Option Int → String
  | none => ""
  | some 0 => ", tzinfo=datetime.timezone.utc"
  | some minutes =>
      let days := minutes.fdiv 1440
      let seconds := (minutes - days * 1440).toNat * 60
      let parts := (if days = 0 then [] else ["days=" ++ toString days]) ++
        (if seconds = 0 then [] else ["seconds=" ++ Nat.repr seconds])
      ", tzinfo=datetime.timezone(datetime.timedelta(" ++ ", ".intercalate parts ++ "))"

/-- An integer has too many digits to be written. -/
def isOversized : Scalar → Bool
  | int n => Nat.pow 10 Text.digitLimit ≤ n.natAbs
  | _ => false

/-- A scalar as it stands inside a list or a mapping. -/
def quoted : Scalar → String
  | null => "None"
  | bool b => if b then "True" else "False"
  | int n => toString n
  | float x => x.text
  | str s => Text.quoted s
  | bytes data => quotedBytes data
  | date d => "datetime.date(" ++ numberList [d.year, d.month, d.day] ++ ")"
  | moment t =>
      "datetime.datetime(" ++
        numberList ([t.date.year, t.date.month, t.date.day] ++ clockNumbers t) ++
        quotedOffset t.offset ++ ")"

/-- A scalar as plain text. -/
def display : Scalar → String
  | str s => s
  | date d => d.text
  | moment t => t.text " "
  | s => s.quoted

end Scalar

namespace Value

mutual

/-- A value as it stands inside a list or a mapping. -/
def quoted : Value → String
  | scalar s => s.quoted
  | list items => "[" ++ ", ".intercalate (quotedItems items) ++ "]"
  | map entries => "\x7b" ++ ", ".intercalate (quotedEntries entries) ++ "\x7d"
  | set [] => "set()"
  | set members => "\x7b" ++ ", ".intercalate (members.map Scalar.quoted) ++ "\x7d"

/-- The members of a list. -/
def quotedItems : List Value → List String
  | [] => []
  | v :: rest => quoted v :: quotedItems rest

/-- The entries of a mapping, each with a colon. -/
def quotedEntries : List (Scalar × Value) → List String
  | [] => []
  | (k, v) :: rest => (k.quoted ++ ": " ++ quoted v) :: quotedEntries rest

end

/-- A value as plain text. -/
def display : Value → String
  | scalar s => s.display
  | v => v.quoted

end Value
end Homelab
