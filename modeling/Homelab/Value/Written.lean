import Homelab.Failure
import Homelab.Json.Writer

/-!
# Values that can be written

A value has a text unless there is an integer of too many digits in it.
-/

namespace Homelab

/-- The failure of an integer that has too many digits to be written. -/
def Failure.unwritable : Failure :=
  .value ("Exceeds the limit (" ++ toString Text.digitLimit ++
    " digits) for integer string conversion; use sys.set_int_max_str_digits() to increase the limit")

/-- The failure of a value that has no JSON form. -/
def Failure.unwritten (v : Value) : Failure :=
  match Json.obstacle? v with
  | some (.kind words) => .wrongType words
  | _ => .unwritable

namespace Value

mutual

/-- There is an integer of too many digits in a value. -/
def isOversized : Value → Bool
  | scalar s => s.isOversized
  | list items => areOversized items
  | map entries => entriesOversized entries
  | set members => members.any Scalar.isOversized

/-- There is an integer of too many digits in some values. -/
def areOversized : List Value → Bool
  | [] => false
  | v :: rest => isOversized v || areOversized rest

/-- There is an integer of too many digits in the entries of a mapping. -/
def entriesOversized : List (Scalar × Value) → Bool
  | [] => false
  | (k, v) :: rest => k.isOversized || isOversized v || entriesOversized rest

end

/-- A value as plain text, if it has one. -/
def written (v : Value) : Except Failure String :=
  if v.isOversized then .error .unwritable else .ok v.display

/-- A value as it stands inside a list or a mapping, if it has a text. -/
def writtenQuoted (v : Value) : Except Failure String :=
  if v.isOversized then .error .unwritable else .ok v.quoted

end Value
end Homelab
