import Homelab.Calendar
import Homelab.Double

/-!
# Document values

Manifests, inventories and vault items are trees of scalars, lists and
mappings.  Mappings keep the order in which their keys were written, because
the order decides which token is served first.  JSON documents use only null,
truth values, numbers, text, lists and mappings with text keys; a YAML document
may also hold dates, moments, raw bytes, sets and keys of other kinds.
-/

namespace Homelab

/-- A value without parts. -/
inductive Scalar where
  | null
  | bool (b : Bool)
  | int (n : Int)
  | float (x : Double)
  | str (s : String)
  | bytes (data : List UInt8)
  | date (d : Date)
  | moment (t : Moment)
deriving DecidableEq, Inhabited

/-- A document value.  Mappings are lists of entries in the order of writing,
sets are lists of members in the order of `Scalar.precedes`. -/
inductive Value where
  | scalar (s : Scalar)
  | list (items : List Value)
  | map (entries : List (Scalar × Value))
  | set (members : List Scalar)
deriving Inhabited

/-- The entries of a mapping. -/
abbrev Entries := List (Scalar × Value)

namespace Scalar

/-- The number that a truth value, an integer or a whole fraction stands for as
a key: keys with one number are one key. -/
def keyNumber? : Scalar → Option Int
  | bool b => some (if b then 1 else 0)
  | int n => some n
  | float x => x.toInt?
  | _ => none

/-- The name of the kind of a scalar, as it stands in messages. -/
def kindName : Scalar → String
  | null => "NoneType"
  | bool _ => "bool"
  | int _ => "int"
  | float _ => "float"
  | str _ => "str"
  | bytes _ => "bytes"
  | date _ => "date"
  | moment _ => "datetime"

/-- Two scalars name the same key. -/
def sameKey (a b : Scalar) : Bool :=
  match a, b with
  | moment t, moment u => t.same u
  | _, _ =>
      match a.keyNumber?, b.keyNumber? with
      | some m, some n => m == n
      | none, none => a == b
      | _, _ => false

/-- The number that places a scalar among numbers, if it is one. -/
def size? : Scalar → Option Int
  | bool b => some (Double.ofInt (if b then 1 else 0)).rank
  | int n => some (Double.ofInt n).rank
  | float x => some x.rank
  | _ => none

/-- The order in which a set shows its members: numbers by size, texts by their
characters, and dates and moments by time; numbers first, then texts, and all else
last. -/
def precedes (a b : Scalar) : Bool :=
  match a, b with
  | str s, str t => decide (s ≤ t)
  | int m, int n => decide (m ≤ n)
  | date d, date e => decide (d.number ≤ e.number)
  | moment t, moment u => decide (t.micros ≤ u.micros)
  | str _, _ => b.size?.isNone
  | _, _ =>
      match a.size?, b.size? with
      | some m, some n => decide (m ≤ n)
      | some _, none => true
      | none, _ => false

end Scalar

namespace Entries

/-- The value under a text key. -/
def find? (key : String) (entries : Entries) : Option Value :=
  entries.lookup (.str key)

/-- An entry is set: under a key that is there it keeps its place, otherwise it
goes to the end. -/
def put (key : Scalar) (value : Value) : Entries → Entries
  | [] => [(key, value)]
  | (k, v) :: rest => if k.sameKey key then (k, value) :: rest else (k, v) :: put key value rest

/-- The entries without those under a text key. -/
def erase (key : String) (entries : Entries) : Entries :=
  entries.filter fun e => e.1 != .str key

/-- Entries from pairs in the order of reading; a repeated key keeps its first
place and its last value. -/
def ofPairs (pairs : List (Scalar × Value)) : Entries :=
  pairs.foldl (fun es p => put p.1 p.2 es) []

end Entries

namespace Value

/-- The empty value. -/
@[match_pattern] abbrev null : Value := scalar .null

/-- A truth value. -/
@[match_pattern] abbrev bool (b : Bool) : Value := scalar (.bool b)

/-- An integer. -/
@[match_pattern] abbrev int (n : Int) : Value := scalar (.int n)

/-- A number with a fraction. -/
@[match_pattern] abbrev float (x : Double) : Value := scalar (.float x)

/-- A text. -/
@[match_pattern] abbrev str (s : String) : Value := scalar (.str s)

/-- A mapping with text keys. -/
def object (fields : List (String × Value)) : Value :=
  map (fields.map fun f => (.str f.1, f.2))

/-- The value under a text key of a mapping. -/
def get? (v : Value) (key : String) : Option Value :=
  match v with
  | map entries => Entries.find? key entries
  | _ => none

/-- The text that a value is, if it is one. -/
def text? : Value → Option String
  | str s => some s
  | _ => none

/-- The name of the kind of a value, as it stands in messages. -/
def kindName : Value → String
  | scalar s => s.kindName
  | list _ => "list"
  | map _ => "dict"
  | set _ => "set"

/-- The value is empty. -/
def isNull : Value → Bool
  | null => true
  | _ => false

mutual

/-- How many values stand inside one another, from the value itself to its innermost
part. -/
def levels : Value → Nat
  | scalar _ => 1
  | list items => itemLevels items + 1
  | map entries => entryLevels entries + 1
  | set members => if members.isEmpty then 1 else 2

/-- The levels of the deepest member of a list. -/
def itemLevels : List Value → Nat
  | [] => 0
  | v :: rest => max (levels v) (itemLevels rest)

/-- The levels of the deepest value of a mapping. -/
def entryLevels : List (Scalar × Value) → Nat
  | [] => 0
  | (_, v) :: rest => max (levels v) (entryLevels rest)

end

/-- A value counts as given unless it is empty, false, zero or without parts. -/
def isGiven : Value → Bool
  | scalar .null => false
  | scalar (.bool b) => b
  | scalar (.int n) => n != 0
  | scalar (.float x) => !x.isZero
  | scalar (.str s) => s != ""
  | scalar (.bytes data) => !data.isEmpty
  | scalar (.date _) => true
  | scalar (.moment _) => true
  | list items => !items.isEmpty
  | map entries => !entries.isEmpty
  | set members => !members.isEmpty

end Value
end Homelab
