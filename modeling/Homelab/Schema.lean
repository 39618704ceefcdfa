import Homelab.Double.Reader
import Homelab.Text.Blank
import Homelab.Text.Utf8
import Homelab.Value.Display

/-!
# Checking documents against a schema

A schema turns a document value into a typed value or lists everything that is
wrong with it, in the order of the fields.  Each issue names its place by keys
and list positions.

Reading is lenient where no meaning is lost: a number may be written as a text,
a whole fraction counts as an integer, and the usual words stand for truth
values.  Fields that a record does not know are kept with it.
-/

namespace Homelab

/-- One step of the place of an issue. -/
inductive PlaceStep where
  | key (name : String)
  | index (n : Int)
deriving DecidableEq

/-- What is wrong with a value. -/
inductive IssueKind where
  | missing
  | record (name : String)
  | text
  | textEncoding
  | list
  | mapping
  | integer
  | integerText
  | integerSize
  | integerFraction
  | notFinite
  | truth
  | truthText
  | number
  | numberText
  | choice (options : List String)
  | pattern (pattern : String)
  | key
  | rule (message : String)
deriving DecidableEq

namespace IssueKind

/-- Quoted options, the last after the word "or". -/
def optionList : List String → String
  | [] => ""
  | [a] => "'" ++ a ++ "'"
  | [a, b] => "'" ++ a ++ "' or '" ++ b ++ "'"
  | a :: rest => "'" ++ a ++ "', " ++ optionList rest

/-- The short name of an issue. -/
def code : IssueKind → String
  | missing => "missing"
  | record _ => "model_type"
  | text => "string_type"
  | textEncoding => "string_unicode"
  | list => "list_type"
  | mapping => "dict_type"
  | integer => "int_type"
  | integerText => "int_parsing"
  | integerSize => "int_parsing_size"
  | integerFraction => "int_from_float"
  | notFinite => "finite_number"
  | truth => "bool_type"
  | truthText => "bool_parsing"
  | number => "float_type"
  | numberText => "float_parsing"
  | choice _ => "literal_error"
  | pattern _ => "string_pattern_mismatch"
  | key => "invalid_key"
  | rule _ => "value_error"

/-- The sentence that describes an issue. -/
def message : IssueKind → String
  | missing => "Field required"
  | record name => "Input should be a valid dictionary or instance of " ++ name
  | text => "Input should be a valid string"
  | textEncoding => "Input should be a valid string, unable to parse raw data as a unicode string"
  | list => "Input should be a valid list"
  | mapping => "Input should be a valid dictionary"
  | integer => "Input should be a valid integer"
  | integerText => "Input should be a valid integer, unable to parse string as an integer"
  | integerSize => "Unable to parse input string as an integer, exceeded maximum size"
  | integerFraction => "Input should be a valid integer, got a number with a fractional part"
  | notFinite => "Input should be a finite number"
  | truth => "Input should be a valid boolean"
  | truthText => "Input should be a valid boolean, unable to interpret input"
  | number => "Input should be a valid number"
  | numberText => "Input should be a valid number, unable to parse string as a number"
  | choice options => "Input should be " ++ optionList options
  | pattern p => "String should match pattern '" ++ p ++ "'"
  | key => "Keys should be strings"
  | rule message => "Value error, " ++ message

end IssueKind

/-- An issue at its place. -/
structure Issue where
  place : List PlaceStep
  kind : IssueKind
deriving DecidableEq

/-- The same issue, seen from one step further out. -/
def Issue.under (step : PlaceStep) (i : Issue) : Issue :=
  { i with place := step :: i.place }

/-- A typed value, or everything that is wrong. -/
inductive Checked (α : Type) where
  | ok (a : α)
  | bad (issues : List Issue)

namespace Checked

/-- A typed value changed by a function. -/
def map {α β : Type} (f : α → β) : Checked α → Checked β
  | ok a => ok (f a)
  | bad issues => bad issues

/-- A function and its argument; what is wrong with either is reported. -/
def ap {α β : Type} (f : Checked (α → β)) (x : Checked α) : Checked β :=
  match f, x with
  | ok f, ok a => ok (f a)
  | ok _, bad issues => bad issues
  | bad issues, ok _ => bad issues
  | bad first, bad second => bad (first ++ second)

instance : Functor Checked where
  map := map

instance : Seq Checked where
  seq f x := ap f (x ())

/-- One issue at the value itself. -/
def issue {α : Type} (kind : IssueKind) : Checked α := bad [⟨[], kind⟩]

/-- The same result, its issues seen from one step further out. -/
def under {α : Type} (step : PlaceStep) : Checked α → Checked α
  | ok a => ok a
  | bad issues => bad (issues.map (Issue.under step))

/-- Every member of a list, each at its position. -/
def items {α : Type} (f : Value → Checked α) (position : Nat) : List Value → Checked (List α)
  | [] => ok []
  | v :: rest => ap (map List.cons (under (.index position) (f v))) (items f (position + 1) rest)

end Checked

namespace Schema

/-- A blank that may stand around the text of a number. -/
def isEdgeSpace (c : Char) : Bool :=
  Text.isBlank c && !(0x1c ≤ c.toNat && c.toNat ≤ 0x1f)

/-- A text without blanks around it. -/
def trim (cs : List Char) : List Char :=
  ((cs.dropWhile isEdgeSpace).reverse.dropWhile isEdgeSpace).reverse

/-- Two underscores side by side. -/
def hasDoubleUnderscore : List Char → Bool
  | '_' :: '_' :: _ => true
  | _ :: rest => hasDoubleUnderscore rest
  | [] => false

/-- A number without the underscores between its digits.  An underscore at an end
or beside another one stays and spoils the number. -/
def joinDigits (cs : List Char) : List Char :=
  if cs.head? = some '_' || cs.getLast? = some '_' || hasDoubleUnderscore cs then cs
  else cs.filter (· ≠ '_')

/-- Digits without the zeros in front of them, and underscores between those; of
zeros alone the last character is left.  A sign may follow the zeros. -/
def afterZeros? (cs : List Char) : Option (List Char) :=
  match cs with
  | '0' :: rest =>
      match rest.dropWhile fun c => c = '0' || c = '_' with
      | [] => cs.getLast?.map fun c => [c]
      | '.' :: places =>
          some ((rest.takeWhile fun c => c = '0' || c = '_').getLastD '0' :: '.' :: places)
      | c :: more => if Text.isAsciiDigit c || c = '-' then some (c :: more) else none
  | c :: rest => if Text.isAsciiDigit c then some (c :: rest) else none
  | [] => none

/-- An integer without the point and the zeros that may follow it. -/
def beforePoint (cs : List Char) : List Char :=
  match Text.cut? '.' cs with
  | none => cs
  | some (whole, places) => if !places.isEmpty && places.all (· = '0') then whole else cs

/-- The most characters of the text of an integer. -/
def textLimit : Nat := 4300

/-- A number without a sign: a zero, or digits that begin with another one. -/
def digits (signs : Nat) (cs : List Char) : Checked Nat :=
  match cs with
  | ['0'] => .ok 0
  | c :: _ =>
      let run := cs.takeWhile Text.isAsciiDigit
      if c = '0' || run = [] then .issue .integerText
      else if textLimit < run.length + signs then .issue .integerSize
      else if run = cs then .ok (Text.natOfDigits run)
      else .issue .integerText
  | [] => .issue .integerText

/-- The integer of a sign, if there is one, digits with single underscores between
them and a fraction of zeros. -/
def signedDigits (cs : List Char) : Checked Int :=
  match joinDigits (beforePoint cs) with
  | '-' :: ds => (digits 1 ds).map fun n => -Int.ofNat n
  | ds => (digits 0 ds).map Int.ofNat

/-- The integer of a text with blanks around it.  Zeros in front of the digits do not
count, and they may stand on both sides of the sign. -/
def integerOfText (s : String) : Checked Int :=
  let significant := match trim s.toList with
    | '+' :: '-' :: _ => none
    | '+' :: rest => afterZeros? rest
    | '-' :: rest => (afterZeros? rest).map ('-' :: ·)
    | cs => afterZeros? cs
  match significant with
  | some cs => signedDigits cs
  | none => .issue .integerText

/-- The number that a text writes: with blanks around it, or with underscores between
its digits. -/
def numberText? (s : String) : Option Double :=
  (Double.read? (trim s.toList)).or (Double.read? (joinDigits s.toList))

/-- The truth value that a word stands for. -/
def truthWord? (s : String) : Option Bool :=
  let word := String.ofList (s.toList.map Text.asciiLower)
  if ["1", "t", "y", "yes", "on", "true"].contains word then some true
  else if ["0", "f", "n", "no", "off", "false"].contains word then some false
  else none

/-- Any value. -/
def any (v : Value) : Checked Value := .ok v

/-- A text. -/
def text : Value → Checked String
  | .str s => .ok s
  | .scalar (.bytes data) =>
      match Text.ofBytes? data with
      | some s => .ok s
      | none => .issue .textEncoding
  | _ => .issue .text

/-- The integer of a number with a fraction. -/
def wholeNumber (x : Double) : Checked Int :=
  if !x.isFinite then .issue .notFinite
  else
    match x.toInt? with
    | none => .issue .integerFraction
    | some n => if n.natAbs < Nat.pow 2 63 then .ok n else .issue .integerSize

/-- An integer. -/
def integer : Value → Checked Int
  | .int n => .ok n
  | .bool b => .ok (if b then 1 else 0)
  | .float x => wholeNumber x
  | .str s => integerOfText s
  | .scalar (.bytes data) =>
      match Text.ofBytes? data with
      | some s => integerOfText s
      | none => .issue .integerText
  | _ => .issue .integer

/-- An integer of sixty-four bits. -/
def isWord (n : Int) : Bool :=
  -(Nat.pow 2 63 : Int) ≤ n && n < (Nat.pow 2 63 : Int)

/-- A truth value. -/
def truth : Value → Checked Bool
  | .bool b => .ok b
  | .str s =>
      match truthWord? s with
      | some b => .ok b
      | none => .issue .truthText
  | .int n =>
      if n = 0 then .ok false
      else if n = 1 then .ok true
      else if isWord n then .issue .truthText
      else .issue .truth
  | .float x =>
      match wholeNumber x with
      | .ok n => if n = 0 then .ok false else if n = 1 then .ok true else .issue .truthText
      | .bad _ => .issue .truth
  | _ => .issue .truth

/-- A number with a fraction. -/
def number : Value → Checked Double
  | .float x => .ok x
  | .int n =>
      let x := Double.ofInt n
      if x.isFinite then .ok x else .issue .number
  | .bool b => .ok (Double.ofInt (if b then 1 else 0))
  | .str s =>
      match numberText? s with
      | some x => .ok x
      | none => .issue .numberText
  | _ => .issue .number

/-- One of the listed words. -/
def choice {α : Type} (options : List (String × α)) (v : Value) : Checked α :=
  match v.text?.bind fun s => options.lookup s with
  | some a => .ok a
  | none => .issue (.choice (options.map (·.1)))

/-- A text that a rule accepts; the rule gives the message for others. -/
def textWith (rule : String → Option String) (v : Value) : Checked String :=
  match text v with
  | .bad issues => .bad issues
  | .ok s =>
      match rule s with
      | none => .ok s
      | some message => .issue (.rule message)

/-- A value that may be empty. -/
def orNull {α : Type} (f : Value → Checked α) (v : Value) : Checked (Option α) :=
  match v with
  | .null => .ok none
  | v => (f v).map some

/-- A list whose members follow a schema. -/
def list {α : Type} (f : Value → Checked α) : Value → Checked (List α)
  | .list items => Checked.items f 0 items
  | .set members => Checked.items f 0 (members.map .scalar)
  | _ => .issue .list

/-- The place of a key: a text or a small integer as it is, anything else as it is
shown in a mapping. -/
def keyStep : Scalar → PlaceStep
  | .str s => .key s
  | .bool b => .index (if b then 1 else 0)
  | .int n => if isWord n then .index n else .key (toString n)
  | k => .key k.quoted

/-- The entries of a mapping with text keys, their values following a schema. -/
def entries {α : Type} (f : Value → Checked α) :
    List (Scalar × Value) → Checked (List (String × α))
  | [] => .ok []
  | (k, v) :: rest =>
      let key : Checked String :=
        ((text (.scalar k)).under (.key "[key]")).under (keyStep k)
      .ap (.ap (.map (fun key a more => (key, a) :: more) key) ((f v).under (keyStep k)))
        (entries f rest)

/-- A mapping with text keys, its values following a schema. -/
def mapping {α : Type} (f : Value → Checked α) : Value → Checked (List (String × α))
  | .map es => entries f es
  | _ => .issue .mapping

/-- The first of several names under which a field is given, with its value. -/
def given? (names : List String) (es : Entries) : Option (String × Value) :=
  match names with
  | [] => none
  | name :: rest =>
      match Entries.find? name es with
      | some v => some (name, v)
      | none => given? rest es

/-- A field that has to be there; it goes by the first of its names that is given. -/
def required {α : Type} (names : List String) (f : Value → Checked α) (es : Entries) :
    Checked α :=
  match given? names es with
  | some (name, v) => (f v).under (.key name)
  | none => .bad [⟨[.key (names.headD "")], .missing⟩]

/-- A field with a value to fall back on. -/
def withDefault {α : Type} (names : List String) (f : Value → Checked α) (default : α)
    (es : Entries) : Checked α :=
  match given? names es with
  | some (name, v) => (f v).under (.key name)
  | none => .ok default

/-- A field that may be absent or empty. -/
def optional {α : Type} (names : List String) (f : Value → Checked α) (es : Entries) :
    Checked (Option α) :=
  withDefault names (orNull f) none es

/-- The names under which the fields of a record are given. -/
def usedNames (fields : List (List String)) (es : Entries) : List String :=
  fields.filterMap fun names => (given? names es).map (·.1)

/-- The entries that belong to no field of a record. -/
def extras (fields : List (List String)) (es : Entries) : Checked (List (String × Value)) :=
  let used := usedNames fields es
  es.foldr
    (fun e rest =>
      match e.1 with
      | .str s => if used.contains s then rest else .ap (.ok ((s, e.2) :: ·)) rest
      | k => .ap (.bad [⟨[keyStep k], .key⟩]) rest)
    (.ok [])

/-- A record: a mapping whose entries are read as fields. -/
def record {α : Type} (name : String) (fields : Entries → Checked α) : Value → Checked α
  | .map es => fields es
  | _ => .issue (.record name)

end Schema
end Homelab
