import Homelab.Text.Digit
import Homelab.Text.Lines

/-!
# Formulas of a script

Integer arithmetic as a script writes it: numbers to the bases eight, ten and sixteen,
variables by their names, the usual operations with their precedence, and assignments,
which change variables.  A condition is one if it holds and zero otherwise.
-/

namespace Homelab
namespace Script
namespace Formula

/-- A symbol of a formula. -/
inductive Symbol where
  | number (n : Int)
  | name (s : String)
  | mark (s : String)
deriving DecidableEq

/-- Why a formula has no value. -/
inductive Fault where
  | division
  | primary
  | tail
deriving DecidableEq

/-- What is said about a fault. -/
def Fault.text : Fault → String
  | division => "division by zero"
  | primary => "expecting primary"
  | tail => "expecting EOF"

/-- The marks of formulas, the longer ones first. -/
def marks : List String :=
  ["<<=", ">>=", "&&", "||", "==", "!=", "<=", ">=", "<<", ">>", "+=", "-=", "*=", "/=", "%=", "(",
   ")", "+", "-", "*", "/", "%", "<", ">", "!", "~", "&", "|", "^", "?", ":", "="]

/-- The number that digits and letters write; none if they write none. -/
def number? (cs : List Char) : Option Int :=
  match cs with
  | '0' :: x :: rest =>
      if x = 'x' || x = 'X' then
        if !rest.isEmpty && rest.all Text.isHexDigit then some (Text.natOfBase 16 rest) else none
      else if (x :: rest).all fun c => '0' ≤ c && c ≤ '7' then some (Text.natOfBase 8 (x :: rest))
      else none
  | _ => if !cs.isEmpty && cs.all Text.isAsciiDigit then some (Text.natOfDigits cs) else none

/-- The symbols of a formula. -/
def symbols : (fuel : Nat) → List Char → Except Fault (List Symbol)
  | 0, _ => .error .primary
  | _, [] => .ok []
  | fuel + 1, c :: rest =>
      let cs := c :: rest
      if c = ' ' || c = '\t' || c = '\n' then symbols fuel rest
      else if c.isDigit then
        let (digits, left) := cs.span Char.isAlphanum
        match number? digits with
        | some n => (symbols fuel left).map (.number n :: ·)
        | none => .error .tail
      else if c.isAlpha || c = '_' then
        let (name, left) := cs.span fun d => d.isAlphanum || d = '_'
        (symbols fuel left).map (.name (String.ofList name) :: ·)
      else
        match marks.findSome? fun m => (Text.after? m.toList cs).map fun left => (m, left) with
        | some (m, left) => (symbols fuel left).map (.mark m :: ·)
        | none => .error .primary

/-- The operations between two numbers, each with its precedence. -/
def precedence? : String → Option Nat
  | "||" => some 1
  | "&&" => some 2
  | "|" => some 3
  | "^" => some 4
  | "&" => some 5
  | "==" | "!=" => some 6
  | "<" | ">" | "<=" | ">=" => some 7
  | "<<" | ">>" => some 8
  | "+" | "-" => some 9
  | "*" | "/" | "%" => some 10
  | _ => none

/-- A number that says whether something holds. -/
def ofTruth (b : Bool) : Int := if b then 1 else 0

/-- A number of sixty-four bits. -/
def wrapped (n : Int) : Int := Int.bmod n (Nat.pow 2 64)

/-- The bits of a number. -/
def bitsOf (n : Int) : Nat := (Int.emod n (Nat.pow 2 64)).toNat

/-- The value of an operation. -/
def operate (op : String) (a b : Int) : Except Fault Int :=
  match op with
  | "||" => .ok (ofTruth (a != 0 || b != 0))
  | "&&" => .ok (ofTruth (a != 0 && b != 0))
  | "|" => .ok (wrapped (bitsOf a ||| bitsOf b : Nat))
  | "^" => .ok (wrapped (bitsOf a ^^^ bitsOf b : Nat))
  | "&" => .ok (wrapped (bitsOf a &&& bitsOf b : Nat))
  | "==" => .ok (ofTruth (a == b))
  | "!=" => .ok (ofTruth (a != b))
  | "<" => .ok (ofTruth (decide (a < b)))
  | ">" => .ok (ofTruth (decide (b < a)))
  | "<=" => .ok (ofTruth (decide (a ≤ b)))
  | ">=" => .ok (ofTruth (decide (b ≤ a)))
  | "<<" => .ok (wrapped (a * (Nat.pow 2 (b.toNat % 64) : Nat)))
  | ">>" => .ok (a.fdiv (Nat.pow 2 (b.toNat % 64) : Nat))
  | "+" => .ok (wrapped (a + b))
  | "-" => .ok (wrapped (a - b))
  | "*" => .ok (wrapped (a * b))
  | "/" => if b = 0 then .error .division else .ok (wrapped (a.tdiv b))
  | "%" => if b = 0 then .error .division else .ok (a.tmod b)
  | _ => .error .tail

/-- The operation in an assignment, if it has one. -/
def assignment? : String → Option (Option String)
  | "=" => some none
  | "+=" => some (some "+")
  | "-=" => some (some "-")
  | "*=" => some (some "*")
  | "/=" => some (some "/")
  | "%=" => some (some "%")
  | "<<=" => some (some "<<")
  | ">>=" => some (some ">>")
  | _ => none

/-- The variables that a formula reads and writes. -/
structure Store where
  value : String → Int
  written : List (String × Int)

/-- The value of a variable. -/
def Store.get (s : Store) (name : String) : Int := (s.written.lookup name).getD (s.value name)

/-- What is left to read, and the variables. -/
abbrev Rest := List Symbol × Store

mutual

/-- A whole formula: an assignment, a choice, or operations. -/
def whole : (fuel : Nat) → Rest → Except Fault (Int × Rest)
  | 0, _ => .error .primary
  | fuel + 1, (ts, s) =>
      let assigned := match ts with
        | .name n :: .mark m :: rest => (assignment? m).map fun op => (n, op, rest)
        | _ => none
      match assigned with
      | some (name, op, rest) =>
          match whole fuel (rest, s) with
          | .error e => .error e
          | .ok (v, left, s) =>
              match match op with
                | some op => operate op (s.get name) v
                | none => .ok v with
              | .error e => .error e
              | .ok v => .ok (v, left, { s with written := (name, v) :: s.written })
      | none =>
          match operations fuel 1 (ts, s) with
          | .ok (c, .mark "?" :: rest, s) =>
              match whole fuel (rest, s) with
              | .ok (yes, .mark ":" :: rest, s) =>
                  match whole fuel (rest, s) with
                  | .ok (no, left) => .ok (if c = 0 then no else yes, left)
                  | .error e => .error e
              | .ok _ => .error .tail
              | .error e => .error e
          | r => r

/-- Operations of at least a precedence. -/
def operations : (fuel : Nat) → (least : Nat) → Rest → Except Fault (Int × Rest)
  | 0, _, _ => .error .primary
  | fuel + 1, least, r =>
      match primary fuel r with
      | .error e => .error e
      | .ok (a, r) => further fuel least a r

/-- Further operations behind a value. -/
def further : (fuel : Nat) → (least : Nat) → Int → Rest → Except Fault (Int × Rest)
  | 0, _, _, _ => .error .primary
  | fuel + 1, least, a, (ts, s) =>
      match ts with
      | .mark m :: rest =>
          match precedence? m with
          | some p =>
              if p < least then .ok (a, ts, s)
              else
                match operations fuel (p + 1) (rest, s) with
                | .error e => .error e
                | .ok (b, r) =>
                    match operate m a b with
                    | .error e => .error e
                    | .ok v => further fuel least v r
          | none => .ok (a, ts, s)
      | _ => .ok (a, ts, s)

/-- A number, a variable, a formula in brackets, or a sign in front of one of them. -/
def primary : (fuel : Nat) → Rest → Except Fault (Int × Rest)
  | 0, _ => .error .primary
  | fuel + 1, (ts, s) =>
      match ts with
      | .number n :: rest => .ok (n, rest, s)
      | .name n :: rest => .ok (s.get n, rest, s)
      | .mark "(" :: rest =>
          match whole fuel (rest, s) with
          | .ok (v, .mark ")" :: left, s) => .ok (v, left, s)
          | .ok _ => .error .tail
          | .error e => .error e
      | .mark "-" :: rest => (primary fuel (rest, s)).map fun r => (wrapped (-r.1), r.2)
      | .mark "+" :: rest => primary fuel (rest, s)
      | .mark "!" :: rest => (primary fuel (rest, s)).map fun r => (ofTruth (r.1 == 0), r.2)
      | .mark "~" :: rest => (primary fuel (rest, s)).map fun r => (-r.1 - 1, r.2)
      | _ => .error .primary

end

/-- The value of a formula, and the variables that it has changed, the last one first. -/
def evaluate (value : String → Int) (cs : List Char) : Except Fault (Int × List (String × Int)) :=
  match symbols (cs.length + 1) cs with
  | .error e => .error e
  | .ok ts =>
      match whole (8 * ts.length + 8) (ts, ⟨value, []⟩) with
      | .error e => .error e
      | .ok (v, [], s) => .ok (v, s.written)
      | .ok _ => .error .tail

end Formula
end Script
end Homelab
