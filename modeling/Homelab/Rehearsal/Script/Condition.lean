import Homelab.Rehearsal.Script.Disk
import Homelab.Text.Digit

/-!
# Conditions

Conditions on texts, numbers and files, written as words: an operation in front of a
word or between two words, a mark that turns a condition round, conditions joined by
"and" and "or", and conditions in brackets.
-/

namespace Homelab
namespace Script
namespace Condition

/-- Whether a condition holds, and the words behind it, or what is wrong with it. -/
abbrev Reading := Except String (Bool × List String)

/-- The number that a word writes, with blanks around it. -/
def number? (word : String) : Option Int :=
  let isSpace (c : Char) := c = ' ' || c = '\t' || c = '\n'
  let cs := word.toList.dropWhile isSpace
  let cs := (cs.reverse.dropWhile isSpace).reverse
  let (negative, digits) : Bool × List Char := match cs with
    | '-' :: rest => (true, rest)
    | '+' :: rest => (false, rest)
    | _ => (false, cs)
  if digits.isEmpty || !digits.all Text.isAsciiDigit then none
  else
    let n : Int := Text.natOfDigits digits
    some (if negative then -n else n)

/-- An operation in front of a word. -/
def unary? (disk : Disk) (directory : String) : String → Option (String → Bool)
  | "-n" => some (· != "")
  | "-z" => some (· == "")
  | "-e" | "-r" | "-w" => some fun word => (disk.item? directory word).isSome
  | "-f" => some fun word =>
      match disk.item? directory word with
      | some (.file _) => !(Disk.path directory word).startsWith "/dev/"
      | _ => false
  | "-d" | "-x" => some fun word => disk.item? directory word = some .folder
  | "-s" => some fun word =>
      match disk.item? directory word with
      | some .folder => true
      | some (.file bytes) => !bytes.isEmpty && !(Disk.path directory word).startsWith "/dev/"
      | none => false
  | "-c" => some fun word =>
      (Disk.path directory word).startsWith "/dev/" && (disk.item? directory word).isSome
  | "-b" | "-g" | "-h" | "-k" | "-L" | "-p" | "-S" | "-t" | "-u" => some fun _ => false
  | _ => none

/-- A comparison of the numbers that two words write. -/
def compared (holds : Int → Int → Bool) (a b : String) : Except String Bool :=
  match number? a, number? b with
  | none, _ => .error ("Illegal number: " ++ a)
  | some _, none => .error ("Illegal number: " ++ b)
  | some m, some n => .ok (holds m n)

/-- An operation between two words. -/
def binary? : String → Option (String → String → Except String Bool)
  | "=" => some fun a b => .ok (a == b)
  | "!=" => some fun a b => .ok (a != b)
  | "<" => some fun a b => .ok (decide (a < b))
  | ">" => some fun a b => .ok (decide (b < a))
  | "-eq" => some (compared fun m n => m == n)
  | "-ne" => some (compared fun m n => m != n)
  | "-lt" => some (compared fun m n => decide (m < n))
  | "-le" => some (compared fun m n => decide (m ≤ n))
  | "-gt" => some (compared fun m n => decide (n < m))
  | "-ge" => some (compared fun m n => decide (n ≤ m))
  | _ => none

mutual

/-- Conditions joined by "or". -/
def disjunction (disk : Disk) (directory : String) : (fuel : Nat) → List String → Reading
  | 0, _ => .error "argument expected"
  | fuel + 1, words => do
      let (a, rest) ← conjunction disk directory fuel words
      match rest with
      | "-o" :: more =>
          let (b, rest) ← disjunction disk directory fuel more
          return (a || b, rest)
      | _ => return (a, rest)

/-- Conditions joined by "and". -/
def conjunction (disk : Disk) (directory : String) : (fuel : Nat) → List String → Reading
  | 0, _ => .error "argument expected"
  | fuel + 1, words => do
      let (a, rest) ← single disk directory fuel words
      match rest with
      | "-a" :: more =>
          let (b, rest) ← conjunction disk directory fuel more
          return (a && b, rest)
      | _ => return (a, rest)

/-- A condition that is not joined to another one. -/
def single (disk : Disk) (directory : String) : (fuel : Nat) → List String → Reading
  | 0, _ => .error "argument expected"
  | fuel + 1, words =>
      match words with
      | [] => .ok (false, [])
      | [a] => .ok (a != "", [])
      | a :: op :: rest =>
          match binary? op with
          | some compare =>
              match rest with
              | b :: rest => (compare a b).map fun holds => (holds, rest)
              | [] => .error (op ++ ": argument expected")
          | none =>
              if a = "!" then (single disk directory fuel (op :: rest)).map fun r => (!r.1, r.2)
              else if a = "(" then do
                let (holds, rest) ← disjunction disk directory fuel (op :: rest)
                match rest with
                | ")" :: rest => return (holds, rest)
                | _ => .error "closing paren expected"
              else
                match unary? disk directory a with
                | some holds => .ok (holds op, rest)
                | none => .ok (a != "", op :: rest)

end

/-- Whether the condition that some words write holds, or what is wrong with it. -/
def holds (disk : Disk) (directory : String) (words : List String) : Except String Bool :=
  if words.isEmpty then .ok false
  else
    match disjunction disk directory (4 * words.length + 4) words with
    | .error e => .error e
    | .ok (found, []) => .ok found
    | .ok (_, left) =>
        .error ((words.getD (words.length - left.length - 1) "") ++ ": unexpected operator")

end Condition
end Script
end Homelab
