import Homelab.Rehearsal.Script
import Homelab.Text.Digit

/-!
# Words of a script

How the text of a word is taken apart.  Single quotes keep everything, double quotes
everything but substitutions and a backslash in front of a mark, and a backslash keeps
the next character.  A substitution begins with a dollar sign, or stands between grave
accents.
-/

namespace Homelab
namespace Script

/-- A character of the name of a variable. -/
def isNameChar (c : Char) : Bool := c.isAlphanum || c = '_'

/-- A character that the name of a variable may begin with. -/
def beginsName (c : Char) : Bool := c.isAlpha || c = '_'

/-- A text can be the name of a variable. -/
def isName (text : String) : Bool :=
  match text.toList with
  | c :: cs => beginsName c && cs.all isNameChar
  | [] => false

/-- The mark that stands around a script whose output is put in its place. -/
def grave : Char := Char.ofNat 0x60

/-- What a script leaves open at its end. -/
inductive Opening where
  | quote
  | script
  | graveScript
  | braces
  | formula
deriving DecidableEq

/-- What is said about something that is left open. -/
def Opening.text : Opening → String
  | quote => "Syntax error: Unterminated quoted string"
  | script => "Syntax error: end of file unexpected (expecting \")\")"
  | graveScript => "Syntax error: EOF in backquote substitution"
  | braces => "Syntax error: Missing '\x7d'"
  | formula => "Syntax error: Missing '))'"

/-- What has been read, and what is left. -/
abbrev ReadAs (α : Type) := Except Opening (α × List Char)

/-- A text up to a mark that has no backslash in front of it, and what is left; `opening`
is what the mark closes. -/
def untilMark (mark : Char) (opening : Opening) : List Char → ReadAs (List Char)
  | [] => .error opening
  | '\\' :: c :: rest => (untilMark mark opening rest).map fun p => ('\\' :: c :: p.1, p.2)
  | c :: rest =>
      if c = mark then .ok ([], rest)
      else (untilMark mark opening rest).map fun p => (c :: p.1, p.2)

/-- A text up to the closing mark that belongs to an opening one before it, and what is
left; marks in quotes do not count. -/
def untilClose (opened closed : Char) (opening : Opening) : (fuel depth : Nat) → List Char →
    ReadAs (List Char)
  | 0, _, _ => .error opening
  | _, _, [] => .error opening
  | fuel + 1, depth, c :: rest =>
      let onward (taken left : List Char) (depth : Nat) : ReadAs (List Char) :=
        (untilClose opened closed opening fuel depth left).map fun p => (taken ++ p.1, p.2)
      if c = closed then
        match depth with
        | 0 => .ok ([], rest)
        | d + 1 => onward [c] rest d
      else if c = opened then onward [c] rest (depth + 1)
      else if c = '\\' then onward (c :: rest.take 1) (rest.drop 1) depth
      else if c = '\'' then
        match rest.span (· ≠ '\'') with
        | (inside, _ :: left) => onward (c :: inside ++ [c]) left depth
        | _ => .error .quote
      else if c = '"' then
        match untilMark '"' .quote rest with
        | .ok (inside, left) => onward (c :: inside ++ [c]) left depth
        | .error e => .error e
      else onward [c] rest depth

/-- What stands behind the name of a variable in braces: the use that is made of its
value, and a text that belongs to the use. -/
def useOf? (cs : List Char) : Option (Use × List Char) :=
  match cs with
  | [] => some (.plain, [])
  | ':' :: '-' :: other => some (.fallback true, other)
  | '-' :: other => some (.fallback false, other)
  | ':' :: '+' :: other => some (.alternative true, other)
  | '+' :: other => some (.alternative false, other)
  | ':' :: '=' :: other => some (.assign true, other)
  | '=' :: other => some (.assign false, other)
  | ':' :: '?' :: other => some (.demand true, other)
  | '?' :: other => some (.demand false, other)
  | '%' :: '%' :: other => some (.withoutEnd true, other)
  | '%' :: other => some (.withoutEnd false, other)
  | '#' :: '#' :: other => some (.withoutStart true, other)
  | '#' :: other => some (.withoutStart false, other)
  | _ => none

/-- A character that is the name of a variable of the shell itself. -/
def isShellName (c : Char) : Bool := "$?#!-".toList.contains c || c.isDigit

/-- The name of a variable at the beginning of a text, and what is left. -/
def nameAt? (cs : List Char) : Option (String × List Char) :=
  match cs with
  | c :: rest =>
      if beginsName c then
        let (name, left) := cs.span isNameChar
        some (String.ofList name, left)
      else if isShellName c then some (String.singleton c, rest)
      else none
  | [] => none

/-- The variable that the inside of braces stands for. -/
def braced? (quoted : Bool) (inside : List Char) : Option Part :=
  let digits := inside.takeWhile Text.isAsciiDigit
  match inside with
  | ['@'] => some (.arguments false quoted)
  | ['*'] => some (.arguments true quoted)
  | '#' :: c :: rest =>
      match nameAt? (c :: rest) with
      | some (name, []) => some (.variable name .length [] quoted)
      | _ => none
  | _ =>
      match if digits.isEmpty then nameAt? inside
        else some (String.ofList digits, inside.drop digits.length) with
      | some (name, behind) => (useOf? behind).map fun u => .variable name u.1 u.2 quoted
      | none => none

/-- The substitution after a dollar sign; none if the sign stands for itself. -/
def substitution? (quoted : Bool) (cs : List Char) : ReadAs (Option Part) :=
  let fuel := cs.length + 1
  match cs with
  | '(' :: '(' :: rest =>
      match untilClose '(' ')' .formula fuel 0 rest with
      | .ok (formula, ')' :: left) => .ok (some (.number formula quoted), left)
      | .error .formula => .error .formula
      | _ =>
          (untilClose '(' ')' .formula fuel 0 ('(' :: rest)).map fun p =>
            (some (.output p.1 quoted), p.2)
  | '(' :: rest =>
      (untilClose '(' ')' .script fuel 0 rest).map fun p => (some (.output p.1 quoted), p.2)
  | '\x7b' :: rest =>
      (untilClose '\x7b' '\x7d' .braces fuel 0 rest).map fun p =>
        (some ((braced? quoted p.1).getD (.variable "" .plain [] quoted)), p.2)
  | '@' :: rest => .ok (some (.arguments false quoted), rest)
  | '*' :: rest => .ok (some (.arguments true quoted), rest)
  | _ =>
      match nameAt? cs with
      | some (name, left) => .ok (some (.variable name .plain [] quoted), left)
      | none => .ok (none, cs)

/-- A character is added to the text in front of a word. -/
def push (quoted : Bool) (c : Char) : Word → Word
  | .text cs q :: rest => if q = quoted then .text (c :: cs) q :: rest else .text [c] quoted :: .text cs q :: rest
  | w => .text [c] quoted :: w

/-- The text between grave accents as a script: a backslash in front of a mark goes. -/
def graveText : List Char → List Char
  | '\\' :: c :: rest =>
      if c = '\\' || c = '$' || c = grave then c :: graveText rest else '\\' :: c :: graveText rest
  | c :: rest => c :: graveText rest
  | [] => []

/-- The parts of a text in double quotes; `closing` is the mark that ends it, if one
does. -/
def inDouble (closing : Option Char) : (fuel : Nat) → List Char → ReadAs Word
  | 0, _ => .error .quote
  | _, [] => if closing.isNone then .ok ([], []) else .error .quote
  | fuel + 1, c :: rest =>
      let onward (d : Char) (left : List Char) : ReadAs Word :=
        (inDouble closing fuel left).map fun p => (push true d p.1, p.2)
      if closing = some c then .ok ([], rest)
      else if c = '\\' then
        match rest with
        | '\n' :: left => inDouble closing fuel left
        | d :: left =>
            if d = '\\' || d = '$' || d = grave || closing = some d then onward d left
            else onward c rest
        | [] => onward c rest
      else if c = grave then
        match untilMark grave .graveScript rest with
        | .ok (inside, left) =>
            (inDouble closing fuel left).map fun p => (.output (graveText inside) true :: p.1, p.2)
        | .error e => .error e
      else if c = '$' then
        match substitution? true rest with
        | .ok (some part, left) => (inDouble closing fuel left).map fun p => (part :: p.1, p.2)
        | .ok (none, _) => onward c rest
        | .error e => .error e
      else onward c rest

/-- The parts of a text in which only substitutions count. -/
def partsInQuotes (cs : List Char) : Word :=
  match inDouble none (cs.length + 1) cs with
  | .ok (w, _) => w
  | .error _ => [.text cs true]

/-- The parts of a word up to a character that ends it. -/
def wordFrom (ends : Char → Bool) : (fuel : Nat) → List Char → ReadAs Word
  | 0, _ => .error .quote
  | _, [] => .ok ([], [])
  | fuel + 1, c :: rest =>
      let onward (part : Part) (left : List Char) : ReadAs Word :=
        (wordFrom ends fuel left).map fun p => (part :: p.1, p.2)
      let plain : ReadAs Word := (wordFrom ends fuel rest).map fun p => (push false c p.1, p.2)
      if ends c then .ok ([], c :: rest)
      else if c = '\'' then
        match rest.span (· ≠ '\'') with
        | (inside, _ :: left) => onward (.text inside true) left
        | _ => .error .quote
      else if c = '"' then
        match inDouble (some '"') (rest.length + 1) rest with
        | .ok (inside, left) =>
            (wordFrom ends fuel left).map fun p => (.text [] true :: inside ++ p.1, p.2)
        | .error e => .error e
      else if c = '\\' then
        match rest with
        | '\n' :: left => wordFrom ends fuel left
        | d :: left => onward (.text [d] true) left
        | [] => .ok ([.text ['\\'] true], [])
      else if c = grave then
        match untilMark grave .graveScript rest with
        | .ok (inside, left) => onward (.output (graveText inside) false) left
        | .error e => .error e
      else if c = '$' then
        match substitution? false rest with
        | .ok (some part, left) => onward part left
        | .ok (none, _) => plain
        | .error e => .error e
      else plain

/-- The parts of a text that is one word as a whole, blanks included. -/
def partsOf (cs : List Char) : Word :=
  match wordFrom (fun _ => false) (cs.length + 1) cs with
  | .ok (w, _) => w
  | .error _ => [.text cs true]

/-- The text of a word that is nothing but text without quotes. -/
def bareText? : Word → Option String
  | [.text cs false] => some (String.ofList cs)
  | _ => none

end Script
end Homelab
