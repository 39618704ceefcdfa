import Homelab.Site
import Homelab.Text.Blank
import Homelab.Text.Lines

/-!
# Files of variables

A file of variables has one variable on a line: a name, an equals sign and a value,
possibly after the word `export`.  A value may stand in quotes; in double quotes a
backslash writes the usual control characters, in single quotes only a quote and a
backslash.  A value without quotes ends before a blank with a number sign.  A name
alone is a variable without a value.  Lines that are nothing of this are skipped.

In a value, `${name}` stands for a variable of the lines above or of the environment,
and `${name:-text}` for the text if there is no such variable.
-/

namespace Homelab
namespace EnvFile

/-- A blank that does not end a line. -/
def isInlineBlank (c : Char) : Bool :=
  Text.isBlank c && c ≠ '\r' && c ≠ '\n'

/-- A character of a line. -/
def isInline (c : Char) : Bool := c ≠ '\r' && c ≠ '\n'

/-- A character of a name without quotes. -/
def isNameChar (c : Char) : Bool :=
  c ≠ '=' && c ≠ '#' && !Text.isBlank c

/-- What is left after the word `export` and a blank. -/
def dropExport (cs : List Char) : List Char :=
  match Text.after? "export".toList cs with
  | some rest =>
      if (rest.head?.map isInlineBlank).getD false then rest.dropWhile isInlineBlank else cs
  | none => cs

/-- A step in a line: what it found and what is left, or where the line went wrong. -/
abbrev Step (α : Type) := Except (List Char) (α × List Char)

/-- A name and what is left after it; a comment has none. -/
def name (cs : List Char) : Step (Option (List Char)) :=
  match cs with
  | '#' :: _ => .ok (none, cs)
  | '\'' :: rest =>
      match rest.span (· ≠ '\'') with
      | (name, '\'' :: left) => if name.isEmpty then .error cs else .ok (some name, left)
      | _ => .error cs
  | _ =>
      match cs.span isNameChar with
      | ([], _) => .error cs
      | (name, left) => .ok (some name, left)

/-- The inside of a quoted text and what is left after its closing quote.  A quote
after a backslash closes nothing, unless no other quote does. -/
def quoted? (mark : Char) : List Char → Option (List Char × List Char)
  | [] => none
  | '\\' :: c :: rest =>
      if c = mark then
        match quoted? mark rest with
        | some (inside, left) => some ('\\' :: c :: inside, left)
        | none => some (['\\'], rest)
      else (quoted? mark (c :: rest)).map fun p => ('\\' :: p.1, p.2)
  | c :: rest =>
      if c = mark then some ([], rest)
      else (quoted? mark rest).map fun p => (c :: p.1, p.2)

/-- The character that a letter after a backslash writes in double quotes. -/
def escape? (c : Char) : Option Char :=
  match c with
  | '\\' => some '\\'
  | '\'' => some '\''
  | '"' => some '"'
  | 'a' => some (Char.ofNat 0x07)
  | 'b' => some (Char.ofNat 0x08)
  | 'f' => some (Char.ofNat 0x0c)
  | 'n' => some '\n'
  | 'r' => some '\r'
  | 't' => some '\t'
  | 'v' => some (Char.ofNat 0x0b)
  | _ => none

/-- The character that a letter after a backslash writes in single quotes. -/
def plainEscape? (c : Char) : Option Char :=
  if c = '\\' || c = '\'' then some c else none

/-- A text with its escapes replaced. -/
def unescaped (escape? : Char → Option Char) : List Char → List Char
  | '\\' :: c :: rest =>
      match escape? c with
      | some d => d :: unescaped escape? rest
      | none => '\\' :: unescaped escape? (c :: rest)
  | c :: rest => c :: unescaped escape? rest
  | [] => []

/-- A value without quotes up to the comment after it. -/
def beforeComment : List Char → List Char
  | [] => []
  | c :: rest =>
      if Text.isBlank c && (rest.dropWhile Text.isBlank).head? = some '#' then []
      else c :: beforeComment rest

/-- A text without the blanks at its end. -/
def dropEndBlanks (cs : List Char) : List Char :=
  (cs.reverse.dropWhile Text.isBlank).reverse

/-- A value and what is left after it. -/
def value (cs : List Char) : Step (List Char) :=
  match cs with
  | '\'' :: rest =>
      match quoted? '\'' rest with
      | some (inside, left) => .ok (unescaped plainEscape? inside, left)
      | none => .error cs
  | '"' :: rest =>
      match quoted? '"' rest with
      | some (inside, left) => .ok (unescaped escape? inside, left)
      | none => .error cs
  | _ =>
      let (line, left) := cs.span isInline
      .ok (dropEndBlanks (beforeComment line), left)

/-- The end of the line, with nothing but a comment before it. -/
def lineEnd (cs : List Char) : Step Unit :=
  let rest := cs.dropWhile isInlineBlank
  let rest := if rest.head? = some '#' then rest.dropWhile isInline else rest
  match rest with
  | [] => .ok ((), [])
  | '\r' :: '\n' :: left => .ok ((), left)
  | c :: left => if isInline c then .error cs else .ok ((), left)

/-- What one line binds: nothing for a comment. -/
abbrev Binding := Option (String × Option String)

/-- A name, bound to a value. -/
def bound (name : Option (List Char)) (value : Option (List Char)) : Binding :=
  name.map fun n => (String.ofList n, value.map String.ofList)

/-- The binding at the beginning of a text. -/
def binding (cs : List Char) : Except (List Char) (Binding × List Char) := do
  let (name, rest) ← name (dropExport cs)
  match rest.dropWhile isInlineBlank with
  | '=' :: more =>
      let (value, left) ← value (more.dropWhile isInlineBlank)
      let ((), left) ← lineEnd left
      return (bound name (some value), left)
  | rest =>
      let ((), left) ← lineEnd rest
      return (bound name none, left)

/-- What is left after a line that binds nothing. -/
def afterLine (cs : List Char) : List Char :=
  (cs.dropWhile isInline).drop 1

/-- The bindings of a text, with at most the given number of lines. -/
def bindings : (fuel : Nat) → List Char → List (String × Option String)
  | 0, _ => []
  | fuel + 1, cs =>
      match cs.dropWhile Text.isBlank with
      | [] => []
      | rest =>
          match binding rest with
          | .ok (some b, left) => b :: bindings fuel left
          | .ok (none, left) => bindings fuel left
          | .error place => bindings fuel (afterLine place)

/-- A name in braces, with the text that stands in for it. -/
def placeholder? (cs : List Char) : Option (String × String × List Char) :=
  match cs with
  | '$' :: '\x7b' :: rest =>
      let (name, more) := rest.span fun c => c ≠ '\x7d' && c ≠ ':'
      match more with
      | '\x7d' :: left => some (String.ofList name, "", left)
      | ':' :: '-' :: fallback =>
          match fallback.span (· ≠ '\x7d') with
          | (text, '\x7d' :: left) => some (String.ofList name, String.ofList text, left)
          | _ => none
      | _ => none
  | _ => none

/-- A value with its placeholders replaced; `fuel` is at least its length. -/
def filled (known : String → Option (Option String)) : (fuel : Nat) → List Char → List Char
  | 0, _ => []
  | _, [] => []
  | fuel + 1, c :: rest =>
      match placeholder? (c :: rest) with
      | some (name, fallback, left) =>
          (match known name with
            | some value => (value.getD "").toList
            | none => fallback.toList) ++ filled known fuel left
      | none => c :: filled known fuel rest

/-- A variable of a file is set; one that is there keeps its place. -/
def put (name : String) (value : Option String) :
    List (String × Option String) → List (String × Option String)
  | [] => [(name, value)]
  | (n, v) :: rest => if n = name then (n, value) :: rest else (n, v) :: put name value rest

/-- The variables of a text, with the environment that placeholders may refer to. -/
def read (environment : List (String × String)) (text : String) :
    List (String × Option String) :=
  let cs := text.toList
  (bindings (cs.length + 1) cs).foldl
    (fun found b =>
      let known (name : String) : Option (Option String) :=
        match found.lookup name with
        | some v => some v
        | none => (environment.lookup name).map some
      put b.1 (b.2.map fun v => String.ofList (filled known (v.length + 1) v.toList)) found)
    []

end EnvFile
end Homelab
