import Homelab.Rehearsal.Script.Word
import Homelab.Text.Lines

/-!
# Reading scripts

A script is taken apart into words, marks and redirections, and these are put together
as commands.  Words that stand for parts of a command count as such only where a command
may begin, and only without quotes.

A script is read line by line, so what stands before a fault is still run; a command
that is not complete at the end of a line goes on with the next one.
-/

namespace Homelab
namespace Script

/-- A lexical item of a script. -/
inductive Token where
  | word (w : Word) (line : Nat)
  | mark (s : String) (line : Nat)
  | redirect (r : Redirection)
deriving DecidableEq

/-- What is wrong with a script: the line, and what was found there. -/
structure ScriptFault where
  line : Nat
  found : String
deriving DecidableEq

/-- The line on which a token stands. -/
def Token.line : Token → Nat
  | .word _ n => n
  | .mark _ n => n
  | .redirect _ => 1

/-- A character that ends a word without quotes. -/
def endsWord (c : Char) : Bool :=
  Shell.isSpace c || ";&|<>()".toList.contains c

/-- The number of lines that a text spans. -/
def linesIn (cs : List Char) : Nat := cs.count '\n'

/-- The lines of a text up to the one that ends it, and what is left; tabs in front of
the lines may be left out. -/
def untilLine (withoutTabs : Bool) (last : List Char) : (fuel : Nat) → List Char →
    List Char × List Char
  | 0, cs => (cs, [])
  | fuel + 1, cs =>
      let (whole, left) := cs.span (· ≠ '\n')
      let line := if withoutTabs then whole.dropWhile (· = '\t') else whole
      if line = last then ([], left.drop 1)
      else
        match left with
        | _ :: rest =>
            let (more, left) := untilLine withoutTabs last fuel rest
            (line ++ '\n' :: more, left)
        | [] => (line, [])

/-- The arrow at the beginning of a text, and what is left. -/
def arrow? (cs : List Char) : Option (Nat × Aim × List Char) :=
  let after (stream : Option Nat) (rest : List Char) : Option (Nat × Aim × List Char) :=
    match rest with
    | '>' :: '>' :: left => some (stream.getD 1, .append, left)
    | '>' :: '&' :: left => some (stream.getD 1, .copy, left)
    | '>' :: '|' :: left => some (stream.getD 1, .write, left)
    | '>' :: left => some (stream.getD 1, .write, left)
    | '<' :: '<' :: left => some (stream.getD 0, .here, left)
    | '<' :: '&' :: left => some (stream.getD 0, .copy, left)
    | '<' :: left => some (stream.getD 0, .read, left)
    | _ => none
  match cs with
  | c :: rest => if c.isDigit then after (some (c.toNat - '0'.toNat)) rest else after none cs
  | [] => none

/-- The text of a word without its quotes and substitutions. -/
def plainText (w : Word) : List Char :=
  w.flatMap fun p => match p with
    | .text cs _ => cs
    | _ => []

/-- A word has quotes in it. -/
def hasQuotes (w : Word) : Bool :=
  w.any fun p => match p with
    | .text _ quoted => quoted
    | _ => false

/-- The mark at the beginning of a text, and what is left. -/
def mark? (cs : List Char) : Option (String × List Char) :=
  match cs with
  | ';' :: ';' :: rest => some (";;", rest)
  | ';' :: rest => some (";", rest)
  | '&' :: '&' :: rest => some ("&&", rest)
  | '&' :: rest => some ("&", rest)
  | '|' :: '|' :: rest => some ("||", rest)
  | '|' :: rest => some ("|", rest)
  | '(' :: rest => some ("(", rest)
  | ')' :: rest => some (")", rest)
  | '\n' :: rest => some ("\n", rest)
  | _ => none

/-- The target that a redirection lacks in front of what comes next. -/
def lacksTarget (line : Nat) (left : List Char) : ScriptFault :=
  let found := match left with
    | [] => "end of file"
    | '\n' :: _ => "newline"
    | '<' :: _ | '>' :: _ => "redirection"
    | _ => "\"" ++ ((mark? left).map Prod.fst).getD "" ++ "\""
  ⟨if left.head? = some '\n' then line + 1 else line, "Syntax error: " ++ found ++ " unexpected"⟩

/-- The tokens of a script up to its end or to the first fault. -/
def tokens : (fuel line : Nat) → List Char → List Token × Option ScriptFault
  | 0, line, _ => ([], some ⟨line, Opening.quote.text⟩)
  | _, _, [] => ([], none)
  | fuel + 1, line, c :: rest =>
      let cs := c :: rest
      let onward (t : Token) (line : Nat) (left : List Char) :=
        let (more, fault) := tokens fuel line left
        (t :: more, fault)
      if c = '#' then tokens fuel line (rest.dropWhile (· ≠ '\n'))
      else if c = '\\' && rest.head? = some '\n' then tokens fuel (line + 1) (rest.drop 1)
      else
        match mark? cs with
        | some (m, left) => onward (.mark m line) (if m = "\n" then line + 1 else line) left
        | none =>
            if Shell.isSpace c then tokens fuel line rest
            else
              match arrow? cs with
              | some (stream, aim, left) =>
                  let withoutTabs := aim = .here && left.head? = some '-'
                  let left := (if withoutTabs then left.drop 1 else left).dropWhile fun d =>
                    d = ' ' || d = '\t'
                  match wordFrom endsWord (left.length + 1) left with
                  | .error opening => ([], some ⟨line, opening.text⟩)
                  | .ok ([], left) => ([], some (lacksTarget line left))
                  | .ok (target, left) =>
                      if aim = .here then
                        let (rowEnd, below) := left.span (· ≠ '\n')
                        let (text, left) :=
                          untilLine withoutTabs (plainText target) below.length (below.drop 1)
                        let body := if hasQuotes target then [.text text true] else partsInQuotes text
                        onward (.redirect ⟨stream, aim, body⟩) line (rowEnd ++ '\n' :: left)
                      else onward (.redirect ⟨stream, aim, target⟩) line left
              | none =>
                  match wordFrom endsWord (cs.length + 1) cs with
                  | .error opening => ([], some ⟨line, opening.text⟩)
                  | .ok (w, left) =>
                      onward (.word w line)
                        (line + linesIn (cs.take (cs.length - left.length))) left

/-- The words that stand for parts of a command. -/
def keywords : List String :=
  ["if", "then", "elif", "else", "fi", "while", "until", "for", "do", "done", "case", "esac", "in",
   "\x7b", "\x7d", "!"]

/-- The keyword that a token is. -/
def keyword? : Token → Option String
  | .word w _ => (bareText? w).filter keywords.contains
  | _ => none

/-- The next token is a keyword. -/
def isKeyword (s : String) (ts : List Token) : Bool := ts.head?.bind keyword? = some s

/-- The next token is a mark. -/
def isMark (s : String) (ts : List Token) : Bool :=
  match ts with
  | .mark m _ :: _ => m = s
  | _ => false

/-- A fault at the next token; `wanted` is what has been looked for, if that is one
thing, and empty if it is a word. -/
def unexpected {α : Type} (wanted : Option String) (last : Nat) (ts : List Token) : Except ScriptFault (α × List Token) :=
  let found := match ts with
    | [] => "end of file unexpected"
    | .mark "\n" _ :: _ => "newline unexpected"
    | .mark m _ :: _ => "\"" ++ m ++ "\" unexpected"
    | .word w _ :: _ =>
        if (bareText? w).any keywords.contains then
          "\"" ++ String.ofList (plainText w) ++ "\" unexpected"
        else "word unexpected"
    | .redirect _ :: _ => "redirection unexpected"
  let line := (ts.head?.map Token.line).getD last
  let wish := match wanted with
    | some "" => " (expecting word)"
    | some s => " (expecting \"" ++ s ++ "\")"
    | none => ""
  .error ⟨line, "Syntax error: " ++ found ++ wish⟩

/-- A keyword that has to come next. -/
def expectKeyword (s : String) (last : Nat) (ts : List Token) : Except ScriptFault (Unit × List Token) :=
  if isKeyword s ts then .ok ((), ts.drop 1) else unexpected (some s) last ts

/-- A mark that has to come next. -/
def expectMark (s : String) (last : Nat) (ts : List Token) : Except ScriptFault (Unit × List Token) :=
  if isMark s ts then .ok ((), ts.drop 1) else unexpected (some s) last ts

/-- Tokens without the ends of lines in front of them. -/
def skipLines (ts : List Token) : List Token :=
  ts.dropWhile fun t => match t with
    | .mark m _ => m = "\n"
    | _ => false

/-- Tokens without the break in front of the body of a loop. -/
def afterBreak (ts : List Token) : List Token :=
  skipLines (if isMark ";" ts then ts.drop 1 else ts)

/-- The words and redirections of a simple command, and the tokens left. -/
def simpleParts : List Token → List Word × List Redirection × List Token
  | .word w _ :: rest =>
      let (words, redirections, left) := simpleParts rest
      (w :: words, redirections, left)
  | .redirect r :: rest =>
      let (words, redirections, left) := simpleParts rest
      (words, r :: redirections, left)
  | ts => ([], [], ts)

/-- The redirections behind a command, and the tokens left. -/
def redirectionsBehind : List Token → List Redirection × List Token
  | .redirect r :: rest =>
      let (more, left) := redirectionsBehind rest
      (r :: more, left)
  | ts => ([], ts)

/-- A command with redirections, if there are any. -/
def withRedirections (c : Command) (rs : List Redirection) : Command :=
  if rs.isEmpty then c else .redirected c rs

/-- The words up to the end of a line or of a list. -/
def wordsHere : List Token → List Word × List Token
  | .word w _ :: rest =>
      let (words, left) := wordsHere rest
      (w :: words, left)
  | ts => ([], ts)

/-- The patterns in front of a case, between bars, and what is left after the bracket
behind them. -/
def patterns (last : Nat) : List Token → Except ScriptFault (List Word × List Token)
  | .word w _ :: .mark "|" _ :: rest => do
      let (more, left) ← patterns last rest
      return (w :: more, left)
  | .word w _ :: .mark ")" _ :: rest => .ok ([w], rest)
  | [] => unexpected (some ")") last []
  | _ :: rest => unexpected (some ")") last rest

/-- What is said about a loop over words that names no variable. -/
def badLoop : String := "Syntax error: Bad for loop variable"

/-- A list of commands ends here. -/
def endsList (ts : List Token) : Bool :=
  match ts with
  | [] => true
  | t :: _ =>
      isMark ")" ts || isMark ";;" ts ||
        (keyword? t).any ["then", "elif", "else", "fi", "do", "done", "esac", "\x7d"].contains

mutual

/-- The commands up to the end of a list; with `oneLine` the end of a line ends it. -/
def steps : (fuel : Nat) → (oneLine : Bool) → (last : Nat) → Joint → List Token →
    Except ScriptFault (List (Joint × Command) × List Token)
  | 0, _, last, _, ts => unexpected none last ts
  | fuel + 1, oneLine, last, joint, ts =>
      let ts := if oneLine then ts else skipLines ts
      if endsList ts || isMark "\n" ts then .ok ([], ts)
      else do
        let (c, left) ← pipelineOf fuel last ts
        match left with
        | .mark "&&" _ :: rest =>
            let (more, left) ← steps fuel oneLine last .onSuccess (skipLines rest)
            if more.isEmpty then unexpected none last (skipLines rest)
            else return ((joint, c) :: more, left)
        | .mark "||" _ :: rest =>
            let (more, left) ← steps fuel oneLine last .onFailure (skipLines rest)
            if more.isEmpty then unexpected none last (skipLines rest)
            else return ((joint, c) :: more, left)
        | .mark m _ :: rest =>
            if m = ";" || m = "&" || (m = "\n" && !oneLine) then
              let (more, left) ← steps fuel oneLine last .always rest
              let c := if m = "&" then .branch (.isolated c) .nothing .nothing else c
              return ((joint, c) :: more, left)
            else return ([(joint, c)], left)
        | _ => return ([(joint, c)], left)

/-- The commands up to the end of a list, of which there has to be one. -/
def listOf : (fuel : Nat) → (last : Nat) → List Token → Except ScriptFault (Command × List Token)
  | 0, last, ts => unexpected none last ts
  | fuel + 1, last, ts => do
      let (found, left) ← steps fuel false last .always ts
      if found.isEmpty && !left.isEmpty then unexpected none last left
      else return (.sequence found, left)

/-- Commands joined by pipes. -/
def pipelineOf : (fuel : Nat) → (last : Nat) → List Token → Except ScriptFault (Command × List Token)
  | 0, last, ts => unexpected none last ts
  | fuel + 1, last, ts => do
      let negated := isKeyword "!" ts
      let (first, left) ← commandOf fuel last (if negated then ts.drop 1 else ts)
      let (more, left) ← pipeRest fuel last left
      if more.isEmpty && !negated then return (first, left)
      else return (.pipeline negated (first :: more), left)

/-- The commands behind further pipes. -/
def pipeRest : (fuel : Nat) → (last : Nat) → List Token → Except ScriptFault (List Command × List Token)
  | 0, last, ts => unexpected none last ts
  | fuel + 1, last, ts =>
      if isMark "|" ts then do
        let (c, left) ← commandOf fuel last (skipLines (ts.drop 1))
        let (more, left) ← pipeRest fuel last left
        return (c :: more, left)
      else .ok ([], ts)

/-- A single command with its redirections. -/
def commandOf : (fuel : Nat) → (last : Nat) → List Token → Except ScriptFault (Command × List Token)
  | 0, last, ts => unexpected none last ts
  | fuel + 1, last, ts => do
      match ts with
      | [] => unexpected none last ts
      | t :: rest =>
          match keyword? t with
          | some k =>
              let (c, left) ← compound fuel last k ts rest
              let (rs, left) := redirectionsBehind left
              return (withRedirections c rs, left)
          | none =>
              match ts with
              | .mark "(" _ :: rest =>
                  let (body, left) ← listOf fuel last rest
                  let ((), left) ← expectMark ")" last left
                  let (rs, left) := redirectionsBehind left
                  return (withRedirections (.isolated body) rs, left)
              | .word w line :: .mark "(" _ :: rest =>
                  let ((), rest) ← expectMark ")" last rest
                  if !((bareText? w).any isName) then .error ⟨line, "Syntax error: Bad function name"⟩
                  else
                    let (body, left) ← commandOf fuel last (skipLines rest)
                    return (.define (String.ofList (plainText w)) body, left)
              | .mark _ _ :: _ => unexpected none last ts
              | _ =>
                  let (words, rs, left) := simpleParts ts
                  return (withRedirections (.simple t.line words) rs, left)

/-- A command that begins with a keyword. -/
def compound : (fuel : Nat) → (last : Nat) → String → (whole rest : List Token) →
    Except ScriptFault (Command × List Token)
  | 0, last, _, ts, _ => unexpected none last ts
  | fuel + 1, last, k, ts, rest =>
      match k with
      | "\x7b" => do
          let (body, left) ← listOf fuel last rest
          let ((), left) ← expectKeyword "\x7d" last left
          return (body, left)
      | "if" => choiceOf fuel last rest
      | "while" => repetition fuel last true rest
      | "until" => repetition fuel last false rest
      | "for" =>
          match rest with
          | .word w line :: more => do
              let name := String.ofList (plainText w)
              let more := skipLines more
              if !isName name then .error ⟨line, badLoop⟩
              else if isKeyword "in" more then
                let (words, left) := wordsHere (more.drop 1)
                if isMark ";" left || isMark "\n" left then
                  let (body, left) ← loopBody fuel last (afterBreak left)
                  return (.each name (some words) body, left)
                else unexpected none last left
              else
                let (body, left) ← loopBody fuel last (afterBreak more)
                return (.each name none body, left)
          | _ => .error ⟨(rest.head?.map Token.line).getD last, badLoop⟩
      | "case" =>
          match rest with
          | .word w _ :: more => do
              let ((), left) ← expectKeyword "in" last (skipLines more)
              let (cases, left) ← casesOf fuel last left
              return (.choose w cases, left)
          | _ => unexpected (some "") last rest
      | _ => unexpected none last ts

/-- A condition with what depends on it, up to the keyword that ends both. -/
def choiceOf : (fuel : Nat) → (last : Nat) → List Token → Except ScriptFault (Command × List Token)
  | 0, last, ts => unexpected none last ts
  | fuel + 1, last, ts => do
      let (condition, left) ← listOf fuel last ts
      let ((), left) ← expectKeyword "then" last left
      let (yes, left) ← listOf fuel last left
      if isKeyword "elif" left then
        let (no, left) ← choiceOf fuel last (left.drop 1)
        return (.branch condition yes no, left)
      else if isKeyword "else" left then
        let (no, left) ← listOf fuel last (left.drop 1)
        let ((), left) ← expectKeyword "fi" last left
        return (.branch condition yes no, left)
      else
        let ((), left) ← expectKeyword "fi" last left
        return (.branch condition yes .nothing, left)

/-- A loop with its condition. -/
def repetition : (fuel : Nat) → (last : Nat) → (wanted : Bool) → List Token → Except ScriptFault (Command × List Token)
  | 0, last, _, ts => unexpected none last ts
  | fuel + 1, last, wanted, ts => do
      let (condition, left) ← listOf fuel last ts
      let (body, left) ← loopBody fuel last left
      return (.loop wanted condition body, left)

/-- The body of a loop between its keywords. -/
def loopBody : (fuel : Nat) → (last : Nat) → List Token → Except ScriptFault (Command × List Token)
  | 0, last, ts => unexpected none last ts
  | fuel + 1, last, ts => do
      let ((), left) ← expectKeyword "do" last ts
      let (body, left) ← listOf fuel last left
      let ((), left) ← expectKeyword "done" last left
      return (body, left)

/-- The cases of a choice up to the keyword that ends it. -/
def casesOf : (fuel : Nat) → (last : Nat) → List Token → Except ScriptFault (List (List Word × Command) × List Token)
  | 0, last, ts => unexpected none last ts
  | fuel + 1, last, ts => do
      let ts := skipLines ts
      if isKeyword "esac" ts then return ([], ts.drop 1)
      else
        let (ps, left) ← patterns last (if isMark "(" ts then ts.drop 1 else ts)
        let (found, left) ← steps fuel false last .always left
        let entry := (ps, Command.sequence found)
        if isMark ";;" left then
          let (more, left) ← casesOf fuel last (left.drop 1)
          return (entry :: more, left)
        else
          let left := skipLines left
          if isKeyword "esac" left then return ([entry], left.drop 1)
          else unexpected (some ";;") last left

end

/-- The lines of a script as commands, up to its end or to the first fault. -/
def linesOf (last : Nat) (lexical : Option ScriptFault) : (fuel : Nat) → List Token →
    List Command × Option ScriptFault
  | 0, _ => ([], lexical)
  | fuel + 1, ts =>
      match skipLines ts with
      | [] => ([], lexical)
      | ts =>
          match steps (8 * ts.length + 8) true last .always ts with
          | .error fault => ([], some (lexical.getD fault))
          | .ok (found, []) =>
              match lexical with
              | some fault => ([], some fault)
              | none => ([.sequence found], none)
          | .ok (found, left) =>
              if isMark "\n" left then
                let (more, fault) := linesOf last lexical fuel left
                (.sequence found :: more, fault)
              else
                match (unexpected none last left : Except ScriptFault (Unit × List Token)) with
                | .error fault => ([], some fault)
                | .ok _ => ([], none)

/-- The commands of a script, line by line, and its first fault. -/
def read (cs : List Char) : List Command × Option ScriptFault :=
  let (ts, lexical) := tokens (2 * cs.length + 2) 1 cs
  linesOf (linesIn cs + 1) lexical (ts.length + 1) ts

end Script
end Homelab
