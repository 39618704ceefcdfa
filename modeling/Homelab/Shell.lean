import Homelab.Site
import Homelab.Text.Digit

/-!
# Words for a shell

A command is a list of words.  On a command line each word is quoted so that the
shell gives it back unchanged, whatever it holds; a word of plain characters needs
no quotes.  `Shell.split?` is how a shell takes a line apart: blanks stand between
words, single quotes keep everything, double quotes keep everything but a backslash
before a double quote or a backslash, and a backslash elsewhere keeps the next
character.
-/

namespace Homelab
namespace Shell

/-- A character that means nothing to a shell. -/
def isPlain (c : Char) : Bool :=
  ('a' ≤ c && c ≤ 'z') || ('A' ≤ c && c ≤ 'Z') || Text.isAsciiDigit c ||
    "_@%+=:,./-".toList.contains c

/-- A character inside single quotes; a single quote closes them, stands between
double quotes, and opens them again. -/
def quoteChar (c : Char) : List Char :=
  if c = '\'' then ['\'', '"', '\'', '"', '\''] else [c]

/-- A word as it is written on a command line. -/
def quoteChars (cs : List Char) : List Char :=
  if cs.isEmpty then ['\'', '\'']
  else if cs.all isPlain then cs
  else '\'' :: cs.flatMap quoteChar ++ ['\'']

/-- A word as it is written on a command line. -/
def quote (word : String) : String :=
  String.ofList (quoteChars word.toList)

/-- The command line of some words. -/
def line (words : List String) : String :=
  " ".intercalate (words.map quote)

/-- A blank between words. -/
def isSpace (c : Char) : Bool :=
  c = ' ' || c = '\t' || c = '\r' || c = '\n'

/-- Where a shell stands in a line. -/
inductive Reading where
  | between
  | bare
  | single
  | double
  | escaped
  | escapedInDouble
deriving DecidableEq

/-- The words of the rest of a line; `word` holds what the current word has so far,
the last character first. -/
def splitFrom : Reading → (word : List Char) → List Char → Option (List (List Char))
  | .between, _, [] => some []
  | .bare, word, [] => some [word.reverse]
  | _, _, [] => none
  | .between, _, c :: rest =>
      if isSpace c then splitFrom .between [] rest
      else if c = '\\' then splitFrom .escaped [] rest
      else if c = '\'' then splitFrom .single [] rest
      else if c = '"' then splitFrom .double [] rest
      else splitFrom .bare [c] rest
  | .bare, word, c :: rest =>
      if isSpace c then (splitFrom .between [] rest).map (word.reverse :: ·)
      else if c = '\\' then splitFrom .escaped word rest
      else if c = '\'' then splitFrom .single word rest
      else if c = '"' then splitFrom .double word rest
      else splitFrom .bare (c :: word) rest
  | .single, word, c :: rest =>
      if c = '\'' then splitFrom .bare word rest else splitFrom .single (c :: word) rest
  | .double, word, c :: rest =>
      if c = '"' then splitFrom .bare word rest
      else if c = '\\' then splitFrom .escapedInDouble word rest
      else splitFrom .double (c :: word) rest
  | .escaped, word, c :: rest => splitFrom .bare (c :: word) rest
  | .escapedInDouble, word, c :: rest =>
      if c = '\\' || c = '"' then splitFrom .double (c :: word) rest
      else splitFrom .double (c :: '\\' :: word) rest

/-- The words of a line, unless a quote or a backslash in it is left open. -/
def split? (line : String) : Option (List String) :=
  (splitFrom .between [] line.toList).map fun words => words.map String.ofList

end Shell

/-- The failure of a command tells the command line, the exit status and the error
output; one that the system does not take has none of these. -/
def CommandFault.failure (c : Command) : CommandFault → Failure
  | refused reason => .value reason
  | failed code stderr => .command (Shell.line c.words) code stderr

namespace Act

/-- A command is run. -/
def runCommand (c : Command) : Act String := do
  let site ← get
  set (site.record (.command c))
  match site.outside.command site.journal c with
  | .ok output => pure output
  | .error fault => throw (fault.failure c)

end Act
end Homelab
