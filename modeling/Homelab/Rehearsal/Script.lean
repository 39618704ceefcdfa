import Homelab.Shell

/-!
# Shell scripts

A rehearsal can also give the commands of this machine an end, by acting out the shell scripts and
the small programs that they run.  Nothing else in the project rests on how it does so: whoever
runs a command asks what is outside.

What a shell script is made of.  A word is put together from parts: text as it stands,
the values of variables, the output of other scripts and the values of formulas.  A
command is a list of words, or is built from other commands: one after the other,
joined by pipes, chosen by a condition, or repeated.  Where the output of a command goes
is said by its redirections.

The insides of substitutions are kept as text and are read when they are needed.
-/

namespace Homelab
namespace Script

/-- What becomes of the value of a variable; `empty` says whether an empty value counts
as none. -/
inductive Use where
  | plain
  | fallback (empty : Bool)
  | alternative (empty : Bool)
  | assign (empty : Bool)
  | demand (empty : Bool)
  | length
  | withoutEnd (longest : Bool)
  | withoutStart (longest : Bool)
deriving DecidableEq

/-- A part of a word.  Blanks in a substitution that does not stand in quotes separate
words.  A variable without a name stands for a substitution that makes no sense. -/
inductive Part where
  | text (cs : List Char) (quoted : Bool)
  | variable (name : String) (use : Use) (other : List Char) (quoted : Bool)
  | arguments (joined quoted : Bool)
  | output (script : List Char) (quoted : Bool)
  | number (formula : List Char) (quoted : Bool)
deriving DecidableEq

/-- A word before its substitutions. -/
abbrev Word := List Part

/-- What a redirection does: a stream becomes a copy of another one, goes to a file,
or is read from a file or from the text of the redirection itself. -/
inductive Aim where
  | copy
  | write
  | append
  | read
  | here
deriving DecidableEq

/-- A redirection of the stream of a number. -/
structure Redirection where
  stream : Nat
  aim : Aim
  target : Word
deriving DecidableEq

/-- How a command follows the one before it. -/
inductive Joint where
  | always
  | onSuccess
  | onFailure
deriving DecidableEq

/-- A command. -/
inductive Command where
  | simple (line : Nat) (words : List Word)
  | redirected (body : Command) (redirections : List Redirection)
  | sequence (steps : List (Joint × Command))
  | pipeline (negated : Bool) (parts : List Command)
  | isolated (body : Command)
  | branch (condition yes no : Command)
  | loop (wanted : Bool) (condition body : Command)
  | each (name : String) (words : Option (List Word)) (body : Command)
  | choose (subject : Word) (cases : List (List Word × Command))
  | define (name : String) (body : Command)
deriving Inhabited

/-- The command that does nothing. -/
def Command.nothing : Command := .sequence []

end Script
end Homelab
