import Homelab.Rehearsal.Script
import Homelab.Rehearsal.Script.Disk
import Homelab.Text.Digit
import Homelab.Text.Utf8

/-!
# The state of a shell

What a shell knows while it runs a script, and what has been printed so far.  What a
command prints goes to where the streams of the shell lead at the time.
-/

namespace Homelab
namespace Script

/-- Where a stream leads. -/
inductive Sink where
  | output
  | error
  | captured
  | file (path : String)
deriving DecidableEq

/-- Why a script does not go on with the next command. -/
inductive Halt where
  | exited
  | killed (signal : Nat)
  | broken (levels : Nat)
  | continued (levels : Nat)
  | returned
deriving DecidableEq

/-- The state of a shell.  With `strict` a command that fails ends the script, unless it
is `tested`; with `demanding` a variable has to be set before it is used; with `tracing`
commands are shown.  A function has `locals`, variables with the values that they have
outside; the signals that are caught are in `traps`, and the variables that cannot be
changed in `fixed`.  The status of the last script that has run in a word is `inner`.
Streams beside the usual ones are `further`; `optionPlace` is the word behind the one
whose letters are read as options, and how many of them have been read. -/
structure State where
  name : String
  process : Nat
  arguments : List String
  directory : String
  vars : List (String × String)
  exported : List String
  fixed : List String
  functions : List (String × Command)
  traps : List (String × String)
  disk : Disk
  input : List UInt8
  sinks : Sink × Sink
  further : List (Nat × Sink)
  captured : List (List UInt8)
  printed : List (Bool × List UInt8)
  status : Nat
  inner : Nat
  line : Nat
  strict : Bool
  demanding : Bool
  tracing : Bool
  tested : Bool
  loops : Nat
  locals : Option (List (String × Option String))
  optionPlace : Option (Nat × Nat)
  halt : Option Halt

namespace State

/-- A shell at the beginning of a script. -/
def start (name directory : String) (arguments : List String) (vars : List (String × String))
    (disk : Disk) (input : List UInt8) : State :=
  { name, process := 2, arguments, directory, vars, exported := vars.map Prod.fst, fixed := [], functions := [],
    traps := [], disk, input, sinks := (.output, .error), further := [], captured := [], printed := [], status := 0, inner := 0,
    line := 1, strict := false, demanding := false, tracing := false, tested := false,
    loops := 0, locals := none, optionPlace := none, halt := none }

/-- Bytes are printed on the first or the second stream. -/
def print (s : State) (onError : Bool) (bytes : List UInt8) : State :=
  if bytes.isEmpty then s
  else
    match if onError then s.sinks.2 else s.sinks.1 with
    | .output => { s with printed := (false, bytes) :: s.printed }
    | .error => { s with printed := (true, bytes) :: s.printed }
    | .captured => { s with captured := bytes :: s.captured }
    | .file path => { s with disk := s.disk.write path (s.disk.bytes path ++ bytes) }

/-- Text is printed on the first stream. -/
def say (s : State) (text : String) : State := s.print false (Text.toBytes text.toList)

/-- A line is said on the second stream, after the name of the shell and the number of
the line that it is at. -/
def complainBytes (s : State) (bytes : List UInt8) : State :=
  s.print true (Text.toBytes (s.name ++ ": " ++ Nat.repr s.line ++ ": ").toList ++ bytes ++ [0x0a])

/-- A line of text is said on the second stream. -/
def complain (s : State) (text : String) : State := s.complainBytes (Text.toBytes text.toList)

/-- A shell with a status. -/
def ended (s : State) (status : Nat) : State := { s with status }

/-- A shell that stops with a status. -/
def exit (s : State) (status : Nat) : State := { s with status, halt := some .exited }

/-- A command that has failed with a complaint. -/
def failed (s : State) (text : String) : State := (s.complain text).ended 2

/-- A fault that ends the shell. -/
def fatal (s : State) (text : String) : State := (s.complain text).exit 2

/-- The value of a variable; the shell has some of its own. -/
def value? (s : State) (name : String) : Option String :=
  if name = "?" then some (Nat.repr s.status)
  else if name = "$" then some (Nat.repr s.process)
  else if name = "#" then some (Nat.repr s.arguments.length)
  else if name = "-" then some (if s.strict then "e" else "")
  else if name = "0" then some s.name
  else if name.toList.all Text.isAsciiDigit then s.arguments[Text.natOfDigits name.toList - 1]?
  else s.vars.lookup name

/-- The value of a variable; one that is not set has an empty value. -/
def value (s : State) (name : String) : String := (s.value? name).getD ""

/-- A variable is set. -/
def assign (s : State) (name value : String) : State :=
  { s with vars := Site.setVariable name value s.vars }

/-- A variable is no longer set. -/
def forget (s : State) (name : String) : State :=
  { s with
    vars := s.vars.filter fun v => v.1 != name,
    exported := s.exported.filter (· != name) }

/-- The variables that programs are given. -/
def environment (s : State) : List (String × String) :=
  s.vars.filter fun v => s.exported.contains v.1

/-- A shell after another one, which has run in it on its own, has ended: what this one
has changed outside stays, and all else is as before. -/
def after (s t : State) : State :=
  { s with
    disk := t.disk,
    input := t.input,
    printed := t.printed,
    captured := t.captured,
    status := t.status,
    halt := match t.halt with
      | some (.killed signal) => some (.killed signal)
      | _ => s.halt }

/-- The bytes that have been captured. -/
def capturedBytes (s : State) : List UInt8 := s.captured.reverse.flatten

end State
end Script
end Homelab
