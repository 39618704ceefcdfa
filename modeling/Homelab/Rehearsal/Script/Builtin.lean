import Homelab.Rehearsal.Script.Expansion
import Homelab.Rehearsal.Script.Program
import Homelab.Rehearsal.Script.Signal

/-!
# Commands of the shell itself

The commands that change the shell, or that a shell does not need a program for.  They
work on the state of the shell and run no other commands.  A fault of one of those that
change the shell ends the script.
-/

namespace Homelab
namespace Script
namespace Builtin

/-- The number that a word writes in digits only. -/
def natural? (word : String) : Option Nat :=
  if word ≠ "" && word.toList.all Text.isAsciiDigit then some (Text.natOfDigits word.toList) else none

/-- Words with blanks between them, escapes read, and a line end behind them. -/
def echo (s : State) (words : List String) : State :=
  let (plain, words) := if words.head? = some "-n" then (true, words.drop 1) else (false, words)
  let o := Escape.output true .shellText (" ".intercalate words)
  (s.print false (if plain || o.isEnded then o.bytes else o.bytes ++ [0x0a])).ended 0

/-- What is wrong with a format or its arguments is told; what ends the output fails the
command. -/
def complainOf (s : State) (c : Format.Complaint) : State :=
  let told (text : String) : State := (s.complain ("printf: " ++ text)).ended 1
  match c with
  | .noNumber a => told (a ++ ": expected numeric value")
  | .notAll a => told (a ++ ": not completely converted")
  | .outOfRange a => told (a ++ ": Numerical result out of range")
  | .unknown bytes =>
      (s.complainBytes (Program.bytesOf "printf: " ++ bytes ++ Program.bytesOf ": invalid directive")).ended 2
  | .unended _ => s.failed "printf: missing format character"
  | .oversized => s.failed "printf: xvsnprintf failed"
  | .ignored _ | .width _ | .precision _ | .escape _ => s

/-- Output by a format. -/
def print (s : State) (words : List String) : State :=
  match words with
  | [] => s.failed "printf: usage: printf format [arg ...]"
  | template :: arguments =>
      match template.toList with
      | ['-', '-'] => match arguments with
          | [] => s.failed "printf: usage: printf format [arg ...]"
          | template :: arguments => write template arguments
      | '-' :: c :: _ => s.failed ("printf: Illegal option -" ++ String.singleton c)
      | _ => write template arguments
where
  /-- The format is used, and what is wrong with the arguments is told. -/
  write (template : String) (arguments : List String) : State :=
    let o := Format.print ⟨false, true⟩ template arguments
    (o.complaints.foldl complainOf (s.ended 0)).print false o.bytes

/-- The script, a function or a loop ends with a status. -/
def leave (s : State) (name : String) (words : List String) (halt : Nat → Halt) (status : Nat → Nat) :
    State :=
  match words with
  | [] => { s with halt := some (halt 1), status := status s.status }
  | word :: _ =>
      match natural? word with
      | some n => { s with halt := some (halt n), status := status n }
      | none => s.fatal (name ++ ": Illegal number: " ++ word)

/-- Loops are left or go on with their next round; outside of loops nothing is done. -/
def leaveLoop (s : State) (name : String) (words : List String) (halt : Nat → Halt) : State :=
  let t := leave s name words halt fun _ => 0
  if s.loops = 0 && t.halt ≠ some .exited then s.ended 0 else t

/-- Another directory is gone to. -/
def goTo (s : State) (words : List String) : State :=
  let back := words.head? = some "-"
  let home := s.value "HOME"
  let target := if back then s.value "OLDPWD" else words.headD home
  if target = "" then s.ended 0
  else
    match s.disk.item? s.directory target with
    | some .folder =>
        let path := Disk.path s.directory target
        let s := if back then s.say (path ++ "\n") else s
        { ((s.assign "OLDPWD" s.directory).assign "PWD" path) with directory := path, status := 0 }
    | _ => s.failed ("cd: can't cd to " ++ target)

/-- The condition that words write. -/
def test (s : State) (name : String) (words : List String) : State :=
  match Condition.holds s.disk s.directory words with
  | .ok found => s.ended (if found then 0 else 1)
  | .error e => s.failed (name ++ ": " ++ e)

/-- The name and the value that a word gives to a variable. -/
def pairOf (word : String) : String × Option String :=
  match Text.cut? '=' word.toList with
  | some (name, value) => (String.ofList name, some (String.ofList value))
  | none => (word, none)

/-- Variables are given values, each after `mark` has worked on the shell. -/
def declare (name : String) (mark : String → State → State) (s : State) (words : List String) : State :=
  words.foldl
    (fun s word =>
      let (key, value) := pairOf word
      if s.halt.isSome then s
      else if value.isSome && s.fixed.contains key then s.fatal (name ++ ": " ++ key ++ ": is read only")
      else if !isName key then s.fatal (name ++ ": " ++ key ++ ": bad variable name")
      else
        let s := mark key s
        match value with
        | some v => s.assign key v
        | none => s)
    (s.ended 0)

/-- A variable is given to programs. -/
def expose (key : String) (s : State) : State :=
  if s.exported.contains key then s else { s with exported := s.exported ++ [key] }

/-- A variable is kept for the time after the function. -/
def keep (key : String) (s : State) : State :=
  { s with locals := s.locals.map fun kept =>
      if (kept.lookup key).isSome then kept else (key, s.vars.lookup key) :: kept }

/-- Variables or functions are forgotten. -/
def unset (s : State) (words : List String) : State :=
  let (options, names) := Program.letters words
  names.foldl
    (fun s name =>
      if s.halt.isSome then s
      else if options.contains 'f' then
        { s with functions := s.functions.filter fun f => f.1 != name }
      else if isName name then s.forget name
      else s.fatal ("unset: " ++ name ++ ": bad variable name"))
    (s.ended 0)

/-- A mode of the shell is switched. -/
def switch (on : Bool) (s : State) (mode : Char) : State :=
  match mode with
  | 'e' => { s with strict := on }
  | 'u' => { s with demanding := on }
  | 'x' => { s with tracing := on }
  | c =>
      if "abCfhIimnVvE".toList.contains c then s
      else s.fatal ("set: Illegal option " ++ (if on then "-" else "+") ++ String.singleton c)

/-- The mode of a long name. -/
def modeNamed? : String → Option Char
  | "errexit" => some 'e'
  | "nounset" => some 'u'
  | "xtrace" => some 'x'
  | name =>
      if ["allexport", "noclobber", "noglob", "notify", "noexec", "verbose", "monitor", "ignoreeof", "nolog",
        "debug", "vi", "emacs", "interactive", "stdin", "privileged"].contains name then some 'a'
      else none

/-- Modes are switched, and arguments are set. -/
def configure (s : State) : List String → State
  | [] => s
  | "--" :: rest => { s with arguments := rest }
  | [word] => (setOne s word none []).1
  | word :: next :: rest =>
      let named := word = "-o" || word = "+o"
      let done := setOne s word (if named then some next else none) (next :: rest)
      if !done.2 || done.1.halt.isSome then done.1
      else if named then configure done.1 rest
      else configure done.1 (next :: rest)
where
  /-- One word is worked on; the second value says whether more may follow. -/
  setOne (s : State) (word : String) (next : Option String) (rest : List String) : State × Bool :=
    match word.toList, next with
    | sign :: 'o' :: [], some name =>
        if sign = '-' || sign = '+' then
          match modeNamed? name with
          | some mode => (switch (sign = '-') s mode, true)
          | none => (s.fatal ("set: Illegal option " ++ word ++ " " ++ name), false)
        else ({ s with arguments := word :: rest }, false)
    | '-' :: c :: cs, _ => ((c :: cs).foldl (switch true) s, true)
    | '+' :: c :: cs, _ => ((c :: cs).foldl (switch false) s, true)
    | _, _ => ({ s with arguments := word :: rest }, false)

/-- The first arguments are dropped. -/
def shift (s : State) (words : List String) : State :=
  match natural? (words.headD "1") with
  | none => s.fatal ("shift: Illegal number: " ++ words.headD "")
  | some n =>
      if s.arguments.length < n then s.fatal "shift: can't shift that many"
      else { s with arguments := s.arguments.drop n, status := 0 }

/-- A line without the backslashes that keep characters. -/
def unslashed : List Char → List Char
  | '\\' :: c :: rest => c :: unslashed rest
  | c :: rest => c :: unslashed rest
  | [] => []

/-- The fields of a line for variables; the last one has all that is left. -/
def shares (isSeparator : Char → Bool) : List String → List Char → List (String × String)
  | [], _ => []
  | [name], cs =>
      let cs := (cs.dropWhile isSeparator).reverse.dropWhile isSeparator
      [(name, String.ofList cs.reverse)]
  | name :: more, cs =>
      let (field, left) := (cs.dropWhile isSeparator).span fun c => !isSeparator c
      (name, String.ofList field) :: shares isSeparator more left

/-- Variables are set from the next line on the first stream. -/
def read (s : State) (words : List String) : State :=
  let (options, names) := Program.letters words
  if names.isEmpty then s.failed "read: arg count"
  else
    let (line, rest) := s.input.span (· ≠ 0x0a)
    let cs := Program.charsOf line
    let cs := if options.contains 'r' then cs else unslashed cs
    let separators := ((s.value? "IFS").getD " \t\n").toList
    let s := (shares separators.contains names cs).foldl (fun s v => s.assign v.1 v.2) s
    { s with input := rest.drop 1, status := if rest.isEmpty then 1 else 0 }

/-- What is done when a signal comes is set, or when the script ends. -/
def trap (s : State) (words : List String) : State :=
  match if words.head? = some "--" then words.drop 1 else words with
  | [] => s.ended 0
  | action :: signals =>
      let (action, signals) :=
        if signals.isEmpty then (none, [action])
        else (if action = "-" then none else some action, signals)
      signals.foldl
        (fun s signal =>
          match Signal.number? signal with
          | some n =>
              let others := s.traps.filter fun t => t.1 != Signal.name n
              { s with traps := others ++ (action.map fun a => (Signal.name n, a)).toList }
          | none => (s.print true (Program.bytesOf ("trap: " ++ signal ++ ": bad trap\n"))).ended 1)
        (s.ended 0)

/-- The signal that the words of `kill` ask for, and the processes, or what is wrong. -/
def signalOf (words : List String) : Except String (Nat × List String) :=
  match words with
  | [] =>
      .error "Usage: kill [-s sigspec | -signum | -sigspec] [pid | job]... or\nkill -l [exitstatus]"
  | "--" :: rest => .ok (15, rest)
  | "-s" :: name :: rest =>
      match Signal.number? name with
      | some n => .ok (n, rest)
      | none => .error ("invalid signal number or name: " ++ name)
  | word :: rest =>
      match word.toList with
      | '-' :: c :: cs =>
          match Signal.number? (String.ofList (c :: cs)) with
          | some n => .ok (n, rest)
          | none => .error ("Illegal option -" ++ String.singleton c)
      | _ => .ok (15, words)

/-- The shell has been sent a signal; the action that it has for the signal is still to
be run. -/
def receive (s : State) (signal : Nat) : State × Option String :=
  match s.traps.lookup (Signal.name signal) with
  | some action => if signal = 9 then (killed s, none) else (s.ended 0, some action)
  | none => (if Signal.isIgnored signal then s.ended 0 else killed s, none)
where
  /-- The shell has been ended by the signal. -/
  killed (s : State) : State := { s with halt := some (.killed signal) }

/-- A signal is sent; the shell itself may have an action for it. -/
def kill (s : State) (words : List String) : State × Option String :=
  match words with
  | "-l" :: n :: _ =>
      let n := (natural? n).getD 0
      ((s.say (Signal.name (if 128 < n then n - 128 else n) ++ "\n")).ended 0, none)
  | _ =>
      match signalOf words with
      | .error e => (s.failed ("kill: " ++ e), none)
      | .ok (signal, processes) =>
          match processes with
          | [] => (s.failed ("kill: Usage: kill [-s sigspec | -signum | -sigspec] [pid | job]... or\n" ++
              "kill -l [exitstatus]"), none)
          | process :: _ =>
              match natural? process with
              | some n =>
                  if n = s.process || n = 0 then receive s signal
                  else ((s.complain "kill: No such process\n").ended 1, none)
              | none =>
                  let fault := if process.startsWith "%" then "No such job: " else "Illegal number: "
                  (s.failed ("kill: " ++ fault ++ process), none)

/-- What the letters of options come to: the letter that is found or a mark for a fault,
the value for it, the number of the word behind it, and how many letters of the word
have been read if some are left. -/
structure OptionFound where
  letter : Char
  value : Option String
  complaint : Option String
  next : Nat
  read : Option Nat

/-- Whether a letter takes a value; none if it is not known. -/
def takesValue? (letter : Char) : List Char → Option Bool
  | [] => none
  | [c] => if c = letter then some false else none
  | c :: mark :: rest =>
      if c = letter then some (mark = ':')
      else takesValue? letter (if mark = ':' then rest else mark :: rest)
termination_by known => known.length
decreasing_by split <;> simp only [List.length_cons] <;> omega

/-- One letter among options: `left` is what is behind it in its word, the word before
the number `next`, `read` letters of which have been read with it. -/
def optionOf (known : List Char) (words : List String) (letter : Char) (left : List Char)
    (next read : Nat) : OptionFound :=
  let silent := known.head? = some ':'
  let more : Option Nat := if left.isEmpty then none else some read
  let fault (mark : Char) (text : String) : OptionFound :=
    if silent then ⟨mark, some (String.singleton letter), none, next, more⟩
    else ⟨'?', none, some text, next, more⟩
  match takesValue? letter known with
  | none => fault '?' ("Illegal option -" ++ String.singleton letter)
  | some false => ⟨letter, some "", none, next, more⟩
  | some true =>
      if !left.isEmpty then ⟨letter, some (String.ofList left), none, next, none⟩
      else
        match words[next - 1]? with
        | some value => ⟨letter, some value, none, next + 1, none⟩
        | none => fault ':' ("No arg for -" ++ String.singleton letter ++ " option")

/-- The next letter among options, from the word of a number on; the second value says
whether there is one. -/
def nextOption (known : List Char) (words : List String) (index : Nat) (read : Option Nat) :
    OptionFound × Bool :=
  let done (next : Nat) : OptionFound × Bool := (⟨'?', none, none, next, none⟩, false)
  let current := (words[index - 2]?.getD "").toList
  match read.map current.drop with
  | some (letter :: left) =>
      (optionOf known words letter left index (current.length - left.length), true)
  | _ =>
      match words[index - 1]?.map String.toList with
      | some ['-', '-'] => done (index + 1)
      | some ('-' :: letter :: left) => (optionOf known words letter left (index + 1) 2, true)
      | _ => done index

/-- A variable is set to the next letter among the options of some words, by default those
that the shell has been given. -/
def options (s : State) (words : List String) : State :=
  match words with
  | known :: name :: rest =>
      let among := if rest.isEmpty then s.arguments else rest
      let index := max ((natural? (s.value "OPTIND")).getD 1) 1
      let read := (s.optionPlace.filter fun place => place.1 = index).map Prod.snd
      let (found, more) := nextOption known.toList among index read
      let s := match found.complaint with
        | some text => s.print true (Program.bytesOf (text ++ "\n"))
        | none => s
      let s := match found.value with
        | some value => s.assign "OPTARG" value
        | none => if more then s.forget "OPTARG" else s
      let s := s.assign "OPTIND" (Nat.repr found.next)
      if !isName name then s.failed ("getopts: " ++ name ++ ": bad variable name")
      else
        let s := s.assign name (String.singleton found.letter)
        ({ s with optionPlace := found.read.map fun n => (found.next, n) } : State).ended
          (if more then 0 else 1)
  | _ => s.failed "getopts: Usage: getopts optstring var [arg...]"

/-- Each word that is not known is complained about. -/
def unknownWords (s : State) (words : List String) (complain : State → String → State) : State :=
  words.foldl (fun s word => (complain s word).ended 1) (s.ended 0)

/-- The commands of the shell whose faults end the script. -/
def special : List String :=
  [":", ".", "break", "continue", "eval", "exec", "exit", "export", "local", "readonly", "return", "set",
    "shift", "times", "trap", "unset"]

/-- The commands of the shell. -/
def names : List String :=
  special ++ ["alias", "bg", "cd", "command", "echo", "false", "fg", "getopts", "hash", "jobs", "kill",
    "printf", "pwd", "read", "test", "[", "true", "type", "ulimit", "umask", "unalias", "wait"]

/-- What a command of the shell does that runs no other commands; none for all others. -/
def run? (s : State) (name : String) (words : List String) : Option State :=
  match name with
  | ":" | "true" => some (s.ended 0)
  | "false" => some (s.ended 1)
  | "echo" => some (echo s words)
  | "printf" => some (print s words)
  | "exit" => some (leave s name words (fun _ => .exited) (· % 256))
  | "return" => some (leave s name words (fun _ => .returned) (· % 256))
  | "break" => some (leaveLoop s name words .broken)
  | "continue" => some (leaveLoop s name words .continued)
  | "cd" => some (goTo s words)
  | "pwd" => some ((s.say (s.directory ++ "\n")).ended 0)
  | "test" => some (test s name words)
  | "[" =>
      some (if words.getLast? = some "]" then test s name words.dropLast else s.failed "[: missing ]")
  | "export" => some (declare name expose s (Program.letters words).2)
  | "readonly" =>
      let t := declare name (fun _ s => s) s (Program.letters words).2
      some { t with fixed := t.fixed ++ words.map fun w => (pairOf w).1 }
  | "local" =>
      some (if s.locals.isNone then s.fatal "local: not in a function"
        else declare name keep s words)
  | "unset" => some (unset s words)
  | "set" => some (configure (s.ended 0) words)
  | "shift" => some (shift s words)
  | "read" => some (read s words)
  | "trap" => some (trap s words)
  | "getopts" => some (options s words)
  | "umask" =>
      some (match words with
        | [] => (s.say "0022\n").ended 0
        | mode :: _ =>
            if (mode.toList.head?.any Text.isAsciiDigit) && !mode.toList.all Leading.isOctal then
              s.failed ("umask: Illegal number: " ++ mode)
            else if !mode.toList.any "+-=0123456789".toList.contains then
              s.failed ("umask: Illegal mode: " ++ mode)
            else s.ended 0)
  | "wait" =>
      some (match words with
        | [] => s.ended 0
        | word :: _ =>
            if (natural? word).isSome then s.ended 127
            else if word.startsWith "%" then s.failed ("wait: No such job: " ++ word)
            else s.failed ("wait: Illegal number: " ++ word))
  | "jobs" => some (s.ended 0)
  | "hash" =>
      let place : Place := ⟨s.directory, s.environment, s.disk, s.input⟩
      let isKnown (word : String) : Bool :=
        names.contains word || (s.functions.lookup word).isSome || word = "sh" || word = "env" ||
          (Program.run? place word []).isSome
      some (unknownWords s ((Program.letters words).2.filter fun w => !isKnown w) fun s word =>
        s.complain ("hash: " ++ word ++ ": not found"))
  | "alias" =>
      some (unknownWords s (words.filter fun w => !w.toList.contains '=') fun s word =>
        s.print true (Program.bytesOf ("alias: " ++ word ++ " not found\n")))
  | "unalias" =>
      some (unknownWords s (Program.letters words).2 fun s word =>
        s.print true (Program.bytesOf ("unalias: " ++ word ++ " not found\n")))
  | "bg" | "fg" =>
      some (match words with
        | [] => s.failed (name ++ ": No current job")
        | word :: _ => s.failed (name ++ ": No such job: " ++ word))
  | "times" => some ((s.say "0m0.000000s 0m0.000000s\n0m0.000000s 0m0.000000s\n").ended 0)
  | "ulimit" =>
      some ((if (Program.letters words).2.isEmpty then s.say "unlimited\n" else s).ended 0)
  | _ => none

end Builtin
end Script
end Homelab
