import Homelab.Rehearsal.Script.Builtin
import Homelab.Rehearsal.Script.Reader

/-!
# Running scripts

A script is run by a shell, command by command, each of which changes the state of the
shell.  What runs on its own, in brackets, in a pipe or in a substitution, works on a
copy of the state, of which only what can be seen from outside is kept.

The fuel bounds how many commands are run after each other or within each other.
-/

namespace Homelab
namespace Script

/-- What a shell or an operator finds under the name of a program. -/
inductive Found where
  | program (name : String)
  | denied
  | missing
deriving DecidableEq

/-- The folders in which the usual programs stand. -/
def programFolders : List String := ["/usr/local/bin", "/usr/bin", "/bin"]

/-- The program that a name stands for: a path, or a name that is looked for in the
folders of `PATH`. -/
def find (vars : List (String × String)) (disk : Disk) (directory name : String) : Found :=
  if name.toList.contains '/' then
    let path := Disk.path directory name
    if ["/usr/bin", "/bin"].contains (Disk.parent path) then
      .program (String.ofList (Text.lastName path))
    else if (disk.lookup path).isSome then .denied
    else .missing
  else
    let folders := match vars.lookup "PATH" with
      | some path => Text.fieldsOf ':' path
      | none => programFolders
    if !folders.any ["/usr/bin", "/bin"].contains then .missing
    else if ["", ".", ".."].contains name then .denied
    else .program name

/-- The names under which a shell is started. -/
def isShell (name : String) : Bool := name = "sh" || name = "dash"

/-- The name and the text of the value that a word gives to a variable, if it stands in
front of a command and gives one. -/
def assignment? (w : Word) : Option (String × Word) :=
  match w with
  | .text cs false :: rest =>
      match Text.cut? '=' cs with
      | some (name, value) =>
          let name := String.ofList name
          if isName name then some (name, .text value false :: rest) else none
      | none => none
  | _ => none

/-- The assignments in front of a command, and the other words. -/
def assignments : List Word → List (String × Word) × List Word
  | [] => ([], [])
  | w :: rest =>
      match assignment? w with
      | some a =>
          let (more, left) := assignments rest
          (a :: more, left)
      | none => ([], w :: rest)

/-- The values of some assignments, and the shell behind their substitutions. -/
def assignedValues (runner : Runner) (fuel : Nat) :
    List (String × Word) → State → List (String × String) × State
  | [], s => ([], s)
  | (name, w) :: rest, s =>
      let (value, s) := textOf runner fuel w s
      let (more, s) := assignedValues runner fuel rest (s.assign name value)
      ((name, value) :: more, s)

/-- A script runs in the word. -/
def runsScript (w : Word) : Bool :=
  w.any fun p => match p with
    | .output _ _ => true
    | _ => false

/-- A variable gets back the value that it had in another state. -/
def State.restore (s : State) (name : String) (value : Option String) : State :=
  match value with
  | some v => s.assign name v
  | none => { s with vars := s.vars.filter fun v => v.1 != name }

/-- A shell behind a command: if the command has failed and that was not asked for, a
strict shell stops. -/
def State.checked (s : State) : State :=
  if s.strict && !s.tested && s.status ≠ 0 && s.halt.isNone then { s with halt := some .exited } else s

/-- The sink of a stream, if it is open. -/
def State.sink? (s : State) (stream : Nat) : Option Sink :=
  match stream with
  | 0 => none
  | 1 => some s.sinks.1
  | 2 => some s.sinks.2
  | n => s.further.lookup n

/-- A stream leads to a sink. -/
def State.lead (s : State) (stream : Nat) (sink : Sink) : State :=
  match stream with
  | 0 => s
  | 1 => { s with sinks := (sink, s.sinks.2) }
  | 2 => { s with sinks := (s.sinks.1, sink) }
  | n => { s with further := (n, sink) :: s.further.filter fun t => t.1 != n }

/-- A stream is closed; what is printed on one of the usual streams then is lost. -/
def State.close (s : State) (stream : Nat) : State :=
  if stream ≤ 2 then s.lead stream (.file "/dev/null")
  else { s with further := s.further.filter fun t => t.1 != stream }

/-- The streams of a shell are those of another state. -/
def State.withStreamsOf (s t : State) : State := { s with sinks := t.sinks, further := t.further }

/-- A stream leads to a file. -/
def State.leadToFile (s : State) (stream : Nat) (name : String) (emptied : Bool) : Except String State :=
  let path := Disk.path s.directory name
  if path = "/dev/stdout" || path = "/dev/fd/1" then .ok (s.lead stream s.sinks.1)
  else if path = "/dev/stderr" || path = "/dev/fd/2" then .ok (s.lead stream s.sinks.2)
  else if s.disk.lookup path = some .folder then .error ("cannot create " ++ name ++ ": Is a directory")
  else if !s.disk.canHold path then .error ("cannot create " ++ name ++ ": Directory nonexistent")
  else
    let bytes := if emptied then [] else s.disk.bytes path
    .ok (({ s with disk := s.disk.write path bytes } : State).lead stream (.file path))

/-- The streams lead to where redirections want them; the last value is what is wrong
with one of them, and whether that ends the script. -/
def redirect (runner : Runner) (fuel : Nat) : List Redirection → State → State × Option (String × Bool)
  | [], s => (s, none)
  | r :: rest, s =>
      let (target, s) := textOf runner fuel r.target s
      if s.halt.isSome then (s, some ("", false))
      else
        match r.aim with
        | .copy =>
            if target = "-" then redirect runner fuel rest (s.close r.stream)
            else
              match Builtin.natural? target with
              | none => (s, some ("Syntax error: Bad fd number", true))
              | some n =>
                  match s.sink? n with
                  | some sink => redirect runner fuel rest (s.lead r.stream sink)
                  | none =>
                      if n = 0 && r.stream = 0 then redirect runner fuel rest s
                      else (s, some (target ++ ": Bad file descriptor", false))
        | .write | .append =>
            match s.leadToFile r.stream target (r.aim = .write) with
            | .ok s => redirect runner fuel rest s
            | .error e => (s, some (e, false))
        | .read =>
            match s.disk.item? s.directory target with
            | some (.file bytes) => redirect runner fuel rest { s with input := bytes }
            | some .folder => redirect runner fuel rest { s with input := [] }
            | none =>
                if target = "/dev/stdin" then redirect runner fuel rest s
                else (s, some ("cannot open " ++ target ++ ": No such file", false))
        | .here => redirect runner fuel rest { s with input := Program.bytesOf target }

/-- The name of the command that is run, if it is written without substitutions. -/
def commandName? : Command → Option String
  | .simple _ words =>
      match (assignments words).2 with
      | w :: _ => some (String.ofList (plainText w))
      | [] => none
  | _ => none

/-- A command that leaves the streams of the shell as its redirections want them. -/
def keepsStreams (c : Command) : Bool :=
  match c with
  | .simple _ words => words.length = 1 && commandName? c = some "exec"
  | _ => false

/-- What a shell behind a program looks like. -/
def State.behind (s : State) (e : Ended) : State :=
  e.printed.foldl (fun s piece => s.print piece.1 piece.2)
    { s with input := e.left, status := e.code, disk := e.disk }

/-- A shell that another one starts, with the streams that this one has. -/
def State.nested (s : State) (name : String) (process : Nat) : State :=
  { State.start name s.directory [] s.environment s.disk s.input with
    process, sinks := s.sinks, further := s.further, captured := s.captured, printed := s.printed }

/-- The variables that a shell sets when it begins. -/
def State.withOwn (s : State) : State :=
  let own := [("IFS", " \t\n"), ("OPTIND", "1"), ("PS1", "# "), ("PS2", "> "), ("PS4", "+ ")]
  Builtin.expose "PWD"
    ((own.foldl (fun s v => s.assign v.1 v.2) s).assign "PWD" s.directory)

/-- What a program finds when a shell runs it. -/
def State.place (s : State) : Place := ⟨s.directory, s.environment, s.disk, s.input⟩

/-- How a shell is started: the modes that are switched on or off, whether a script is
among its words, and the words behind its options. -/
structure Invocation where
  modes : List (Bool × Char)
  fromWord : Bool
  words : List String

/-- An invocation with modes in front of the others. -/
def Invocation.withModes (i : Invocation) (on : Bool) (cs : List Char) : Invocation :=
  { i with modes := cs.map (fun c => (on, c)) ++ i.modes, fromWord := i.fromWord || on && cs.contains 'c' }

/-- The options in front of the words that a shell is started with, or the option that is
not known. -/
def invocation : List String → Except String Invocation
  | [] => .ok ⟨[], false, []⟩
  | [word] =>
      match word.toList with
      | ['-', '-'] | ['-'] => .ok ⟨[], false, []⟩
      | sign :: c :: cs =>
          if sign = '-' || sign = '+' then
            (modesOf sign (c :: cs)).map fun m => (⟨[], false, []⟩ : Invocation).withModes m.1 m.2
          else .ok ⟨[], false, [word]⟩
      | _ => .ok ⟨[], false, [word]⟩
  | word :: next :: rest =>
      match word.toList with
      | ['-', '-'] | ['-'] => .ok ⟨[], false, next :: rest⟩
      | [sign, 'o'] =>
          match Builtin.modeNamed? next with
          | some mode => (invocation rest).map fun i => i.withModes (sign = '-') [mode]
          | none => .error (String.singleton sign ++ "o " ++ next)
      | sign :: c :: cs =>
          if sign = '-' || sign = '+' then
            match modesOf sign (c :: cs) with
            | .ok m => (invocation (next :: rest)).map fun i => i.withModes m.1 m.2
            | .error e => .error e
          else .ok ⟨[], false, word :: next :: rest⟩
      | _ => .ok ⟨[], false, word :: next :: rest⟩
where
  /-- The modes that letters behind a sign switch, or the option that is not known. -/
  modesOf (sign : Char) (cs : List Char) : Except String (Bool × List Char) :=
    match cs.find? fun d => !"abCcefhIilmnsuvxE".toList.contains d with
    | some d => .error (String.singleton sign ++ String.singleton d)
    | none => .ok (sign = '-', cs)

/-- The command line that is shown when commands are traced. -/
def traced (assigned : List (String × String)) (fields : List String) : String :=
  "+ " ++ " ".intercalate (assigned.map (fun a => a.1 ++ "=" ++ a.2) ++ fields) ++ "\n"

/-- How a loop goes on behind its body: with the next round, or not. -/
def State.nextRound (s : State) : Bool × State :=
  match s.halt with
  | none => (true, s)
  | some (.broken n) => (false, { s with halt := if n ≤ 1 then none else some (.broken (n - 1)) })
  | some (.continued n) =>
      if n ≤ 1 then (true, { s with halt := none })
      else (false, { s with halt := some (.continued (n - 1)) })
  | some _ => (false, s)

/-- What a name stands for is told, in a sentence or as the name that can be used. -/
def describe (sentence : Bool) (s : State) (names : List String) : State :=
  names.foldl
    (fun s name =>
      let told (used rest : String) : State :=
        s.say ((if sentence then name ++ " is " ++ rest else used) ++ "\n")
      if keywords.contains name then told name "a shell keyword"
      else if Builtin.special.contains name then told name "a special shell builtin"
      else if (s.functions.lookup name).isSome then told name "a shell function"
      else if Builtin.names.contains name then told name "a shell builtin"
      else
        let known? := match find s.environment s.disk s.directory name with
          | .program base =>
              if isShell base || base = "env" || (Program.run? s.place base []).isSome then some base else none
          | _ => none
        match known? with
        | some base => told ("/usr/bin/" ++ base) ("/usr/bin/" ++ base)
        | none => (if sentence then s.say (name ++ ": not found\n") else s).ended 127)
    (s.ended 0)

mutual

/-- A script is run, line by line, up to its end or its first fault; `label` stands in
front of what is said about the fault. -/
def runLabelled : (fuel : Nat) → (label : String) → List Char → State → State
  | 0, _, _, s => s
  | fuel + 1, label, script, s =>
      let (commands, fault) := read script
      let t := commands.foldl (fun t c => if t.halt.isSome then t else perform fuel c t) (s.ended 0)
      match fault, t.halt with
      | some f, none => ({ t with line := f.line }.complain (label ++ f.found)).exit 2
      | _, _ => t

/-- A script is run on its own, and then what is to be done at its end. -/
def runAlone : (fuel : Nat) → List Char → State → State
  | 0, _, s => s
  | fuel + 1, script, s =>
      let t := runLabelled fuel "" script s
      match t.traps.lookup "EXIT", t.halt with
      | _, some (.killed _) => t
      | none, _ => t
      | some action, _ =>
          let u := runLabelled fuel "" action.toList { t with halt := none, traps := [] }
          if u.halt.isSome then u else u.ended t.status

/-- A command is run. -/
def perform : (fuel : Nat) → Command → State → State
  | 0, _, s => s
  | fuel + 1, c, s =>
      let runner : Runner := fun script t => runAlone fuel script t
      match c with
      | .simple line words => performSimple fuel words { s with line }
      | .redirected body rs =>
          let (t, fault) := redirect runner fuel rs s
          match fault with
          | some (text, fatal) =>
              if t.halt.isSome then t
              else
                if fatal || (commandName? body).any Builtin.special.contains then
                  (t.fatal text).withStreamsOf s
                else ((t.failed text).withStreamsOf s).checked
          | none =>
              let u := perform fuel body t
              if keepsStreams body then u
              else
                { u.withStreamsOf s with
                  input := if rs.any fun r => r.stream = 0 then s.input else u.input }
      | .sequence steps => performSteps fuel steps s
      | .pipeline negated parts =>
          let t := performPipe fuel parts { s with tested := s.tested || negated }
          let t := { t with tested := s.tested }
          if t.halt.isSome then t
          else if negated then t.ended (if t.status = 0 then 1 else 0)
          else t.checked
      | .isolated body => (s.after (perform fuel body { s with traps := [] })).checked
      | .branch condition yes no =>
          let t := perform fuel condition { s with tested := true }
          let t := { t with tested := s.tested }
          if t.halt.isSome then t
          else if t.status = 0 then perform fuel yes t
          else perform fuel no (t.ended 0)
      | .loop wanted condition body =>
          let t := performLoop fuel wanted condition body 0 { s with loops := s.loops + 1 }
          { t with loops := s.loops }
      | .each name words body =>
          let (values, t) := match words with
            | some ws => fieldsOfAll runner fuel ws s
            | none => (s.arguments, s)
          if t.halt.isSome then t
          else
            let t := performEach fuel name values body { t.ended 0 with loops := s.loops + 1 }
            { t with loops := s.loops }
      | .choose subject cases =>
          let (text, t) := textOf runner fuel subject s
          if t.halt.isSome then t else performCases fuel text.toList cases (t.ended 0)
      | .define name body =>
          { s with
            functions := (name, body) :: s.functions.filter fun f => f.1 != name,
            status := 0 }

/-- Commands are run after each other, as far as their joints want it. -/
def performSteps : (fuel : Nat) → List (Joint × Command) → State → State
  | 0, _, s => s
  | _, [], s => s
  | fuel + 1, (joint, c) :: rest, s =>
      let wanted := match joint with
        | .always => true
        | .onSuccess => s.status = 0
        | .onFailure => s.status ≠ 0
      let tested := match rest with
        | (next, _) :: _ => next ≠ .always
        | [] => false
      let t :=
        if wanted then
          let t := perform fuel c { s with tested := s.tested || tested }
          { t with tested := s.tested }
        else s
      if t.halt.isSome then t else performSteps fuel rest t

/-- Commands are run on their own, each with what the one before it has printed. -/
def performPipe : (fuel : Nat) → List Command → State → State
  | 0, _, s => s
  | _, [], s => s
  | fuel + 1, [c], s => s.after (perform fuel c { s with traps := [] })
  | fuel + 1, c :: rest, s =>
      let t := perform fuel c { s with sinks := (.captured, s.sinks.2), captured := [], traps := [] }
      let u := { s.after t with captured := s.captured, input := t.capturedBytes }
      if u.halt.isSome then u
      else
        let v := performPipe fuel rest u
        { v with input := t.input }

/-- A loop goes on as long as its condition is as wanted. -/
def performLoop : (fuel : Nat) → Bool → Command → Command → (status : Nat) → State → State
  | 0, _, _, _, _, s => s
  | fuel + 1, wanted, condition, body, status, s =>
      let t := perform fuel condition { s with tested := true }
      let (more, t) := { t with tested := s.tested }.nextRound
      if !more then t
      else if (t.status = 0) ≠ wanted then t.ended status
      else
        let (more, u) := (perform fuel body t).nextRound
        if more then performLoop fuel wanted condition body u.status u else u

/-- A command is run for each value of a variable. -/
def performEach : (fuel : Nat) → String → List String → Command → State → State
  | 0, _, _, _, s => s
  | _, _, [], _, s => s
  | fuel + 1, name, value :: rest, body, s =>
      let (more, t) := (perform fuel body (s.assign name value)).nextRound
      if more then performEach fuel name rest body t else t

/-- The first case with a pattern that fits is run. -/
def performCases : (fuel : Nat) → List Char → List (List Word × Command) → State → State
  | 0, _, _, s => s
  | _, _, [], s => s
  | fuel + 1, text, (patterns, body) :: rest, s =>
      let runner : Runner := fun script t => runAlone fuel script t
      if patterns.any fun w => (patternOf runner fuel w s).1.fits text then perform fuel body s
      else performCases fuel text rest s

/-- A simple command is run: its words become fields, and the first one names what is to
be run. -/
def performSimple : (fuel : Nat) → List Word → State → State
  | 0, _, s => s
  | fuel + 1, words, s =>
      let runner : Runner := fun script t => runAlone fuel script t
      let (assigned, others) := assignments words
      let (fields, t) := fieldsOfAll runner fuel others s
      if t.halt.isSome then t
      else
        let (values, u) := assignedValues runner fuel assigned t
        if u.halt.isSome then u
        else if let some (key, _) := assigned.find? fun a => s.fixed.contains a.1 then
          t.fatal (key ++ ": is read only")
        else
          let u := if u.tracing then u.print true (Program.bytesOf (traced values fields)) else u
          match fields with
          | [] =>
              (u.ended (if (assigned.map Prod.snd ++ others).any runsScript then u.inner else 0)).checked
          | name :: arguments =>
              let v := call fuel false name arguments
                { u with exported := u.exported ++ values.map Prod.fst }
              let v := values.foldl (fun v a => v.restore a.1 (t.vars.lookup a.1))
                { v with exported := if values.isEmpty then v.exported else t.exported }
              v.checked

/-- A function, a command of the shell or a program is run; with `plain` a function is
not. -/
def call : (fuel : Nat) → (plain : Bool) → String → List String → State → State
  | 0, _, _, _, s => s
  | fuel + 1, plain, name, arguments, s =>
      match if plain then none else s.functions.lookup name with
      | some body =>
          let t := perform fuel body { s with arguments, locals := some [] }
          let t := (t.locals.getD []).foldl (fun t kept => t.restore kept.1 kept.2) t
          { t with
            arguments := s.arguments,
            locals := s.locals,
            halt := if t.halt = some .returned then none else t.halt }
      | none =>
          match Builtin.run? s name arguments with
          | some t => t
          | none =>
              match name, arguments with
              | "eval", _ =>
                  if arguments.isEmpty then s.ended 0
                  else runLabelled fuel "eval: " (" ".intercalate arguments).toList s
              | "kill", _ =>
                  match Builtin.kill s arguments with
                  | (t, some action) =>
                      let u := runLabelled fuel "" action.toList t
                      if u.halt.isSome then u else u.ended 0
                  | (t, none) => t
              | ".", file :: _ =>
                  match s.disk.item? s.directory file with
                  | some (.file bytes) =>
                      let t := runLabelled fuel "" (Program.charsOf bytes) s
                      { t with halt := if t.halt = some .returned then none else t.halt }
                  | _ =>
                      if file.toList.contains '/' then
                        s.fatal (".: cannot open " ++ file ++ ": No such file")
                      else s.fatal (".: " ++ file ++ ": not found")
              | ".", [] => s.ended 0
              | "exec", [] => s.ended 0
              | "exec", program :: words =>
                  match find s.environment s.disk s.directory program with
                  | .program base =>
                      if isShell base then
                        let t := runShell fuel program words (s.nested program s.process)
                        { s.after t with captured := t.captured, halt := some (t.halt.getD .exited) }
                      else
                        let t := launch fuel "exec: " program words s
                        t.exit t.status
                  | _ =>
                      let t := launch fuel "exec: " program words s
                      t.exit t.status
              | "command", [] => s.ended 0
              | "command", "-v" :: words => describe false s (words.take 1)
              | "command", "-V" :: words => describe true s (words.take 1)
              | "command", program :: words => call fuel true program words s
              | "type", words => describe true s words
              | _, _ => launch fuel "" name arguments s

/-- A program is run; `label` stands in front of its name if there is no such program. -/
def launch : (fuel : Nat) → (label : String) → String → List String → State → State
  | 0, _, _, _, s => s
  | fuel + 1, label, name, arguments, s =>
      let missing := (s.complain (label ++ name ++ ": not found")).ended 127
      match find s.environment s.disk s.directory name with
      | .missing => missing
      | .denied =>
          (s.complain (label ++ name ++ ": Permission denied")).ended
            (if name.toList.contains '/' then 126 else 127)
      | .program base =>
          if isShell base then
            let t := runShell fuel name arguments (s.nested name (s.process + 1))
            let u := { s.after t with captured := t.captured, halt := s.halt }
            match t.halt with
            | some (.killed signal) =>
                let said := Signal.notice signal
                (if said = "" then u else u.print true (Program.bytesOf (said ++ "\n"))).ended
                  (128 + signal)
            | _ => u
          else if base = "env" then launchWith fuel arguments s
          else if base = "nice" || base = "nohup" || base = "timeout" then
            match if base = "timeout" then arguments.drop 1 else arguments with
            | program :: words => launch fuel "" program words s
            | [] => (s.print true (Program.bytesOf (base ++ ": missing operand\nTry '" ++ base ++
                " --help' for more information.\n"))).ended 125
          else
            match Program.run? s.place base arguments with
            | some ended => s.behind ended
            | none => missing

/-- A program is run with other variables, or the variables are shown. -/
def launchWith : (fuel : Nat) → List String → State → State
  | 0, _, s => s
  | fuel + 1, words, s =>
      match words with
      | [] =>
          (s.say (String.join (s.environment.map fun v => v.1 ++ "=" ++ v.2 ++ "\n"))).ended 0
      | word :: rest =>
          if word = "-i" || word = "-" then launchWith fuel rest { s with vars := [], exported := [] }
          else if word = "-u" then launchWith fuel (rest.drop 1) (s.forget (rest.headD ""))
          else
            match Builtin.pairOf word with
            | (name, some value) => launchWith fuel rest (Builtin.expose name (s.assign name value))
            | (name, none) =>
                let t := launch fuel "" name rest { s with name := "env" }
                if find s.environment s.disk s.directory name = .missing then
                  (s.print true (Program.bytesOf
                    ("env: " ++ Program.quoted s.place name ++ ": No such file or directory\n"))).ended 127
                else { t with name := s.name }

/-- A shell is started with some words: a script, or the name of a file that holds one,
its own name and its arguments. -/
def runShell : (fuel : Nat) → (name : String) → List String → State → State
  | 0, _, _, s => s
  | fuel + 1, name, words, s =>
      let s := { s with name }.withOwn
      let refused (text : String) : State := ({ s with line := 0 }.complain text).exit 2
      match invocation words with
      | .error option => refused ("Illegal option " ++ option)
      | .ok i =>
          let s := i.modes.foldl
            (fun s m => if "eux".toList.contains m.2 then Builtin.switch m.1 s m.2 else s) s
          if i.modes.contains (true, 'n') then s
          else
            match i.fromWord, i.words with
            | true, [] => refused "-c requires an argument"
            | true, script :: rest =>
                runAlone fuel script.toList { s with name := rest.headD name, arguments := rest.drop 1 }
            | false, [] => runAlone fuel (Program.charsOf s.input) { s with input := [] }
            | false, file :: rest =>
                match s.disk.item? s.directory file with
                | some (.file bytes) =>
                    runAlone fuel (Program.charsOf bytes) { s with name := file, arguments := rest }
                | some .folder => s
                | none => refused ("cannot open " ++ file ++ ": No such file")

end

end Script
end Homelab
