import Homelab.Process
import Homelab.Rehearsal.Script.Run

/-!
# Commands on this machine

A command on this machine is started in a directory, with its own variables beside
those of the environment.  It fails when the system does not take it, when it cannot be
started, because there is no such program or no such directory, and when it ends with a
status other than zero.  What it prints is read as text with plain line ends, and its
result is that text without blanks around it.

The machine is a small one on which scripts can be rehearsed.  `Local.answer` is what it
makes of a command, as an outside gives it to whoever runs one.
-/

namespace Homelab
namespace Local

/-- What the machine makes of a command: the output or why there is none, and what was
shown while it ran. -/
structure Answer where
  result : Except CommandFault String
  shown : String × String

/-- What has come of a command: its result, and what was shown while it ran. -/
structure Run where
  result : Except Failure String
  shown : String × String

/-- The directory that a command is started in if it names none. -/
def workplace : String := "/tmp/work"

/-- The disk in front of which an operator works. -/
def disk : Script.Disk := Script.Disk.usual ++ [(workplace, .folder)]

/-- How many commands a script may run. -/
def patience : Nat := 20000

/-- The text that a command has printed; bytes that are no text are lost. -/
def printed (bytes : List UInt8) : String :=
  String.ofList (Text.plainNewlines ((Text.ofBytes? bytes).getD "").toList)

/-- A command that could not be started. -/
def notStarted (reason : String) : Answer := ⟨.error (.failed 127 reason), ("", "")⟩

/-- The result of a command that has ended. -/
def outcome (code : Int) (output error : String) : Except CommandFault String :=
  if code = 0 then .ok (Text.strip output) else .error (.failed code (Text.strip error))

/-- The status of a process that has ended in a state; a process that a signal has ended
has the signal, turned round, as its status. -/
def status (s : Script.State) : Int :=
  match s.halt with
  | some (.killed signal) => -(signal : Int)
  | _ => s.status

/-- What is left of a shell in which a program has run. -/
def ended (program : String) (words : List String) (s : Script.State) : Script.State :=
  if Script.isShell program then Script.runShell patience s.name words s
  else
    let t := Script.launch patience "" program words s
    { t with halt := none }

/-- A command that can be put to the system is run. -/
def start (vars : List (String × String)) (c : Command) : Answer :=
  let all := c.vars.foldl (fun vs v => Site.setVariable v.1 v.2 vs) vars
  let directory := Script.Disk.path workplace (c.directory.getD ".")
  let name := c.words.headD ""
  match disk.lookup directory with
  | none => notStarted (Failure.fileNotFound (c.directory.getD "")).message
  | some (.file _) =>
      notStarted ("[Errno 20] Not a directory: " ++ Text.quoted (c.directory.getD ""))
  | some .folder =>
      match Script.find all disk directory name with
      | .missing => notStarted (Failure.fileNotFound name).message
      | .denied => notStarted ("[Errno 13] Permission denied: " ++ Text.quoted name)
      | .program base =>
          let s := Script.State.start name directory [] all disk []
          if Script.isShell base || base = "env" || (Script.Program.run? s.place base []).isSome then
            let t := ended base (c.words.drop 1) s
            let bytesOn (onError : Bool) : List UInt8 :=
              ((t.printed.filter fun e => e.1 = onError).map Prod.snd).reverse.flatten
            let output := printed (bytesOn false)
            let error := printed (bytesOn true)
            ⟨outcome (status t) output error, if c.shown then (output, error) else ("", "")⟩
          else notStarted (Failure.fileNotFound name).message

/-- What the machine makes of a command in an environment with the given variables. -/
def answer (vars : List (String × String)) (c : Command) : Answer :=
  match Process.refusal? c.words c.vars c.directory with
  | some reason => ⟨.error (.refused reason), ("", "")⟩
  | none => start vars c

/-- A command is run on this machine, in an environment with the given variables. -/
def run (vars : List (String × String)) (c : Command) : Run :=
  let a := answer vars c
  ⟨a.result.mapError (CommandFault.failure c), a.shown⟩

end Local
end Homelab
