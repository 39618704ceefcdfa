import Homelab.CommandLine
import Homelab.Json.Reader
import Homelab.Rehearsal

/-!
# The program

The program rehearses a command line: it reads the files that the words name and the
variables that matter, serves the command line on a site made of them, prints what is
shown there, tells on the error output which commands would be run, and writes the
files that have changed.  What the outside answers is taken from the rehearsal in the
file that the variable `HOMELAB_REHEARSAL` names; without one every command succeeds
and prints nothing.
-/

namespace Homelab
namespace Program

/-- The variables of the environment that matter. -/
def variableNames : List String :=
  ["HOME", "BW_CLIENTID", "BW_CLIENTSECRET", "BW_MASTERPASSWORD", "BW_DATA_DIR", "BW_EXECUTABLE",
   "PROVISIONER_LOG_LEVEL", "PROVISIONER_ISO_POLL_ATTEMPTS", "PROVISIONER_ISO_POLL_INTERVAL",
   "PROVISIONER_VERIFY_SSL"]

/-- The columns of the console. -/
def columns : Nat := 100

/-- The rehearsal in a text; one that cannot be read has no answers. -/
def rehearsalOf (text : String) : Rehearsal :=
  match Json.read text with
  | .ok v => Rehearsal.ofValue v
  | .error _ => Rehearsal.ofValue .null

/-- The content of a file, if it can be read. -/
def content? (name : String) : IO (Option Content) := do
  try
    return some (.raw (← IO.FS.readBinFile name).toList)
  catch _ => return none

/-- The files that some words name, and the file of settings. -/
def filesOf (words : List String) : IO (List (String × Content)) := do
  let mut files := []
  for word in (Settings.envFile :: words).eraseDups do
    if let some c ← content? word then
      files := Site.put (Text.plainPath word) c files
  return files

/-- The variables that are set. -/
def vars : IO (List (String × String)) := do
  let mut set := []
  for name in variableNames do
    if let some value ← IO.getEnv name then
      set := set ++ [(name, value)]
  return set

/-- The rehearsal that the environment names. -/
def rehearsal : IO Rehearsal := do
  match ← IO.getEnv "HOMELAB_REHEARSAL" with
  | none => return rehearsalOf ""
  | some name => return rehearsalOf (← IO.FS.readFile name)

/-- What an event tells the operator. -/
def eventText : Event → Option String
  | .command c => some ("command: " ++ Shell.line c.words)
  | .vault c => some ("vault: " ++ Shell.line c.words)
  | .note _ message => some ("note: " ++ message)
  | _ => none

end Program
end Homelab

open Homelab Program in
/-- The program. -/
def main (words : List String) : IO UInt32 := do
  let seconds := (← IO.monoMsNow) / 1000
  let outside := (← rehearsal).outside "/tmp/provisioner" seconds
  let site : Site := ⟨← filesOf words, ← vars, NoteLevel.warning.rank, [], outside⟩
  let (outcome, after) := CommandLine.run columns words site
  for event in after.journal do
    if let some line := eventText event then
      IO.eprintln line
  IO.print outcome.shown
  for (name, content) in after.files do
    if site.file? name ≠ some content then
      if let .text s := content then
        IO.FS.writeFile name s
  if let some f := outcome.unhandled then
    IO.eprintln f.message
  return UInt32.ofNat outcome.status
