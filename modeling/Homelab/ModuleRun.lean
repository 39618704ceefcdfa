import Homelab.Inventory.File
import Homelab.Manifest
import Homelab.Resolution
import Homelab.Settings
import Homelab.Shell
import Homelab.Text.FilePath

/-!
# Runs of a module

A run resolves the tokens of a module manifest against the inventory, fetches the
module, plans and applies it.  Machine numbers and addresses are reserved while the
manifest is resolved, or released when the machines are to be destroyed; this
reaches the inventory file only after the module has been applied.

A run can be resumed: each step begins with what the steps before have left, also
where one of them has failed.
-/

namespace Homelab

/-- A run of a module. -/
structure ModuleRun where
  document : Value
  manifest : ModuleManifest
  file : String
  settings : Settings
  inventoryDocument : Value
  ledger : Option Ledger
  cloneDirectory : Option String
  moduleDirectory : Option String
  planFile : Option String

namespace ModuleRun

/-- A run of the module manifest in a document. -/
def ofDocument (document : Value) (file : String) (settings : Settings) :
    Except Failure ModuleRun :=
  (ModuleManifest.ofValue document).map fun manifest =>
    ⟨document, manifest, file, settings, .map [], none, none, none, none⟩

/-- The numbers and addresses that the run has handed out, by token. -/
def allocations (run : ModuleRun) : List (String × Allocated) :=
  match run.ledger with
  | some ledger => ledger.handedOut
  | none => []

/-- The text in which a value is passed to the module. -/
def argumentText (v : Value) : Except Failure String :=
  match v.inlineText? with
  | some s => .ok s
  | none => .error (.unwritten v)

/-- Entries as arguments or variables, their names behind a fixed beginning. -/
def arguments (start : String) (entries : List (String × Value)) :
    Except Failure (List (String × String)) :=
  entries.mapM fun e => (argumentText e.2).map fun text => (start ++ e.1, text)

/-- The settings of the state backend, from the document of the inventory. -/
def backendConfig (run : ModuleRun) : List (String × Value) :=
  match run.inventoryDocument.lookup ["terraform", "backend", "config"] with
  | .map es => es.filterMap fun e =>
      match e.1 with
      | .str name => some (name, e.2)
      | _ => none
  | _ => []

/-- The name of the file that keeps the state of one machine. -/
def stateName (server number : Value) : Except Failure String := do
  let server ← server.written
  let number ← number.written
  return server ++ "-" ++ number ++ ".tfstate"

/-- The argument that names the state file. -/
def stateArgument (server number : Value) : Except Failure String :=
  (stateName server number).map ("-backend-config=key=" ++ ·)

/-- The variable of a name, if it is there and not empty. -/
def manifestVariable? (run : ModuleRun) (name : String) : Option Value :=
  (run.manifest.vars.lookup name).bind fun v => if v.isNull then none else some v

/-- The arguments that set up the state backend: its settings and the state file. -/
def backendArguments (run : ModuleRun) : Except Failure (List String) := do
  let settings ← arguments "-backend-config=" run.backendConfig
  match run.manifestVariable? "server_name", run.manifestVariable? "vm_id" with
  | some server, some number =>
      return settings.map (fun s => s.1 ++ "=" ++ s.2) ++ [← stateArgument server number]
  | _, _ => throw .stateNameMissing

/-- The variables of the manifest as variables of the environment. -/
def environment (run : ModuleRun) : Except Failure (List (String × String)) :=
  arguments "TF_VAR_" run.manifest.vars

/-- The directory of the module, once it has been fetched. -/
def directory (run : ModuleRun) : Except Failure String :=
  match run.moduleDirectory with
  | some d => .ok d
  | none => .error (.notStarted "TerraformRun.init()")

/-- A request to the ledger of a run. -/
def onLedger {α : Type} (ledger : Ledger) (request : Ledger.Run α) : ActOn ModuleRun α :=
  fun run site =>
    let (r, next) := request ledger
    ((r, { run with ledger := some next }), site)

/-- A document filled with secrets, if there are any. -/
def withSecrets (secrets : Option (List Value)) (document : Value) :
    Except Failure Value :=
  Value.fillWith secrets Value.fillSecrets document

/-- The tokens of the manifest are resolved. -/
def resolve [DepthLimits] (mode : Ledger.Mode) (inventory : Inventory)
    (secrets : Option (List Value)) : ActOn ModuleRun Unit := do
  let document ← ActOn.ofExcept (inventory.document >>= withSecrets secrets)
  let ledger := Ledger.start inventory
  modify fun run => { run with inventoryDocument := document, ledger := some ledger }
  let resolved ← onLedger ledger
    ((← get).document.within
      (Value.resolve ⟨some document, secrets, some (Ledger.registry mode), none⟩))
  ActOn.ofExcept resolved.ensureResolved
  modify fun run => { run with document := resolved }
  let manifest ← ActOn.ofExcept (ModuleManifest.ofValue resolved)
  modify fun run => { run with manifest := manifest }

/-- The command that fetches the module into a directory. -/
def cloneCommand (manifest : ModuleManifest) (directory : String) : Command :=
  ⟨["git", "clone", manifest.repository, "-b", manifest.branch, directory], [], false, none, none⟩

/-- The directory of the module in the directory that it has been fetched into. -/
def directoryIn (manifest : ModuleManifest) (clone : String) : String :=
  let path := match manifest.path with
    | some p => if p = "" then "." else p
    | none => "."
  Text.normalPath (Text.joinPath clone path)

/-- The module is fetched. -/
def fetch : ActOn ModuleRun Unit := do
  let clone ← ActOn.lift (do return (← get).outside.scratch)
  modify fun run => { run with cloneDirectory := some clone }
  let manifest := (← get).manifest
  let _ ← ActOn.lift (Act.runCommand (cloneCommand manifest clone))
  modify fun run => { run with moduleDirectory := some (directoryIn manifest clone) }

/-- The first step: the manifest is resolved and the module fetched. -/
def init [DepthLimits] (mode : Ledger.Mode) : ActOn ModuleRun Unit := do
  let run ← get
  let inventory ← ActOn.lift (Inventory.load run.file)
  let secrets ← ActOn.lift run.settings.fetchSecrets
  resolve mode inventory secrets
  fetch

/-- A command of the provisioning tool in the directory of the module. -/
def toolCommand (directory : String) (words : List String) (vars : List (String × String)) :
    Command :=
  ⟨"terraform" :: ("-chdir=" ++ directory) :: words, vars, true, none, none⟩

/-- The second step: the plan is made and kept in a file. -/
def plan (mode : Ledger.Mode) : ActOn ModuleRun String := do
  let run ← get
  let directory ← ActOn.ofExcept run.directory
  let vars ← ActOn.ofExcept run.environment
  let backend ← ActOn.ofExcept run.backendArguments
  let _ ← ActOn.lift (Act.runCommand (toolCommand directory ("init" :: backend) vars))
  let seconds ← ActOn.lift (do return (← get).outside.seconds)
  let file := Text.joinPath directory ("provisioner-tfplan-" ++ toString seconds)
  modify fun run => { run with planFile := some file }
  let destroying := if mode = .release then ["-destroy"] else []
  let _ ← ActOn.lift
    (Act.runCommand (toolCommand directory (["plan", "-out=" ++ file] ++ destroying) vars))
  return file

/-- The command that applies the plan. -/
def applyCommand (run : ModuleRun) (directory : String) (vars : List (String × String)) :
    Command :=
  let planned := match run.planFile with
    | some file => if file = "" then [] else [file]
    | none => []
  toolCommand directory (["apply", "-auto-approve"] ++ planned) vars

/-- The third step: the plan is applied, and after that the reservations of the run go
into the inventory file. -/
def apply [DepthLimits] : ActOn ModuleRun Unit := do
  let run ← get
  let directory ← ActOn.ofExcept run.directory
  let vars ← ActOn.ofExcept run.environment
  let _ ← ActOn.lift (Act.runCommand (run.applyCommand directory vars))
  match run.ledger with
  | none => pure ()
  | some ledger =>
      let settled ← ActOn.lift (ledger.commit run.file)
      modify fun run => { run with ledger := some settled }

/-- The last step: what has been fetched is removed. -/
def cleanUp (run : ModuleRun) : ModuleRun := { run with cloneDirectory := none }

end ModuleRun
end Homelab
