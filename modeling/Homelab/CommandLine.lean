import Homelab.CommandLine.Usage
import Homelab.Console
import Homelab.Document
import Homelab.ModuleRun
import Homelab.TemplateBuild

/-!
# The command line

A command line asks for a run of a module or for a build of a template.  The operator
sees a table of what has been reserved or released, and at the end that the run has
succeeded or why it has failed; a failure that is not of the operator's making goes
into the log as well.

What is wrong with the words themselves ends the program with a status of its own,
before anything is done.  Faults of the settings come before faults of the words after
the name of a command.
-/

namespace Homelab
namespace CommandLine

/-- What has come of a command line: the exit status, what has been shown, and the
failure that has ended the program where none is handled. -/
structure Outcome where
  status : Nat
  shown : String
  unhandled : Option Failure

/-- What is done while something is shown on the console. -/
abbrev Shown := ActOn String

/-- The exit status for a failure. -/
def failed : Nat := 1

/-- The exit status for a wrong use of the command line. -/
def misused : Nat := 2

/-- The names of the levels of the log. -/
def levels : List (String × Nat) :=
  [("CRITICAL", 50), ("FATAL", 50), ("ERROR", 40), ("WARNING", 30), ("WARN", 30), ("INFO", 20),
   ("DEBUG", 10), ("NOTSET", 0)]

/-- The name of the level of the log: options count more than the settings. -/
def levelName (o : Options) (settings : Settings) : String :=
  if o.debug then "DEBUG"
  else if o.verbose then "INFO"
  else String.ofList (settings.logLevel.toList.map Text.keywordUpper)

/-- Notes below the level asked for are taken down no longer. -/
def setLevel (o : Options) : Act Unit := do
  let name := levelName o (← Settings.load [])
  match levels.lookup name with
  | some n => modify fun site => { site with threshold := n }
  | none => throw (.value ("Unknown level: " ++ Text.quoted name))

/-- Something is shown. -/
def say (s : String) : Shown Unit := modify (· ++ s)

/-- A variable of the environment is set; no variable holds the null character. -/
def exportVariable (name value : String) : Act Unit := do
  if value.toList.contains (Char.ofNat 0) then throw (.value "embedded null byte")
  modify fun site => { site with vars := Site.setVariable name value site.vars }

/-- The credentials in a file become variables of the environment, where the settings
and the vault client find them. -/
def useCredentials [DepthLimits] (file : Option String) : Act Unit := do
  match file with
  | none => pure ()
  | some name => do
      let (client, secret) ← Document.loadCredentials name
      exportVariable "BW_CLIENTID" client
      exportVariable "BW_CLIENTSECRET" secret

/-- The text of what has been handed out. -/
def allocatedText : Allocated → String
  | .vmid n => toString n
  | .ip s => s

/-- The table of what has been handed out; nothing is shown if that is nothing. -/
def sayAllocations (columns : Nat) (title : String) (handedOut : List (String × Allocated)) :
    Shown Unit :=
  if handedOut.isEmpty then pure ()
  else
    say (Console.table columns title ["Reference", "Value"]
      (handedOut.map fun p => [p.1, allocatedText p.2]))

/-- A step of something that has a state of its own: the state after it, or its
failure. -/
def after {σ : Type} (step : ActOn σ Unit) (s : σ) : Shown σ := fun shown site =>
  let ((r, next), site) := step s site
  ((r.map fun _ => next, shown), site)

/-- A module is resolved, planned and applied, with a table in between. -/
def runModule [DepthLimits] (columns : Nat) (files : Files) (destroy : Bool) : Shown Unit := do
  let mode : Ledger.Mode := if destroy then .release else .reserve
  ActOn.lift (useCredentials files.credentials)
  let document ← ActOn.lift (Document.loadManifest files.manifest)
  let settings ← ActOn.lift (Settings.load [])
  let run ← ActOn.ofExcept (ModuleRun.ofDocument (.map document) files.inventory settings)
  let run ← after (ModuleRun.init mode) run
  sayAllocations columns (if destroy then "Released" else "Reserved") run.allocations
  let run ← after (do let _ ← ModuleRun.plan mode) run
  let _ ← after ModuleRun.apply run

/-- The manifest of a template with the build host of another file in it. -/
def withBuildHost [DepthLimits] (document : Entries) (file : Option String) : Act Entries := do
  match file with
  | none => pure document
  | some name => return Entries.put (.str "ssh") (.map (← Document.loadBuildHost name)) document

/-- A template is built; its number is given back. -/
def buildTemplate [DepthLimits] (files : Files) (buildHost : Option String) (replace : Bool) :
    Shown Int := do
  ActOn.lift (useCredentials files.credentials)
  let document ← ActOn.lift (Document.loadManifest files.manifest)
  let document ← ActOn.lift (withBuildHost document buildHost)
  let settings ← ActOn.lift (Settings.load [])
  let build ← ActOn.ofExcept (TemplateBuild.ofDocument (.map document) files.inventory settings)
  let build ← after TemplateBuild.init build
  let build ← after (do let _ ← TemplateBuild.run replace) build
  return build.vmid.getD 0

/-- What a request is called where it succeeds or fails. -/
def title : Request → String
  | .module _ destroy => if destroy then "Terraform destroy" else "Terraform apply"
  | .template .. => "Packer build"

/-- A request is served; the words about its success are given back. -/
def serve [DepthLimits] (columns : Nat) (r : Request) : Shown String :=
  match r with
  | .module files destroy => do
      runModule columns files destroy
      return "✅ " ++ title r ++ " finished successfully\n"
  | .template files buildHost replace => do
      let vmid ← buildTemplate files buildHost replace
      return "✅ " ++ title r ++ " finished successfully (template vmid " ++ toString vmid ++ ")\n"

/-- A request is served and its end is shown. -/
def conclude [DepthLimits] (columns : Nat) (r : Request) (site : Site) : Outcome × Site :=
  let ((result, shown), site) := serve columns r "" site
  match result with
  | .ok words => (⟨0, shown ++ words, none⟩, site)
  | .error f =>
      let site := if f.isExpected then site else site.note .error (title r ++ " error")
      (⟨failed, shown ++ Console.message ("❌ " ++ title r ++ " failed: ") f.message, none⟩, site)

/-- There is a file of this name. -/
def isFile (site : Site) (name : String) : Bool :=
  (site.file? (Text.plainPath name)).isSome

/-- The program is run with some words on a console of some columns. -/
def run [DepthLimits] (columns : Nat) (words : List String) (site : Site) : Outcome × Site :=
  let misuse : Outcome := ⟨misused, "", none⟩
  match Usage.options words with
  | .misuse => (misuse, site)
  | .help => (⟨0, Usage.helpText, none⟩, site)
  | .found (options, tool, rest) =>
      match (setLevel options).run site with
      | (.error f, site) => (⟨failed, "", some f⟩, site)
      | (.ok (), site) =>
          match Usage.request (isFile site) tool rest with
          | .misuse => (misuse, site)
          | .help => (⟨0, Usage.helpText, none⟩, site)
          | .found r => conclude columns r site

end CommandLine
end Homelab
