import Homelab.Cluster
import Homelab.HostAddress
import Homelab.Inventory.File
import Homelab.Manifest
import Homelab.Resolution
import Homelab.Settings
import Homelab.Text.Integer

/-!
# Builds of a template

A build resolves the tokens of a template manifest, makes sure that the image to
install from is in the storage of the cluster, takes a free machine number for the
template, builds it on the build host, and enters it into the inventory.

While an image is downloaded the cluster is asked again at intervals, a limited number
of times.  A template that exists is only replaced if the operator says so.  Once the
repository of the template may have been fetched, its directory is removed again at the
end, whatever has happened in between.
-/

namespace Homelab

/-- A build of a template. -/
structure TemplateBuild where
  document : Value
  manifest : TemplateManifest
  file : String
  settings : Settings
  host : Option String
  inventory : Option Inventory
  cluster : Option Cluster
  vmid : Option Int

namespace TemplateBuild

/-- A build of the template manifest in a document, on the build host that it names. -/
def ofDocument (document : Value) (file : String) (settings : Settings) :
    Except Failure TemplateBuild :=
  (TemplateManifest.ofValue document).map fun manifest =>
    ⟨document, manifest, file, settings, manifest.host.map BuildHost.host, none, none, none⟩

/-- A document resolved against an inventory and the address of the build host. -/
def resolved [DepthLimits] (build : TemplateBuild) (inventory : Inventory)
    (inventoryDocument : Value) (secrets : Option (List Value)) : Act Value :=
  let source : HostAddress.Source := ⟨inventory, build.manifest.network, build.host⟩
  (build.document.within (Value.resolve
    ⟨some inventoryDocument, secrets, none, some (HostAddress.provide source)⟩)).run' none

/-- The cluster section of a document of the inventory. -/
def clusterConfig (inventoryDocument : Value) : Except Failure ClusterConfig :=
  match inventoryDocument.get? "proxmox" with
  | none => .error (.missingKey "proxmox")
  | some v =>
      match ClusterConfig.ofValue v with
      | .ok c => .ok c
      | .bad issues => .error (.record issues)

/-- The first step: the manifest is resolved and the cluster made ready. -/
def init [DepthLimits] : ActOn TemplateBuild Unit := do
  let inventory ← ActOn.lift (Inventory.load (← get).file)
  modify fun build => { build with inventory := some inventory }
  let build ← get
  let secrets ← ActOn.lift build.settings.fetchSecrets
  let inventoryDocument ← ActOn.ofExcept
    (inventory.document >>= Value.fillWith secrets Value.fillSecrets)
  let document ← ActOn.lift (build.resolved inventory inventoryDocument secrets)
  ActOn.ofExcept document.ensureResolved
  modify fun build => { build with document := document }
  let manifest ← ActOn.ofExcept (TemplateManifest.ofValue document)
  modify fun build => { build with manifest := manifest }
  let config ← ActOn.ofExcept (clusterConfig inventoryDocument)
  let cluster ← ActOn.lift (Cluster.connect config build.settings.verified)
  modify fun build => { build with cluster := some cluster }

/-- The cluster and the inventory, once the first step has got so far. -/
def ready (build : TemplateBuild) : Except Failure (Cluster × Inventory) :=
  match build.cluster, build.inventory with
  | some cluster, some inventory => .ok (cluster, inventory)
  | _, _ => .error (.notStarted "PackerRun.init()")

/-- The image is waited for: after each interval the cluster is asked again, as often
as is left. -/
def awaitImage (cluster : Cluster) (storage image : String) (interval : Double) :
    (left : Nat) → Act Bool
  | 0 => pure false
  | left + 1 => do
      Act.sleep interval
      if ← cluster.hasImage storage image then return true
      else awaitImage cluster storage image interval left

/-- The image is in the storage, or is downloaded and waited for. -/
def provideImage (cluster : Cluster) (manifest : TemplateManifest) (settings : Settings) :
    Act Unit := do
  let storage := manifest.storage
  if ← cluster.hasImage storage manifest.image then return
  let _ ← cluster.download storage manifest.image manifest.imageUrl
  if ← awaitImage cluster storage manifest.image settings.pollInterval
      settings.pollAttempts.toNat then return
  throw (.imageMissing manifest.image settings.pollAttempts)

/-- The image is in the storage. -/
def ensureImage (build : TemplateBuild) : Act Unit := do
  let (cluster, _) ← Act.ofExcept build.ready
  provideImage cluster build.manifest build.settings

/-- The directory of a build. -/
def directory (build : TemplateBuild) : String := "/tmp/packer_" ++ build.manifest.name

/-- The integer that a text stands for. -/
def integerOfText (s : String) : Except Failure Int :=
  (Text.readInteger 10 s.toList).mapError fun fault => .value (fault.message 10 s.toList)

/-- The machine number in an answer of the cluster: a number, or a text that stands for
one. -/
def machineNumber (machine : Value) : Except Failure Int :=
  match machine.get? "vmid" with
  | none => .error (.missingKey "vmid")
  | some (.int n) => .ok n
  | some (.bool b) => .ok (if b then 1 else 0)
  | some (.float x) =>
      if x.isNaN then .error (.value "cannot convert float NaN to integer")
      else if x.isInfinite then .error (.outOfRange "cannot convert float infinity to integer")
      else .ok x.truncate
  | some (.str s) => integerOfText s
  | some v => .error (.wrongType ("int() argument must be a string, a bytes-like object " ++
      "or a real number, not '" ++ v.kindName ++ "'"))

/-- A template that exists already is deleted, if it may be replaced. -/
def makeRoom (cluster : Cluster) (name : String) (replace : Bool) : Act Unit := do
  match ← cluster.machine? name with
  | none => pure ()
  | some machine =>
      if replace then cluster.delete (← Act.ofExcept (machineNumber machine))
      else throw (.templateExists name)

/-- The variables of a build: those of the manifest, and the number of the template. -/
def environment (manifest : TemplateManifest) (vmid : Int) : List (String × String) :=
  (Site.setVariable "id" (toString vmid) manifest.vars).map fun v =>
    ("PKR_VAR_" ++ v.1, v.2)

/-- The command that removes the directory of a build. -/
def removeCommand (host : Option String) (directory : String) : Command :=
  ⟨["rm", "-rf", directory], [], false, none, host⟩

/-- The command that fetches the repository of a template. -/
def cloneCommand (host : Option String) (manifest : TemplateManifest) (directory : String) :
    Command :=
  ⟨["git", "clone", manifest.repository, directory], [], false, none, host⟩

/-- The command that builds a template. -/
def buildCommand (host : Option String) (directory : String) (vars : List (String × String)) :
    Command :=
  ⟨["packer", "build", directory], vars, true, some directory, host⟩

/-- The templates with one of a name entered in its place, or at the end. -/
def enter (t : Template) : List Template → List Template
  | [] => [t]
  | u :: rest => if u.name = t.name then t :: rest else u :: enter t rest

/-- The template is entered into the inventory of the build, and the templates of that
go into the inventory file. -/
def recordTemplate [DepthLimits] (inventory : Inventory) (vmid : Int) :
    ActOn TemplateBuild Unit := do
  let build ← get
  let t : Template := ⟨build.manifest.name, build.manifest.version, vmid, []⟩
  let next := { inventory with templates := enter t inventory.templates }
  modify fun build => { build with inventory := some next }
  ActOn.lift (next.persist build.file ["templates"])

/-- The directory of a build is removed; if that fails the operator is told. -/
def removeDirectory (host : Option String) (directory : String) : Act Unit := fun site =>
  match Act.runCommand (removeCommand host directory) site with
  | (.ok _, site) => (.ok (), site)
  | (.error e, site) =>
      (.ok (), site.note .warning ("Could not remove " ++ directory ++ ": " ++ e.message))

/-- What is done in the directory of a build, and then its removal, whether it has
failed or not. -/
def removing {α : Type} (host : Option String) (directory : String)
    (body : ActOn TemplateBuild α) : ActOn TemplateBuild α :=
  fun build site =>
    let ((result, build), site) := body build site
    let (_, site) := removeDirectory host directory site
    ((result, build), site)

/-- The template is built in its directory and entered into the inventory. -/
def buildIn [DepthLimits] (directory : String) (inventory : Inventory) (vmid : Int) :
    ActOn TemplateBuild Unit := do
  let build ← get
  let _ ← ActOn.lift (Act.runCommand (cloneCommand build.host build.manifest directory))
  let _ ← ActOn.lift
    (Act.runCommand (buildCommand build.host directory (environment build.manifest vmid)))
  recordTemplate inventory vmid

/-- The second step: the template is built and entered into the inventory; its number
is given back. -/
def run [DepthLimits] (replace : Bool) : ActOn TemplateBuild Int := do
  let build ← get
  let (cluster, inventory) ← ActOn.ofExcept build.ready
  ActOn.lift (provideImage cluster build.manifest build.settings)
  ActOn.lift (makeRoom cluster build.manifest.name replace)
  let vmid ← ActOn.ofExcept (inventory.nextVmid Resource.template.name)
  modify fun build => { build with vmid := some vmid }
  let directory := build.directory
  let _ ← ActOn.lift (Act.runCommand (removeCommand build.host directory))
  removing build.host directory (buildIn directory inventory vmid)
  return vmid

end TemplateBuild
end Homelab
