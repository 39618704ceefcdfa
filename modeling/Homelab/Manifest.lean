import Homelab.Failure
import Homelab.Schema

/-!
# Manifests

A manifest says what a run is to do.  A module manifest names a module of the
provisioning tool, kept in a repository, and the variables to pass to it; a template
manifest names a template to be built, the image to install from, and the repository
that tells how.  Both keep the entries that they do not know, so that tokens can refer
to them.
-/

namespace Homelab

/-- How to reach the host on which a template is built. -/
structure BuildHost where
  host : String
  username : String
  privateKey : Option String
  port : Int
deriving DecidableEq

namespace BuildHost

/-- The names under which the private key is given. -/
def keyNames : List String := ["private_key", "privateKey"]

/-- A build host of a document; entries that it does not know are dropped. -/
def ofValue : Value → Checked BuildHost :=
  Schema.record "SshInfo" fun es =>
    BuildHost.mk
      <$> Schema.required ["host"] Schema.text es
      <*> Schema.required ["username"] Schema.text es
      <*> Schema.optional keyNames Schema.text es
      <*> Schema.withDefault ["port"] Schema.integer 22 es

/-- The document of a build host. -/
def toValue (h : BuildHost) : Value :=
  .object
    [("host", .str h.host), ("username", .str h.username),
     ("private_key", match h.privateKey with | some k => .str k | none => .null),
     ("port", .int h.port)]

end BuildHost

/-- The kinds of guests that a module makes. -/
inductive ModuleKind where
  | vm
  | lxc
deriving DecidableEq

namespace ModuleKind

/-- The kinds by name. -/
def named : List (String × ModuleKind) := [("vm", vm), ("lxc", lxc)]

/-- The name of a kind. -/
def name : ModuleKind → String
  | vm => "vm"
  | lxc => "lxc"

end ModuleKind

/-- What a module run is to do. -/
structure ModuleManifest where
  repository : String
  branch : String
  path : Option String
  kind : ModuleKind
  vars : List (String × Value)
  extra : List (String × Value)

namespace ModuleManifest

/-- The names of the fields. -/
def fields : List (List String) :=
  [["module"], ["branch"], ["path"], ["type"], ["variables"]]

/-- The fields of a module manifest. -/
def check : Value → Checked ModuleManifest :=
  Schema.record "TerraformManifest" fun es =>
    ModuleManifest.mk
      <$> Schema.required ["module"] Schema.text es
      <*> Schema.withDefault ["branch"] Schema.text "master" es
      <*> Schema.optional ["path"] Schema.text es
      <*> Schema.withDefault ["type"] (Schema.choice ModuleKind.named) .vm es
      <*> Schema.withDefault ["variables"] (Schema.mapping Schema.any) [] es
      <*> Schema.extras fields es

/-- The module manifest of a document. -/
def ofValue (v : Value) : Except Failure ModuleManifest :=
  match check v with
  | .ok m => .ok m
  | .bad issues => .error (.moduleManifest issues)

/-- The document of a module manifest, with every field. -/
def toValue (m : ModuleManifest) : Value :=
  .object
    ([("module", .str m.repository), ("branch", .str m.branch),
      ("path", match m.path with | some p => .str p | none => .null),
      ("type", .str m.kind.name), ("variables", .object m.vars)] ++ m.extra)

end ModuleManifest

/-- What a template build is to do. -/
structure TemplateManifest where
  name : String
  version : String
  imageUrl : String
  image : String
  repository : String
  network : String
  vars : List (String × String)
  imagePath : Option String
  host : Option BuildHost
  extra : List (String × Value)

namespace TemplateManifest

/-- The names under which the path of the image is given. -/
def pathNames : List String := ["iso_path", "isoPath"]

/-- The names of the fields. -/
def fields : List (List String) :=
  [["name"], ["version"], ["iso_url"], ["iso_file"], ["packer_template_url"], ["network"],
   ["variables"], pathNames, ["ssh"]]

/-- The form of the name of an image: a storage, a colon, and a name on one line. -/
def imagePattern : String := "^[^:]+:.+$"

/-- The name of an image has its form. -/
def isImage (s : String) : Bool :=
  match Text.cut? ':' s.toList with
  | some (storage, name) => !storage.isEmpty && !name.isEmpty && !name.contains '\n'
  | none => false

/-- The name of an image in its storage. -/
def imageText (v : Value) : Checked String :=
  match Schema.text v with
  | .bad issues => .bad issues
  | .ok s => if isImage s then .ok s else .issue (.pattern imagePattern)

/-- The fields of a template manifest. -/
def check : Value → Checked TemplateManifest :=
  Schema.record "PackerManifest" fun es =>
    TemplateManifest.mk
      <$> Schema.required ["name"] Schema.text es
      <*> Schema.required ["version"] Schema.text es
      <*> Schema.required ["iso_url"] Schema.text es
      <*> Schema.required ["iso_file"] imageText es
      <*> Schema.required ["packer_template_url"] Schema.text es
      <*> Schema.required ["network"] Schema.text es
      <*> Schema.withDefault ["variables"] (Schema.mapping Schema.text) [] es
      <*> Schema.optional pathNames Schema.text es
      <*> Schema.optional ["ssh"] BuildHost.ofValue es
      <*> Schema.extras fields es

/-- The template manifest of a document. -/
def ofValue (v : Value) : Except Failure TemplateManifest :=
  match check v with
  | .ok m => .ok m
  | .bad issues => .error (.templateManifest issues)

/-- The storage that an image is in: what stands before the first colon. -/
def storage (m : TemplateManifest) : String :=
  match Text.cut? ':' m.image.toList with
  | some (storage, _) => String.ofList storage
  | none => m.image

/-- The document of a template manifest, with every field. -/
def toValue (m : TemplateManifest) : Value :=
  .object
    ([("name", .str m.name), ("version", .str m.version), ("iso_url", .str m.imageUrl),
      ("iso_file", .str m.image), ("packer_template_url", .str m.repository),
      ("network", .str m.network),
      ("variables", .object (m.vars.map fun v => (v.1, .str v.2))),
      ("iso_path", match m.imagePath with | some p => .str p | none => .null),
      ("ssh", match m.host with | some h => h.toValue | none => .null)] ++ m.extra)

end TemplateManifest
end Homelab
