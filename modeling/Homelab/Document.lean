import Homelab.Markup.Document
import Homelab.Site
import Homelab.Text.FilePath
import Homelab.Text.LetterCase

/-!
# Documents in files

Manifests and the small files beside them are documents, in markup or in JSON; the
suffix of a file's name tells which.  A manifest is a mapping, and so are the
credentials for the vault and the access to a build host.
-/

namespace Homelab
namespace Document

/-- The suffixes of files in markup, in lower case. -/
def markupSuffixes : List String := [".yaml", ".yml"]

/-- A file of this name is in markup. -/
def isMarkup (path : String) : Bool :=
  markupSuffixes.contains (String.ofList ((Text.suffix path).toList.map Text.asciiLower))

/-- The document that a file of the given name holds. -/
def ofContent [DepthLimits] (path : String) (content : Content) : Except Failure Graph :=
  if isMarkup path then
    let pieces := content.pieces
    match Markup.read pieces.chars (pieces.broken.map fun b => (b.1, .notText b.2.message)) with
    | .ok g => .ok g
    | .error .malformed => .error (.documentMarkup path)
    | .error (.refused f) => .error f
  else do
    let text ← content.read
    match Json.read text with
    | .ok v => .ok (Graph.ofValue v)
    | .error fault => .error (Failure.ofFault (.documentSyntax path text) fault text)

/-- The document in a file, which may hold itself. -/
def loadGraph [DepthLimits] (path : String) : Act Graph := do
  let path := Text.plainPath path
  Act.ofExcept (ofContent path (← Act.contentOf path))

/-- The document in a file. -/
def load [DepthLimits] (path : String) : Act Value := do
  Act.ofExcept (← loadGraph path).value

/-- The mapping in a file; `other` is the failure if something else is there. -/
def loadMapping [DepthLimits] (path : String) (other : Failure) : Act Entries := do
  match ← load path with
  | .map entries => pure entries
  | _ => throw other

/-- The manifest in a file. -/
def loadManifest [DepthLimits] (path : String) : Act Entries :=
  loadMapping path (.manifestNotObject path)

/-- The access to a build host in a file. -/
def loadBuildHost [DepthLimits] (path : String) : Act Entries :=
  loadMapping path (.buildHostNotObject path)

/-- The names of the vault's client in a file of credentials. -/
def clientKeys : List String := ["BW_CLIENTID", "clientId", "client_id"]

/-- The names of the client's secret in a file of credentials. -/
def secretKeys : List String := ["BW_CLIENTSECRET", "clientSecret", "client_secret"]

/-- The text of the first part that is given under one of some keys. -/
def firstGiven? [DepthLimits] (g : Graph) (entries : List (Scalar × Part)) (keys : List String) :
    Except Failure (Option String) :=
  match (keys.filterMap fun key => entries.lookup (.str key)).find? g.isGiven with
  | some part => (g.text part).map some
  | none => .ok none

/-- The vault's client and its secret in a file. -/
def loadCredentials [DepthLimits] (path : String) : Act (String × String) := do
  let g ← loadGraph path
  match g.entries? with
  | none => throw (.credentialsNotObject path)
  | some entries =>
      let client ← Act.ofExcept (firstGiven? g entries clientKeys)
      let secret ← Act.ofExcept (firstGiven? g entries secretKeys)
      match client, secret with
      | some client, some secret => pure (client, secret)
      | _, _ => throw .credentialsIncomplete

end Document
end Homelab
