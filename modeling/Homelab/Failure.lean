import Homelab.Json.Reader
import Homelab.Schema
import Homelab.Text.Quoted

/-!
# Failures

Everything that can end an operation, by cause, and the sentence that tells the
operator about it.  Where a document does not follow its schema the sentence is
only a heading; the issues are listed beside it.
-/

namespace Homelab

/-- Why a static range gives no addresses; an end that is no address is told in
quotes. -/
inductive RangeFault where
  | unset
  | notAnAddress (quoted : String)
  | mixedFamilies
  | reversed
deriving DecidableEq

/-- What a request to the cluster was for. -/
inductive ClusterRequest where
  | listContent
  | download
  | listMachines
  | deleteMachine (id : Int)
deriving DecidableEq

/-- The two kinds of things that are reserved. -/
inductive ReservedKind where
  | vmid
  | ip
deriving DecidableEq

/-- The word for a kind of reservation. -/
def ReservedKind.name : ReservedKind → String
  | vmid => "vmid"
  | ip => "ip"

/-- The cause of a failed operation. -/
inductive Failure where
  -- the inventory file
  | inventoryNotObject
  | inventoryInvalid (issues : List Issue)
  | inventorySyntax (file text : String) (fault : Json.Fault)
  | reservationConflict (issues : List Issue)
  -- manifests and side files
  | documentSyntax (file text : String) (fault : Json.Fault)
  | documentMarkup (file : String)
  | manifestNotObject (file : String)
  | credentialsNotObject (file : String)
  | credentialsIncomplete
  | buildHostNotObject (file : String)
  | moduleManifest (issues : List Issue)
  | templateManifest (issues : List Issue)
  | stateNameMissing
  -- allocation
  | unknownResource (name : String)
  | networkNotFound (name : String)
  | range (network : String) (fault : RangeFault)
  | subnet (subnet : String)
  | machineNumbersTaken (resource : String)
  | addressesTaken (network : String)
  -- references
  | unresolved (tokens : List String)
  | nothingToRelease (kind : ReservedKind) (token : String)
  | noHostAddress (network subnet : String)
  -- external commands
  | command (line : String) (code : Int) (stderr : String)
  -- the vault
  | vaultStart (executable reason : String)
  | vaultStep (step : String) (code : Int) (stderr : String)
  | vaultNoKey
  | vaultSyntax (text : String) (fault : Json.Fault)
  | vaultNotList
  -- the cluster
  | endpoint (endpoint : String)
  | clusterUser (user : String)
  | cluster (request : ClusterRequest) (reason : String)
  | imageMissing (image : String) (checks : Int)
  | templateExists (name : String)
  -- files and plain values
  | fileNotFound (name : String)
  | isFolder (name : String)
  | notFolder (name : String)
  | nameTooLong (name : String)
  | system (reason : String)
  | notText (reason : String)
  | value (reason : String)
  | wrongType (reason : String)
  | noSuchMember (reason : String)
  | missingKey (key : String)
  | noSuchPosition
  | emptyText
  | outOfRange (reason : String)
  | tooDeep (reason : String)
  | notStarted (operation : String)
  | record (issues : List Issue)

namespace Failure

/-- The request that the cluster refused. -/
def requestText : ClusterRequest → String
  | .listContent => "Failed to list storage content"
  | .download => "Proxmox ISO download via API failed"
  | .listMachines => "Failed to list VMs"
  | .deleteMachine id => "Failed to delete VM " ++ toString id

/-- Why the static range of a network gives no addresses. -/
def rangeText (network : String) : RangeFault → String
  | .unset => "Invalid static_range for network " ++ network
  | .notAnAddress quoted => "Invalid address " ++ quoted ++ " for network " ++ network
  | .mixedFamilies => "Start and end IP must be the same IP version for network " ++ network
  | .reversed => "static_range start is greater than end for network " ++ network

/-- A failure of the vault: its client could not be started, ended with a status that does
not count, or gave no key or no items. -/
def isVault : Failure → Bool
  | vaultStart .. | vaultStep .. | vaultNoKey | vaultSyntax .. | vaultNotList => true
  | _ => false

/-- The sentence about a failure. -/
def message : Failure → String
  | inventoryNotObject => "Invalid inventory data: top level must be an object"
  | inventoryInvalid _ => "Invalid inventory data: "
  | inventorySyntax file text fault =>
      "Error loading inventory file " ++ file ++ ": " ++ fault.message text
  | reservationConflict _ =>
      "Reservations conflict with inventory on disk: Invalid inventory data: "
  | documentSyntax file text fault => "Error parsing " ++ file ++ ": " ++ fault.message text
  | documentMarkup file => "Error parsing " ++ file ++ ": "
  | manifestNotObject file => "Manifest " ++ file ++ " must contain an object at the top level"
  | credentialsNotObject file => "Auth file " ++ file ++ " must contain an object"
  | credentialsIncomplete => "auth file missing client id/secret"
  | buildHostNotObject file => "SSH info file " ++ file ++ " must contain an object"
  | moduleManifest _ => "Invalid Terraform manifest: "
  | templateManifest _ => "Invalid Packer manifest: "
  | stateNameMissing =>
      "variables.server_name and variables.vm_id are required to name the state file"
  | unknownResource name => "Unknown type: " ++ name
  | networkNotFound name => "Network not found: " ++ name
  | range network fault => rangeText network fault
  | subnet s => "Invalid subnet " ++ Text.quoted s
  | machineNumbersTaken resource => "No available vmid for type " ++ resource
  | addressesTaken network => "No available static IP in range for network " ++ network
  | unresolved tokens => "Unresolved references: " ++ ", ".intercalate tokens
  | nothingToRelease kind token =>
      "No " ++ kind.name ++ " reservation to release for " ++ token
  | noHostAddress network s =>
      "No address on network " ++ network ++ " (" ++ s ++ ") found on build host"
  | command line code stderr =>
      "Command failed with code " ++ toString code ++ ": " ++ line ++
        (if stderr = "" then "" else ": " ++ stderr)
  | vaultStart executable reason => "Unable to run " ++ executable ++ ": " ++ reason
  | vaultStep step code stderr =>
      "bw " ++ step ++ " failed with code " ++ toString code ++ ": " ++ stderr
  | vaultNoKey => "bw unlock returned no session key"
  | vaultSyntax text fault => "bw list returned invalid JSON: " ++ fault.message text
  | vaultNotList => "bw list did not return a list of items"
  | endpoint e => "Invalid Proxmox endpoint: " ++ e
  | clusterUser user => "api_user must be of the form user@realm!token, got " ++ user
  | cluster request reason => requestText request ++ ": " ++ reason
  | imageMissing image checks =>
      "ISO " ++ image ++ " not available after " ++ toString checks ++ " checks"
  | templateExists name => "Template " ++ name ++ " already exists and override is not set"
  | fileNotFound name => "[Errno 2] No such file or directory: " ++ Text.quoted name
  | isFolder name => "[Errno 21] Is a directory: " ++ Text.quoted name
  | notFolder name => "[Errno 20] Not a directory: " ++ Text.quoted name
  | nameTooLong name => "[Errno 36] File name too long: " ++ Text.quoted name
  | system reason => reason
  | notText reason => reason
  | value reason => reason
  | wrongType reason => reason
  | noSuchMember reason => reason
  | missingKey key => Text.quoted key
  | noSuchPosition => "list index out of range"
  | emptyText => "string index out of range"
  | outOfRange reason => reason
  | tooDeep reason => reason
  | notStarted operation => operation ++ " must be called first"
  | record _ => ""

/-- The issues that a failure lists. -/
def issues? : Failure → Option (List Issue)
  | inventoryInvalid issues | reservationConflict issues | moduleManifest issues
  | templateManifest issues | record issues => some issues
  | _ => none

/-- Failures of the operator's making, as opposed to faults of the environment: the
command line reports both, but only logs the latter. -/
def isExpected : Failure → Bool
  | fileNotFound _ | isFolder _ | notFolder _ | nameTooLong _ | system _ | notText _ | value _
  | wrongType _ | noSuchMember _ | missingKey _ | noSuchPosition | emptyText | outOfRange _
  | tooDeep _ | notStarted _ | record _ => false
  | _ => true

/-- The failure of a walk through a document that has too many levels. -/
def depthExceeded : Failure := tooDeep "maximum recursion depth exceeded"

/-- A fault of a JSON text as a failure; an integer of too many digits is one of its
own kind, and so is a text that is nested too deeply. -/
def ofFault (wrap : Json.Fault → Failure) (fault : Json.Fault) (text : String) : Failure :=
  match fault with
  | .oversized _ => .value (fault.message text)
  | .nested _ => .tooDeep (fault.message text)
  | _ => wrap fault

end Failure
end Homelab
