import Homelab.Endpoint
import Homelab.Inventory
import Homelab.Site
import Homelab.Value.Each

/-!
# The cluster

What a template build asks of the cluster: whether an image is in its storage, to
download one, which machine goes by a name, and to delete a machine.  Each request
goes to one node, on behalf of the user and token that the inventory names.

What the cluster answers is taken as it comes; an answer that is no list of objects
where one is expected fails the request in its own way.
-/

namespace Homelab

/-- A node of the cluster and how it is addressed. -/
structure Cluster where
  node : String
  access : ClusterAccess
deriving DecidableEq

namespace Cluster

/-- The user and the name of the token, which the inventory gives as one text. -/
def splitUser (user : String) : Except Failure (String × String) :=
  match Text.cut? '!' user.toList with
  | some (name, token) => .ok (String.ofList name, String.ofList token)
  | none => .error (.clusterUser user)

/-- The cluster that a cluster section describes. -/
def ofConfig (c : ClusterConfig) (verified : Bool) : Except Failure Cluster := do
  let (host, port) ← Endpoint.read c.endpoint
  let (user, tokenName) ← splitUser c.user
  return ⟨c.node, ⟨host, port, user, tokenName, c.token, verified⟩⟩

/-- The cluster that a cluster section describes, made ready for requests. -/
def connect (c : ClusterConfig) (verified : Bool) : Act Cluster := do
  let cluster ← Act.ofExcept (ofConfig c verified)
  modify fun site => site.record (.cluster (.connect cluster.access))
  return cluster

/-- The members of an answer that should be a list of objects.  The characters of a
text and the keys of an object come one by one, too, but have no entries. -/
def members : Value → Except Failure (List Value)
  | .null => .ok []
  | v => v.each

/-- An entry of a member of an answer. -/
def entry (key : String) : Value → Except Failure (Option Value)
  | .map entries => .ok (Entries.find? key entries)
  | v => .error (.noSuchMember ("'" ++ v.kindName ++ "' object has no attribute 'get'"))

/-- The first member whose entry is the given text. -/
def firstWith (key wanted : String) : List Value → Except Failure (Option Value)
  | [] => .ok none
  | item :: rest =>
      match entry key item with
      | .error e => .error e
      | .ok (some (.str s)) => if s = wanted then .ok (some item) else firstWith key wanted rest
      | .ok _ => firstWith key wanted rest

/-- An image is in a storage. -/
def hasImage (cluster : Cluster) (storage image : String) : Act Bool := do
  let answer ← Act.callCluster .listContent (.listContent cluster.node storage)
  let items ← Act.ofExcept (members answer)
  return (← Act.ofExcept (firstWith "volid" image items)).isSome

/-- The name of a file: what follows the last slash. -/
def fileName (image : String) : String :=
  match Text.cutLast? '/' image.toList with
  | some (_, name) => String.ofList name
  | none => image

/-- A download into a storage is begun. -/
def download (cluster : Cluster) (storage image url : String) : Act Value :=
  Act.callCluster .download (.download cluster.node storage url (fileName image))

/-- The machine that goes by a name. -/
def machine? (cluster : Cluster) (name : String) : Act (Option Value) := do
  let answer ← Act.callCluster .listMachines (.listMachines cluster.node)
  let items ← Act.ofExcept (members answer)
  Act.ofExcept (firstWith "name" name items)

/-- A machine is deleted. -/
def delete (cluster : Cluster) (id : Int) : Act Unit := do
  let _ ← Act.callCluster (.deleteMachine id) (.deleteMachine cluster.node id)

end Cluster
end Homelab
