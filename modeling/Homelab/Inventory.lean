import Homelab.Address.Reader
import Homelab.Value

/-!
# The inventory

The inventory is the single record of what is in use: the cluster and the state
backend, the networks with their static ranges, the machines and templates that
exist, and the reservations that bind tokens to machine numbers and addresses.

Every part keeps the entries that it does not know.  Addresses are kept as they
were written and compared by family and number.
-/

namespace Homelab

/-- Entries that a record keeps without knowing them. -/
abbrev Extra := List (String × Value)

/-- How to reach the cluster.  The token can be taken out of a loaded inventory. -/
structure ClusterConfig where
  endpoint : String
  user : String
  token : Option String
  node : String
  username : Option String
  password : Option String
  extra : Extra

/-- Where the state of the machines is kept. -/
structure StateBackend where
  kind : String
  config : List (String × Value)
  extra : Extra

/-- Settings of the machine modules. -/
structure ModuleSettings where
  backend : StateBackend
  extra : Extra

/-- The addresses of a network that may be handed out, both ends included. -/
structure StaticRange where
  first : Option String
  last : Option String
  extra : Extra

/-- A network. -/
structure Network where
  name : String
  subnet : String
  gateway : String
  dns : String
  staticRange : Option StaticRange
  iface : Option String
  dhcpEnabled : Option Bool
  domain : Option String
  extra : Extra

/-- The address of a machine on a network. -/
structure HostInterface where
  network : String
  ip : String
  extra : Extra

/-- The kinds of machines. -/
inductive HostKind where
  | baremetal
  | vm
  | lxc
deriving DecidableEq

/-- The name of a kind of machine. -/
def HostKind.name : HostKind → String
  | baremetal => "baremetal"
  | vm => "vm"
  | lxc => "lxc"

/-- A machine that exists; its number and addresses are never handed out. -/
structure Host where
  name : String
  vmid : Int
  kind : HostKind
  interfaces : List HostInterface
  extra : Extra

/-- A machine template. -/
structure Template where
  name : String
  version : String
  vmid : Int
  extra : Extra

/-- A token bound to the value reserved for it. -/
structure Reservation (α : Type) where
  value : α
  token : String
  extra : Extra

/-- The reservations of machine numbers and of addresses. -/
structure Reserved where
  vmids : List (Reservation Int)
  ips : List (Reservation String)
  extra : Extra

/-- No reservations. -/
def Reserved.empty : Reserved := ⟨[], [], []⟩

/-- The whole inventory. -/
structure Inventory where
  cluster : ClusterConfig
  modules : ModuleSettings
  networks : List Network
  hosts : List Host
  templates : List Template
  reserved : Reserved
  extra : Extra

namespace Inventory

/-- The network of a name. -/
def network? (inv : Inventory) (name : String) : Option Network :=
  inv.networks.find? fun n => n.name = name

/-- The template of a name. -/
def template? (inv : Inventory) (name : String) : Option Template :=
  inv.templates.find? fun t => t.name = name

/-- The numbers of existing machines and templates. -/
def committedVmids (inv : Inventory) : List Int :=
  inv.hosts.map Host.vmid ++ inv.templates.map Template.vmid

/-- The texts of the addresses of existing machines. -/
def hostAddressTexts (inv : Inventory) : List String :=
  inv.hosts.flatMap fun h => h.interfaces.map HostInterface.ip

/-- The addresses of existing machines. -/
def hostAddresses (inv : Inventory) : List Address :=
  inv.hostAddressTexts.filterMap addressOf?

/-- Every machine number in use: by a machine, a template or a reservation. -/
def usedVmids (inv : Inventory) : List Int :=
  inv.committedVmids ++ inv.reserved.vmids.map Reservation.value

end Inventory

/-- The reservation of a token. -/
def Reservation.find? {α : Type} (token : String) (entries : List (Reservation α)) :
    Option (Reservation α) :=
  entries.find? fun e => e.token = token

end Homelab
