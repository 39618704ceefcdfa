import Homelab.Ledger
import Homelab.Resolution.Pass

/-!
# Resolving references

The passes run in a fixed order, because later ones depend on what earlier ones
have filled in: secrets of the vault, values of the inventory, values of the
document itself, machine numbers, addresses, and the address of the build host.
The inventory is filled from the vault, too, before it is searched.

Secrets, numbers and addresses are only put in where a text is one token; a vault
item gives nothing but texts.  A value that is empty counts as not found.

A walk goes only so deep.  A document with more levels than that is refused; a single
pass has asked by then for what comes before the first part that is too deep.
-/

namespace Homelab

/-- Where machine numbers and addresses come from. -/
structure Registry (m : Type → Type) where
  vmid : (resource token : String) → m Int
  ip : (network token : String) → m String

namespace Pass

variable {m : Type → Type} [Monad m]

/-- A value that is found unless it is empty. -/
def found? (v : Value) : Option Value :=
  if v.isNull then none else some v

/-- The text of a vault item at a path. -/
def secretAt? (secrets : List Value) (item : String) (path : List String) : Option Value :=
  match secrets.find? (Value.isNamed item) with
  | none => none
  | some secret =>
      match secret.lookup path with
      | .str s => some (.str s)
      | _ => none

/-- The tokens of the vault. -/
def vault (secrets : List Value) : Pass m where
  serves t := t matches .secret _ _
  inLongerTexts := false
  lookup r := pure <| match r.target with
    | .secret item path => secretAt? secrets item path
    | _ => none

/-- The tokens of the inventory. -/
def inventory (root : Value) : Pass m where
  serves t := t matches .inventory _
  inLongerTexts := true
  lookup r := pure <| match r.target with
    | .inventory path => found? (root.lookup path)
    | _ => none

/-- The tokens of the document itself, as it was when the pass began. -/
def config (root : Value) : Pass m where
  serves t := t matches .config _
  inLongerTexts := true
  lookup r := pure <| match r.target with
    | .config path => found? (root.lookup path)
    | _ => none

/-- The tokens for machine numbers. -/
def vmid (registry : Registry m) : Pass m where
  serves t := t matches .machine _ _
  inLongerTexts := false
  lookup r := match r.target with
    | .machine kind _ => do return some (.int (← registry.vmid kind.name r.text))
    | _ => pure none

/-- The tokens for addresses. -/
def ip (registry : Registry m) : Pass m where
  serves t := t matches .address _ _
  inLongerTexts := false
  lookup r := match r.target with
    | .address network _ => do return some (.str (← registry.ip network r.text))
    | _ => pure none

end Pass

/-- Where a document gets its values from, apart from itself.  What is absent is not
asked for. -/
structure Sources (m : Type → Type) where
  inventory : Option Value
  secrets : Option (List Value)
  registry : Option (Registry m)
  hostAddress : Option (m String)

namespace Value

variable {m : Type → Type} [Monad m] [MonadExceptOf Failure m]

/-- A step over a document, if the document can be walked. -/
def within [DepthLimits] {α : Type} (step : Value → m α) (v : Value) : m α :=
  if v.levels ≤ DepthLimits.walking then step v else throw .depthExceeded

mutual

/-- What of a value is walked before a part with more than so many levels is met, and
whether that is all of it. -/
def front : (levels : Nat) → Value → Value × Bool
  | _, scalar s => (scalar s, true)
  | _, set members => (set members, true)
  | levels, list items =>
      if levels = 0 then (null, false)
      else
        let (walked, whole) := frontItems (levels - 1) items
        (list walked, whole)
  | levels, map entries =>
      if levels = 0 then (null, false)
      else
        let (walked, whole) := frontEntries (levels - 1) entries
        (map walked, whole)

/-- What is walked of the members of a list. -/
def frontItems : (levels : Nat) → List Value → List Value × Bool
  | _, [] => ([], true)
  | levels, v :: rest =>
      match front levels v with
      | (walked, false) => ([walked], false)
      | (walked, true) =>
          let (more, whole) := frontItems levels rest
          (walked :: more, whole)

/-- What is walked of the values of a mapping. -/
def frontEntries : (levels : Nat) → List (Scalar × Value) → List (Scalar × Value) × Bool
  | _, [] => ([], true)
  | levels, (k, v) :: rest =>
      match front levels v with
      | (walked, false) => ([(k, walked)], false)
      | (walked, true) =>
          let (more, whole) := frontEntries levels rest
          ((k, walked) :: more, whole)

end

/-- A pass over a document as far as it can be walked. -/
def walkedBy [DepthLimits] (pass : Value → m Value) (v : Value) : m Value := do
  match v.front (DepthLimits.walking - 1) with
  | (_, true) => pass v
  | (walked, false) =>
      let _ ← pass walked
      throw .depthExceeded

/-- A look at a document that can be walked. -/
def seenBy [DepthLimits] {α : Type} (look : Value → m α) (v : Value) : m α :=
  match v.front (DepthLimits.walking - 1) with
  | (_, true) => look v
  | (_, false) => throw .depthExceeded

/-- Secrets are filled in. -/
def fillSecrets (secrets : List Value) (v : Value) : m Value :=
  (Pass.vault secrets).run v

/-- Values of the inventory are filled in. -/
def fillInventory (root : Value) (v : Value) : m Value :=
  (Pass.inventory root).run v

/-- Values of the document itself are filled in. -/
def fillConfig (v : Value) : m Value :=
  (Pass.config v).run v

/-- Machine numbers are filled in. -/
def fillVmids (registry : Registry m) (v : Value) : m Value :=
  (Pass.vmid registry).run v

/-- Addresses are filled in. -/
def fillIps (registry : Registry m) (v : Value) : m Value :=
  (Pass.ip registry).run v

/-- The address of the build host, once it is known: both spellings of its token
share one answer. -/
def hostAddressOnce (hostAddress : m String) : StateT (Option String) m String := do
  match ← get with
  | some text => pure text
  | none =>
      let text ← hostAddress
      StateT.set (some text)
      pure text

/-- The tokens for the address of the build host. -/
def hostAddressPass (hostAddress : m String) : Pass (StateT (Option String) m) where
  serves t := t matches .hostAddress
  inLongerTexts := true
  lookup _ := do return some (.str (← hostAddressOnce hostAddress))

/-- The address of the build host is filled in; it is asked for at most once, and
only if there is a token for it. -/
def fillHostAddress (hostAddress : m String) (v : Value) : m Value :=
  ((hostAddressPass hostAddress).run v).run' none

/-- A step for what there is, and none for what is absent. -/
def fillWith {α : Type} (source : Option α) (step : α → Value → m Value) (v : Value) : m Value :=
  match source with
  | some a => step a v
  | none => pure v

/-- All passes over a document. -/
def resolve (sources : Sources m) (document : Value) : m Value := do
  let document ← fillWith sources.secrets fillSecrets document
  let inventory ← sources.inventory.mapM (fillWith sources.secrets fillSecrets)
  let document ← fillWith inventory fillInventory document
  let document ← fillConfig document
  let document ← fillWith sources.registry fillVmids document
  let document ← fillWith sources.registry fillIps document
  fillWith sources.hostAddress fillHostAddress document

end Value

namespace Ledger

/-- Runs on a ledger: a failed request leaves it as the earlier ones have made it. -/
abbrev Run := ExceptT Failure (StateM Ledger)

/-- A request that gives a value and the next ledger. -/
def serve {α : Type} (request : Ledger → Except Failure (α × Ledger)) : Run α := do
  match request (← get) with
  | .ok (a, next) => set next; pure a
  | .error e => throw e

/-- The ledger as a source of numbers and addresses. -/
def registry (mode : Mode) : Registry Run where
  vmid resource token := serve fun l => l.requestVmid mode resource token
  ip network token := serve fun l => l.requestIp mode network token

end Ledger
end Homelab
