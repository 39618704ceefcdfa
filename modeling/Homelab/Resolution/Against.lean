import Homelab.Inventory.Document
import Homelab.Resolution

/-!
# Resolving against an inventory

The values of the inventory come from an inventory that was read, from a document that has not
been read as one, or from nowhere.  An inventory that was read is written as a document first.
If there are secrets, they are filled into that document, too.

Each pass is a walk of its own over what the passes before have made of the document, and comes
to its end only if that can still be walked.
-/

namespace Homelab

/-- Where the values of the inventory come from. -/
inductive InventorySource where
  | absent
  | raw (document : Value)
  | read (inv : Inventory)

/-- The document that is searched for values of the inventory, before it is filled. -/
def InventorySource.root? : InventorySource → Except Failure (Option Value)
  | absent => .ok none
  | raw document => .ok (some document)
  | read inv => inv.document.map some

namespace Value

variable {m : Type → Type} [Monad m] [MonadExceptOf Failure m]

/-- A pass for what there is, over a document as far as it can be walked. -/
def walkedWith [DepthLimits] {α : Type} (source : Option α) (pass : α → Value → m Value)
    (v : Value) : m Value :=
  fillWith source (fun a => walkedBy (pass a)) v

end Value

section

variable {m : Type → Type} [Monad m] [MonadExceptOf Failure m]

/-- The document that is searched for values of the inventory. -/
def InventorySource.filled [DepthLimits] (secrets : Option (List Value))
    (source : InventorySource) : m (Option Value) :=
  match source.root? with
  | .error e => throw e
  | .ok root => root.mapM (Value.walkedWith secrets Value.fillSecrets)

/-- All passes over a document, each as far as it can be walked. -/
def Value.resolveAgainst [DepthLimits] (source : InventorySource) (secrets : Option (List Value))
    (registry : Option (Registry m)) (hostAddress : Option (m String)) (document : Value) :
    m Value := do
  let inventory ← source.filled secrets
  let document ← walkedWith secrets fillSecrets document
  let document ← walkedWith inventory fillInventory document
  let document ← document.walkedBy (Pass.config document).run
  let document ← walkedWith registry fillVmids document
  let document ← walkedWith registry fillIps document
  walkedWith hostAddress fillHostAddress document

end
end Homelab
