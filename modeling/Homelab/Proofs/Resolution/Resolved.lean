import Homelab.Proofs.Ledger.Sound
import Homelab.Proofs.Resolution.Walked

/-!
# Resolving what is resolved

A document in which no token is found comes out of all passes as it went in.  Nothing is asked of
the ledger or for the address of the build host, so that these stay as they are, too.

What can still fail is what is done for the inventory alone: an inventory that was read has to be
written as a document, and a document that was not read has to be walked if there are secrets.
-/

namespace Homelab

namespace Value

variable {m : Type → Type} [Monad m] [MonadExceptOf Failure m] {σ ε : Type} {M : Meaning m σ ε}
  {source : InventorySource} {secrets : Option (List Value)} {registry : Option (Registry m)}
  {hostAddress : Option (m String)} {v : Value}

end Value

namespace Ledger

section

variable {τ : Type} {source : InventorySource} {secrets : Option (List Value)}
  {registry : Option (Registry (ExceptT Failure (StateM (Ledger × τ))))}
  {hostAddress : Option (ExceptT Failure (StateM (Ledger × τ)) String)} {v : Value}

end

/-- A run on a ledger that has something else beside it. -/
def beside {τ α : Type} (run : Run α) : ExceptT Failure (StateM (Ledger × τ)) α :=
  fun s => ((outcome run s.1).1, ((outcome run s.1).2, s.2))

end Ledger
end Homelab
