import Homelab.Inventory.Document
import Homelab.Ledger
import Homelab.Site
import Homelab.Value.Written

/-!
# The inventory file

The inventory lives in a JSON file that several runs may change.  A run never writes
the inventory that it has in memory as a whole: it reads the file again, replaces
the few top-level fields that it is responsible for, and checks that the result is
an inventory.  Then the file is replaced in one step.  If anything is wrong the file
stays as it is.
-/

namespace Homelab

namespace Inventory

/-- The document that an inventory file is read as, with the fault of its text as a failure. -/
def documentOf (file text : String) : Except Json.Fault Value → Except Failure Value
  | .ok v => .ok v
  | .error fault => .error (Failure.ofFault (.inventorySyntax file text) fault text)

theorem documentOf_eq_ok_iff
    {file text : String} {read : Except Json.Fault Value} {v : Value} :
    documentOf file text read = .ok v ↔ read = .ok v := by
  cases read <;> simp [documentOf]

/-- The document in the text of an inventory file. -/
def documentOfText [DepthLimits] (file text : String) : Except Failure Value :=
  documentOf file text (Json.read text)

/-- The inventory in the text of an inventory file. -/
def ofText [DepthLimits] (file text : String) : Except Failure Inventory := do
  ofValue (← documentOfText file text)

/-- The top-level fields of a document that is no object cannot be replaced: a list
and a plain value refuse it in different ways. -/
def fieldRefusal (current : Value) (removed : Bool) : Failure :=
  match current with
  | .list _ => .wrongType "no fields in a list"
  | _ =>
      if removed then .noSuchMember "no fields to remove in a plain value"
      else .wrongType "no fields to set in a plain value"

/-- A document with a field set as in another one, or removed if it is not there. -/
def replaceField (updated current : Value) (name : String) : Except Failure Value :=
  match updated.get? name, current with
  | some v, .map es => .ok (.map (Entries.put (.str name) v es))
  | none, .map es => .ok (.map (Entries.erase name es))
  | found, v => .error (fieldRefusal v found.isNone)

/-- The text of the file once some fields are as in the given inventory. -/
def textWith (inv : Inventory) (fields : List String) (current : Value) :
    Except Failure String := do
  let merged ← fields.foldlM (replaceField (← inv.document)) current
  let _ ← ofValue merged
  match Json.fileText? merged with
  | some text => .ok text
  | none => .error (.unwritten merged)

/-- An inventory file is read and checked. -/
def load [DepthLimits] (file : String) : Act Inventory := do
  Act.ofExcept (ofText file (← Act.readFile file))

/-- Some top-level fields of an inventory file become those of the given inventory.  What is
written is no deeper than what has just been read, or than an inventory that has a document, so
there is room to write it. -/
def persist [DepthLimits] (inv : Inventory) (file : String) (fields : List String) : Act Unit := do
  let current ← Act.ofExcept (documentOfText file (← Act.readFile file))
  Act.replaceFile file (← Act.ofExcept (inv.textWith fields current))

end Inventory

namespace Ledger

/-- The inventory of the file with the changes of the run, checked as a whole. -/
def merged (l : Ledger) (disk : Inventory) : Except Failure Inventory := do
  let document ← (l.mergedInto disk).document
  match Inventory.ofValue document with
  | .ok inv => .ok inv
  | .error (.inventoryInvalid issues) => .error (.reservationConflict issues)
  | .error e => .error e

/-- The changes of the run go into the inventory file.  Reservations that other runs
have written since are kept; if they collide with those of this run, nothing is
written. -/
def commit [DepthLimits] (l : Ledger) (file : String) : Act Ledger := do
  if l.hasChanges then
    let disk ← Inventory.load file
    let inv ← Act.ofExcept (l.merged disk)
    inv.persist file ["reserved"]
    return l.settled
  else return l

end Ledger
end Homelab
