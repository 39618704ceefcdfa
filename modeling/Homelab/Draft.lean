import Homelab.Inventory.Document
import Homelab.Value.Each

/-!
# Drafts

A draft is an inventory that is edited by hand, one field at a time, without any
check.  Its records have the fields of the inventory, but a field may hold any value.

A field is found by its place: names of fields and positions in lists.  Only fields of
records can be set; a name that a record does not know becomes one of its extra
entries, unless it is private, which is to say begins with an underscore.
-/

namespace Homelab

/-- A part of a draft: a record with its fields and extra entries, a list of parts, or
a plain value. -/
inductive Draft where
  | plain (v : Value)
  | members (items : List Draft)
  | record (fields : List (String × Draft)) (extra : Extra)

/-- An extra entry is set; one that is there keeps its place. -/
def putExtra (name : String) (v : Value) : Extra → Extra
  | [] => [(name, v)]
  | (n, w) :: rest => if n = name then (n, v) :: rest else (n, w) :: putExtra name v rest

/-- The place of a member in a list of a length; a negative position counts from the
end. -/
def position? (n : Int) (length : Nat) : Option Nat :=
  let k := if n < 0 then n + length else n
  if 0 ≤ k && k < length then some k.toNat else none

namespace Draft

/-- The failure to find a field. -/
def noField (name : String) : Failure := .noSuchMember ("no field " ++ name)

/-- A field or an extra entry. -/
def field (name : String) : Draft → Except Failure Draft
  | record fields extra =>
      match fields.lookup name, extra.lookup name with
      | some d, _ => .ok d
      | none, some v => .ok (plain v)
      | none, none => .error (noField name)
  | _ => .error (noField name)

/-- The member at a position. -/
def member (n : Int) : Draft → Except Failure Draft
  | members items =>
      match (position? n items.length).bind fun k => items[k]? with
      | some d => .ok d
      | none => .error .noSuchPosition
  | plain (.list items) =>
      match (position? n items.length).bind fun k => items[k]? with
      | some v => .ok (plain v)
      | none => .error .noSuchPosition
  | plain (.str s) =>
      match (position? n s.length).bind fun k => s.toList[k]? with
      | some c => .ok (plain (.str (String.singleton c)))
      | none => .error .noSuchPosition
  | plain (.map _) => .error (.missingKey (toString n))
  | _ => .error (.wrongType "no positions in this value")

/-- A record with one of its fields set. -/
def withField (d : Draft) (name : String) (next : Draft) : Draft :=
  match d with
  | record fields extra =>
      record (fields.map fun f => if f.1 = name then (name, next) else f) extra
  | d => d

/-- A list with one of its members set. -/
def withMember (d : Draft) (n : Int) (next : Draft) : Draft :=
  match d with
  | members items =>
      match position? n items.length with
      | some k => members (items.set k next)
      | none => members items
  | d => d

/-- A name that a record works out from its fields, and that cannot be set. -/
def isDerived (name : String) (fields : List (String × Draft)) : Bool :=
  name = "prefix_length" && (fields.lookup "subnet").isSome

/-- A value is put into a field of a record. -/
def assign (name : String) (v : Value) : Draft → Except Failure Draft
  | record fields extra =>
      if (fields.lookup name).isSome then .ok ((record fields extra).withField name (plain v))
      else if isDerived name fields then .error (noField name)
      else if name.toList.head? = some '_' then .ok (record fields extra)
      else .ok (record fields (putExtra name v extra))
  | _ => .error (noField name)

/-- A value is put into the field at a place. -/
def edit (v : Value) : Draft → List PlaceStep → Except Failure Draft
  | _, [] => .error .noSuchPosition
  | d, [.key name] => d.assign name v
  | _, [.index _] => .error (.wrongType "a field goes by a name")
  | d, .key name :: place => do
      let next ← edit v (← d.field name) place
      return d.withField name next
  | d, .index n :: place => do
      let next ← edit v (← d.member n) place
      return d.withMember n next

/-- The parts that come one by one when a part is gone through. -/
def each : Draft → Except Failure (List Draft)
  | members items => .ok items
  | plain v => v.each.map fun items => items.map plain
  | record _ _ => .error (.wrongType "a record has no members")

/-- The part counts as given. -/
def isGiven : Draft → Bool
  | plain v => v.isGiven
  | members items => !items.isEmpty
  | record _ _ => true

/-- The plain value of a part without parts of its own. -/
def value : Draft → Value
  | plain v => v
  | _ => .null

/-- A part is left out of documents. -/
def isAbsent : Draft → Bool
  | plain v => v.isNull
  | _ => false

/-- The name of a field in documents. -/
def documentName (name : String) : String := if name = "ref_id" then "refId" else name

/-- The document form of a plain value in a field; a machine number is a number. -/
def fieldValue (name : String) (v : Value) : Value :=
  match v with
  | .bool b => if name = "vmid" then .int (if b then 1 else 0) else v
  | _ => v.kept

mutual

/-- The document of a part. -/
def toValue : Draft → Value
  | plain v => v.kept
  | members items => .list (itemValues items)
  | record fields extra =>
      .map ((extra.filter fun f => !f.2.isNull).foldl
        (fun entries f => Entries.put (.str f.1) f.2.kept entries) (fieldEntries fields))

/-- The documents of members. -/
def itemValues : List Draft → List Value
  | [] => []
  | d :: rest => toValue d :: itemValues rest

/-- The documents of fields, without those that are absent. -/
def fieldEntries : List (String × Draft) → Entries
  | [] => []
  | (name, d) :: rest =>
      let v := match d with
        | plain v => fieldValue name v
        | d => toValue d
      if d.isAbsent then fieldEntries rest
      else (.str (documentName name), v) :: fieldEntries rest

end

mutual

/-- The values that stand in a draft as they are. -/
def values : Draft → List Value
  | plain v => [v]
  | members items => itemsValues items
  | record fields extra => extra.map (·.2) ++ fieldsValues fields

/-- The values in members. -/
def itemsValues : List Draft → List Value
  | [] => []
  | d :: rest => values d ++ itemsValues rest

/-- The values in fields. -/
def fieldsValues : List (String × Draft) → List Value
  | [] => []
  | (_, d) :: rest => values d ++ fieldsValues rest

end

/-- The document of a draft that can be written. -/
def document (d : Draft) : Except Failure Value :=
  if d.values.all fun v => v.levels ≤ Inventory.levelLimit then .ok d.toValue
  else .error Inventory.tooManyLevels

end Draft
end Homelab
