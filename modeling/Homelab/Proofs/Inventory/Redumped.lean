import Homelab.Proofs.Inventory.Kept
import Homelab.Proofs.Ledger.Sound

/-!
# Inventories written twice

The document of an inventory is read again, and written once more it is the same document.
Nothing gets lost on the way: what a JSON document has besides the fields of its records, and is
not empty, stands in the document of the inventory as it was, in the record that it was in.
-/

namespace Homelab

/-! ### JSON documents -/

/-- A value of a JSON document with finite numbers: a mapping has different text keys. -/
inductive Value.IsJson : Value → Prop where
  | null : IsJson .null
  | bool (b : Bool) : IsJson (.bool b)
  | int (n : Int) : IsJson (.int n)
  | float {x : Double} (h : x.isFinite = true) : IsJson (.float x)
  | str (s : String) : IsJson (.str s)
  | list {items : List Value} (h : ∀ v ∈ items, IsJson v) : IsJson (.list items)
  | map {es : Entries} (keyed : es.Keyed) (h : ∀ e ∈ es, IsJson e.2) : IsJson (.map es)

/-- The entries of a mapping of a JSON document. -/
structure Entries.IsJson (es : Entries) : Prop where
  keyed : es.Keyed
  values : ∀ e ∈ es, e.2.IsJson

theorem Entries.IsJson.of_find?
    {es : Entries} {name : String} {v : Value}
    (h : es.IsJson)
    (hv : Entries.find? name es = some v) :
    v.IsJson :=
  h.values _ ((lookup_eq_some_iff_mem h.keyed.nodup).mp hv)

theorem Value.IsJson.entries
    {es : Entries}
    (h : (Value.map es).IsJson) :
    es.IsJson := by
  cases h with
  | map keyed h => exact ⟨keyed, h⟩

theorem Value.isJson_object
    {fs : List (String × Value)}
    (hnodup : (fs.map Prod.fst).Nodup)
    (hfs : ∀ f ∈ fs, f.2.IsJson) :
    (object fs).IsJson := by
  refine .map (Entries.keyed_map_iff.mpr hnodup) fun e he => ?_
  obtain ⟨f, hf, rfl⟩ := List.mem_map.mp he
  exact hfs f hf

theorem isJson_sampleDocument
    {kept : Value}
    (h : kept.IsJson) :
    (sampleDocument kept).IsJson := by
  refine Value.isJson_object (by simp) ?_
  simp only [List.forall_mem_cons]
  refine ⟨.list ?_, h, Value.isJson_object (by simp) ?_, Value.isJson_object (by simp) ?_, by simp⟩
  · simp only [List.forall_mem_cons]
    refine ⟨Value.isJson_object (by simp) ?_, by simp⟩
    simp only [List.forall_mem_cons]
    refine ⟨.str _, .str _, .str _, Value.isJson_object (by simp) ?_, .str _, by simp⟩
    simp only [List.forall_mem_cons]
    exact ⟨.str _, .str _, by simp⟩
  · simp only [List.forall_mem_cons]
    exact ⟨.str _, .str _, .str _, .str _, by simp⟩
  · simp only [List.forall_mem_cons]
    refine ⟨Value.isJson_object (by simp) ?_, by simp⟩
    simp only [List.forall_mem_cons]
    exact ⟨Value.isJson_object (by simp) (by simp), .str _, by simp⟩

theorem isJson_nested :
    ∀ n, (nested n).IsJson
  | 0 => .list (by simp)
  | n + 1 => .list (by simpa using isJson_nested n)

/-- A value of a JSON document has its document form already. -/
theorem Value.IsJson.kept_eq
    {v : Value}
    (h : v.IsJson) :
    v.kept = v := by
  induction h with
  | null | bool b | int n | str s => simp only [kept]
  | float h => rw [kept, if_pos h]
  | list h ih => rw [kept, keptItems_eq, List.map_congr_left ih, List.map_id']
  | @map es keyed h ih =>
      have hentries : ∀ e ∈ es, (e.1, e.2.kept) = e := fun e he => Prod.ext rfl (ih e he)
      rw [kept, keptEntries_eq, List.map_congr_left hentries, List.map_id']

/-! ### What is kept -/

namespace Extra

variable {extra : Extra}

theorem normal_of_isJson
    (h : ∀ f ∈ extra, f.2.IsJson) :
    extra.normal = extra.filter fun f => !f.2.isNull := by
  have hkept : ∀ f ∈ extra.filter fun f => !f.2.isNull, (f.1, f.2.kept) = f :=
    fun f hf => Prod.ext rfl (h f (List.mem_filter.mp hf).1).kept_eq
  rw [normal, List.map_congr_left hkept, List.map_id']

theorem normal_normal_of_isJson
    (h : ∀ f ∈ extra, f.2.IsJson) :
    extra.normal.normal = extra.normal := by
  have hnormal : ∀ f ∈ extra.filter fun f => !f.2.isNull, f.2.IsJson :=
    fun f hf => h f (List.mem_filter.mp hf).1
  rw [normal_of_isJson h, normal_of_isJson hnormal, List.filter_filter]
  simp

end Extra

/-- A record with what it keeps in document form has the same document. -/
theorem Value.ofFields_normal
    {fields : List (String × Value)} {extra : Extra}
    (h : ∀ f ∈ extra, f.2.IsJson) :
    ofFields fields extra.normal = ofFields fields extra := by
  rw [ofFields_eq, ofFields_eq, fieldEntries, fieldEntries, Extra.normal_normal_of_isJson h]

/-! ### What a document carries over -/

namespace Schema

/-- A part of a mapping, if it is there, is carried over to a value. -/
def FieldCarried (name : String) (carried : Value → Value → Prop) (es : Entries) (d : Value) :
    Prop :=
  ∀ v, Entries.find? name es = some v → carried v d

/-- The entries of a record and those of its document: what goes by no name of a field and is
not empty is there as it was, and the listed parts are carried over. -/
structure EntriesCarried
    (names : List (List String)) (parts : List (String × (Value → Value → Prop)))
    (es ds : Entries) : Prop where
  unknown : ∀ key v, (.str key, v) ∈ es → key ∉ usedNames names es → v.isNull = false →
    Entries.find? key ds = some v
  parts : ∀ part ∈ parts, ∀ v, Entries.find? part.1 es = some v →
    ∃ d, Entries.find? part.1 ds = some d ∧ part.2 v d

/-- A record and its document. -/
def RecordCarried
    (names : List (List String)) (parts : List (String × (Value → Value → Prop)))
    (v d : Value) : Prop :=
  ∃ es ds, v = .map es ∧ d = .map ds ∧ EntriesCarried names parts es ds

/-- A list and its document, whose members are carried over one by one. -/
def ListCarried (carried : Value → Value → Prop) (v d : Value) : Prop :=
  ∃ vs ds, v = .list vs ∧ d = .list ds ∧ List.Forall₂ carried vs ds

/-- What a record keeps of its entries: all that belong to no field, and nothing else. -/
structure Leftover (names : List (List String)) (es : Entries) (extra : Extra) : Prop where
  clear : extra.Clear names
  nodup : (extra.map Prod.fst).Nodup
  json : ∀ f ∈ extra, f.2.IsJson
  mem : ∀ key v, (.str key, v) ∈ es → key ∉ usedNames names es → (key, v) ∈ extra

theorem all_extras_leftover
    {es : Entries}
    (hes : es.IsJson)
    (names : List (List String)) :
    Checked.All (Leftover names es) (extras names es) := by
  intro extra h
  obtain ⟨fs, rfl⟩ := hes.keyed.eq_map
  have hclear := clear_of_extras h
  rw [extras_map_str, Checked.ok.injEq] at h
  subst h
  refine ⟨hclear, (Entries.keyed_map_iff.mp hes.keyed).sublist (List.filter_sublist.map _), ?_, ?_⟩
  · intro f hf
    exact hes.values (.str f.1, f.2) (List.mem_map.mpr ⟨f, (List.mem_filter.mp hf).1, rfl⟩)
  · intro key v hmem hfresh
    obtain ⟨f, hf, heq⟩ := List.mem_map.mp hmem
    obtain ⟨rfl, rfl⟩ : f.1 = key ∧ f.2 = v := by simpa using heq
    exact List.mem_filter.mpr ⟨hf, by simpa using hfresh⟩

/-- A record is carried over if its parts are. -/
theorem Leftover.carried
    {names : List (List String)} {es : Entries} {fields : List (String × Value)} {extra : Extra}
    {parts : List (String × (Value → Value → Prop))}
    (left : Leftover names es extra)
    (layout : Layout names fields extra)
    (hparts : ∀ part ∈ parts, ∃ d, fields.lookup part.1 = some d ∧ d.isNull = false ∧
      FieldCarried part.1 part.2 es d) :
    RecordCarried names parts (.map es) (.ofFields fields extra) := by
  refine ⟨es, _, rfl, Value.ofFields_eq fields extra, ?_, ?_⟩
  · intro key v hmem hfresh hfull
    refine (lookup_eq_some_iff_mem (layout.keyed left.nodup).nodup).mpr ?_
    refine List.mem_map.mpr ⟨(key, v), List.mem_append_right _ ?_, rfl⟩
    rw [Extra.normal_of_isJson left.json]
    exact List.mem_filter.mpr ⟨left.mem key v hmem hfresh, by simp [hfull]⟩
  · intro part hpart v hv
    obtain ⟨d, hd, hfull, hcarried⟩ := hparts part hpart
    exact ⟨d, by simp [layout.find?_eq hd, hfull], hcarried v hv⟩

end Schema

/-! ### Reading and writing -/

namespace Checked

theorem all_items_forall₂
    {α : Type} {f : Value → Checked α} {P : Value → α → Prop} :
    ∀ {vs : List Value} {position : Nat},
      (∀ v ∈ vs, All (P v) (f v)) →
      All (List.Forall₂ P vs) (items f position vs)
  | [], position, h => by
      intro as has
      exact Checked.ok.inj has ▸ .nil
  | v :: rest, position, h => by
      refine all_ap (all_map ?_ (all_under (h v (by simp))))
        (all_items_forall₂ fun w hw => h w (by simp [hw]))
      intro a ha as has
      exact .cons ha has

end Checked

/-- What was read has a document with a property, and in document form it has the same. -/
structure Redumps {α : Type} (write : α → Value) (normal : α → α) (P : Value → Prop) (a : α) :
    Prop where
  holds : P (write a)
  stable : write (normal a) = write a

namespace Schema

open Checked

variable {α : Type} {write : α → Value} {normal : α → α} {f : Value → Checked α}
  {carried : Value → Value → Prop} {es : Entries} {v : Value}

theorem redumps_of_find?
    {name : String} {a : α}
    (hfind : Entries.find? name es = some v)
    (hread : Redumps write normal (carried v) a) :
    Redumps write normal (FieldCarried name carried es) a := by
  refine ⟨fun w hw => ?_, hread.stable⟩
  obtain rfl : v = w := Option.some.inj (hfind.symm.trans hw)
  exact hread.holds

theorem all_required_redumps
    (hes : es.IsJson)
    (name : String)
    (hf : ∀ v, v.IsJson → All (Redumps write normal (carried v)) (f v)) :
    All (Redumps write normal (FieldCarried name carried es)) (required [name] f es) := by
  rw [required, given?]
  cases hfind : Entries.find? name es with
  | none =>
      intro a h
      simp [given?] at h
  | some v =>
      intro a h
      exact redumps_of_find? hfind (hf v (hes.of_find? hfind) a (under_eq_ok_iff.mp h))

theorem all_withDefault_redumps
    {d : α}
    (hes : es.IsJson)
    (name : String)
    (hf : ∀ v, v.IsJson → All (Redumps write normal (carried v)) (f v))
    (hd : write (normal d) = write d) :
    All (Redumps write normal (FieldCarried name carried es)) (withDefault [name] f d es) := by
  rw [withDefault, given?]
  cases hfind : Entries.find? name es with
  | none =>
      intro a h
      obtain rfl : d = a := Checked.ok.inj h
      exact ⟨fun v hv => by simp [hfind] at hv, hd⟩
  | some v =>
      intro a h
      exact redumps_of_find? hfind (hf v (hes.of_find? hfind) a (under_eq_ok_iff.mp h))

theorem all_list_redumps
    (hf : ∀ v, v.IsJson → All (Redumps write normal (carried v)) (f v))
    (hv : v.IsJson) :
    All (Redumps (fun as => .list (as.map write)) (List.map normal) (ListCarried carried v))
      (list f v) := by
  cases hv with
  | null | bool b | int n | float h | str s | map keyed h => exact all_issue _
  | @list vs h =>
      intro as has
      have hmembers := all_items_forall₂ (fun v hv => hf v (h v hv)) as has
      refine ⟨⟨vs, as.map write, rfl, rfl, ?_⟩, ?_⟩
      · exact List.forall₂_map_right_iff.mpr (hmembers.imp fun _ _ hmember => hmember.holds)
      · clear has h
        induction hmembers with
        | nil => rfl
        | cons hmember _ ih => simp_all [hmember.stable]

theorem all_record_json
    {P : α → Prop} {fields : Entries → Checked α}
    (name : String)
    (hv : v.IsJson)
    (hfields : ∀ es : Entries, v = .map es → es.IsJson → All P (fields es)) :
    All P (record name fields v) := by
  cases hv with
  | null | bool b | int n | float h | str s | list h => exact all_issue _
  | map keyed h => exact hfields _ rfl ⟨keyed, h⟩

end Schema

/-! ### Records -/

section Records

open Checked Schema

variable {v : Value}

/-- A cluster section and its document. -/
def ClusterConfig.Carried : Value → Value → Prop := RecordCarried fields []

theorem ClusterConfig.all_redumps
    (hv : v.IsJson) :
    All (Redumps toValue normal (Carried v)) (ofValue v) := by
  refine all_record_json _ hv ?_
  rintro es rfl hes
  refine all_ap (all_ap (all_ap (all_ap (all_ap (all_ap (all_map ?_ (all_true _)) (all_true _))
    (all_true _)) (all_true _)) (all_true _)) (all_true _)) (all_extras_leftover hes _)
  intro endpoint _ user _ token _ node _ username _ password _ extra left
  exact ⟨left.carried (layout left.clear) (by simp), Value.ofFields_normal left.json⟩

/-- A backend section and its document: in the settings nothing is left out. -/
def StateBackend.Carried : Value → Value → Prop := RecordCarried fields [("config", Eq)]

theorem all_mapping_redumps
    (hv : v.IsJson) :
    All (Redumps (fun config => .object (config.map fun f => (f.1, f.2.kept)))
      (List.map fun f => (f.1, f.2.kept)) (Eq v)) (mapping any v) := by
  cases hv with
  | null | bool b | int n | float h | str s | list h => exact all_issue _
  | @map es keyed h =>
      intro config hread
      obtain ⟨fs, rfl⟩ := keyed.eq_map
      obtain rfl : fs = config := Checked.ok.inj ((mapping_object fs).symm.trans hread)
      have hkept : ∀ f ∈ fs, (f.1, f.2.kept) = f := fun f hf =>
        Prod.ext rfl (h (.str f.1, f.2) (List.mem_map.mpr ⟨f, hf, rfl⟩)).kept_eq
      have hnormal : fs.map (fun f => (f.1, f.2.kept)) = fs := by
        rw [List.map_congr_left hkept, List.map_id']
      refine ⟨congrArg Value.object hnormal.symm, ?_⟩
      rw [hnormal, hnormal]

theorem StateBackend.all_redumps
    (hv : v.IsJson) :
    All (Redumps toValue normal (Carried v)) (ofValue v) := by
  refine all_record_json _ hv ?_
  rintro es rfl hes
  refine all_ap (all_ap (all_map ?_ (all_true _))
    (all_required_redumps hes _ fun w hw => all_mapping_redumps hw)) (all_extras_leftover hes _)
  intro kind _ config hconfig extra left
  refine ⟨left.carried (layout left.clear) ?_, ?_⟩
  · simp only [List.forall_mem_singleton]
    exact ⟨_, rfl, rfl, hconfig.holds⟩
  · refine (Value.ofFields_normal left.json).trans ?_
    simp only [toValue, normal, hconfig.stable]

/-- A module section and its document. -/
def ModuleSettings.Carried : Value → Value → Prop :=
  RecordCarried fields [("backend", StateBackend.Carried)]

theorem ModuleSettings.all_redumps
    (hv : v.IsJson) :
    All (Redumps toValue normal (Carried v)) (ofValue v) := by
  refine all_record_json _ hv ?_
  rintro es rfl hes
  refine all_ap (all_map ?_
    (all_required_redumps hes _ fun w hw => StateBackend.all_redumps hw))
    (all_extras_leftover hes _)
  intro backend hbackend extra left
  refine ⟨left.carried (layout left.clear) ?_, ?_⟩
  · simp only [List.forall_mem_singleton]
    exact ⟨_, rfl, rfl, hbackend.holds⟩
  · refine (Value.ofFields_normal left.json).trans ?_
    simp only [toValue, normal, hbackend.stable]

/-- A static range and its document. -/
def StaticRange.Carried : Value → Value → Prop := RecordCarried fields []

theorem StaticRange.all_redumps
    (hv : v.IsJson) :
    All (Redumps toValue normal (Carried v)) (ofValue v) := by
  refine all_record_json _ hv ?_
  rintro es rfl hes
  refine all_ap (all_ap (all_map ?_ (all_true _)) (all_true _)) (all_extras_leftover hes _)
  intro first _ last _ extra left
  exact ⟨left.carried (layout left.clear) (by simp), Value.ofFields_normal left.json⟩

/-- A network and its document. -/
def Network.Carried : Value → Value → Prop :=
  RecordCarried fields [("static_range", StaticRange.Carried)]

theorem Network.all_redumps
    (hv : v.IsJson) :
    All (Redumps toValue normal (Carried v)) (ofValue v) := by
  refine all_record_json _ hv ?_
  rintro es rfl hes
  refine all_ap (all_ap (all_ap (all_ap (all_ap (all_ap (all_ap (all_ap (all_map ?_ (all_true _))
    (all_true _)) (all_true _)) (all_true _))
    (all_map (Q := fun o => ∃ r, o = some r ∧ Redumps StaticRange.toValue StaticRange.normal
        (FieldCarried "static_range" StaticRange.Carried es) r)
      (fun r hr => ⟨r, rfl, hr⟩)
      (all_required_redumps hes _ fun w hw => StaticRange.all_redumps hw)))
    (all_true _)) (all_true _)) (all_true _)) (all_extras_leftover hes _)
  rintro name _ subnet _ gateway _ dns _ _ ⟨range, rfl, hrange⟩ iface _ dhcp _ domain _ extra left
  refine ⟨left.carried (layout left.clear) ?_, ?_⟩
  · simp only [List.forall_mem_singleton]
    exact ⟨_, rfl, rfl, hrange.holds⟩
  · refine (Value.ofFields_normal left.json).trans ?_
    simp only [toValue, normal, Option.map_some, hrange.stable]

/-- An interface of a machine and its document. -/
def HostInterface.Carried : Value → Value → Prop := RecordCarried fields []

theorem HostInterface.all_redumps
    (hv : v.IsJson) :
    All (Redumps toValue normal (Carried v)) (ofValue v) := by
  refine all_record_json _ hv ?_
  rintro es rfl hes
  refine all_ap (all_ap (all_map ?_ (all_true _)) (all_true _)) (all_extras_leftover hes _)
  intro network _ ip _ extra left
  exact ⟨left.carried (layout left.clear) (by simp), Value.ofFields_normal left.json⟩

/-- A machine and its document. -/
def Host.Carried : Value → Value → Prop :=
  RecordCarried fields [("interfaces", ListCarried HostInterface.Carried)]

theorem Host.all_redumps
    (hv : v.IsJson) :
    All (Redumps toValue normal (Carried v)) (ofValue v) := by
  refine all_record_json _ hv ?_
  rintro es rfl hes
  refine all_ap (all_ap (all_ap (all_ap (all_map ?_ (all_true _)) (all_true _)) (all_true _))
    (all_withDefault_redumps hes _
      (fun w hw => all_list_redumps (fun _ => HostInterface.all_redumps) hw) rfl))
    (all_extras_leftover hes _)
  intro name _ vmid _ kind _ interfaces hinterfaces extra left
  refine ⟨left.carried (layout left.clear) ?_, ?_⟩
  · simp only [List.forall_mem_singleton]
    exact ⟨_, rfl, rfl, hinterfaces.holds⟩
  · refine (Value.ofFields_normal left.json).trans ?_
    simp only [toValue, normal, hinterfaces.stable]

/-- A template and its document. -/
def Template.Carried : Value → Value → Prop := RecordCarried fields []

theorem Template.all_redumps
    (hv : v.IsJson) :
    All (Redumps toValue normal (Carried v)) (ofValue v) := by
  refine all_record_json _ hv ?_
  rintro es rfl hes
  refine all_ap (all_ap (all_ap (all_map ?_ (all_true _)) (all_true _)) (all_true _))
    (all_extras_leftover hes _)
  intro name _ version _ vmid _ extra left
  exact ⟨left.carried (layout left.clear) (by simp), Value.ofFields_normal left.json⟩

/-- A reserved machine number and its document. -/
def Reservation.VmidCarried : Value → Value → Prop := RecordCarried [["vmid"], tokenNames] []

theorem Reservation.all_redumps_vmid
    (hv : v.IsJson) :
    All (Redumps vmidValue normal (VmidCarried v)) (ofVmidValue v) := by
  refine all_record_json _ hv ?_
  rintro es rfl hes
  refine all_ap (all_ap (all_map ?_ (all_true _)) (all_true _)) (all_extras_leftover hes _)
  intro vmid _ token _ extra left
  exact ⟨left.carried (layout_vmid left.clear) (by simp), Value.ofFields_normal left.json⟩

/-- A reserved address and its document. -/
def Reservation.IpCarried : Value → Value → Prop := RecordCarried [["ip"], tokenNames] []

theorem Reservation.all_redumps_ip
    (hv : v.IsJson) :
    All (Redumps ipValue normal (IpCarried v)) (ofIpValue v) := by
  refine all_record_json _ hv ?_
  rintro es rfl hes
  refine all_ap (all_ap (all_map ?_ (all_true _)) (all_true _)) (all_extras_leftover hes _)
  intro ip _ token _ extra left
  exact ⟨left.carried (layout_ip left.clear) (by simp), Value.ofFields_normal left.json⟩

/-- Reservations and their document. -/
def Reserved.Carried : Value → Value → Prop :=
  RecordCarried fields
    [("vmids", ListCarried Reservation.VmidCarried), ("ips", ListCarried Reservation.IpCarried)]

theorem Reserved.all_redumps
    (hv : v.IsJson) :
    All (Redumps toValue normal (Carried v)) (ofValue v) := by
  refine all_record_json _ hv ?_
  rintro es rfl hes
  refine all_ap (all_ap (all_map ?_
    (all_withDefault_redumps hes _
      (fun w hw => all_list_redumps (fun _ => Reservation.all_redumps_vmid) hw) rfl))
    (all_withDefault_redumps hes _
      (fun w hw => all_list_redumps (fun _ => Reservation.all_redumps_ip) hw) rfl))
    (all_extras_leftover hes _)
  intro vmids hvmids ips hips extra left
  refine ⟨left.carried (layout left.clear) ?_, ?_⟩
  · simp only [List.forall_mem_cons]
    exact ⟨⟨_, rfl, rfl, hvmids.holds⟩, ⟨_, rfl, rfl, hips.holds⟩, by simp⟩
  · refine (Value.ofFields_normal left.json).trans ?_
    simp only [toValue, normal, hvmids.stable, hips.stable]

end Records

/-! ### Inventories -/

namespace Inventory

open Checked Schema

/-- The document of an inventory as it was given, and as it is written. -/
def Carried : Value → Value → Prop :=
  RecordCarried fields
    [("proxmox", ClusterConfig.Carried), ("terraform", ModuleSettings.Carried),
     ("networks", ListCarried Network.Carried), ("hosts", ListCarried Host.Carried),
     ("templates", ListCarried Template.Carried), ("reserved", Reserved.Carried)]

theorem all_redumps
    {es : Entries}
    (hes : es.IsJson) :
    All (Redumps toValue normal (Carried (.map es))) (ofFields es) := by
  refine all_ap (all_ap (all_ap (all_ap (all_ap (all_ap (all_map ?_
    (all_required_redumps hes _ fun w hw => ClusterConfig.all_redumps hw))
    (all_required_redumps hes _ fun w hw => ModuleSettings.all_redumps hw))
    (all_withDefault_redumps hes _
      (fun w hw => all_list_redumps (fun _ => Network.all_redumps) hw) rfl))
    (all_withDefault_redumps hes _
      (fun w hw => all_list_redumps (fun _ => Host.all_redumps) hw) rfl))
    (all_withDefault_redumps hes _
      (fun w hw => all_list_redumps (fun _ => Template.all_redumps) hw) rfl))
    (all_withDefault_redumps hes _ (fun w hw => Reserved.all_redumps hw) rfl))
    (all_extras_leftover hes _)
  intro cluster hcluster modules hmodules networks hnetworks hosts hhosts templates htemplates
    reserved hreserved extra left
  refine ⟨left.carried (layout_written left.clear) ?_, ?_⟩
  · simp only [List.forall_mem_cons]
    exact ⟨⟨_, rfl, rfl, hcluster.holds⟩, ⟨_, rfl, rfl, hmodules.holds⟩,
      ⟨_, rfl, rfl, hnetworks.holds⟩, ⟨_, rfl, rfl, hhosts.holds⟩, ⟨_, rfl, rfl, htemplates.holds⟩,
      ⟨_, rfl, rfl, hreserved.holds⟩, by simp⟩
  · refine (Value.ofFields_normal left.json).trans ?_
    simp only [toValue, normal, hcluster.stable, hmodules.stable, hnetworks.stable, hhosts.stable,
      htemplates.stable, hreserved.stable]

variable {doc : Value} {inv : Inventory}

/-- An inventory that is accepted has a document unless something that it keeps is nested too
deeply.  The document is accepted again and has itself as a document, and whatever the first one
had besides its fields stands in it as it was. -/
theorem redumped
    (hdoc : doc.IsJson)
    (h : ofValue doc = .ok inv) :
    (inv.isWritable = true → ∃ d, inv.document = .ok d ∧
      (∃ inv', ofValue d = .ok inv' ∧ inv'.document = .ok d) ∧ Carried doc d) ∧
    (inv.isWritable = false → inv.document = .error tooManyLevels) := by
  obtain ⟨es, rfl, hread, -⟩ := ofValue_eq_ok_iff.mp h
  have hredumps := all_redumps hdoc.entries inv hread
  refine ⟨fun hw => ⟨inv.toValue, by simp [document, hw], ⟨inv.normal, ?_, ?_⟩, hredumps.holds⟩,
    fun hdeep => by simp [document, hdeep]⟩
  · exact ofValue_toValue (wellFormed_of_ofValue h) (valid_of_ofValue h)
  · rw [document, if_pos (isWritable_normal hw), hredumps.stable]

/-- A document with a note has one that is accepted again, and the note is in it. -/
theorem redumped_sample :
    (sampleDocument (.int 1)).IsJson ∧
    ofValue (sampleDocument (.int 1)) = .ok (sampleInventory (.int 1)) ∧
    ∃ d, (sampleInventory (.int 1)).document = .ok d ∧
      (∃ inv', ofValue d = .ok inv' ∧ inv'.document = .ok d) ∧ d.get? "notes" = some (.int 1) := by
  have hdoc := isJson_sampleDocument (.int 1)
  have hread := ofValue_sampleDocument (.int 1)
  obtain ⟨d, hd, hagain, es, ds, hes, rfl, hcarried⟩ :=
    (redumped hdoc hread).1 (by rw [isWritable_sampleInventory]; decide)
  obtain rfl := Value.map.inj hes
  exact ⟨hdoc, hread, _, hd, hagain,
    hcarried.unknown "notes" (.int 1) (by simp) (by decide) rfl⟩

/-- A document with lists nested too deeply is accepted, but its inventory has no document. -/
theorem undumped_of_nested :
    (sampleDocument (nested 300)).IsJson ∧
    ofValue (sampleDocument (nested 300)) = .ok (sampleInventory (nested 300)) ∧
    (sampleInventory (nested 300)).document = .error tooManyLevels := by
  refine ⟨isJson_sampleDocument (isJson_nested 300), ofValue_sampleDocument _, ?_⟩
  rw [document, isWritable_sampleInventory, levels_nested]
  rfl

end Inventory
end Homelab
