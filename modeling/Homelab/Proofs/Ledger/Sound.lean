import Homelab.Proofs.Inventory.Kept
import Homelab.Proofs.Ledger.Books
import Homelab.Proofs.Ledger.Calls

/-!
# A ledger keeps its inventory valid

Every call is a move of the two books of a ledger, and touches nothing else of the
inventory.  Whether an inventory with other reservations keeps to the rules depends on
the reservations alone, so that the moves, which keep lawful entries lawful, keep it
valid, after however many calls.
-/

namespace Homelab

open Reservation

/-! ### Inventories with other reservations -/

namespace Inventory

/-- The inventory with other entries in the place of its reservations. -/
def withReservations (inv : Inventory) (vmids : List (Reservation Int))
    (ips : List (Reservation String)) : Inventory :=
  { inv with reserved := { inv.reserved with vmids := vmids, ips := ips } }

/-- The machine numbers are lawful beside those of machines and templates. -/
def LawfulVmids (inv : Inventory) (vmids : List (Reservation Int)) : Prop :=
  Lawful some inv.committedVmids vmids

/-- The addresses are lawful beside those of machines. -/
def LawfulIps (inv : Inventory) (ips : List (Reservation String)) : Prop :=
  Lawful addressOf? inv.hostAddresses ips

theorem things_vmids
    (vmids : List (Reservation Int)) :
    things some vmids = vmids.map Reservation.value := by
  rw [← List.filterMap_eq_map]
  rfl

theorem Valid.lawfulVmids
    {inv : Inventory}
    (h : inv.Valid) :
    inv.LawfulVmids inv.reserved.vmids := by
  refine ⟨h.vmidTokens_nodup, ?_, ?_⟩
  · rw [things_vmids]
    exact h.vmids_nodup
  · intro n hn
    obtain ⟨e, he, hvalue⟩ := mem_things.mp hn
    simp only [Option.some.injEq] at hvalue
    exact hvalue ▸ h.vmids_free e he

theorem Valid.lawfulIps
    {inv : Inventory}
    (h : inv.Valid) :
    inv.LawfulIps inv.reserved.ips :=
  ⟨h.ipTokens_nodup, h.addresses_nodup, h.addresses_free⟩

/-- With other reservations a valid inventory stays valid exactly if they are lawful. -/
theorem valid_withReservations_iff
    {inv : Inventory} {vmids : List (Reservation Int)} {ips : List (Reservation String)}
    (h : inv.Valid) :
    (inv.withReservations vmids ips).Valid ↔ inv.LawfulVmids vmids ∧ inv.LawfulIps ips := by
  constructor
  · intro hvalid
    exact ⟨hvalid.lawfulVmids, hvalid.lawfulIps⟩
  · rintro ⟨hvmids, hips⟩
    refine
      { networks_nodup := h.networks_nodup
        templates_nodup := h.templates_nodup
        ranges := h.ranges
        interfaces := h.interfaces
        vmidTokens_nodup := hvmids.tokens_nodup
        ipTokens_nodup := hips.tokens_nodup
        vmids_nodup := by rw [← things_vmids]; exact hvmids.things_nodup
        vmids_free := ?_
        addresses_nodup := hips.things_nodup
        addresses_free := hips.free }
    intro e he
    exact hvmids.free e.value (mem_things.mpr ⟨e, he, rfl⟩)

/-- With other reservations an inventory can be written exactly if what is left of it
can, and what the reservations keep. -/
theorem isWritable_withReservations_iff
    {inv : Inventory} {vmids : List (Reservation Int)} {ips : List (Reservation String)} :
    (inv.withReservations vmids ips).isWritable = true ↔
      (inv.withReservations [] []).isWritable = true ∧
        (∀ e ∈ vmids, e.extra.IsShallow) ∧ ∀ e ∈ ips, e.extra.IsShallow := by
  simp only [isWritable_iff, extras, withReservations, List.mem_append, List.mem_map,
    List.map_nil, List.not_mem_nil, or_false]
  constructor
  · intro h
    exact ⟨fun extra hextra => h extra (.inl (.inl hextra)),
      fun e he => h _ (.inl (.inr ⟨e, he, rfl⟩)), fun e he => h _ (.inr ⟨e, he, rfl⟩)⟩
  · rintro ⟨hrest, hvmids, hips⟩ extra ((hextra | ⟨e, he, rfl⟩) | ⟨e, he, rfl⟩)
    · exact hrest extra hextra
    · exact hvmids e he
    · exact hips e he

theorem withReservations_self
    (inv : Inventory) :
    inv.withReservations inv.reserved.vmids inv.reserved.ips = inv := rfl

theorem wellFormed_withReservations
    {inv : Inventory} {vmids : List (Reservation Int)} {ips : List (Reservation String)}
    (h : inv.WellFormed)
    (hvmids : ∀ e ∈ vmids, e.VmidWellFormed)
    (hips : ∀ e ∈ ips, e.IpWellFormed) :
    (inv.withReservations vmids ips).WellFormed :=
  { h with reserved := ⟨hvmids, hips, h.reserved.clear⟩ }

end Inventory

/-! ### What a call does -/

namespace Ledger

/-- The book of machine numbers. -/
def vmidBook (l : Ledger) : Book Int :=
  ⟨l.inventory.reserved.vmids, l.added.vmids, l.removed.vmids⟩

/-- The book of addresses. -/
def ipBook (l : Ledger) : Book String :=
  ⟨l.inventory.reserved.ips, l.added.ips, l.removed.ips⟩

/-- A machine number that is given to a token has no more digits than can be written. -/
def GivenVmid (n : Int) : Prop := n.natAbs < 10 ^ Json.digitLimit

/-- What can happen to a ledger in a call. -/
structure Change (mode : Mode) (l next : Ledger) : Prop where
  inventory : next.inventory =
    l.inventory.withReservations next.vmidBook.live next.ipBook.live
  vmids : Book.Move some GivenVmid l.inventory.committedVmids l.vmidBook mode next.vmidBook
  ips : Book.Move addressOf? IsInterface l.inventory.hostAddresses l.ipBook mode next.ipBook

theorem Change.refl
    (mode : Mode) (l : Ledger) :
    Change mode l l :=
  ⟨rfl, .told, .told⟩

theorem givenVmid_of_resource
    {r : Resource} {n : Int}
    (hfirst : (r.first : Int) ≤ n)
    (hlast : n ≤ r.last) :
    GivenVmid n := by
  have hbound : n.natAbs < 10 ^ 3 := by
    have hlow : r.last < 10 ^ 3 := by cases r <;> decide
    omega
  exact Nat.lt_of_lt_of_le hbound (Nat.pow_le_pow_right (by omega) (by decide))

theorem change_vmid
    {l next : Ledger} {resource token : String} {n : Int}
    (h : l.vmid resource token = .ok (n, next)) :
    Change .reserve l next := by
  unfold vmid at h
  split at h
  · simp only [Except.ok.injEq, Prod.mk.injEq] at h
    obtain ⟨-, rfl⟩ := h
    exact ⟨rfl, .told, .told⟩
  · rename_i hfind
    cases hnext : l.inventory.nextVmid resource with
    | error e => simp [Inventory.reserveVmid, hfind, hnext, Except.map] at h
    | ok k =>
        simp only [Inventory.reserveVmid, hfind, hnext, Except.map, Except.ok.injEq,
          Prod.mk.injEq] at h
        obtain ⟨-, rfl⟩ := h
        obtain ⟨hfree, r, -, hfirst, hlast⟩ := Inventory.nextVmid_spec hnext
        simp only [Inventory.usedVmids, List.mem_append, not_or] at hfree
        refine ⟨rfl, .reserved (find?_eq_none_iff.mp hfind) (givenVmid_of_resource hfirst hlast)
          rfl hfree.1 ?_, .told⟩
        rw [Inventory.things_vmids]
        exact hfree.2

theorem change_ip
    {l next : Ledger} {network token ip : String}
    (h : l.ip network token = .ok (ip, next)) :
    Change .reserve l next := by
  unfold Ledger.ip at h
  split at h
  · simp only [Except.ok.injEq, Prod.mk.injEq] at h
    obtain ⟨-, rfl⟩ := h
    exact ⟨rfl, .told, .told⟩
  · rename_i hfind
    rw [Inventory.reserveIp_eq hfind] at h
    cases hnext : l.inventory.nextAddress network with
    | error e => simp [hnext, Except.map] at h
    | ok text =>
        by_cases hread : (Interface.read? text).isSome
        · simp only [hnext, hread, Except.map, if_true, Except.ok.injEq, Prod.mk.injEq] at h
          obtain ⟨-, rfl⟩ := h
          obtain ⟨free, length, rfl, hrange, hfree⟩ := Inventory.nextAddress_spec hnext
          have htaken : free ∉ l.inventory.hostAddresses :=
            fun hmem => hfree (Inventory.mem_takenAddresses_of_mem (.inl hmem))
          have hlive : free ∉ things addressOf? l.ipBook.live :=
            fun hmem => hfree (Inventory.mem_takenAddresses_of_mem (.inr hmem))
          exact ⟨rfl, .told, .reserved (find?_eq_none_iff.mp hfind) hread
            (addressOf?_addressText hrange hread) htaken hlive⟩
        · simp [hnext, hread, Except.map] at h

theorem change_releaseVmid
    {l next : Ledger} {token : String} {n : Int}
    (h : l.releaseVmid token = .ok (n, next)) :
    Change .release l next := by
  unfold releaseVmid at h
  split at h
  · simp only [Except.ok.injEq, Prod.mk.injEq] at h
    obtain ⟨-, rfl⟩ := h
    exact Change.refl _ l
  · rename_i hfirst
    split at h
    · simp at h
    · rename_i e hfind
      simp only [Except.ok.injEq, Prod.mk.injEq] at h
      obtain ⟨-, rfl⟩ := h
      obtain ⟨-, rfl⟩ := mem_of_find?_eq_some hfind
      exact ⟨rfl, .released (find?_eq_none_iff.mp hfirst) hfind, .told⟩

theorem change_releaseIp
    {l next : Ledger} {token ip : String}
    (h : l.releaseIp token = .ok (ip, next)) :
    Change .release l next := by
  unfold releaseIp at h
  split at h
  · simp only [Except.ok.injEq, Prod.mk.injEq] at h
    obtain ⟨-, rfl⟩ := h
    exact Change.refl _ l
  · rename_i hfirst
    split at h
    · simp at h
    · rename_i e hfind
      simp only [Except.ok.injEq, Prod.mk.injEq] at h
      obtain ⟨-, rfl⟩ := h
      obtain ⟨-, rfl⟩ := mem_of_find?_eq_some hfind
      exact ⟨rfl, .told, .released (find?_eq_none_iff.mp hfirst) hfind⟩

theorem change_serve
    {α : Type} {mode : Mode} {request : Ledger → Except Failure (α × Ledger)} {l : Ledger}
    (h : ∀ a next, request l = .ok (a, next) → Change mode l next) :
    Change mode l (outcome (serve request) l).2 := by
  rw [outcome_serve]
  rcases hr : request l with e | ⟨a, next⟩
  · exact Change.refl mode l
  · exact h a next hr

/-- Every call is a move of the two books, however it ends. -/
theorem change_after
    (l : Ledger) (c : Call) :
    Change c.mode l (l.after c) := by
  obtain ⟨kind, mode, name, token⟩ := c
  cases kind <;> cases mode <;>
    simp only [after, Call.perform, registry, requestVmid, requestIp, outcome_map]
  · exact change_serve fun _ _ => change_vmid
  · exact change_serve fun _ _ => change_releaseVmid
  · exact change_serve fun _ _ => change_ip
  · exact change_serve fun _ _ => change_releaseIp

/-! ### What every call keeps -/

/-- The inventory of the ledger has the form of the schema and keeps to the rules. -/
structure Sound (l : Ledger) : Prop where
  wellFormed : l.inventory.WellFormed
  valid : l.inventory.Valid

theorem Sound.change
    {mode : Mode} {l next : Ledger}
    (h : l.Sound)
    (hchange : Change mode l next) :
    next.Sound := by
  constructor
  · rw [hchange.inventory]
    refine Inventory.wellFormed_withReservations h.wellFormed ?_ ?_
    · exact hchange.vmids.forall_live (fun _ _ _ => by simp [VmidWellFormed, Extra.Clear])
        h.wellFormed.reserved.vmids
    · refine hchange.ips.forall_live ?_ h.wellFormed.reserved.ips
      exact fun ip token hip => ⟨hip, by simp [Extra.Clear]⟩
  · rw [hchange.inventory, Inventory.valid_withReservations_iff h.valid]
    exact ⟨hchange.vmids.lawful h.valid.lawfulVmids, hchange.ips.lawful h.valid.lawfulIps⟩

theorem Sound.afterAll
    {l : Ledger}
    (h : l.Sound)
    (calls : List Call) :
    (l.afterAll calls).Sound := by
  induction calls generalizing l with
  | nil => exact h
  | cons c rest ih => exact ih (h.change (change_after l c))

theorem sound_start
    {v : Value} {inv : Inventory}
    (h : Inventory.ofValue v = .ok inv) :
    (start inv).Sound :=
  ⟨Inventory.wellFormed_of_ofValue h, Inventory.valid_of_ofValue h⟩

theorem Change.isWritable
    {mode : Mode} {l next : Ledger}
    (hchange : Change mode l next)
    (h : l.inventory.isWritable = true) :
    next.inventory.isWritable = true := by
  rw [← Inventory.withReservations_self l.inventory,
    Inventory.isWritable_withReservations_iff] at h
  rw [hchange.inventory, Inventory.isWritable_withReservations_iff]
  exact ⟨h.1, hchange.vmids.forall_live (fun _ _ _ => by simp [Extra.IsShallow]) h.2.1,
    hchange.ips.forall_live (fun _ _ _ => by simp [Extra.IsShallow]) h.2.2⟩

theorem isWritable_afterAll
    {l : Ledger}
    (h : l.inventory.isWritable = true)
    (calls : List Call) :
    (l.afterAll calls).inventory.isWritable = true := by
  induction calls generalizing l with
  | nil => exact h
  | cons c rest ih => exact ih ((change_after l c).isWritable h)

/-- The document of a sound ledger is read again, unless it is nested too deeply. -/
theorem Sound.document
    {l : Ledger}
    (h : l.Sound) :
    (l.inventory.isWritable = true ∧
      ∃ document, l.inventory.document = .ok document ∧
        Inventory.ofValue document = .ok l.inventory.normal) ∨
    (l.inventory.isWritable = false ∧
      l.inventory.document = .error Inventory.tooManyLevels) := by
  cases hw : l.inventory.isWritable with
  | true =>
      refine .inl ⟨rfl, l.inventory.toValue, ?_, ?_⟩
      · simp [Inventory.document, hw]
      · exact Inventory.ofValue_toValue h.wellFormed h.valid
  | false => exact .inr ⟨rfl, by simp [Inventory.document, hw]⟩

end Ledger

/-! ### A small inventory -/

/-- The document of an inventory with one network, which keeps a value besides. -/
def sampleDocument (kept : Value) : Value :=
  .object
    [("networks", .list
      [.object
        [("dns", .str "10.0.0.1"), ("gateway", .str "10.0.0.1"), ("name", .str "lan"),
         ("static_range", .object [("end", .str "10.0.0.9"), ("start", .str "10.0.0.2")]),
         ("subnet", .str "10.0.0.0/24")]]),
     ("notes", kept),
     ("proxmox", .object
      [("api_token", .str "secret"), ("api_user", .str "root@pam!run"),
       ("endpoint", .str "https://pve:8006"), ("node", .str "pve")]),
     ("terraform", .object
      [("backend", .object [("config", .object []), ("type", .str "local")])])]

/-- The inventory with one network. -/
def sampleInventory (kept : Value) : Inventory where
  cluster := ⟨"https://pve:8006", "root@pam!run", some "secret", "pve", none, none, []⟩
  modules := ⟨⟨"local", [], []⟩, []⟩
  networks :=
    [⟨"lan", "10.0.0.0/24", "10.0.0.1", "10.0.0.1", some ⟨some "10.0.0.2", some "10.0.0.9", []⟩,
      none, none, none, []⟩]
  hosts := []
  templates := []
  reserved := .empty
  extra := [("notes", kept)]

theorem ofValue_sampleDocument
    (kept : Value) :
    Inventory.ofValue (sampleDocument kept) = .ok (sampleInventory kept) := rfl

theorem isWritable_sampleInventory
    (kept : Value) :
    (sampleInventory kept).isWritable = decide (kept.levels ≤ Inventory.levelLimit) := by
  simp [Inventory.isWritable, Inventory.extras, sampleInventory, Reserved.empty]

/-- Whatever is reserved, an inventory that keeps a value of too many levels cannot be
written. -/
theorem isWritable_sampleInventory_deep
    {kept : Value}
    (h : Inventory.levelLimit < kept.levels)
    (vmids : List (Reservation Int)) (ips : List (Reservation String)) :
    ((sampleInventory kept).withReservations vmids ips).isWritable = false := by
  rw [Bool.eq_false_iff, ne_eq, Inventory.isWritable_withReservations_iff]
  rintro ⟨hrest, -, -⟩
  have hwritable : (sampleInventory kept).isWritable = true := hrest
  rw [isWritable_sampleInventory, decide_eq_true_eq] at hwritable
  omega

theorem isWritable_sampleInventory_plain
    {vmids : List (Reservation Int)} {ips : List (Reservation String)}
    (hvmids : ∀ e ∈ vmids, e.extra = [])
    (hips : ∀ e ∈ ips, e.extra = []) :
    ((sampleInventory (.int 1)).withReservations vmids ips).isWritable = true := by
  rw [Inventory.isWritable_withReservations_iff]
  have hrest : (sampleInventory (.int 1)).isWritable = true := by
    rw [isWritable_sampleInventory]
    decide
  refine ⟨hrest, fun e he => ?_, fun e he => ?_⟩
  · rw [hvmids e he]
    simp [Extra.IsShallow]
  · rw [hips e he]
    simp [Extra.IsShallow]

/-- A list in a list, and so on. -/
def nested : Nat → Value
  | 0 => .list []
  | n + 1 => .list [nested n]

theorem levels_nested
    (n : Nat) :
    (nested n).levels = n + 1 := by
  induction n with
  | zero => simp [nested, Value.levels, Value.itemLevels]
  | succ n ih => simp [nested, Value.levels, Value.itemLevels, ih]

namespace Ledger

/-- Whatever calls a ledger has had, its inventory keeps to the rules, and its document
is accepted again: always if nothing in the loaded inventory is nested too deeply, and
otherwise as soon as there is a document.  A call that fails changes nothing. -/
theorem valid_after_calls
    {v : Value} {inv : Inventory}
    (h : Inventory.ofValue v = .ok inv)
    (calls : List Call) :
    let l := (start inv).afterAll calls
    l.inventory.Valid ∧
    (inv.isWritable = true → ∃ document, l.inventory.document = .ok document) ∧
    (∀ document, l.inventory.document = .ok document →
      ∃ inv', Inventory.ofValue document = .ok inv' ∧ inv'.bare = l.inventory.bare) ∧
    (∀ e, l.inventory.document = .error e → e = Inventory.tooManyLevels) ∧
    ∀ (c : Call) e, (outcome c.performInSteps l).1 = .error e →
      (outcome c.performInSteps l).2 = l := by
  intro l
  have hsound : l.Sound := (sound_start h).afterAll calls
  refine ⟨hsound.valid, ?_, ?_, ?_, fun c e => Call.failed_unchanged⟩
  · intro hw
    rcases hsound.document with ⟨-, document, hdocument, -⟩ | ⟨hdeep, -⟩
    · exact ⟨document, hdocument⟩
    · have hwritable : l.inventory.isWritable = true := isWritable_afterAll hw calls
      simp [hdeep] at hwritable
  · intro document hdocument
    rcases hsound.document with ⟨-, document', hdocument', hread⟩ | ⟨-, herror⟩
    · rw [hdocument, Except.ok.injEq] at hdocument'
      exact ⟨_, hdocument' ▸ hread, Inventory.bare_normal _⟩
    · simp [hdocument] at herror
  · intro e he
    rcases hsound.document with ⟨-, document', hdocument', -⟩ | ⟨-, herror⟩
    · simp [he] at hdocument'
    · rw [he, Except.error.injEq] at herror
      exact herror

/-- A machine number and an address are reserved and released, and a call fails. -/
theorem valid_after_calls_sample :
    Inventory.ofValue (sampleDocument (.int 1)) = .ok (sampleInventory (.int 1)) ∧
    ∃ document, ((start (sampleInventory (.int 1))).afterAll
      [⟨.vmid, .reserve, "vm", "vm:id:web"⟩, ⟨.ip, .reserve, "lan", "ip:lan:web"⟩,
       ⟨.vmid, .release, "vm", "vm:id:web"⟩, ⟨.ip, .release, "lan", "ip:lan:db"⟩]).inventory.document
      = .ok document :=
  ⟨ofValue_sampleDocument _,
    (valid_after_calls (ofValue_sampleDocument (.int 1)) _).2.1
      (by rw [isWritable_sampleInventory]; decide)⟩

/-- An inventory that keeps a value of too many levels is accepted, but a ledger on it
has no document. -/
theorem no_document_of_nested :
    Inventory.ofValue (sampleDocument (nested 300)) = .ok (sampleInventory (nested 300)) ∧
    ((start (sampleInventory (nested 300))).afterAll
      [⟨.vmid, .reserve, "vm", "vm:id:web"⟩]).inventory.document
      = .error Inventory.tooManyLevels := by
  refine ⟨ofValue_sampleDocument _, ?_⟩
  have hchange := change_after (start (sampleInventory (nested 300)))
    ⟨.vmid, .reserve, "vm", "vm:id:web"⟩
  have hlevels : Inventory.levelLimit < (nested 300).levels := by
    rw [levels_nested]
    decide
  have hdeep : ((start (sampleInventory (nested 300))).afterAll
      [⟨.vmid, .reserve, "vm", "vm:id:web"⟩]).inventory.isWritable = false := by
    rw [afterAll, List.foldl_cons, List.foldl_nil, hchange.inventory]
    exact isWritable_sampleInventory_deep hlevels _ _
  rw [Inventory.document, if_neg (by simp [hdeep])]

end Ledger
end Homelab
