import Homelab.Proofs.Ledger.Supply

/-!
# A sequence of calls on one ledger

A ledger is asked for machine numbers and addresses, one after another, and some of the calls
may fail.  In a run that only reserves, reservations are never given up: whatever a call has
handed out is still the value of its token at the end.  So the values of different tokens are
different at the end, and they have been so all the time.
-/

namespace Homelab

open Reservation

namespace Ledger

variable {l : Ledger} {calls : List Call} {c : Call} {i : Nat} {a : Allocated}

/-- The call at a place of a sequence succeeds and hands out a value. -/
structure AnsweredAt (l : Ledger) (calls : List Call) (i : Nat) (c : Call) (a : Allocated) :
    Prop where
  call : calls[i]? = some c
  answer : (outcome c.perform (l.afterAll (calls.take i))).1 = .ok a

/-- The value that a call hands out is newly reserved: its token had no reservation before. -/
structure ReservedAt (l : Ledger) (calls : List Call) (i : Nat) (c : Call) (a : Allocated) :
    Prop extends AnsweredAt l calls i c a where
  isNew : c.token ∉ tokens (c.kind.book (l.afterAll (calls.take i))).live

/-! ### Reservations are kept -/

/-- A call that reserves leaves all reservations where they are. -/
theorem live_after
    (hreserve : c.mode = .reserve)
    (k : ReservedKind) (l : Ledger) :
    (k.book l).live <+: (k.book (l.after c)).live := by
  have hmove := k.move (change_after l c)
  rw [hreserve] at hmove
  generalize k.book (l.after c) = b at hmove
  cases hmove with
  | told => exact List.prefix_rfl
  | reserved => exact List.prefix_append _ _

theorem live_afterAll
    (hreserve : ∀ c ∈ calls, c.mode = .reserve)
    (k : ReservedKind) (l : Ledger) :
    (k.book l).live <+: (k.book (l.afterAll calls)).live := by
  induction calls generalizing l with
  | nil => exact List.prefix_rfl
  | cons c rest ih =>
      have hfirst := live_after (hreserve c List.mem_cons_self) k l
      exact hfirst.trans (ih (fun d hd => hreserve d (List.mem_cons_of_mem c hd)) (l.after c))

/-- What is handed out is the value of the token in the reservations by then. -/
theorem reserved_of_answer
    (hreserve : c.mode = .reserve)
    (h : (outcome c.perform l).1 = .ok a) :
    ∃ value, a = c.kind.allocated value ∧
      (c.token, value) ∈ pairs (c.kind.book (l.after c)).live := by
  have hserved : c.Served l a (l.after c) := Call.served (Prod.ext h rfl)
  generalize l.after c = next at hserved
  cases hserved with
  | @told e _ hfound =>
      obtain ⟨hmem, htoken⟩ := mem_of_find?_eq_some hfound
      rw [ReservedKind.book_note]
      exact ⟨e.value, rfl, mem_pairs.mpr ⟨e, hmem, htoken, rfl⟩⟩
  | @reserved value _ _ =>
      rw [ReservedKind.book_note, ReservedKind.book_withBook]
      exact ⟨value, rfl, by simp [pairs]⟩
  | released hrelease => simp [hreserve] at hrelease
  | again hrelease => simp [hreserve] at hrelease

/-- What a call of a sequence hands out is the value of its token to the end. -/
theorem AnsweredAt.reserved
    (hreserve : ∀ c ∈ calls, c.mode = .reserve)
    (h : AnsweredAt l calls i c a) :
    ∃ value, a = c.kind.allocated value ∧
      (c.token, value) ∈ pairs (c.kind.book (l.afterAll calls)).live := by
  have hsplit : calls = calls.take i ++ c :: calls.drop (i + 1) := by
    obtain ⟨hi, rfl⟩ := List.getElem?_eq_some_iff.mp h.call
    rw [List.getElem_cons_drop, List.take_append_drop]
  have hlater : ∀ d ∈ calls.drop (i + 1), d.mode = .reserve :=
    fun d hd => hreserve d (List.mem_of_mem_drop hd)
  obtain ⟨value, ha, hmem⟩ :=
    reserved_of_answer (hreserve c (List.mem_of_getElem? h.call)) h.answer
  refine ⟨value, ha, ?_⟩
  have hlast : l.afterAll calls =
      ((l.afterAll (calls.take i)).after c).afterAll (calls.drop (i + 1)) := by
    conv_lhs => rw [hsplit, afterAll_append]
    rfl
  rw [hlast]
  exact ((live_afterAll hlater c.kind _).map fun e => (e.token, e.value)).subset hmem

/-! ### The rest of the inventory -/

/-- Calls change nothing but the reservations. -/
theorem inventory_afterAll
    (l : Ledger) (calls : List Call) :
    (l.afterAll calls).inventory =
      l.inventory.withReservations (l.afterAll calls).vmidBook.live
        (l.afterAll calls).ipBook.live := by
  induction calls generalizing l with
  | nil => rfl
  | cons c rest ih =>
      have hrest : l.afterAll (c :: rest) = (l.after c).afterAll rest := rfl
      rw [hrest, ih (l.after c), (change_after l c).inventory]
      rfl

/-! ### Values of one kind -/

variable {k : ReservedKind} {d : Call} {j : Nat} {value value' : k.Bound}

/-- A value that is handed out is reserved for the token to the end. -/
theorem AnsweredAt.pair
    (hreserve : ∀ c ∈ calls, c.mode = .reserve)
    (h : AnsweredAt l calls i c (k.allocated value)) :
    (c.token, value) ∈ pairs (k.book (l.afterAll calls)).live := by
  obtain ⟨value', hvalue, hmem⟩ := h.reserved hreserve
  generalize c.kind = kind at value' hvalue hmem
  cases k <;> cases kind
  · obtain rfl := Allocated.vmid.inj hvalue
    exact hmem
  · cases hvalue
  · cases hvalue
  · obtain rfl := Allocated.ip.inj hvalue
    exact hmem

/-- A token has one value of each kind. -/
theorem AnsweredAt.value_eq
    (hsound : l.Sound)
    (hreserve : ∀ c ∈ calls, c.mode = .reserve)
    (hc : AnsweredAt l calls i c (k.allocated value))
    (hd : AnsweredAt l calls j d (k.allocated value'))
    (htoken : c.token = d.token) :
    value = value' := by
  have hnodup := (k.lawful (hsound.afterAll calls).valid).tokens_nodup
  rw [← ReservedKind.live_book] at hnodup
  obtain ⟨e, he, hetoken, rfl⟩ := mem_pairs.mp (hc.pair hreserve)
  obtain ⟨f, hf, hftoken, rfl⟩ := mem_pairs.mp (hd.pair hreserve)
  rw [List.inj_on_of_nodup_map hnodup he hf (hetoken.trans (htoken.trans hftoken.symm))]

/-- A value that is newly reserved is the one that the inventory offers at that place. -/
theorem ReservedAt.offer
    (hreserve : ∀ c ∈ calls, c.mode = .reserve)
    (h : ReservedAt l calls i c (k.allocated value)) :
    k.offer (l.afterAll (calls.take i)).inventory c.name = .ok value := by
  have hmode := hreserve c (List.mem_of_getElem? h.call)
  have hanswer := h.answer
  obtain ⟨kind, mode, name, token⟩ := c
  simp only at hmode
  subst hmode
  rw [ReservedKind.outcome_new (find?_eq_none_iff.mpr h.isNew)] at hanswer
  split at hanswer
  · simp at hanswer
  · rename_i value' hoffer
    cases k <;> cases kind
    · obtain rfl := Allocated.vmid.inj (Except.ok.inj hanswer)
      exact hoffer
    · cases hanswer
    · cases hanswer
    · obtain rfl := Allocated.ip.inj (Except.ok.inj hanswer)
      exact hoffer

/-- A value that is handed out stands for a thing that was in use neither by a machine nor by
a template. -/
theorem AnsweredAt.thing
    (hsound : l.Sound)
    (hreserve : ∀ c ∈ calls, c.mode = .reserve)
    (h : AnsweredAt l calls i c (k.allocated value)) :
    ∃ x, k.read? value = some x ∧ x ∉ k.taken l.inventory := by
  have hlast := hsound.afterAll calls
  have htaken : k.taken (l.afterAll calls).inventory = k.taken l.inventory := by
    rw [inventory_afterAll]
    cases k <;> rfl
  obtain ⟨e, he, -, rfl⟩ := mem_pairs.mp (h.pair hreserve)
  rw [ReservedKind.live_book] at he
  have hread : ∃ x, k.read? e.value = some x := by
    cases k with
    | vmid => exact ⟨e.value, rfl⟩
    | ip =>
        obtain ⟨x, hx⟩ := Option.isSome_iff_exists.mp (hlast.wellFormed.reserved.ips e he).ip
        exact ⟨x.address, by simp [ReservedKind.read?, addressOf?, hx]⟩
  obtain ⟨x, hx⟩ := hread
  refine ⟨x, hx, ?_⟩
  rw [← htaken]
  exact (k.lawful hlast.valid).free x (mem_things.mpr ⟨e, he, hx⟩)

/-- The values of different tokens stand for different things. -/
theorem AnsweredAt.thing_ne
    {x y : k.Thing}
    (hsound : l.Sound)
    (hreserve : ∀ c ∈ calls, c.mode = .reserve)
    (hc : AnsweredAt l calls i c (k.allocated value))
    (hd : AnsweredAt l calls j d (k.allocated value'))
    (htoken : c.token ≠ d.token)
    (hx : k.read? value = some x)
    (hy : k.read? value' = some y) :
    x ≠ y := by
  rintro rfl
  have hnodup := (k.lawful (hsound.afterAll calls).valid).things_nodup
  rw [← ReservedKind.live_book] at hnodup
  obtain ⟨e, he, hetoken, rfl⟩ := mem_pairs.mp (hc.pair hreserve)
  obtain ⟨f, hf, hftoken, rfl⟩ := mem_pairs.mp (hd.pair hreserve)
  have hsame := eq_of_things_nodup hnodup he hf hx hy
  exact htoken (hetoken.symm.trans ((congrArg token hsame).trans hftoken))

/-! ### The sequence -/

/-- What a sequence of calls keeps to, on a ledger that starts with an inventory.  The two
kinds of values have their reservations apart, and so one token may stand for a machine
number and an address. -/
structure KeepsApart (inv : Inventory) (calls : List Call) : Prop where
  /-- Calls for one token hand out one value. -/
  same : ∀ i j c d a b, AnsweredAt (start inv) calls i c a → AnsweredAt (start inv) calls j d b →
    c.kind = d.kind → c.token = d.token → a = b
  /-- Machine numbers of different tokens are different. -/
  vmids : ∀ i j c d m n, AnsweredAt (start inv) calls i c (.vmid m) →
    AnsweredAt (start inv) calls j d (.vmid n) → c.token ≠ d.token → m ≠ n
  /-- Addresses of different tokens are different, whatever length they are written with. -/
  addresses : ∀ i j c d s t, AnsweredAt (start inv) calls i c (.ip s) →
    AnsweredAt (start inv) calls j d (.ip t) → c.token ≠ d.token →
    ∃ x y, addressOf? s = some x ∧ addressOf? t = some y ∧ x ≠ y
  /-- A machine number is neither a machine's nor a template's. -/
  vmids_free : ∀ i c n, AnsweredAt (start inv) calls i c (.vmid n) →
    n ∉ inv.hosts.map Host.vmid ∧ n ∉ inv.templates.map Template.vmid
  /-- An address is not one of a machine. -/
  addresses_free : ∀ i c s, AnsweredAt (start inv) calls i c (.ip s) →
    ∃ x, addressOf? s = some x ∧ x ∉ inv.hostAddresses
  /-- A machine number that is newly reserved is in the range of the resource. -/
  vmids_inRange : ∀ i c n, ReservedAt (start inv) calls i c (.vmid n) →
    ∃ r, Resource.named.lookup c.name = some r ∧ (r.first : Int) ≤ n ∧ n ≤ r.last
  /-- An address that is newly reserved is in the static range of the network, and neither
  its gateway nor its name server. -/
  addresses_inRange : ∀ i c s, ReservedAt (start inv) calls i c (.ip s) →
    ∃ n ∈ inv.networks, n.name = c.name ∧
      ∃ x, addressOf? s = some x ∧ n.InStaticRange x ∧ ¬ n.IsOwn x

/-- On a ledger of an inventory that was read, calls that reserve keep apart what they hand
out, in whatever order they are made and whichever of them fail. -/
theorem keepsApart_of_reserve
    {v : Value} {inv : Inventory}
    (h : Inventory.ofValue v = .ok inv)
    {calls : List Call}
    (hreserve : ∀ c ∈ calls, c.mode = .reserve) :
    KeepsApart inv calls := by
  have hsound := sound_start h
  refine
    { same := ?_, vmids := ?_, addresses := ?_, vmids_free := ?_, addresses_free := ?_,
      vmids_inRange := ?_, addresses_inRange := ?_ }
  · intro i j c d a b hc hd hkind htoken
    obtain ⟨value, rfl, -⟩ := hc.reserved hreserve
    obtain ⟨value', rfl, -⟩ := hd.reserved hreserve
    generalize d.kind = kind at hkind value' hd
    subst hkind
    rw [hc.value_eq hsound hreserve hd htoken]
  · intro i j c d m n hc hd htoken
    exact AnsweredAt.thing_ne (k := .vmid) hsound hreserve hc hd htoken rfl rfl
  · intro i j c d s t hc hd htoken
    obtain ⟨x, hx, -⟩ := AnsweredAt.thing (k := .ip) hsound hreserve hc
    obtain ⟨y, hy, -⟩ := AnsweredAt.thing (k := .ip) hsound hreserve hd
    exact ⟨x, y, hx, hy, AnsweredAt.thing_ne (k := .ip) hsound hreserve hc hd htoken hx hy⟩
  · intro i c n hc
    obtain ⟨x, hx, hfree⟩ := AnsweredAt.thing (k := .vmid) hsound hreserve hc
    obtain rfl : n = x := Option.some.inj hx
    simpa [ReservedKind.taken, Inventory.committedVmids, start] using hfree
  · intro i c s hc
    exact AnsweredAt.thing (k := .ip) hsound hreserve hc
  · intro i c n hc
    have hoffer := ReservedAt.offer (k := .vmid) hreserve hc
    exact (Inventory.nextVmid_spec hoffer).2
  · intro i c s hc
    have hoffer := ReservedAt.offer (k := .ip) hreserve hc
    obtain ⟨hnext, hread⟩ := ReservedKind.nextAddress_of_offer hoffer
    obtain ⟨n, hn, hname, x, length, rfl, hrange, hfree⟩ := Inventory.isFree_of_nextAddress hnext
    rw [inventory_afterAll] at hn
    exact ⟨n, hn, hname, x, addressOf?_addressText hrange hread, hfree.inRange,
      fun hown => hfree.unused (.inl hown)⟩

/-- Two machine numbers and an address are asked for, one of them twice; the first call
reserves the lowest number. -/
theorem keepsApart_of_reserve_sample :
    Inventory.ofValue (sampleDocument (.int 1)) = .ok (sampleInventory (.int 1)) ∧
    ReservedAt (start (sampleInventory (.int 1)))
      [⟨.vmid, .reserve, "vm", "vm:id:web"⟩, ⟨.ip, .reserve, "lan", "ip:lan:web"⟩,
       ⟨.vmid, .reserve, "lxc", "lxc:id:db"⟩, ⟨.vmid, .reserve, "vm", "vm:id:web"⟩]
      0 ⟨.vmid, .reserve, "vm", "vm:id:web"⟩ (.vmid 100) ∧
    KeepsApart (sampleInventory (.int 1))
      [⟨.vmid, .reserve, "vm", "vm:id:web"⟩, ⟨.ip, .reserve, "lan", "ip:lan:web"⟩,
       ⟨.vmid, .reserve, "lxc", "lxc:id:db"⟩, ⟨.vmid, .reserve, "vm", "vm:id:web"⟩] := by
  refine ⟨ofValue_sampleDocument _, ⟨⟨rfl, ?_⟩, ?_⟩,
    keepsApart_of_reserve (ofValue_sampleDocument (.int 1)) (by simp)⟩
  · have hoffer : ReservedKind.offer .vmid (sampleInventory (.int 1)) "vm" = .ok 100 :=
      nextVmid_sampleInventory (.int 1)
    have hnone : find? "vm:id:web" (ReservedKind.book .vmid
        (start (sampleInventory (.int 1)))).live = none := rfl
    have hanswer := ReservedKind.outcome_new hnone "vm"
    simp only [start, hoffer] at hanswer
    exact congrArg Prod.fst hanswer
  · exact List.not_mem_nil

end Ledger
end Homelab
