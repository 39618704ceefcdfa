import Homelab.Proofs.Ledger.Interleaved

/-!
# Calls that succeed

A call that succeeds hands out a value.  It tells the value of a reservation, or makes one, or
releases one, or tells again what the run has released before.  A book of one kind changes,
and what was handed out is noted.
-/

namespace Homelab

open Reservation

/-- What has been handed out, as a value of a document. -/
def Allocated.value : Allocated → Value
  | .vmid n => .int n
  | .ip s => .str s

/-- A token that nothing was noted for is noted last. -/
theorem record_eq_append
    {α : Type} {token : String} {noted : List (String × α)}
    (h : token ∉ noted.map Prod.fst)
    (value : α) :
    record token value noted = noted ++ [(token, value)] := by
  induction noted with
  | nil => rfl
  | cons p rest ih =>
      obtain ⟨t, v⟩ := p
      simp only [List.map_cons, List.mem_cons, not_or] at h
      rw [record, if_neg (Ne.symm h.1), ih h.2, List.cons_append]

theorem Ledger.handedOut_note
    {l : Ledger} {token : String}
    (h : (l.handedOut.map Prod.fst ++ [token]).Nodup)
    (a : Allocated) :
    (l.note token a).handedOut = l.handedOut ++ [(token, a)] := by
  refine record_eq_append (fun hmem => ?_) a
  exact (List.nodup_append.mp h).2.2 token hmem token (by simp) rfl

namespace ReservedKind

/-- A value of a kind, as it is handed out. -/
def allocated : (k : ReservedKind) → k.Bound → Allocated
  | .vmid => .vmid
  | .ip => .ip

/-- The ledger with another book of a kind. -/
def withBook : (k : ReservedKind) → Ledger → Book k.Bound → Ledger
  | .vmid, l, b =>
      { l with
        inventory := l.inventory.withReservations b.live l.inventory.reserved.ips
        added := { l.added with vmids := b.added }
        removed := { l.removed with vmids := b.removed } }
  | .ip, l, b =>
      { l with
        inventory := l.inventory.withReservations l.inventory.reserved.vmids b.live
        added := { l.added with ips := b.added }
        removed := { l.removed with ips := b.removed } }

@[simp] theorem book_withBook
    (k : ReservedKind) (l : Ledger) (b : Book k.Bound) :
    k.book (k.withBook l b) = b := by
  cases k <;> rfl

@[simp] theorem book_withBook_of_ne
    {k k' : ReservedKind}
    (h : k' ≠ k)
    (l : Ledger) (b : Book k.Bound) :
    k'.book (k.withBook l b) = k'.book l := by
  cases k <;> cases k' <;> first | rfl | exact absurd rfl h

@[simp] theorem handedOut_withBook
    (k : ReservedKind) (l : Ledger) (b : Book k.Bound) :
    (k.withBook l b).handedOut = l.handedOut := by
  cases k <;> rfl

@[simp] theorem book_note
    (k : ReservedKind) (l : Ledger) (token : String) (a : Allocated) :
    k.book (l.note token a) = k.book l := by
  cases k <;> rfl

end ReservedKind

namespace Call

/-- What a call does that succeeds. -/
inductive Served (c : Call) (l : Ledger) : Allocated → Ledger → Prop
  | told {e : Reservation c.kind.Bound}
      (reserve : c.mode = .reserve)
      (found : find? c.token (c.kind.book l).live = some e) :
      Served c l (c.kind.allocated e.value) (l.note c.token (c.kind.allocated e.value))
  | reserved {value : c.kind.Bound}
      (reserve : c.mode = .reserve)
      (isNew : find? c.token (c.kind.book l).live = none) :
      Served c l (c.kind.allocated value)
        ((c.kind.withBook l
          ⟨(c.kind.book l).live ++ [⟨value, c.token, []⟩],
            (c.kind.book l).added ++ [⟨value, c.token, []⟩], (c.kind.book l).removed⟩).note
          c.token (c.kind.allocated value))
  | released {e : Reservation c.kind.Bound}
      (release : c.mode = .release)
      (first : find? c.token (c.kind.book l).removed = none)
      (found : find? c.token (c.kind.book l).live = some e) :
      Served c l (c.kind.allocated e.value)
        ((c.kind.withBook l
          ⟨Reservation.release c.token (c.kind.book l).live, (c.kind.book l).added,
            (c.kind.book l).removed ++ [e]⟩).note c.token (c.kind.allocated e.value))
  | again {e : Reservation c.kind.Bound}
      (release : c.mode = .release)
      (found : find? c.token (c.kind.book l).removed = some e) :
      Served c l (c.kind.allocated e.value) l

section

variable {l next : Ledger} {name token : String}

theorem served_vmid
    {n : Int}
    (h : l.vmid name token = .ok (n, next)) :
    Served ⟨.vmid, .reserve, name, token⟩ l (.vmid n) next := by
  unfold Ledger.vmid at h
  split at h
  · rename_i e hfind
    obtain ⟨rfl, rfl⟩ := Prod.mk.inj (Except.ok.inj h)
    exact .told (c := ⟨.vmid, .reserve, name, token⟩) rfl hfind
  · rename_i hfind
    cases hnext : l.inventory.nextVmid name with
    | error e => simp [Inventory.reserveVmid, hfind, hnext, Except.map] at h
    | ok k =>
        simp only [Inventory.reserveVmid, hfind, hnext, Except.map] at h
        obtain ⟨rfl, rfl⟩ := Prod.mk.inj (Except.ok.inj h)
        exact .reserved (c := ⟨.vmid, .reserve, name, token⟩) rfl hfind

theorem served_ip
    {ip : String}
    (h : l.ip name token = .ok (ip, next)) :
    Served ⟨.ip, .reserve, name, token⟩ l (.ip ip) next := by
  unfold Ledger.ip at h
  split at h
  · rename_i e hfind
    obtain ⟨rfl, rfl⟩ := Prod.mk.inj (Except.ok.inj h)
    exact .told (c := ⟨.ip, .reserve, name, token⟩) rfl hfind
  · rename_i hfind
    rw [Inventory.reserveIp_eq hfind] at h
    cases hnext : l.inventory.nextAddress name with
    | error e => simp [hnext, Except.map] at h
    | ok text =>
        by_cases hread : (Interface.read? text).isSome
        · simp only [hnext, hread, Except.map, if_true] at h
          obtain ⟨rfl, rfl⟩ := Prod.mk.inj (Except.ok.inj h)
          exact .reserved (c := ⟨.ip, .reserve, name, token⟩) rfl hfind
        · simp [hnext, hread, Except.map] at h

theorem served_releaseVmid
    {n : Int}
    (h : l.releaseVmid token = .ok (n, next)) :
    Served ⟨.vmid, .release, name, token⟩ l (.vmid n) next := by
  unfold Ledger.releaseVmid at h
  split at h
  · rename_i e hfind
    obtain ⟨rfl, rfl⟩ := Prod.mk.inj (Except.ok.inj h)
    exact .again (c := ⟨.vmid, .release, name, token⟩) rfl hfind
  · rename_i hfirst
    split at h
    · cases h
    · rename_i e hfind
      obtain ⟨rfl, rfl⟩ := Prod.mk.inj (Except.ok.inj h)
      exact .released (c := ⟨.vmid, .release, name, token⟩) rfl hfirst hfind

theorem served_releaseIp
    {ip : String}
    (h : l.releaseIp token = .ok (ip, next)) :
    Served ⟨.ip, .release, name, token⟩ l (.ip ip) next := by
  unfold Ledger.releaseIp at h
  split at h
  · rename_i e hfind
    obtain ⟨rfl, rfl⟩ := Prod.mk.inj (Except.ok.inj h)
    exact .again (c := ⟨.ip, .release, name, token⟩) rfl hfind
  · rename_i hfirst
    split at h
    · cases h
    · rename_i e hfind
      obtain ⟨rfl, rfl⟩ := Prod.mk.inj (Except.ok.inj h)
      exact .released (c := ⟨.ip, .release, name, token⟩) rfl hfirst hfind

theorem outcome_map_serve
    {α : Type} {f : α → Allocated} {request : Ledger → Except Failure (α × Ledger)} {a : Allocated}
    (h : outcome (f <$> Ledger.serve request) l = (.ok a, next)) :
    ∃ x, request l = .ok (x, next) ∧ a = f x := by
  rw [outcome_map, Ledger.outcome_serve] at h
  rcases hr : request l with e | ⟨x, next'⟩
  · simp [hr, Except.map] at h
  · rw [hr] at h
    obtain ⟨ha, rfl⟩ := Prod.mk.inj h
    exact ⟨x, rfl, (Except.ok.inj ha).symm⟩

theorem served
    {c : Call} {a : Allocated}
    (h : outcome c.perform l = (.ok a, next)) :
    c.Served l a next := by
  obtain ⟨kind, mode, name, token⟩ := c
  cases kind with
  | vmid =>
      obtain ⟨n, hrequest, rfl⟩ := outcome_map_serve h
      cases mode with
      | reserve => exact served_vmid hrequest
      | release => exact served_releaseVmid hrequest
  | ip =>
      obtain ⟨ip, hrequest, rfl⟩ := outcome_map_serve h
      cases mode with
      | reserve => exact served_ip hrequest
      | release => exact served_releaseIp hrequest

/-- A token that has a reservation is told its value. -/
theorem outcome_told
    {k : ReservedKind} {e : Reservation k.Bound}
    (h : find? token (k.book l).live = some e) :
    outcome (perform ⟨k, .reserve, name, token⟩) l =
      (.ok (k.allocated e.value), l.note token (k.allocated e.value)) := by
  cases k with
  | vmid =>
      have hfind : l.inventory.reservedVmid? token = some e := h
      simp only [perform, Ledger.registry, Ledger.requestVmid, outcome_map, Ledger.outcome_serve,
        Ledger.vmid, hfind]
      rfl
  | ip =>
      have hfind : l.inventory.reservedIp? token = some e := h
      simp only [perform, Ledger.registry, Ledger.requestIp, outcome_map, Ledger.outcome_serve,
        Ledger.ip, hfind]
      rfl

/-- A token that has a reservation is released. -/
theorem outcome_released
    {k : ReservedKind} {e : Reservation k.Bound}
    (hfirst : find? token (k.book l).removed = none)
    (h : find? token (k.book l).live = some e) :
    outcome (perform ⟨k, .release, name, token⟩) l =
      (.ok (k.allocated e.value),
        (k.withBook l ⟨release token (k.book l).live, (k.book l).added,
          (k.book l).removed ++ [e]⟩).note token (k.allocated e.value)) := by
  cases k with
  | vmid =>
      have hnone : find? token l.removed.vmids = none := hfirst
      have hfind : l.inventory.reservedVmid? token = some e := h
      simp only [perform, Ledger.registry, Ledger.requestVmid, outcome_map, Ledger.outcome_serve,
        Ledger.releaseVmid, hnone, hfind]
      rfl
  | ip =>
      have hnone : find? token l.removed.ips = none := hfirst
      have hfind : l.inventory.reservedIp? token = some e := h
      simp only [perform, Ledger.registry, Ledger.requestIp, outcome_map, Ledger.outcome_serve,
        Ledger.releaseIp, hnone, hfind]
      rfl

end
end Call

end Homelab
