import Homelab.Proofs.Resolution.Release

/-!
# What of a document changes a ledger

Of the tokens of a document, only those matter to the ledger that have no reservation yet: they
are reserved in the order of their first places, and each gets the first value that is free by
then.  So two documents with the same new tokens, in the same order, leave ledgers that differ
at most in what they have handed out.
-/

namespace Homelab

open Reservation

namespace Ledger

/-- The ledger with other notes of what has been handed out. -/
def withNotes (l : Ledger) (notes : List (String × Allocated)) : Ledger :=
  { l with handedOut := notes }

end Ledger

/-! ### What is handed out does not matter to a call -/

namespace Call

variable {l : Ledger} {notes : List (String × Allocated)}

/-- A call does the same on a ledger with other notes, up to the notes. -/
theorem after_withNotes
    (c : Call) (l : Ledger) (notes : List (String × Allocated)) :
    ∃ notes', (l.withNotes notes).after c = (l.after c).withNotes notes' := by
  obtain ⟨kind, mode, name, token⟩ := c
  cases kind <;> cases mode
  · simp only [Ledger.after, perform, Ledger.registry, Ledger.requestVmid, outcome_map,
      Ledger.outcome_serve, Ledger.vmid, Ledger.withNotes]
    cases hfind : l.inventory.reservedVmid? token with
    | some e => exact ⟨_, rfl⟩
    | none =>
        cases hnext : l.inventory.reserveVmid name token with
        | error e => exact ⟨notes, rfl⟩
        | ok r => exact ⟨_, rfl⟩
  · simp only [Ledger.after, perform, Ledger.registry, Ledger.requestVmid, outcome_map,
      Ledger.outcome_serve, Ledger.releaseVmid, Ledger.withNotes]
    cases hremoved : find? token l.removed.vmids with
    | some e => exact ⟨notes, rfl⟩
    | none =>
        cases hfind : l.inventory.reservedVmid? token with
        | none => exact ⟨notes, rfl⟩
        | some e => exact ⟨_, rfl⟩
  · simp only [Ledger.after, perform, Ledger.registry, Ledger.requestIp, outcome_map,
      Ledger.outcome_serve, Ledger.ip, Ledger.withNotes]
    cases hfind : l.inventory.reservedIp? token with
    | some e => exact ⟨_, rfl⟩
    | none =>
        cases hnext : l.inventory.reserveIp name token with
        | error e => exact ⟨notes, rfl⟩
        | ok r => exact ⟨_, rfl⟩
  · simp only [Ledger.after, perform, Ledger.registry, Ledger.requestIp, outcome_map,
      Ledger.outcome_serve, Ledger.releaseIp, Ledger.withNotes]
    cases hremoved : find? token l.removed.ips with
    | some e => exact ⟨notes, rfl⟩
    | none =>
        cases hfind : l.inventory.reservedIp? token with
        | none => exact ⟨notes, rfl⟩
        | some e => exact ⟨_, rfl⟩

theorem afterAll_withNotes
    (calls : List Call) (l : Ledger) (notes : List (String × Allocated)) :
    ∃ notes', (l.withNotes notes).afterAll calls = (l.afterAll calls).withNotes notes' := by
  induction calls generalizing l notes with
  | nil => exact ⟨notes, rfl⟩
  | cons c rest ih =>
      obtain ⟨notes', hafter⟩ := after_withNotes c l notes
      obtain ⟨notes'', hrest⟩ := ih (l.after c) notes'
      refine ⟨notes'', ?_⟩
      rw [Ledger.afterAll, List.foldl_cons, hafter]
      exact hrest

/-- What a token names: the kind of a guest, or a network. -/
def nameIn (token : String) : String :=
  match Reference.parse? token with
  | some ⟨_, .machine kind _⟩ => kind.name
  | some ⟨_, .address network _⟩ => network
  | _ => ""

/-- The call that reserves a value for a token. -/
def reserving (k : ReservedKind) (token : String) : Call :=
  ⟨k, .reserve, nameIn token, token⟩

end Call

namespace ReservedKind

variable {k : ReservedKind} {memo memo' : Memo} {l l' : Ledger} {rs : List Reference}

/-- A lookup in a run that reserves is the call for the token. -/
theorem ending_lookup_reserving
    {r : Reference}
    (hserves : k.serves r.target = true)
    (hparse : Reference.parse? r.text = some r)
    (l : Ledger) :
    Meaning.plain.ending ((k.pass .reserve).lookup r) l =
      (Meaning.plain.ending (Call.reserving k r.text).perform l).map fun a =>
        (some a.1.value, a.2) := by
  obtain ⟨text, target⟩ := r
  simp only at hserves hparse
  cases k with
  | vmid =>
      cases target with
      | machine kind label =>
          simp only [pass, Pass.vmid, Call.reserving, Call.nameIn, hparse, Call.perform,
            Meaning.ending_bind, Meaning.ending_map, Meaning.ending_pure]
          cases Meaning.plain.ending ((Ledger.registry .reserve).vmid kind.name text) l <;> rfl
      | _ => cases hserves
  | ip =>
      cases target with
      | address network label =>
          simp only [pass, Pass.ip, Call.reserving, Call.nameIn, hparse, Call.perform,
            Meaning.ending_bind, Meaning.ending_map, Meaning.ending_pure]
          cases Meaning.plain.ending ((Ledger.registry .reserve).ip network text) l <;> rfl
      | _ => cases hserves

/-- The tokens that have no reservation in a ledger. -/
def unbound (k : ReservedKind) (l : Ledger) (ts : List String) : List String :=
  ts.filter fun t => t ∉ tokens (k.book l).live

/-- What one token is told or given leaves the others as they were: with a reservation, or
without. -/
theorem Reserves.unbound_eq
    {token : String} {ts : List String}
    (h : Reserves k [token] l l')
    (hnew : token ∉ ts) :
    k.unbound l' ts = k.unbound l ts := by
  obtain ⟨new, hmade, htokens⟩ := h.made
  refine List.filter_congr fun t ht => ?_
  have hne : t ≠ token := fun heq => hnew (heq ▸ ht)
  have hnot : t ∉ tokens new := by
    rw [htokens]
    exact fun hmem => hne (List.mem_singleton.mp (List.mem_filter.mp hmem).1)
  simp [hmade, tokens_append, hnot]

/-- The call for a token is made on the ledger, up to the notes, if the token has no reservation;
else nothing is. -/
theorem called_unbound
    {token : String} {a : Allocated}
    (h : outcome (Call.reserving k token).perform l = (.ok a, l')) :
    ∃ notes, l' =
      (l.afterAll ((k.unbound l [token]).map (Call.reserving k))).withNotes notes := by
  by_cases hbound : token ∈ tokens (k.book l).live
  · obtain ⟨e, hfind⟩ := exists_find? hbound
    have htold : outcome (Call.perform ⟨k, .reserve, Call.nameIn token, token⟩) l = _ :=
      Call.outcome_told hfind
    obtain ⟨-, rfl⟩ := Prod.mk.inj (h.symm.trans htold)
    refine ⟨(l.note token (k.allocated e.value)).handedOut, ?_⟩
    rw [unbound, List.filter_cons_of_neg (by simpa using hbound)]
    rfl
  · have hafter : l.after (Call.reserving k token) = l' := congrArg Prod.snd h
    refine ⟨l'.handedOut, ?_⟩
    rw [unbound, List.filter_cons_of_pos (by simpa using hbound), ← hafter]
    rfl

/-- Of the tokens that are asked for in a run that reserves, only those matter that had no
reservation. -/
theorem asked_unbound
    (hserves : ∀ r ∈ rs, k.serves r.target = true)
    (hparse : ∀ r ∈ rs, Reference.parse? r.text = some r)
    (hnodup : (rs.map Reference.text).Nodup)
    (h : (k.pass .reserve).askEach Meaning.plain (memo, l) rs = .ok (memo', l')) :
    ∃ notes, l' =
      (l.afterAll ((k.unbound l (rs.map Reference.text)).map (Call.reserving k))).withNotes
        notes := by
  induction rs generalizing memo l with
  | nil =>
      obtain ⟨-, rfl⟩ := Prod.mk.inj (Except.ok.inj h)
      exact ⟨l.handedOut, rfl⟩
  | cons r rest ih =>
      obtain ⟨hnew, hrest⟩ := List.nodup_cons.mp hnodup
      have ih' := fun memo l => @ih memo l (fun q hq => hserves q (by simp [hq]))
        (fun q hq => hparse q (by simp [hq])) hrest
      rw [← List.singleton_append, Pass.askEach_append, Pass.askEach_singleton, Pass.askNew,
        ending_lookup_reserving (hserves r (by simp)) (hparse r (by simp))] at h
      cases hcall : Meaning.plain.ending (Call.reserving k r.text).perform l with
      | error e =>
          rw [hcall] at h
          cases h
      | ok found =>
          obtain ⟨a, next⟩ := found
          rw [hcall] at h
          obtain ⟨notes, hlast⟩ := ih' _ next h
          have hcall' := Meaning.plain_eq_ok_iff.mp hcall
          obtain ⟨notes', hnext⟩ := called_unbound hcall'
          have hsplit : k.unbound l ((r :: rest).map Reference.text) =
              k.unbound l [r.text] ++ k.unbound next (rest.map Reference.text) := by
            rw [(reserves_one hcall').1.unbound_eq hnew]
            exact List.filter_append [r.text] (rest.map Reference.text)
          obtain ⟨notes'', hnotes⟩ := Call.afterAll_withNotes
            ((k.unbound next (rest.map Reference.text)).map (Call.reserving k))
            (l.afterAll ((k.unbound l [r.text]).map (Call.reserving k))) notes'
          refine ⟨notes, ?_⟩
          rw [← hnext] at hnotes
          rw [hlast, hnotes, hsplit, List.map_append, Ledger.afterAll_append]
          rfl

/-- A document that is filled in a run that reserves changes the ledger by the tokens that had no
reservation. -/
theorem run_unbound
    {v w : Value}
    (h : outcome ((k.pass .reserve).run v) l = (.ok w, l')) :
    ∃ notes, l' =
      (l.afterAll ((k.unbound l ((k.tokensOf v).map Reference.text)).map
        (Call.reserving k))).withNotes notes := by
  obtain ⟨memo, hasked, -⟩ := asked_of_run h
  exact asked_unbound (fun r hr => serves_of_mem_tokensOf hr) (fun r hr => parse?_of_mem_tokensOf hr)
    (Pass.nodup_tokensOf _ v) hasked

/-- The tokens of a document that have no reservation in an inventory, in the order of their
first places. -/
def newTokens (k : ReservedKind) (inv : Inventory) (v : Value) : List String :=
  ((k.tokensOf v).map Reference.text).filter fun t => t ∉ tokens (k.entries inv.reserved)

end ReservedKind

namespace Ledger

variable {inv : Inventory} {v v' w w' filled filled' : Value} {mid mid' l l' : Ledger}

/-- The calls that reserve the new tokens of a document. -/
def newCalls (inv : Inventory) (v : Value) : List Call :=
  (ReservedKind.vmid.newTokens inv v).map (Call.reserving .vmid) ++
    (ReservedKind.ip.newTokens inv v).map (Call.reserving .ip)

/-- A run that reserves leaves the ledger as the calls for the new tokens do, up to the notes. -/
theorem eq_newCalls
    (hvmids : outcome ((ReservedKind.vmid.pass .reserve).run v) (start inv) = (.ok filled, mid))
    (hips : outcome ((ReservedKind.ip.pass .reserve).run filled) mid = (.ok w, l)) :
    ∃ notes, l = ((start inv).afterAll (newCalls inv v)).withNotes notes := by
  obtain ⟨notes, hmid⟩ := ReservedKind.run_unbound hvmids
  obtain ⟨notes', hlast⟩ := ReservedKind.run_unbound hips
  obtain ⟨hreserves, rfl⟩ := ReservedKind.run_reserve hvmids
  have hfirst : ReservedKind.vmid.unbound (start inv)
      ((ReservedKind.vmid.tokensOf v).map Reference.text) = ReservedKind.vmid.newTokens inv v := by
    rw [ReservedKind.unbound, book_start, ReservedKind.newTokens]
  have hsecond : ReservedKind.ip.unbound mid ((ReservedKind.ip.tokensOf
      (ReservedKind.vmid.fill mid v)).map Reference.text) = ReservedKind.ip.newTokens inv v := by
    rw [ReservedKind.unbound, ReservedKind.tokensOf_fill, hreserves.others .ip (by decide),
      book_start, ReservedKind.newTokens]
  rw [hfirst] at hmid
  rw [hsecond, hmid] at hlast
  obtain ⟨notes'', hnotes⟩ := Call.afterAll_withNotes
    ((ReservedKind.ip.newTokens inv v).map (Call.reserving .ip))
    ((start inv).afterAll ((ReservedKind.vmid.newTokens inv v).map (Call.reserving .vmid))) notes
  refine ⟨notes', ?_⟩
  rw [hlast, hnotes, newCalls, afterAll_append]
  rfl

end Ledger
end Homelab
