import Homelab.Proofs.ModuleRun.Secrets
import Homelab.Proofs.Reference.Beginning

/-!
# No token is left

The passes before those that ask the ledger may bring in any text.  So the two that ask
come last: the one puts a number in the place of every token for a machine number, and the
other an address in the place of every token for an address.  Neither makes a new token,
since a number is no text, and what is handed out as an address is the text of an interface,
which begins with a digit or a colon.  A ledger hands out nothing else, whatever calls it has
had since its inventory was read.

In the end none of the texts that are walked is such a token.  Keys of mappings and members
of sets are not walked, and stay what they are.
-/

namespace Homelab

open Reservation

/-! ### What a ledger hands out -/

namespace Book

variable {α β : Type} {read : α → Option β} {given : α → Prop} {taken : List β}
  {b b' : Book α} {mode : Ledger.Mode}

/-- What is said of all entries that hold or have been released. -/
structure All (P : Reservation α → Prop) (b : Book α) : Prop where
  live : ∀ e ∈ b.live, P e
  removed : ∀ e ∈ b.removed, P e

theorem Move.all
    {P : Reservation α → Prop}
    (hmove : Move read given taken b mode b')
    (hplain : ∀ value token, given value → P ⟨value, token, []⟩)
    (h : b.All P) :
    b'.All P := by
  refine ⟨hmove.forall_live hplain h.live, ?_⟩
  cases hmove with
  | told => exact h.removed
  | reserved hnew hgiven hread htaken hfree => exact h.removed
  | released hfirst hfind =>
      intro e he
      rcases List.mem_append.mp he with he | he
      · exact h.removed e he
      · rw [List.mem_singleton.mp he]
        exact h.live _ (mem_of_find?_eq_some hfind).1

end Book

namespace Ledger

/-- A ledger over an inventory: since the inventory was read it has had calls of any sort,
and its changes may have been committed in between. -/
inductive Over (inv : Inventory) : Ledger → Prop where
  | start : Over inv (start inv)
  | call {l : Ledger} {c : Call}
      (h : Over inv l) : Over inv (l.after c)
  | settled {l : Ledger}
      (h : Over inv l) : Over inv l.settled

/-- All addresses that are reserved or have been released are texts of interfaces. -/
def IsReadable (l : Ledger) : Prop :=
  l.ipBook.All fun e => IsInterface e.value

variable {l : Ledger}

theorem IsReadable.after
    (h : l.IsReadable)
    (c : Call) :
    (l.after c).IsReadable :=
  (change_after l c).ips.all (fun _ _ hgiven => hgiven) h

theorem Over.isReadable
    {v : Value} {inv : Inventory}
    (hinv : Inventory.ofValue v = .ok inv)
    (h : Over inv l) :
    l.IsReadable := by
  induction h with
  | start =>
      have hips := (Inventory.wellFormed_of_ofValue hinv).reserved.ips
      exact ⟨fun e he => (hips e he).ip, fun e he => by cases he⟩
  | call h ih => exact ih.after _
  | settled h ih => exact ⟨ih.live, fun e he => by cases he⟩

end Ledger

/-- None of the texts of a value is a token for a number or an address. -/
def Value.IsSpent (v : Value) : Prop :=
  ∀ s ∈ v.texts, ∀ r, Reference.parse? s = some r → r.target.isAllocated = false

/-- What a readable ledger hands out is no token. -/
theorem Call.Served.isSpent
    {c : Call} {l next : Ledger} {a : Allocated}
    (h : c.Served l a next)
    (hl : l.IsReadable)
    (hnext : next.IsReadable) :
    a.value.IsSpent := by
  obtain ⟨kind, mode, name, token⟩ := c
  cases kind with
  | vmid => cases h <;> exact fun s hs => by cases hs
  | ip =>
      have hspent : ∀ text, IsInterface text → (Allocated.ip text).value.IsSpent := by
        intro text htext s hs r hr
        obtain rfl := List.mem_singleton.mp hs
        rw [Reference.parse?_of_isInterface htext] at hr
        cases hr
      cases h with
      | told _ found => exact hspent _ (hl.live _ (mem_of_find?_eq_some found).1)
      | reserved _ isNew =>
          refine hspent _ (hnext.live ⟨_, token, []⟩ ?_)
          simp [ReservedKind.withBook, Ledger.ipBook, Ledger.note, Inventory.withReservations]
      | released _ _ found => exact hspent _ (hl.live _ (mem_of_find?_eq_some found).1)
      | again _ found => exact hspent _ (hl.removed _ (mem_of_find?_eq_some found).1)

/-! ### What a pass leaves -/

namespace ReservedKind

variable {k : ReservedKind} {mode : Ledger.Mode} {v w : Value} {l l' : Ledger}

/-- A lookup of a readable ledger gives a value that is no token, and leaves the ledger
readable. -/
theorem isSpent_of_lookup
    {r : Reference} {found : Option Value}
    (hserves : k.serves r.target = true)
    (hl : l.IsReadable)
    (h : Meaning.plain.ending ((k.pass mode).lookup r) l = .ok (found, l')) :
    l'.IsReadable ∧ ∃ value, found = some value ∧ value.IsSpent := by
  obtain ⟨name, hlookup⟩ := ending_lookup hserves mode
  rw [hlookup] at h
  cases hcall : Meaning.plain.ending (Call.perform ⟨k, mode, name, r.text⟩) l with
  | error e =>
      rw [hcall] at h
      cases h
  | ok answer =>
      obtain ⟨a, next⟩ := answer
      rw [hcall] at h
      obtain ⟨rfl, rfl⟩ := Prod.mk.inj (Except.ok.inj h)
      have houtcome := Meaning.plain_eq_ok_iff.mp hcall
      have hnext : next.IsReadable := by
        have := hl.after ⟨k, mode, name, r.text⟩
        rwa [Ledger.after, houtcome] at this
      exact ⟨hnext, a.value, rfl, (Call.served houtcome).isSpent hl hnext⟩

/-- After the pass of a kind a text was there before and is no token of the kind, or it is
no token for a number or an address at all. -/
theorem mem_texts_of_run
    (hl : l.IsReadable)
    (h : outcome ((k.pass mode).run v) l = (.ok w, l')) :
    l'.IsReadable ∧ ∀ s ∈ w.texts,
      (s ∈ v.texts ∧ ∀ r, Reference.parse? s = some r → k.serves r.target = false) ∨
        ∀ r, Reference.parse? s = some r → r.target.isAllocated = false := by
  obtain ⟨memo, hasked, rfl⟩ :=
    Pass.asked_of_run (k.thorough_pass mode) (Meaning.plain_eq_ok_iff.mpr h)
  obtain ⟨hl', hspent⟩ := Pass.forall_of_askEach (P := Ledger.IsReadable)
    (Q := fun found => ∃ value, found = some value ∧ value.IsSpent)
    (fun r hr s found s' hs hfound => isSpent_of_lookup
      (serves_of_mem_tokensOf (by rwa [tokensOf_pass] at hr)) hs hfound) hasked hl (by simp)
  refine ⟨hl', fun s hs => ?_⟩
  rw [TokenTable.texts_rewrite, List.mem_flatMap] at hs
  obtain ⟨t, ht, hs⟩ := hs
  by_cases hserves : ∃ r, Reference.parse? t = some r ∧ k.serves r.target = true
  · obtain ⟨r, hr, hserves⟩ := hserves
    have hmem : r ∈ (k.pass mode).tokensOf v := by
      rw [tokensOf_pass]
      exact mem_tokensOf_of_parse? ht hr hserves
    have hknown : (List.lookup r.text memo).isSome := by
      rw [Pass.isSome_lookup_iff, Pass.known_of_askEach hasked]
      simpa using ⟨r, hmem, rfl⟩
    obtain ⟨found, hfound⟩ := Option.isSome_iff_exists.mp hknown
    obtain ⟨before, after, rfl, -⟩ := List.lookup_eq_some_iff.mp hfound
    obtain ⟨value, rfl, hvalue⟩ := hspent (r.text, found) (by simp)
    rw [TokenTable.text, hr] at hs
    simp only [serves_pass, hserves, if_true, Memo.table, hfound, Option.join_some,
      Option.getD_some] at hs
    exact .inr (hvalue s hs)
  · have hnone : ∀ r, Reference.parse? t = some r → k.serves r.target = false := by
      intro r hr
      rw [Bool.eq_false_iff]
      exact fun hyes => hserves ⟨r, hr, hyes⟩
    rw [TokenTable.text_eq_self (by rw [serves_pass]; exact unserved_of_parse? hnone)] at hs
    obtain rfl := List.mem_singleton.mp hs
    exact .inl ⟨ht, hnone⟩

end ReservedKind

/-! ### What all passes leave -/

theorem Target.isAllocated_of_not_serves
    {t : Target}
    (h : ∀ k : ReservedKind, k.serves t = false) :
    t.isAllocated = false := by
  cases t with
  | machine kind label => exact absurd (h .vmid) Bool.true_eq_false.mp
  | address network label => exact absurd (h .ip) Bool.true_eq_false.mp
  | secret | inventory | config | hostAddress => rfl

namespace Ledger

variable {mode : Mode} {l l' : Ledger} {v w : Value}

/-- After the passes that ask a readable ledger no text is a token for a number or an
address. -/
theorem IsReadable.isSpent
    (hl : l.IsReadable)
    (h : outcome (Value.fillVmids (registry mode) v >>= Value.fillIps (registry mode)) l =
      (.ok w, l')) :
    w.IsSpent := by
  obtain ⟨filled, mid, hvmids, hips⟩ := outcome_bind_eq_ok.mp h
  obtain ⟨hmid, hfirst⟩ := ReservedKind.mem_texts_of_run (k := .vmid) hl hvmids
  obtain ⟨-, hsecond⟩ := ReservedKind.mem_texts_of_run (k := .ip) hmid hips
  intro s hs r hr
  rcases hsecond s hs with ⟨hfilled, hip⟩ | hspent
  · rcases hfirst s hfilled with ⟨-, hvmid⟩ | hspent
    · refine Target.isAllocated_of_not_serves fun k => ?_
      cases k with
      | vmid => exact hvmid r hr
      | ip => exact hip r hr
    · exact hspent r hr
  · exact hspent r hr

/-- Whatever the secrets, the inventory's values and the document are: when all passes have
come to their end over a ledger of an inventory that was read, no text of the result outside
of keys and sets is a token for a machine number or an address. -/
theorem no_allocation_left
    {data : Value} {inv : Inventory} {root : Option Value} {secrets : Option (List Value)}
    (hinv : Inventory.ofValue data = .ok inv)
    (hl : Over inv l)
    (h : outcome (Value.resolve ⟨root, secrets, some (registry mode), none⟩ v) l = (.ok w, l')) :
    ∀ s ∈ w.texts, ∀ r, Reference.parse? s = some r → r.target.isAllocated = false := by
  rw [Value.resolve_registry] at h
  obtain ⟨filled, next, hbefore, hasked⟩ := outcome_bind_eq_ok.mp h
  obtain rfl := Value.state_of_resolve hbefore
  exact (hl.isReadable hinv).isSpent hasked

/-- A token that the vault brings in is served, too. -/
theorem no_allocation_left_sample :
    ∃ w l', outcome (Value.resolve ⟨some (sampleInventory (.int 1)).toValue,
        some [ModuleRun.secretItem "vm:id:web"], some (registry .reserve), none⟩
        (moduleDocument (.str "vault:web.id"))) (start (sampleInventory (.int 1))) =
          (.ok w, l') ∧
      ∀ s ∈ w.texts, ∀ r, Reference.parse? s = some r → r.target.isAllocated = false := by
  have hrun := ModuleRun.outcome_resolve_secretRun (r := ⟨"vm:id:web", .machine .vm "web"⟩)
    (by decide) rfl
  exact ⟨_, _, hrun, no_allocation_left (ofValue_sampleDocument (.int 1)) .start hrun⟩

end Ledger

/-! ### Keys and sets -/

/-- The texts among some scalars. -/
def Scalar.text? : Scalar → Option String
  | .str s => some s
  | _ => none

namespace Value

mutual

/-- All texts of a value, those in keys and sets included. -/
def strings : Value → List String
  | .scalar s => s.text?.toList
  | .list items => itemStrings items
  | .map entries => entryStrings entries
  | .set members => members.filterMap Scalar.text?

/-- All texts of the members of a list. -/
def itemStrings : List Value → List String
  | [] => []
  | v :: rest => strings v ++ itemStrings rest

/-- All texts of the entries of a mapping. -/
def entryStrings : List (Scalar × Value) → List String
  | [] => []
  | (k, v) :: rest => k.text?.toList ++ strings v ++ entryStrings rest

end

end Value

namespace Ledger

/-- A key and a member of a set are left although they are tokens for a machine number and
for an address. -/
theorem tokens_left_in_keys :
    Inventory.ofValue (sampleDocument (.int 1)) = .ok (sampleInventory (.int 1)) ∧
    ∃ w, outcome (Value.resolve
        ⟨some (sampleDocument (.int 1)), none, some (registry .reserve), none⟩
        (.map [(.str "vm:id:web", .set [.str "ip:lan:web"])]))
        (start (sampleInventory (.int 1))) = (.ok w, start (sampleInventory (.int 1))) ∧
      w.strings = ["vm:id:web", "ip:lan:web"] ∧
      ∀ s ∈ w.strings, ∃ r, Reference.parse? s = some r ∧ r.target.isAllocated = true := by
  have hroot : outcome ((some (sampleDocument (.int 1))).mapM
      (Value.fillWith none Value.fillSecrets) : Run _) (start (sampleInventory (.int 1))) =
        (.ok (some (sampleDocument (.int 1))), start (sampleInventory (.int 1))) := rfl
  refine ⟨ofValue_sampleDocument _, _, Value.outcome_resolve_of_no_references rfl hroot, rfl, ?_⟩
  decide

end Ledger

end Homelab
