import Homelab.Proofs.Resolution.AllServed

/-!
# Reservations by the texts of their tokens

A ledger keeps a reservation under the text of its token, not under what the token stands for.
Since a token for a number or an address may have a line end behind it, there are two texts for
each of them, and these two can hold a reservation each.  There is no other way for one number
or address to be held twice.
-/

namespace Homelab

open Reservation Reference

namespace Ledger

variable {inv : Inventory} {l : Ledger}

theorem Over.sound
    {data : Value}
    (hinv : Inventory.ofValue data = .ok inv)
    (h : Over inv l) :
    l.Sound := by
  induction h with
  | start => exact sound_start hinv
  | call h ih => exact ih.change (change_after _ _)
  | settled h ih => exact ⟨ih.wellFormed, ih.valid⟩

/-- A reservation of a ledger is known by its token. -/
theorem Sound.eq_of_token_eq
    {k : ReservedKind} {e e' : Reservation k.Bound}
    (h : l.Sound)
    (he : e ∈ (k.book l).live)
    (he' : e' ∈ (k.book l).live)
    (htoken : e.token = e'.token) :
    e = e' := by
  rw [ReservedKind.live_book] at he he'
  exact List.inj_on_of_nodup_map (ReservedKind.lawful h.valid).tokens_nodup he he' htoken

/-- A text is a token for a number or an address exactly if it is spelled as one, or so and with a
line end behind it.  Of two tokens for one number or address the texts, and the reservations that
a ledger holds under them, are the same exactly if both or none of them end a line. -/
theorem tokens_spelled_and_held
    {data : Value}
    (hinv : Inventory.ofValue data = .ok inv)
    (hl : Over inv l) :
    (∀ s kind label, (∃ r, parse? s = some r ∧ r.target = .machine kind label) ↔
      IsLabel label ∧
        (s = kind.name ++ ":id:" ++ label ∨ s = kind.name ++ ":id:" ++ label ++ "\n")) ∧
    (∀ s network label, (∃ r, parse? s = some r ∧ r.target = .address network label) ↔
      IsLabel network ∧ IsLabel label ∧
        (s = "ip:" ++ network ++ ":" ++ label ∨ s = "ip:" ++ network ++ ":" ++ label ++ "\n")) ∧
    (∀ s s', SameAllocated s s' → (s = s' ↔ (EndsLine s ↔ EndsLine s'))) ∧
    ∀ k : ReservedKind, ∀ e ∈ (k.book l).live, ∀ e' ∈ (k.book l).live,
      SameAllocated e.token e'.token → (e = e' ↔ (EndsLine e.token ↔ EndsLine e'.token)) := by
  refine ⟨fun s kind label => exists_machine_iff, fun s network label => exists_address_iff,
    fun s s' h => h.eq_iff, fun k e he e' he' h => ?_⟩
  rw [← h.eq_iff]
  constructor
  · intro heq
    rw [heq]
  · exact (hl.sound hinv).eq_of_token_eq he he'

/-- Calls that reserve a machine number for one label, without a line end and with it. -/
def sampleLabelTwice : Ledger :=
  ((start (sampleInventory (.int 1))).after ⟨.vmid, .reserve, "vm", "vm:id:web"⟩).after
    ⟨.vmid, .reserve, "vm", "vm:id:web\n"⟩

theorem tokens_spelled_and_held_sample :
    (∀ e ∈ (ReservedKind.vmid.book sampleLabelTwice).live,
      ∀ e' ∈ (ReservedKind.vmid.book sampleLabelTwice).live,
      SameAllocated e.token e'.token → (e = e' ↔ (EndsLine e.token ↔ EndsLine e'.token))) ∧
    SameAllocated "vm:id:web" "vm:id:web\n" ∧
    pairs sampleLabelTwice.inventory.reserved.vmids = [("vm:id:web", 100), ("vm:id:web\n", 101)] :=
  ⟨(tokens_spelled_and_held (ofValue_sampleDocument (.int 1)) (.call (.call .start))).2.2.2 .vmid,
    ⟨⟨"vm:id:web", .machine .vm "web"⟩, ⟨"vm:id:web\n", .machine .vm "web"⟩, by decide, by decide,
      rfl, rfl⟩, by decide +kernel⟩

/-- A token with a line end behind it is read although it is not spelled so, and one label holds
two numbers. -/
theorem label_held_twice :
    Inventory.ofValue (sampleDocument (.int 1)) = .ok (sampleInventory (.int 1)) ∧
    parse? "vm:id:web\n" = some ⟨"vm:id:web\n", .machine .vm "web"⟩ ∧
    "vm:id:web\n" ≠ GuestKind.vm.name ++ ":id:" ++ "web" ∧
    parse? "vm:id:web" = some ⟨"vm:id:web", .machine .vm "web"⟩ ∧
    pairs sampleLabelTwice.inventory.reserved.vmids = [("vm:id:web", 100), ("vm:id:web\n", 101)] :=
  ⟨ofValue_sampleDocument (.int 1), by decide, by decide, by decide, by decide +kernel⟩

end Ledger
end Homelab
