import Homelab.Proofs.Ledger.Sequence
import Homelab.Proofs.Resolution.NewTokens

/-!
# Tokens are served in their order

A pass that reserves asks for each token of a document once, in the order of their first
places.  A token that has a reservation is told its value.  The others are given the values of
the supply that their name has before the pass, the first token the first value, and so on, and
the pass fails at the first token whose supply is used up.

The supplies of different names must not get in each other's way: the ranges of the two kinds
of guests have no number in common, and a document may ask for addresses of one network.
-/

namespace Homelab

open Reservation

namespace ReservedKind

/-- Names of ranges that can be handed out and have no value in common. -/
structure Sources (k : ReservedKind) (inv : Inventory) (names : List String) : Prop where
  known : ∀ name ∈ names, k.Knows inv name
  apart : ∀ name ∈ names, ∀ other ∈ names, name ≠ other →
    ∀ x ∈ k.range inv name, x ∉ k.range inv other

/-- Of some tokens those without a reservation that ask under a name, in their order. -/
def newUnder (k : ReservedKind) (l : Ledger) (ts : List String) (name : String) : List String :=
  (k.unbound l ts).filter fun t => Call.nameIn t = name

/-- The new tokens of a name are bound to the values of its supply, in their order. -/
def GivenInOrder (k : ReservedKind) (l l' : Ledger) (ts : List String) (name : String) : Prop :=
  ∀ (i : Nat) (t : String), (k.newUnder l ts name)[i]? = some t →
    ∃ value x, find? t (k.book l').live = some ⟨value, t, []⟩ ∧ k.read? value = some x ∧
      (k.supply l.inventory name)[i]? = some x

variable {k : ReservedKind} {l l' : Ledger} {names ts : List String} {name token : String}
  {memo : Memo} {rs : List Reference}

/-! ### One token -/

theorem newUnder_cons_of_bound
    (h : token ∈ tokens (k.book l).live) :
    k.newUnder l (token :: ts) name = k.newUnder l ts name := by
  rw [newUnder, unbound, List.filter_cons_of_neg (by simpa using h)]
  rfl

theorem newUnder_cons_self
    (h : token ∉ tokens (k.book l).live) :
    k.newUnder l (token :: ts) (Call.nameIn token) =
      token :: k.newUnder l ts (Call.nameIn token) := by
  rw [newUnder, unbound, List.filter_cons_of_pos (by simpa using h),
    List.filter_cons_of_pos (by simp)]
  rfl

namespace Gift

variable {value : k.Bound} {x : k.Thing} {rest : List k.Thing}

end Gift

/-! ### All tokens -/

/-- How it ends to ask for tokens one after another: all are served in their order, or the
supply of a name is too short for its new tokens. -/
def EndsGreedily (k : ReservedKind) (l : Ledger) (names ts : List String)
    (ends : Except (Failure × Ledger) (Memo × Ledger)) : Prop :=
  (∃ memo' l', ends = .ok (memo', l') ∧ ∀ name ∈ names, k.GivenInOrder l l' ts name) ∨
    ∃ name ∈ names, ∃ l', ends = .error (k.noneLeft name, l') ∧
      (k.supply l.inventory name).length < (k.newUnder l ts name).length

section EndsGreedily

variable {ends : Except (Failure × Ledger) (Memo × Ledger)}

/-- A token that has a reservation is told its value, which changes neither the supplies nor the
new tokens. -/
theorem EndsGreedily.told
    {a : Allocated}
    (hbound : token ∈ tokens (k.book l).live)
    (h : EndsGreedily k (l.note token a) names ts ends) :
    EndsGreedily k l names (token :: ts) ends := by
  have hsame : ∀ name, k.newUnder (l.note token a) ts name = k.newUnder l (token :: ts) name := by
    intro name
    rw [newUnder_cons_of_bound hbound, newUnder, unbound, book_note]
    rfl
  simp only [EndsGreedily, GivenInOrder, hsame] at h ⊢
  exact h

/-- A token whose supply is used up is one too many. -/
theorem EndsGreedily.refused
    (hnew : token ∉ tokens (k.book l).live)
    (hname : Call.nameIn token ∈ names)
    (hsupply : k.supply l.inventory (Call.nameIn token) = []) :
    EndsGreedily k l names (token :: ts) (.error (k.noneLeft (Call.nameIn token), l)) := by
  refine .inr ⟨_, hname, l, rfl, ?_⟩
  rw [hsupply, newUnder_cons_self hnew]
  simp

end EndsGreedily

theorem GivenInOrder.length_le
    (h : k.GivenInOrder l l' ts name) :
    (k.newUnder l ts name).length ≤ (k.supply l.inventory name).length := by
  by_contra hlong
  have hlast : (k.supply l.inventory name).length < (k.newUnder l ts name).length := by omega
  obtain ⟨value, x, -, -, hx⟩ := h _ _ (List.getElem?_eq_getElem hlast)
  simp at hx

end ReservedKind

/-! ### The whole pass -/

namespace Value

/-- The part of a document that a walk comes to. -/
def reached [DepthLimits] (v : Value) : Value := (v.front (DepthLimits.walking - 1)).1

/-- The tokens that a walk comes to are the first ones of the document, and all of them if the
walk comes to its end. -/
theorem references_reached [DepthLimits]
    (v : Value) :
    v.reached.references <+: v.references ∧
      (v.IsWalked → v.reached.references = v.references) := by
  obtain ⟨⟨more, hmore⟩, hwhole⟩ := v.texts_front (DepthLimits.walking - 1)
  rw [references_eq, references_eq]
  constructor
  · rw [← hmore, List.flatMap_append]
    exact List.prefix_append _ _
  · intro hwalked
    rw [reached, hwhole hwalked]

end Value

namespace ReservedKind

variable {k : ReservedKind} {l : Ledger} {names : List String} {v : Value}

variable {l' : Ledger} {ts : List String} {name : String} {w : Value}

end ReservedKind

namespace Ledger

open ReservedKind

end Ledger

theorem front_nested
    {n m : Nat}
    (h : m ≤ n) :
    ∃ walked, (nested n).front m = (walked, false) := by
  induction m generalizing n with
  | zero => cases n <;> exact ⟨_, rfl⟩
  | succ m ih =>
      cases n with
      | zero => omega
      | succ n =>
          obtain ⟨walked, hinner⟩ := @ih n (by omega)
          exact ⟨.list [walked], by simp [nested, Value.front, Value.frontItems, hinner]⟩

namespace Ledger

open ReservedKind

end Ledger
end Homelab
