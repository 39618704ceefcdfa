import Homelab.Proofs.Resolution.AllServed
import Homelab.Proofs.Resolution.HostAddress
import Homelab.Proofs.Resolution.Rerun

/-!
# Running again on what came out

A pass that looks up puts in what it has found as it is.  What it has found may be such a token
itself, and is looked up only when the pass is run again.  So the same document comes out of a
second run exactly if all that was put in by the first stays as it is.

The passes that ask a ledger give numbers and addresses, none of which is a token for one.  They
leave their own result alone, and so a second run of all passes depends on the others: the same
document comes out exactly if each of its texts comes back from the lookups and the build host on
its own, without a token for the ledger on the way.  That the ledger puts an address in the place
of a token is nothing that the others can undo, since none of them changes how the text of an
address begins.
-/

namespace Homelab

open Reservation

/-! ### Texts that come back -/

namespace TokenTable

/-- A table of texts makes texts of texts. -/
theorem exists_str_of_text
    {table : TokenTable} {serves : Target → Bool} {inLongerTexts : Bool}
    (h : ∀ text v, table text = some v → ∃ t, v = .str t)
    (s : String) :
    ∃ t, table.text serves inLongerTexts s = .str t := by
  unfold TokenTable.text
  split
  · rename_i r _
    split
    · cases hfound : table r.text with
      | none => exact ⟨s, rfl⟩
      | some v => exact h r.text v hfound
    · exact ⟨s, rfl⟩
  · split <;> exact ⟨_, rfl⟩

/-- Only a text is rewritten to a text. -/
theorem eq_str_of_rewrite
    {f : String → Value} {v : Value} {s : String}
    (h : rewrite f v = .str s) :
    ∃ t, v = .str t ∧ f t = .str s := by
  cases v with
  | scalar a =>
      cases a with
      | str t => exact ⟨t, rfl, h⟩
      | _ => cases h
  | _ => cases h

end TokenTable

namespace Value

/-- What a step puts in the place of a text has only texts that the step leaves alone. -/
def Lasting (f : Value → Except Failure Value) (v : Value) : Prop :=
  ∀ s ∈ v.texts, ∀ x, f (.str s) = .ok x → x ≠ .str s → ∀ t ∈ x.texts, f (.str t) = .ok (.str t)

namespace Textwise

variable {f : Value → Except Failure Value} {v w : Value}

/-- The result of a step is left alone by the same step exactly if what was put in is. -/
theorem again_iff
    (hf : Textwise f)
    (h : f v = .ok w) :
    f w = .ok w ↔ v.Lasting f := by
  obtain ⟨x, hx, rfl⟩ := (hf v w).mp h
  rw [hf.eq_self_iff]
  constructor
  · intro hleft s hs y hy _ t ht
    obtain rfl : x s = y := Except.ok.inj ((hx s hs).symm.trans hy)
    refine hleft t ?_
    rw [TokenTable.texts_rewrite]
    exact List.mem_flatMap.mpr ⟨s, hs, ht⟩
  · intro hlasting t ht
    rw [TokenTable.texts_rewrite, List.mem_flatMap] at ht
    obtain ⟨s, hs, ht⟩ := ht
    by_cases hsame : x s = .str s
    · rw [hsame] at ht
      obtain rfl := List.mem_singleton.mp ht
      rw [hx t hs, hsame]
    · exact hlasting s hs (x s) (hx s hs) hsame t ht

/-- Only a text comes to a text. -/
theorem exists_str
    (hf : Textwise f)
    {s : String}
    (h : f v = .ok (.str s)) :
    ∃ t, v = .str t := by
  obtain ⟨x, -, hrewrite⟩ := (hf v _).mp h
  obtain ⟨t, rfl, -⟩ := TokenTable.eq_str_of_rewrite hrewrite.symm
  exact ⟨t, rfl⟩

/-- Where texts come to texts a document can be walked as before. -/
theorem isWalked [DepthLimits]
    (hf : Textwise f)
    (h : f v = .ok w)
    (hv : v.IsWalked)
    (hstr : ∀ s ∈ v.texts, ∀ x, f (.str s) = .ok x → ∃ t, x = .str t) :
    w.IsWalked := by
  obtain ⟨x, hx, rfl⟩ := (hf v w).mp h
  refine (TokenTable.isWalked_rewrite fun s hs => ?_).mpr hv
  obtain ⟨t, ht⟩ := hstr s hs _ (hx s hs)
  exact ⟨.str t, ht⟩

/-- On the way to a text there are texts only. -/
theorem isWalked_between [DepthLimits]
    {g : Value → Except Failure Value}
    (hf : Textwise f)
    (hg : Textwise g)
    (h : f v = .ok w)
    (hv : v.IsWalked)
    (hstr : ∀ s ∈ v.texts, ∀ x, f (.str s) = .ok x → ∃ t, g x = .ok (.str t)) :
    w.IsWalked := by
  refine hf.isWalked h hv fun s hs x hx => ?_
  obtain ⟨t, ht⟩ := hstr s hs x hx
  exact hg.exists_str ht

/-- A result has tokens for a ledger only where a text comes to one. -/
theorem isSpent
    (hf : Textwise f)
    (h : f v = .ok w)
    (hspent : ∀ s ∈ v.texts, ∀ x, f (.str s) = .ok x → x.IsSpent) :
    w.IsSpent := by
  obtain ⟨x, hx, rfl⟩ := (hf v w).mp h
  intro t ht
  rw [TokenTable.texts_rewrite, List.mem_flatMap] at ht
  obtain ⟨s, hs, ht⟩ := ht
  exact hspent s hs _ (hx s hs) t ht

end Textwise

/-- The vault gives texts. -/
theorem exists_str_of_fillSecrets
    {secrets : List Value} {s : String} {x : Value}
    (h : fillSecrets secrets (.str s) = (.ok x : Except Failure Value)) :
    ∃ t, x = .str t := by
  obtain ⟨-, rfl⟩ :=
    (Pass.run_str_eq_ok_iff (Pass.thorough_vault secrets) (Pass.findsBy_vault secrets)).mp h
  refine TokenTable.exists_str_of_text (fun text found hfound => ?_) s
  obtain ⟨r, -, hfound⟩ := Option.bind_eq_some_iff.mp hfound
  unfold Pass.secretAt? at hfound
  grind

/-- The build host has a text for an address. -/
theorem exists_str_of_fillHostAddress
    {host : Option (Except Failure String)} {s : String} {x : Value}
    (h : fillWith host fillHostAddress (.str s) = (.ok x : Except Failure Value)) :
    ∃ t, x = .str t := by
  cases host with
  | none => exact ⟨s, (Except.ok.inj h).symm⟩
  | some answer =>
      obtain ⟨-, rfl⟩ := fillHostAddress_eq_ok_iff.mp h
      rw [TokenTable.rewrite]
      refine TokenTable.exists_str_of_text (fun text found hfound => ?_) s
      obtain ⟨r, -, hfound⟩ := Option.bind_eq_some_iff.mp hfound
      obtain ⟨address, -, rfl⟩ := Option.map_eq_some_iff.mp hfound
      exact ⟨address, rfl⟩

/-! ### Texts that do not begin like tokens -/

/-- A table leaves alone how such a text begins. -/
theorem text_of_beginsPlain
    {table : TokenTable} {serves : Target → Bool} {s : String}
    (hs : Reference.BeginsPlain s.toList) :
    ∃ t, table.text serves true s = .str t ∧ Reference.BeginsPlain t.toList := by
  simp only [TokenTable.text, hs.parse?_eq_none, if_true]
  refine ⟨_, rfl, ?_⟩
  rw [String.toList_ofList]
  exact hs.pieces fun c => rfl

/-- A step makes no token of a text that does not begin like one. -/
def KeepsPlain (f : Value → Except Failure Value) : Prop :=
  ∀ s x, Reference.BeginsPlain s.toList → f (.str s) = .ok x →
    ∃ t, x = .str t ∧ Reference.BeginsPlain t.toList

theorem KeepsPlain.bind
    {f g : Value → Except Failure Value}
    (hf : KeepsPlain f)
    (hg : KeepsPlain g) :
    KeepsPlain fun v => f v >>= g := by
  intro s x hs h
  cases hfirst : f (.str s) with
  | error e =>
      simp only [hfirst] at h
      cases h
  | ok y =>
      simp only [hfirst] at h
      obtain ⟨t, rfl, ht⟩ := hf s y hs hfirst
      exact hg t x ht h

theorem KeepsPlain.fillWith
    {α : Type} {source : Option α} {step : α → Value → Except Failure Value}
    (h : ∀ a, KeepsPlain (step a)) :
    KeepsPlain (Value.fillWith source step) := by
  cases source with
  | none => exact fun s x hs hx => ⟨s, (Except.ok.inj hx).symm, hs⟩
  | some a => exact h a

theorem keepsPlain_run
    {p : Pass (Except Failure)} {find : Reference → Option Value}
    (hp : p.Thorough)
    (hf : p.FindsBy find) :
    KeepsPlain p.run := by
  intro s x hs h
  obtain ⟨-, rfl⟩ := (Pass.run_str_eq_ok_iff hp hf).mp h
  exact text_of_beginsPlain hs

theorem keepsPlain_fillHostAddress
    (answer : Except Failure String) :
    KeepsPlain (fillHostAddress answer) := by
  intro s x hs h
  obtain ⟨-, rfl⟩ := fillHostAddress_eq_ok_iff.mp h
  rw [TokenTable.rewrite]
  exact text_of_beginsPlain hs

end Value

/-! ### The passes that ask a ledger -/

namespace ReservedKind

variable {k : ReservedKind} {v w : Value} {l l' : Ledger} {s t : String}

/-- A text that is filled in is one that was there, or an entry holds it for a token. -/
theorem eq_or_held_of_text
    (h : (k.table l).text k.serves true t = .str s) :
    t = s ∨ (Reference.parse? t).isSome ∧
      ∃ e ∈ (k.book l).live, (k.allocated e.value).value = .str s := by
  by_cases hserves : ∃ r, Reference.parse? t = some r ∧ k.serves r.target = true
  · obtain ⟨r, hr, hserves⟩ := hserves
    simp only [TokenTable.text, hr, hserves, if_true, table] at h
    cases hfind : find? r.text (k.book l).live with
    | none =>
        rw [hfind] at h
        exact .inl (Scalar.str.inj (Value.scalar.inj h))
    | some e =>
        rw [hfind] at h
        exact .inr ⟨by rw [hr]; rfl, e, (mem_of_find?_eq_some hfind).1, h⟩
  · have hnone : ∀ r, Reference.parse? t = some r → k.serves r.target = false := by
      intro r hr
      rw [Bool.eq_false_iff]
      exact fun hyes => hserves ⟨r, hr, hyes⟩
    rw [TokenTable.text_eq_self (unserved_of_parse? hnone)] at h
    exact .inl (Scalar.str.inj (Value.scalar.inj h))

/-- What is filled in are single values. -/
theorem isWalked_fill [DepthLimits] :
    (k.fill l v).IsWalked ↔ v.IsWalked := by
  refine TokenTable.isWalked_rewrite fun s _ => ?_
  unfold TokenTable.text
  split
  · rename_i r _
    split
    · unfold table
      cases find? r.text (k.book l).live with
      | none => exact ⟨.str s, rfl⟩
      | some e => cases k <;> exact ⟨_, rfl⟩
    · exact ⟨.str s, rfl⟩
  · exact ⟨_, rfl⟩

/-- A document has tokens of a kind only where a text is one. -/
theorem unserved_of_texts
    (h : ∀ s ∈ v.texts, ∀ r, Reference.parse? s = some r → k.serves r.target = false)
    (mode : Ledger.Mode) :
    ∀ r ∈ v.references, (k.pass mode).serves r.target = false := by
  intro r hr
  rw [Value.references_eq, List.mem_flatMap] at hr
  obtain ⟨s, hs, hr⟩ := hr
  rw [serves_pass]
  exact unserved_of_parse? (h s hs) r hr

theorem not_serves_of_not_isAllocated
    {t : Target}
    (h : t.isAllocated = false) :
    k.serves t = false := by
  cases t <;> cases k <;> first | rfl | cases h

/-- A pass that asks a readable ledger leaves its own result alone. -/
theorem again [DepthLimits]
    (hl : l.IsReadable)
    (h : outcome (v.walkedBy (k.pass .reserve).run) l = (.ok w, l')) :
    l'.IsReadable ∧ w.IsWalked ∧
      outcome (w.walkedBy (k.pass .reserve).run) l' = (.ok w, l') := by
  obtain ⟨hwalked, -, hfill⟩ := filled_reserve h
  rw [Value.walkedBy_of_isWalked hwalked] at h
  obtain ⟨hl', hspent⟩ := mem_texts_of_run hl h
  have hwalked' : w.IsWalked := hfill ▸ isWalked_fill.mpr hwalked
  refine ⟨hl', hwalked', ?_⟩
  rw [← Meaning.plain_eq_ok_iff]
  refine Value.ending_walkedBy_of_unserved (k.thorough_pass .reserve) hwalked'
    (unserved_of_texts (fun s hs r hr => ?_) .reserve) l'
  rcases hspent s hs with ⟨-, hnone⟩ | hnone
  · exact hnone r hr
  · exact not_serves_of_not_isAllocated (hnone r hr)

end ReservedKind

namespace Ledger

variable {u w : Value} {l l' : Ledger}

/-- After the passes that ask a readable ledger the document can be walked and has none of their
tokens. -/
theorem spent_of_fillReservations [DepthLimits]
    (hl : l.IsReadable)
    (h : outcome (fillReservations .reserve u) l = (.ok w, l')) :
    l'.IsReadable ∧ w.IsWalked ∧ w.IsSpent := by
  obtain ⟨filled, mid, hvmids, hips⟩ := outcome_fillReservations.mp h
  obtain ⟨hwalked, -⟩ := ReservedKind.filled_reserve hvmids
  obtain ⟨hwalked', -⟩ := ReservedKind.filled_reserve hips
  obtain ⟨hmid, -, -⟩ := ReservedKind.again hl hvmids
  obtain ⟨hl', hresult, -⟩ := ReservedKind.again hmid hips
  rw [Value.walkedBy_of_isWalked hwalked] at hvmids
  rw [Value.walkedBy_of_isWalked hwalked'] at hips
  exact ⟨hl', hresult, hl.isSpent (outcome_bind_eq_ok.mpr ⟨filled, mid, hvmids, hips⟩)⟩

/-- Such a document is left alone by these passes. -/
theorem fillReservations_of_isSpent [DepthLimits]
    (hwalked : w.IsWalked)
    (hspent : w.IsSpent)
    (l : Ledger) :
    outcome (fillReservations .reserve w) l = (.ok w, l) := by
  have hleft : ∀ k : ReservedKind, outcome (w.walkedBy (k.pass .reserve).run) l = (.ok w, l) := by
    intro k
    rw [← Meaning.plain_eq_ok_iff]
    exact Value.ending_walkedBy_of_unserved (k.thorough_pass .reserve) hwalked
      (ReservedKind.unserved_of_texts
        (fun s hs r hr => ReservedKind.not_serves_of_not_isAllocated (hspent s hs r hr)) .reserve) l
  exact outcome_fillReservations.mpr ⟨w, l, hleft .vmid, hleft .ip⟩

/-- These passes rewrite the texts of a document.  A text is rewritten to itself, or it is a token
and becomes the text of an interface. -/
theorem rewrite_of_fillReservations [DepthLimits]
    (hl : l.IsReadable)
    (h : outcome (fillReservations .reserve u) l = (.ok w, l')) :
    ∃ f : String → Value, w = TokenTable.rewrite f u ∧
      ∀ t s, f t = .str s → t = s ∨ (Reference.parse? t).isSome ∧ IsInterface s := by
  obtain ⟨filled, mid, hvmids, hips⟩ := outcome_fillReservations.mp h
  obtain ⟨hmid, -, -⟩ := ReservedKind.again hl hvmids
  obtain ⟨hl', -, -⟩ := ReservedKind.again hmid hips
  obtain ⟨-, -, rfl⟩ := ReservedKind.filled_reserve hvmids
  obtain ⟨-, -, rfl⟩ := ReservedKind.filled_reserve hips
  refine ⟨_, TokenTable.rewrite_rewrite u, fun t s hts => ?_⟩
  obtain ⟨t', hvmid, hip⟩ := TokenTable.eq_str_of_rewrite hts
  obtain rfl : t = t' := by
    rcases ReservedKind.eq_or_held_of_text hvmid with rfl | ⟨-, e, -, hvalue⟩
    · rfl
    · cases hvalue
  rcases ReservedKind.eq_or_held_of_text hip with rfl | ⟨htoken, e, he, hvalue⟩
  · exact .inl rfl
  · obtain rfl := Scalar.str.inj (Value.scalar.inj hvalue)
    exact .inr ⟨htoken, hl'.live e he⟩

/-! ### All passes -/

section

variable {α : Type} {x : Run α} {x' : Except Failure α} {a : α}

theorem outcome_eq_ok_of_still
    (h : Meaning.plain.ending x l = Meaning.plain.still x' l) :
    outcome x l = (.ok a, l') ↔ x' = .ok a ∧ l' = l := by
  rw [← Meaning.plain_eq_ok_iff, h, Meaning.still_eq_ok_iff]

end

/-- All passes come to their end if each of them does, the lookups without the ledger. -/
theorem outcome_resolveAgainst_eq_ok [DepthLimits]
    {source : InventorySource} {secrets : Option (List Value)} {mode : Mode} {v : Value}
    (host : Option (Except Failure String)) :
    outcome (v.resolveAgainst source secrets (some (registry mode))
        (host.map MonadExcept.ofExcept)) l = (.ok w, l') ↔
      ∃ inventory first filled u reserved,
        source.filled secrets = (.ok inventory : Except Failure _) ∧
        Value.walkedWith secrets Value.fillSecrets v = (.ok first : Except Failure _) ∧
        Value.walkedWith inventory Value.fillInventory first = (.ok filled : Except Failure _) ∧
        Value.walkedBy (Pass.config filled).run filled = (.ok u : Except Failure _) ∧
        outcome (fillReservations mode u) l = (.ok reserved, l') ∧
        Value.walkedWith host Value.fillHostAddress reserved = (.ok w : Except Failure _) := by
  have hfilled : ∀ {l l' inventory},
      outcome (source.filled secrets : Run _) l = (.ok inventory, l') ↔
        source.filled secrets = (.ok inventory : Except Failure _) ∧ l' = l :=
    outcome_eq_ok_of_still (Value.ending_filled source secrets _)
  have hvault : ∀ {l l' first},
      outcome (Value.walkedWith secrets Value.fillSecrets v : Run _) l = (.ok first, l') ↔
        Value.walkedWith secrets Value.fillSecrets v = (.ok first : Except Failure _) ∧ l' = l :=
    outcome_eq_ok_of_still (Value.ending_walkedWith_eq_still Value.ending_fillSecrets v _)
  have hinventory : ∀ {inventory first l l' filled},
      outcome (Value.walkedWith inventory Value.fillInventory first : Run _) l =
          (.ok filled, l') ↔
        Value.walkedWith inventory Value.fillInventory first =
          (.ok filled : Except Failure _) ∧ l' = l :=
    outcome_eq_ok_of_still (Value.ending_walkedWith_eq_still Value.ending_fillInventory _ _)
  have hconfig : ∀ {filled l l' u},
      outcome (Value.walkedBy (Pass.config filled).run filled : Run _) l = (.ok u, l') ↔
        Value.walkedBy (Pass.config filled).run filled = (.ok u : Except Failure _) ∧ l' = l :=
    outcome_eq_ok_of_still (Value.ending_walkedBy_eq_still (Value.ending_config _) _ _)
  have hhost : ∀ {reserved l l'},
      outcome (Value.walkedWith (host.map MonadExcept.ofExcept) Value.fillHostAddress reserved :
          Run _) l = (.ok w, l') ↔
        Value.walkedWith host Value.fillHostAddress reserved = (.ok w : Except Failure _) ∧
          l' = l :=
    outcome_eq_ok_of_still (Value.ending_walkedWith_hostAddress host _ _)
  simp only [Value.resolveAgainst, outcome_bind_eq_ok, hfilled, hvault, hinventory, hconfig, hhost,
    outcome_fillReservations]
  constructor
  · rintro ⟨inventory, _, ⟨hi, rfl⟩, first, _, ⟨hv, rfl⟩, filled, _, ⟨hf, rfl⟩, u, _, ⟨hc, rfl⟩,
      numbered, mid, hvmids, reserved, _, hips, hh, rfl⟩
    exact ⟨inventory, first, filled, u, reserved, hi, hv, hf, hc, ⟨numbered, mid, hvmids, hips⟩, hh⟩
  · rintro ⟨inventory, first, filled, u, reserved, hi, hv, hf, hc,
      ⟨numbered, mid, hvmids, hips⟩, hh⟩
    exact ⟨inventory, l, ⟨hi, rfl⟩, first, l, ⟨hv, rfl⟩, filled, l, ⟨hf, rfl⟩, u, l, ⟨hc, rfl⟩,
      numbered, mid, hvmids, reserved, l', hips, hh, rfl⟩

end Ledger

namespace Value

variable {inventory : Option Value} {secrets : Option (List Value)}
  {host : Option (Except Failure String)} {w : Value}

/-- Each text of a document comes back.  Looked up on its own, in the vault, in the inventory, and in
what these two make of the document, it comes to a text that is no token for the ledger, and that
becomes the first text again when the address of the build host is put in. -/
def Settled (inventory : Option Value) (secrets : Option (List Value))
    (host : Option (Except Failure String)) (w : Value) : Prop :=
  ∃ filled, (fillWith secrets fillSecrets w >>= fillWith inventory fillInventory) =
      (.ok filled : Except Failure Value) ∧
    ∀ s ∈ w.texts, ∃ t,
      (fillWith secrets fillSecrets (.str s) >>= fillWith inventory fillInventory >>=
        (Pass.config filled).run) = (.ok (.str t) : Except Failure Value) ∧
      (Value.str t).IsSpent ∧
      fillWith host fillHostAddress (.str t) = (.ok (.str s) : Except Failure Value)

theorem textwise_before
    (inventory : Option Value) (secrets : Option (List Value)) :
    Textwise fun v => fillWith secrets fillSecrets v >>= fillWith inventory fillInventory :=
  (Textwise.fillWith textwise_fillSecrets).bind (Textwise.fillWith textwise_fillInventory)

theorem keepsPlain_lookups
    (inventory : Option Value) (secrets : Option (List Value)) (filled : Value) :
    KeepsPlain fun v => fillWith secrets fillSecrets v >>= fillWith inventory fillInventory >>=
      (Pass.config filled).run :=
  ((KeepsPlain.fillWith fun items =>
      keepsPlain_run (Pass.thorough_vault items) (Pass.findsBy_vault items)).bind
    (KeepsPlain.fillWith fun root =>
      keepsPlain_run (Pass.thorough_of_inLongerTexts rfl) (Pass.findsBy_inventory root))).bind
    (keepsPlain_run (Pass.thorough_of_inLongerTexts rfl) (Pass.findsBy_config filled))

/-- Where the texts of a document come back the document comes back from the walks, and what the
ledger is given in between has no token for it. -/
theorem Settled.walks [DepthLimits]
    (h : w.Settled inventory secrets host)
    (hw : w.IsWalked) :
    ∃ first filled u, walkedWith secrets fillSecrets w = (.ok first : Except Failure _) ∧
      walkedWith inventory fillInventory first = (.ok filled : Except Failure _) ∧
      filled.walkedBy (Pass.config filled).run = (.ok u : Except Failure _) ∧
      u.IsWalked ∧ u.IsSpent ∧
      walkedWith host fillHostAddress u = (.ok w : Except Failure _) := by
  obtain ⟨filled, hfilled, hback⟩ := h
  have hbefore := textwise_before inventory secrets
  have hlookups := hbefore.bind (textwise_config filled)
  obtain ⟨first, hfirst, hsecond⟩ := bind_eq_ok.mp hfilled
  obtain ⟨u, hu, hhost⟩ := bind_eq_ok.mp
    ((hlookups.bind (Textwise.fillWith textwise_fillHostAddress)).eq_self_iff.mpr fun s hs => by
      obtain ⟨t, ht, -, hst⟩ := hback s hs
      exact bind_eq_ok.mpr ⟨.str t, ht, hst⟩)
  have hconfig : (Pass.config filled).run filled = (.ok u : Except Failure _) := by
    obtain ⟨filled', hfilled', hconfig⟩ := bind_eq_ok.mp hu
    obtain rfl := Except.ok.inj (hfilled.symm.trans hfilled')
    exact hconfig
  have hlooked : ∀ s ∈ w.texts, ∀ x,
      (fillWith secrets fillSecrets (.str s) >>= fillWith inventory fillInventory >>=
        (Pass.config filled).run) = (.ok x : Except Failure _) →
      ∃ t, x = .str t ∧ (Value.str t).IsSpent := by
    intro s hs x hx
    obtain ⟨t, ht, hspent, -⟩ := hback s hs
    exact ⟨t, Except.ok.inj (hx.symm.trans ht), hspent⟩
  have hwalked : first.IsWalked := (Textwise.fillWith textwise_fillSecrets).isWalked_between
    ((Textwise.fillWith textwise_fillInventory).bind (textwise_config filled)) hfirst hw
    fun s hs x hx => by
      obtain ⟨t, ht, -⟩ := hback s hs
      rw [hx] at ht
      exact ⟨t, ht⟩
  have hwalked' : filled.IsWalked := hbefore.isWalked_between (textwise_config filled) hfilled hw
    fun s hs x hx => by
      obtain ⟨t, ht, -⟩ := hback s hs
      rw [hx] at ht
      exact ⟨t, ht⟩
  have hwalked'' : u.IsWalked := hlookups.isWalked hu hw fun s hs x hx =>
    (hlooked s hs x hx).imp fun _ ht => ht.1
  have hspent : u.IsSpent := hlookups.isSpent hu fun s hs x hx => by
    obtain ⟨t, rfl, hspent⟩ := hlooked s hs x hx
    exact hspent
  exact ⟨first, filled, u, walkedWith_eq_ok_iff.mpr ⟨fun _ => hw, hfirst⟩,
    walkedWith_eq_ok_iff.mpr ⟨fun _ => hwalked, hsecond⟩,
    walkedBy_eq_ok_iff.mpr ⟨hwalked', hconfig⟩, hwalked'', hspent,
    walkedWith_eq_ok_iff.mpr ⟨fun _ => hwalked'', hhost⟩⟩

/-- A document comes out of the lookups, of the ledger and of the build host again only if its texts
come back: neither the lookups nor the build host make the token of an address of the text of an
interface, or the other way round. -/
theorem settled_of_rewrite [DepthLimits]
    {first filled u reserved : Value} {f : String → Value}
    (hfirst : walkedWith secrets fillSecrets w = (.ok first : Except Failure _))
    (hfilled : walkedWith inventory fillInventory first = (.ok filled : Except Failure _))
    (hu : filled.walkedBy (Pass.config filled).run = (.ok u : Except Failure _))
    (hreserved : reserved = TokenTable.rewrite f u)
    (hf : ∀ t s, f t = .str s → t = s ∨ (Reference.parse? t).isSome ∧ IsInterface s)
    (hspent : reserved.IsSpent)
    (hhost : walkedWith host fillHostAddress reserved = (.ok w : Except Failure _)) :
    w.Settled inventory secrets host := by
  have hbefore : (fillWith secrets fillSecrets w >>= fillWith inventory fillInventory) =
      (.ok filled : Except Failure _) :=
    bind_eq_ok.mpr
      ⟨first, (walkedWith_eq_ok_iff.mp hfirst).2, (walkedWith_eq_ok_iff.mp hfilled).2⟩
  refine ⟨filled, hbefore, fun s hs => ?_⟩
  obtain ⟨x, hx, rfl⟩ :=
    ((textwise_before inventory secrets).bind (textwise_config filled) w u).mp
      (bind_eq_ok.mpr ⟨filled, hbefore, (walkedBy_eq_ok_iff.mp hu).2⟩)
  obtain ⟨y, hy, hw⟩ := (Textwise.fillWith textwise_fillHostAddress reserved w).mp
    (walkedWith_eq_ok_iff.mp hhost).2
  rw [TokenTable.rewrite_rewrite] at hreserved
  rw [hreserved, TokenTable.rewrite_rewrite] at hw
  -- The text comes to one text by the lookups, to one by the ledger, and to itself by the host.
  obtain ⟨t', ht', hback⟩ :=
    TokenTable.eq_str_of_rewrite (TokenTable.rewrite_eq_self_iff.mp hw.symm s hs)
  obtain ⟨t, ht, hledger⟩ := TokenTable.eq_str_of_rewrite ht'
  have hmem : t' ∈ reserved.texts := by
    rw [hreserved, TokenTable.texts_rewrite, List.mem_flatMap]
    exact ⟨s, hs, by rw [ht']; exact List.mem_singleton_self t'⟩
  have hlookups := hx s hs
  have hhosted := hy t' hmem
  rw [ht] at hlookups
  rw [hback] at hhosted
  rcases hf t t' hledger with rfl | ⟨htoken, haddress⟩
  · refine ⟨t, hlookups, fun t' ht' => ?_, hhosted⟩
    rw [List.mem_singleton.mp ht']
    exact hspent t hmem
  · obtain ⟨s', hs', hplain⟩ := KeepsPlain.fillWith keepsPlain_fillHostAddress t' (.str s)
      (Reference.beginsPlain_of_isInterface haddress) hhosted
    obtain rfl := Scalar.str.inj (Value.scalar.inj hs')
    obtain ⟨t'', ht'', hplain⟩ := keepsPlain_lookups inventory secrets filled s (.str t) hplain
      hlookups
    obtain rfl := Scalar.str.inj (Value.scalar.inj ht'')
    rw [hplain.parse?_eq_none] at htoken
    cases htoken

end Value

namespace Ledger

variable {l l' : Ledger} {v w : Value}

/-- Of all passes over a readable ledger the same document comes out again exactly if the inventory
can be used and each text comes back, and then the ledger stays as it is. -/
theorem IsReadable.resolveAgainst_again [DepthLimits]
    {source source' : InventorySource} {secrets : Option (List Value)}
    {host : Option (Except Failure String)}
    (hl : l.IsReadable)
    (h : outcome (v.resolveAgainst source secrets (some (registry .reserve))
      (host.map MonadExcept.ofExcept)) l = (.ok w, l')) :
    ((outcome (w.resolveAgainst source' secrets (some (registry .reserve))
        (host.map MonadExcept.ofExcept)) l').1 = .ok w ↔
      ∃ inventory, source'.filled secrets = (.ok inventory : Except Failure _) ∧
        w.Settled inventory secrets host) ∧
    ((∃ inventory, source'.filled secrets = (.ok inventory : Except Failure _) ∧
        w.Settled inventory secrets host) →
      outcome (w.resolveAgainst source' secrets (some (registry .reserve))
        (host.map MonadExcept.ofExcept)) l' = (.ok w, l')) := by
  obtain ⟨-, -, -, u, reserved, -, -, -, -, hu, hhost⟩ := (outcome_resolveAgainst_eq_ok host).mp h
  obtain ⟨hl', hwalked, -⟩ := spent_of_fillReservations hl hu
  have hresult : w.IsWalked := (Value.Textwise.fillWith Value.textwise_fillHostAddress).isWalked
    (Value.walkedWith_eq_ok_iff.mp hhost).2 hwalked
    fun s _ x hx => Value.exists_str_of_fillHostAddress hx
  have hback : (∃ inventory, source'.filled secrets = (.ok inventory : Except Failure _) ∧
      w.Settled inventory secrets host) →
      outcome (w.resolveAgainst source' secrets (some (registry .reserve))
        (host.map MonadExcept.ofExcept)) l' = (.ok w, l') := by
    rintro ⟨inventory, hinventory, hsettled⟩
    obtain ⟨first, filled, u, hfirst, hfilled, hu, hwalked, hspent, hhost⟩ :=
      hsettled.walks hresult
    exact (outcome_resolveAgainst_eq_ok host).mpr ⟨inventory, first, filled, u, u, hinventory,
      hfirst, hfilled, hu, fillReservations_of_isSpent hwalked hspent l', hhost⟩
  refine ⟨⟨fun hsame => ?_, fun hsettled => congrArg Prod.fst (hback hsettled)⟩, hback⟩
  obtain ⟨inventory, first, filled, u', reserved', hinventory, hfirst, hfilled, hu', hagain,
    hhost'⟩ := (outcome_resolveAgainst_eq_ok host).mp (Prod.ext hsame rfl)
  obtain ⟨f, hreserved, hf⟩ := rewrite_of_fillReservations hl' hagain
  obtain ⟨-, -, hspent⟩ := spent_of_fillReservations hl' hagain
  exact ⟨inventory, hinventory,
    Value.settled_of_rewrite hfirst hfilled hu' hreserved hf hspent hhost'⟩

/-- When the same document comes out of a second run of each pass, and of a second run of all
passes. -/
theorem second_run_gives_back [DepthLimits]
    {data : Value} {inv : Inventory}
    (hinv : Inventory.ofValue data = .ok inv)
    (hl : Over inv l)
    (v w : Value) (l' : Ledger) :
    (∀ secrets, v.walkedBy (Value.fillSecrets secrets) = (.ok w : Except Failure _) →
      (w.walkedBy (Value.fillSecrets secrets) = (.ok w : Except Failure _) ↔
        v.Lasting (Value.fillSecrets secrets))) ∧
    (∀ root, v.walkedBy (Value.fillInventory root) = (.ok w : Except Failure _) →
      (w.walkedBy (Value.fillInventory root) = (.ok w : Except Failure _) ↔
        w.IsWalked ∧ v.Lasting (Value.fillInventory root))) ∧
    (v.walkedBy Value.fillConfig = (.ok w : Except Failure _) →
      (w.walkedBy Value.fillConfig = (.ok w : Except Failure _) ↔
        w.IsWalked ∧
          ∀ s ∈ w.texts, (Pass.config w).run (.str s) = (.ok (.str s) : Except Failure _))) ∧
    (outcome (v.walkedBy (Value.fillVmids (registry .reserve))) l = (.ok w, l') →
      outcome (w.walkedBy (Value.fillVmids (registry .reserve))) l' = (.ok w, l')) ∧
    (outcome (v.walkedBy (Value.fillIps (registry .reserve))) l = (.ok w, l') →
      outcome (w.walkedBy (Value.fillIps (registry .reserve))) l' = (.ok w, l')) ∧
    ∀ source source' secrets (host : Option (Except Failure String)),
      outcome (v.resolveAgainst source secrets (some (registry .reserve))
        (host.map MonadExcept.ofExcept)) l = (.ok w, l') →
      ((outcome (w.resolveAgainst source' secrets (some (registry .reserve))
          (host.map MonadExcept.ofExcept)) l').1 = .ok w ↔
        ∃ inventory, source'.filled secrets = (.ok inventory : Except Failure _) ∧
          w.Settled inventory secrets host) ∧
      ((∃ inventory, source'.filled secrets = (.ok inventory : Except Failure _) ∧
          w.Settled inventory secrets host) →
        outcome (w.resolveAgainst source' secrets (some (registry .reserve))
          (host.map MonadExcept.ofExcept)) l' = (.ok w, l')) := by
  have hreadable := hl.isReadable hinv
  refine ⟨fun secrets h => ?_, fun root h => ?_, fun h => ?_, fun h => ?_, fun h => ?_,
    fun source source' secrets host h => hreadable.resolveAgainst_again h⟩
  · obtain ⟨hwalked, hrun⟩ := Value.walkedBy_eq_ok_iff.mp h
    have hresult : w.IsWalked := (Value.textwise_fillSecrets secrets).isWalked hrun hwalked
      fun s _ x hx => Value.exists_str_of_fillSecrets hx
    rw [Value.walkedBy_of_isWalked hresult]
    exact (Value.textwise_fillSecrets secrets).again_iff hrun
  · obtain ⟨-, hrun⟩ := Value.walkedBy_eq_ok_iff.mp h
    rw [Value.walkedBy_eq_ok_iff, (Value.textwise_fillInventory root).again_iff hrun]
  · rw [Value.walkedBy_eq_ok_iff]
    exact and_congr_right fun _ => (Value.textwise_config w).eq_self_iff
  · exact (ReservedKind.again (k := .vmid) hreadable h).2.2
  · exact (ReservedKind.again (k := .ip) hreadable h).2.2

/-- A token of the inventory that stands for the token of a machine number. -/
def tokenNotes : Value := .object [("a", .str "vm:id:web")]

theorem outcome_resolveAgainst_tokenNotes [DepthLimits]
    (host : Except Failure String) :
    outcome (Value.resolveAgainst (.read (sampleInventory tokenNotes)) none
        (some (registry .reserve)) (some (MonadExcept.ofExcept host)) (.str "inventory:notes.a"))
      (start (sampleInventory tokenNotes)) = (.ok (.int 100), sampleLedger tokenNotes) :=
  (outcome_resolveAgainst_eq_ok (some host)).mpr ⟨some (sampleInventory tokenNotes).toValue,
    .str "inventory:notes.a", .str "vm:id:web", .str "vm:id:web", .int 100, rfl, rfl, rfl, rfl,
    outcome_fillSample tokenNotes, rfl⟩

/-- A number that came of two lookups stays, although the ledger's inventory has it by now. -/
theorem second_run_gives_back_number :
    Inventory.ofValue (sampleDocument tokenNotes) = .ok (sampleInventory tokenNotes) ∧
    outcome (Value.resolveAgainst (.read (sampleInventory tokenNotes)) none
        (some (registry .reserve)) (some (pure "10.0.0.9")) (.str "inventory:notes.a"))
      (start (sampleInventory tokenNotes)) = (.ok (.int 100), sampleLedger tokenNotes) ∧
    outcome (Value.resolveAgainst (.read (sampleLedger tokenNotes).inventory) none
        (some (registry .reserve)) (some (pure "10.0.0.9")) (.int 100))
      (sampleLedger tokenNotes) = (.ok (.int 100), sampleLedger tokenNotes) := by
  have hvalid := ofValue_sampleDocument tokenNotes
  have hrun := outcome_resolveAgainst_tokenNotes (.ok "10.0.0.9")
  obtain ⟨-, -, -, -, -, hall⟩ := second_run_gives_back hvalid .start (.str "inventory:notes.a")
    (.int 100) (sampleLedger tokenNotes)
  have husable : (InventorySource.read (sampleLedger tokenNotes).inventory).Usable none := by
    refine (change_after _ _).isWritable ?_
    rw [start, isWritable_sampleInventory]
    decide
  obtain ⟨inventory, hinventory⟩ := InventorySource.exists_filled_iff.mpr husable
  have hsettled : (Value.int 100).Settled inventory none (some (.ok "10.0.0.9")) :=
    ⟨.int 100, by cases inventory <;> rfl, fun s hs => by cases hs⟩
  exact ⟨hvalid, hrun, (hall _ _ none (some (.ok "10.0.0.9")) hrun).2
    ⟨inventory, hinventory, hsettled⟩⟩

/-- A value of the inventory is the token of another one. -/
def chainedNotes : Value := .object [("a", .str "inventory:notes.b"), ("b", .int 1)]

/-- The second run follows a chain that the first one has left in the middle. -/
theorem second_run_goes_on :
    Inventory.ofValue (sampleDocument chainedNotes) = .ok (sampleInventory chainedNotes) ∧
    Value.walkedBy (Value.fillInventory (sampleInventory chainedNotes).toValue)
      (.str "inventory:notes.a") = (.ok (.str "inventory:notes.b") : Except Failure _) ∧
    Value.walkedBy (Value.fillInventory (sampleInventory chainedNotes).toValue)
      (.str "inventory:notes.b") = (.ok (.int 1) : Except Failure _) ∧
    outcome (Value.resolveAgainst (.read (sampleInventory chainedNotes)) none
        (some (registry .reserve)) none (.str "inventory:notes.a"))
      (start (sampleInventory chainedNotes)) =
        (.ok (.str "inventory:notes.b"), start (sampleInventory chainedNotes)) ∧
    outcome (Value.resolveAgainst (.read (sampleInventory chainedNotes)) none
        (some (registry .reserve)) none (.str "inventory:notes.b"))
      (start (sampleInventory chainedNotes)) =
        (.ok (.int 1), start (sampleInventory chainedNotes)) := by
  have hspent : (Value.str "inventory:notes.b").IsSpent := by
    intro s hs r hr
    obtain rfl := List.mem_singleton.mp hs
    cases hr
    rfl
  refine ⟨ofValue_sampleDocument _, rfl, rfl, ?_, ?_⟩
  · exact (outcome_resolveAgainst_eq_ok none).mpr ⟨some (sampleInventory chainedNotes).toValue,
      .str "inventory:notes.a", .str "inventory:notes.b", .str "inventory:notes.b",
      .str "inventory:notes.b", rfl, rfl, rfl, rfl,
      fillReservations_of_isSpent (Value.isWalked_of_levels (by decide)) hspent _, rfl⟩
  · exact (outcome_resolveAgainst_eq_ok none).mpr ⟨some (sampleInventory chainedNotes).toValue,
      .str "inventory:notes.b", .int 1, .int 1, .int 1, rfl, rfl, rfl, rfl,
      fillReservations_of_isSpent (Value.isWalked_of_levels (by decide))
        (fun s hs => by cases hs) _, rfl⟩

end Ledger
end Homelab
