import Homelab.HostAddress
import Homelab.Proofs.Reference.Allocated
import Homelab.Proofs.Resolution.Greedy
import Homelab.Proofs.Resolution.HostAddress
import Homelab.Proofs.Site.Commands

/-!
# An address that is remembered

One source of the address of the build host serves many documents.  A document asks it if the walk
comes to a token for the address, and then once, however many tokens there are and however they are
spelled.  The source lists the interfaces of the host until it has found the address, and never
again: what a document comes to depends on the documents before it by what is remembered alone.

The memory is written after a lookup, so a lookup that fails has written nothing, and the next
document that asks looks the address up again.
-/

namespace Homelab

/-! ### The tokens of the build host -/

namespace Reference

/-- A text with an address in the place of each token for that of the build host. -/
def hostFilled (address s : String) : String :=
  match parse? s with
  | some r => if r.target = .hostAddress then address else s
  | none => String.ofList ((pieces s.toList).flatMap fun c =>
      if c = .token "host:ip".toList then address.toList else c.chars)

theorem embeddedTarget?_eq_hostAddress_iff
    {inner : List Char} :
    embeddedTarget? inner = some .hostAddress ↔ inner = "host:ip".toList := by
  rw [embeddedTarget?_eq_some_iff]
  constructor
  · rintro ⟨⟩
    rfl
  · rintro rfl
    exact .host

/-- The text of a token for the address of the build host. -/
theorem wholeTarget?_eq_hostAddress_iff
    {cs : List Char} :
    wholeTarget? cs = some .hostAddress ↔
      cs = "host:ip".toList ∨ cs = "\x7bhost:ip\x7d".toList := by
  constructor
  · intro h
    cases whole_of_wholeTarget? h with
    | host h => exact .inl h
    | secret h =>
        obtain ⟨_, _, heq⟩ := exists_of_secretTarget? h
        cases heq
    | machine h =>
        obtain ⟨_, _, heq, -⟩ := machineTarget?_eq_some_iff.mp h
        cases heq
    | address h =>
        obtain ⟨_, _, heq, -⟩ := addressTarget?_eq_some_iff.mp h
        cases heq
    | path h =>
        obtain ⟨_, -, ⟨-, heq⟩ | ⟨-, heq⟩⟩ := pathTarget?_eq_some_iff.mp h <;> cases heq
    | braced h =>
        obtain ⟨inner, rfl, hinner⟩ := inner_of_bracedTarget? h
        rw [embeddedTarget?_eq_hostAddress_iff.mp hinner]
        exact .inr rfl
  · rintro (rfl | rfl) <;> decide

/-- The tokens for the address of the build host are spelled in two ways. -/
theorem target_eq_hostAddress_iff
    {r : Reference}
    (h : parse? r.text = some r) :
    r.target = .hostAddress ↔ r.text = "host:ip" ∨ r.text = "\x7bhost:ip\x7d" := by
  obtain ⟨t, hwhole, heq⟩ := Option.map_eq_some_iff.mp h
  rw [← heq] at hwhole ⊢
  simp only at hwhole ⊢
  rw [← Option.some_inj, ← hwhole, wholeTarget?_eq_hostAddress_iff, String.toList_inj,
    String.toList_inj]

end Reference

namespace Value

variable {v : Value}

/-- A document with an address in the place of its tokens for that of the build host. -/
def withHostAddress (address : String) (v : Value) : Value :=
  TokenTable.rewrite (fun s => .str (Reference.hostFilled address s)) v

/-- The walk of a document comes to a token for the address of the build host. -/
def asksHost [DepthLimits] (v : Value) : Bool :=
  v.reached.references.any fun r => r.target = .hostAddress

theorem piece_hostAddress
    {address : String} {cs : List Char} {c : Reference.Piece}
    (hc : c ∈ Reference.pieces cs) :
    (TokenTable.found fun _ => some (.str address)).piece (· matches .hostAddress) c =
      if c = .token "host:ip".toList then address.toList else c.chars := by
  rw [TokenTable.piece]
  cases hreference : c.reference? with
  | none =>
      have hne : c ≠ .token "host:ip".toList := by
        rintro rfl
        cases hreference
      rw [if_neg hne]
  | some r =>
      have hparse := Reference.parse?_of_mem_pieces hc hreference
      cases c with
      | char c => cases hreference
      | token inner =>
          obtain ⟨t, ht, rfl⟩ := Option.map_eq_some_iff.mp hreference
          by_cases htarget : t = .hostAddress
          · subst htarget
            rw [if_pos (congrArg _ (Reference.embeddedTarget?_eq_hostAddress_iff.mp ht))]
            simp only [if_true, TokenTable.found, hparse, Option.bind_some, inlineText?]
          · have hne : Reference.Piece.token inner ≠ .token "host:ip".toList := by
              intro heq
              obtain rfl := Reference.Piece.token.inj heq
              exact htarget (Option.some.inj ht).symm
            rw [if_neg hne]
            cases t with
            | hostAddress => exact absurd rfl htarget
            | _ => rfl

theorem addressed_ok
    (address s : String) :
    addressed (.ok address) s = .str (Reference.hostFilled address s) := by
  have htext : addressed (.ok address) s =
      (TokenTable.found fun _ => some (.str address)).text (· matches .hostAddress) true s := rfl
  rw [htext, TokenTable.text, Reference.hostFilled]
  cases hs : Reference.parse? s with
  | some r =>
      have hfound : TokenTable.found (fun _ => some (.str address)) r.text =
          some (.str address) := by
        rw [TokenTable.found, Reference.text_of_parse? hs, hs]
        rfl
      simp only [hfound, Option.getD_some]
      cases r.target <;> rfl
  | none => simp only [if_true, List.flatMap_congr fun c hc => piece_hostAddress hc]

theorem asksHost_iff [DepthLimits] :
    v.asksHost = true ↔ ∃ r ∈ v.reached.references, r.target = .hostAddress := by
  simp [asksHost]

/-- A result for a document, unless the document has more levels than are walked. -/
def ifWalked [DepthLimits] (v result : Value) : Except Failure Value :=
  if (v.front (DepthLimits.walking - 1)).2 then .ok result else .error .depthExceeded

/-! ### One document -/

variable {σ : Type}

/-- A document asks for the address at most once, however the asking ends, and only if the walk
comes to a token for it. -/
theorem outcome_fillHostAddress [DepthLimits]
    (provider : ExceptT Failure (StateM σ) String) (v : Value) (s : σ) :
    outcome (v.walkedBy (fillHostAddress provider)) s =
      if v.asksHost then
        match outcome provider s with
        | (.ok address, next) => (v.ifWalked (v.withHostAddress address), next)
        | (.error e, next) => (.error e, next)
      else (v.ifWalked v, s) := by
  have hpass : ∀ w : Value, w.references = v.reached.references →
      outcome (fillHostAddress provider w) s =
        if v.asksHost then
          match outcome provider s with
          | (.ok address, next) => (.ok (w.withHostAddress address), next)
          | (.error e, next) => (.error e, next)
        else (.ok w, s) := by
    intro w hw
    split
    · rename_i hasks
      rw [asksHost_iff, ← hw] at hasks
      rcases hends : outcome provider s with ⟨e | address, next⟩
      · rw [← Meaning.plain_eq_error_iff] at hends ⊢
        exact ending_fillHostAddress_error hasks hends
      · rw [← Meaning.plain_eq_ok_iff] at hends ⊢
        rw [ending_fillHostAddress_ok hasks hends, withHostAddress,
          TokenTable.rewrite_congr fun s _ => addressed_ok address s]
    · rename_i hasks
      rw [asksHost_iff, ← hw] at hasks
      rw [← Meaning.plain_eq_ok_iff]
      exact ending_fillHostAddress_of_unserved (by simpa using hasks) s
  rcases hfront : v.front (DepthLimits.walking - 1) with ⟨walked, _ | _⟩
  · have hreached : v.reached = walked := by rw [reached, hfront]
    simp only [walkedBy, ifWalked, hfront, outcome_bind, hpass walked (by rw [hreached])]
    cases v.asksHost with
    | false => rfl
    | true => rcases outcome provider s with ⟨e | address, next⟩ <;> rfl
  · have hwalked : v.IsWalked := by rw [IsWalked, hfront]
    rw [walkedBy_of_isWalked hwalked, hpass v (v.references_reached.2 hwalked).symm]
    simp only [ifWalked, hfront, if_true]

end Value

namespace Act

/-- An act with a memory, as one on the memory and the site.  Where it fails the memory is the one
before it. -/
def remembering {τ α : Type} (act : StateT τ Act α) : ExceptT Failure (StateM (τ × Site)) α :=
  fun st =>
    match outcome (act.run st.1) st.2 with
    | (.ok (a, kept), next) => (.ok a, (kept, next))
    | (.error e, next) => (.error e, (st.1, next))

theorem outcome_remembering
    {τ α : Type} (act : StateT τ Act α) (known : τ) (site : Site) :
    outcome (remembering act) (known, site) =
      match outcome (act.run known) site with
      | (.ok (a, kept), next) => (.ok a, (kept, next))
      | (.error e, next) => (.error e, (known, next)) := rfl

/-- An act on the site that leaves the memory beside it alone. -/
def beside {τ α : Type} (act : Act α) : ExceptT Failure (StateM (τ × Site)) α :=
  fun st => let (r, next) := outcome act st.2; (r, (st.1, next))

theorem outcome_beside
    {τ α : Type} (act : Act α) (known : τ) (site : Site) :
    outcome (beside act) (known, site) = ((outcome act site).1, (known, (outcome act site).2)) := rfl

end Act

namespace HostAddress

variable (source : Source)

/-- What becomes of a document for which a source is asked that has a memory. -/
def fill [DepthLimits] (v : Value) : ExceptT Failure (StateM (Option String × Site)) Value :=
  v.walkedBy (Value.fillHostAddress (Act.remembering (provide source)))

/-- The memory and the site after some documents, whether or not they have failed. -/
def after [DepthLimits] (documents : List Value) (st : Option String × Site) :
    Option String × Site :=
  documents.foldl (fun st v => (outcome (fill source v) st).2) st

/-- What a source makes of the end of the command that lists the interfaces. -/
def answer (network : Network) : CommandEnd → Except Failure String
  | .error fault => .error (fault.failure (listInterfaces source.host))
  | .ok output =>
      match findIn network.subnet output with
      | .ok (some address) => .ok address
      | .ok none => .error (.noHostAddress source.network network.subnet)
      | .error e => .error e

/-- A lookup runs one command, unless there is no such network, and depends on its end. -/
theorem outcome_lookUp
    (site : Site) :
    outcome (lookUp source) site =
      match source.inventory.network? source.network with
      | none => (.error (.networkNotFound source.network), site)
      | some n =>
          let c := listInterfaces source.host
          (answer source n (site.outside.command site.journal c), site.record (.command c)) := by
  unfold lookUp
  cases source.inventory.network? source.network with
  | none => rfl
  | some n =>
      simp only [outcome_bind, Act.outcome_runCommand, answer]
      rcases site.outside.command site.journal (listInterfaces source.host) with
        fault | output
      · rfl
      · simp only [outcome_ofExcept]
        rcases findIn n.subnet output with e | _ | address <;> rfl

/-- A source writes its memory after the lookup.  So it makes no difference whether the memory is
kept over a failure or taken back: a lookup that fails has written nothing. -/
theorem remembering_provide :
    Act.remembering (provide source) = (do
      match (← get).1 with
      | some address => pure address
      | none =>
          let address ← Act.beside (lookUp source)
          modify fun st => (some address, st.2)
          return address) := by
  funext ⟨known, site⟩
  cases known with
  | some address => rfl
  | none =>
      have hprovide : outcome ((provide source).run none) site =
          outcome (lookUp source >>= fun address => pure (address, some address)) site := by
        simp [provide]
      rw [outcome_bind] at hprovide
      change outcome (Act.remembering (provide source)) (none, site) = outcome (do
        let address ← Act.beside (lookUp source)
        modify fun st => (some address, st.2)
        return address) (none, site)
      rw [Act.outcome_remembering, hprovide, outcome_bind, Act.outcome_beside]
      rcases outcome (lookUp source) site with ⟨e | address, next⟩ <;> rfl

theorem outcome_provide
    (known : Option String) (site : Site) :
    outcome (Act.remembering (provide source)) (known, site) =
      match known with
      | some address => (.ok address, (some address, site))
      | none =>
          match outcome (lookUp source) site with
          | (.ok address, next) => (.ok address, (some address, next))
          | (.error e, next) => (.error e, (none, next)) := by
  rw [remembering_provide, outcome_bind, outcome_get]
  cases known with
  | some address => rfl
  | none =>
      simp only [outcome_bind, Act.outcome_beside]
      rcases outcome (lookUp source) site with ⟨e | address, next⟩ <;> rfl

/-! ### Documents one after another -/

/-- What a document comes to by what is remembered, and what is remembered after it. -/
theorem outcome_fill [DepthLimits]
    (v : Value) (known : Option String) (site : Site) :
    outcome (fill source v) (known, site) =
      if v.asksHost then
        match known with
        | some address => (v.ifWalked (v.withHostAddress address), (some address, site))
        | none =>
            match outcome (lookUp source) site with
            | (.ok address, next) => (v.ifWalked (v.withHostAddress address), (some address, next))
            | (.error e, next) => (.error e, (none, next))
      else (v.ifWalked v, (known, site)) := by
  rw [fill, Value.outcome_fillHostAddress, outcome_provide]
  cases known with
  | some address => rfl
  | none => rcases outcome (lookUp source) site with ⟨e | address, next⟩ <;> rfl

variable {source} {documents : List Value} {address : String} {site next : Site}

theorem after_cons [DepthLimits]
    (v : Value) (st : Option String × Site) :
    after source (v :: documents) st = after source documents (outcome (fill source v) st).2 := rfl

/-- Once the address is known no document changes the memory or the site. -/
theorem after_of_known [DepthLimits]
    (documents : List Value) :
    after source documents (some address, site) = (some address, site) := by
  induction documents with
  | nil => rfl
  | cons v rest ih =>
      have hstep : (outcome (fill source v) (some address, site)).2 = (some address, site) := by
        rw [outcome_fill]
        split <;> rfl
      rw [after_cons, hstep, ih]

/-- While no address is known a document finds it, or leaves none known. -/
theorem found_or_unknown [DepthLimits]
    (v : Value) (site : Site) :
    (∃ address next, v.asksHost = true ∧ outcome (lookUp source) site = (.ok address, next) ∧
      (outcome (fill source v) (none, site)).2 = (some address, next)) ∨
    ∃ next, (outcome (fill source v) (none, site)).2 = (none, next) := by
  rw [outcome_fill]
  split
  · rename_i hasks
    rcases hfound : outcome (lookUp source) site with ⟨e | address, next⟩
    · exact .inr ⟨next, rfl⟩
    · exact .inl ⟨address, next, hasks, rfl, rfl⟩
  · exact .inr ⟨site, rfl⟩

/-- An address that is known has been found for one of the documents, while none was known, and
nothing has happened to the site since. -/
theorem exists_found_of_after [DepthLimits]
    (h : after source documents (none, site) = (some address, next)) :
    ∃ earlier v later mid, documents = earlier ++ v :: later ∧ v.asksHost = true ∧
      after source earlier (none, site) = (none, mid) ∧
      outcome (lookUp source) mid = (.ok address, next) := by
  induction documents generalizing site with
  | nil => cases h
  | cons v rest ih =>
      rw [after_cons] at h
      obtain ⟨found, after', hasks, hfound, hstep⟩ | ⟨mid, hstep⟩ := found_or_unknown v site
      · rw [hstep, after_of_known] at h
        obtain ⟨hsame, rfl⟩ := Prod.mk.inj h
        obtain rfl := Option.some.inj hsame
        exact ⟨[], v, rest, site, rfl, hasks, rfl, hfound⟩
      · rw [hstep] at h
        obtain ⟨earlier, w, later, mid', rfl, hasks, hmid, hfound⟩ := ih h
        refine ⟨v :: earlier, w, later, mid', rfl, hasks, ?_, hfound⟩
        rw [after_cons, hstep, hmid]

theorem after_eq_some_iff [DepthLimits] :
    after source documents (none, site) = (some address, next) ↔
      ∃ earlier v later mid, documents = earlier ++ v :: later ∧ v.asksHost = true ∧
        after source earlier (none, site) = (none, mid) ∧
        outcome (lookUp source) mid = (.ok address, next) := by
  refine ⟨exists_found_of_after, ?_⟩
  rintro ⟨earlier, v, later, mid, rfl, hasks, hmid, hfound⟩
  have hstep : (outcome (fill source v) (none, mid)).2 = (some address, next) := by
    rw [outcome_fill, if_pos hasks, hfound]
  have happend : after source (earlier ++ v :: later) (none, site) =
      after source (v :: later) (after source earlier (none, site)) := List.foldl_append ..
  rw [happend, hmid, after_cons, hstep, after_of_known]

/-- Among documents that one source serves, whatever the command that lists the interfaces comes to
each time, a document asks for the address at most once, and only if the walk comes to a token for
it, in one of two spellings.  All its tokens become what it is told.  The source runs the command if
it knows no address, and knows the first one that it has found from then on; a failure is told, and
nothing is known by it. -/
theorem looked_up_until_found [DepthLimits]
    (source : Source) (before : List Value) (v : Value) (site : Site) :
    let now := after source before (none, site)
    let ends := outcome (fill source v) now
    (∀ (σ : Type) (provider : ExceptT Failure (StateM σ) String) (s : σ),
      outcome (v.walkedBy (Value.fillHostAddress provider)) s =
        if v.asksHost then
          match outcome provider s with
          | (.ok address, next) => (v.ifWalked (v.withHostAddress address), next)
          | (.error e, next) => (.error e, next)
        else (v.ifWalked v, s)) ∧
    (v.asksHost = true ↔
      ∃ r ∈ v.reached.references, r.text = "host:ip" ∨ r.text = "\x7bhost:ip\x7d") ∧
    (v.reached.references <+: v.references ∧
      (v.IsWalked → v.reached.references = v.references)) ∧
    (v.asksHost = false → ends = (v.ifWalked v, now)) ∧
    (∀ address, v.asksHost = true → now.1 = some address →
      ends = (v.ifWalked (v.withHostAddress address), now)) ∧
    (v.asksHost = true → now.1 = none →
      ends = match outcome (lookUp source) now.2 with
        | (.ok address, next) => (v.ifWalked (v.withHostAddress address), (some address, next))
        | (.error e, next) => (.error e, (none, next))) ∧
    (outcome (lookUp source) now.2 =
      match source.inventory.network? source.network with
      | none => (.error (.networkNotFound source.network), now.2)
      | some n =>
          let c := listInterfaces source.host
          (answer source n (now.2.outside.command now.2.journal c), now.2.record (.command c))) ∧
    ∀ address next, now = (some address, next) ↔
      ∃ earlier w later mid, before = earlier ++ w :: later ∧ w.asksHost = true ∧
        after source earlier (none, site) = (none, mid) ∧
        outcome (lookUp source) mid = (.ok address, next) := by
  intro now ends
  refine ⟨fun _ provider s => Value.outcome_fillHostAddress provider v s, ?_, v.references_reached,
    fun hasks => ?_, fun address hasks hknown => ?_, fun hasks hknown => ?_,
    outcome_lookUp source now.2, fun address next => after_eq_some_iff⟩
  · rw [Value.asksHost_iff]
    exact exists_congr fun r => and_congr_right fun hr =>
      Reference.target_eq_hostAddress_iff (Value.parse?_of_mem_references hr)
  · have hfill := outcome_fill source v now.1 now.2
    rwa [if_neg (by simp [hasks])] at hfill
  · have hnow : (some address, now.2) = now := Prod.ext hknown.symm rfl
    have hfill := outcome_fill source v (some address) now.2
    rw [if_pos hasks] at hfill
    simp only [hnow] at hfill
    exact hfill
  · have hnow : (none, now.2) = now := Prod.ext hknown.symm rfl
    have hfill := outcome_fill source v none now.2
    rwa [if_pos hasks, hnow] at hfill

/-- A document with a token for the address of the build host, and behind it a list that is nested
too deeply. -/
def deepDocument : Value :=
  .list [.str "host:ip", nested 600]

/-- The address is asked for and given, and the token is not filled in. -/
theorem token_left_in_deep_document :
    (∃ r ∈ deepDocument.references, r.target = .hostAddress) ∧
    outcome (deepDocument.walkedBy (Value.fillHostAddress (do modify (· + 1); pure "10.0.0.5") :
      Value → ExceptT Failure (StateM Nat) Value)) 0 = (.error .depthExceeded, 1) := by
  let token : Reference := ⟨"host:ip", .hostAddress⟩
  have htoken : token ∈ Reference.findAll "host:ip" := by decide
  obtain ⟨walked, hdeep⟩ := front_nested (n := 600) (m := 488) (by decide)
  have hfront : deepDocument.front (DepthLimits.walking - 1) =
      (.list [.str "host:ip", walked], false) := by
    have hlimit : DepthLimits.walking - 1 = 488 + 1 := rfl
    simp [hlimit, deepDocument, Value.front, Value.frontItems, hdeep]
  have hasks : deepDocument.asksHost = true := by
    refine Value.asksHost_iff.mpr ⟨token, ?_, rfl⟩
    rw [Value.reached, hfront]
    exact List.mem_append_left _ htoken
  refine ⟨⟨token, List.mem_append_left _ htoken, rfl⟩, ?_⟩
  rw [Value.outcome_fillHostAddress, if_pos hasks]
  simp only [Value.ifWalked, hfront]
  rfl

end HostAddress
end Homelab
