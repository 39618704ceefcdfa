import Homelab.Resolution

/-!
# What holds throughout a resolution

A resolution asks its sources for values and fails, and does nothing else of its own.  So what
holds of computations that give a value at once, of those that fail, and of one computation after
another, holds of a whole resolution as soon as it holds of the requests to the sources.
-/

namespace Homelab

/-- What holds of a computation that gives a value at once or fails, and of one computation after
another if it holds of both. -/
structure Closed {m : Type → Type} [Monad m] [MonadExceptOf Failure m]
    (holds : (α : Type) → m α → Prop) : Prop where
  pure : ∀ {α : Type} (a : α), holds α (pure a)
  throw : ∀ {α : Type} (e : Failure), holds α (throwThe Failure e)
  bind : ∀ {α β : Type} {x : m α} {f : α → m β}, holds α x → (∀ a, holds β (f a)) →
    holds β (x >>= f)
  map : ∀ {α β : Type} (f : α → β) {x : m α}, holds α x → holds β (f <$> x)

namespace Closed

variable {m : Type → Type} [Monad m] [MonadExceptOf Failure m]
  {holds : (α : Type) → m α → Prop} {τ α : Type}

/-- What holds of a computation with a state of its own, from whatever state it begins. -/
def FromAll (holds : (α : Type) → m α → Prop) (τ : Type) : (α : Type) → StateT τ m α → Prop :=
  fun α x => ∀ t, holds (α × τ) (x t)

theorem withState
    (h : Closed holds) :
    Closed (FromAll holds τ) where
  pure a t := h.pure (a, t)
  throw e t := h.bind (h.throw e) fun a => h.pure (a, t)
  bind hx hf t := h.bind (hx t) fun r => hf r.1 r.2
  map f _ hx t := h.bind (hx t) fun r => h.pure (f r.1, r.2)

section State

variable (h : Closed holds)
include h

theorem ofGet :
    FromAll holds τ τ get :=
  fun t => h.pure (t, t)

theorem ofSet
    (next : τ) :
    FromAll holds τ PUnit (set next) :=
  fun _ => h.pure (PUnit.unit, next)

theorem ofModify
    (f : τ → τ) :
    FromAll holds τ PUnit (modify f) :=
  fun t => h.pure (PUnit.unit, f t)

theorem ofLift
    {x : m α}
    (hx : holds α x) :
    FromAll holds τ α (liftM x : StateT τ m α) :=
  fun t => h.bind hx fun a => h.pure (a, t)

theorem run'
    {x : StateT τ m α}
    (hx : FromAll holds τ α x)
    (t : τ) :
    holds α (x.run' t) :=
  h.map _ (hx t)

end State

/-! ### A pass -/

section Pass

variable {p : Pass m} (h : Closed holds)
include h

theorem ask
    (hlookup : ∀ r, holds _ (p.lookup r))
    (r : Reference) :
    FromAll holds Memo _ (p.ask r) := by
  refine h.withState.bind h.ofGet fun memo => ?_
  cases memo.lookup r.text with
  | some found => exact h.withState.pure found
  | none =>
      exact h.withState.bind (h.ofLift (hlookup r)) fun _ =>
        h.withState.bind (h.ofModify _) fun _ => h.withState.pure _

theorem inline
    (v : Value) :
    FromAll holds Memo _ (Pass.inline v) := by
  unfold Pass.inline
  cases v.inlineText? with
  | some s => exact h.withState.pure _
  | none => exact h.withState.throw _

theorem piece
    (hlookup : ∀ r, holds _ (p.lookup r))
    (c : Reference.Piece) :
    FromAll holds Memo _ (p.piece c) := by
  unfold Pass.piece
  split
  · exact h.withState.pure _
  · split
    · refine h.withState.bind (h.ask hlookup _) fun found => ?_
      cases found with
      | some v => exact h.inline v
      | none => exact h.withState.pure _
    · exact h.withState.pure _

theorem spliced
    (hlookup : ∀ r, holds _ (p.lookup r)) :
    ∀ cs : List Reference.Piece, FromAll holds Memo _ (p.spliced cs)
  | [] => h.withState.pure _
  | c :: rest => h.withState.bind (h.piece hlookup c) fun _ =>
      h.withState.bind (spliced hlookup rest) fun _ => h.withState.pure _

theorem onText
    (hlookup : ∀ r, holds _ (p.lookup r))
    (s : String) :
    FromAll holds Memo _ (p.onText s) := by
  unfold Pass.onText
  split
  · split
    · refine h.withState.bind (h.ask hlookup _) fun found => ?_
      cases found <;> exact h.withState.pure _
    · exact h.withState.pure _
  · split
    · exact h.withState.bind (h.spliced hlookup _) fun _ => h.withState.pure _
    · exact h.withState.pure _

mutual

theorem mapTexts
    {f : String → m Value}
    (hf : ∀ s, holds _ (f s)) :
    ∀ v : Value, holds _ (v.mapTextsM f)
  | .scalar (.str s) => hf s
  | .scalar .null | .scalar (.bool _) | .scalar (.int _) | .scalar (.float _)
  | .scalar (.bytes _) | .scalar (.date _) | .scalar (.moment _) | .set _ => h.pure _
  | .list items => h.bind (mapItems hf items) fun _ => h.pure _
  | .map entries => h.bind (mapEntries hf entries) fun _ => h.pure _

theorem mapItems
    {f : String → m Value}
    (hf : ∀ s, holds _ (f s)) :
    ∀ items : List Value, holds _ (Value.mapItemsM f items)
  | [] => h.pure _
  | v :: rest => h.bind (mapTexts hf v) fun _ => h.bind (mapItems hf rest) fun _ => h.pure _

theorem mapEntries
    {f : String → m Value}
    (hf : ∀ s, holds _ (f s)) :
    ∀ entries : List (Scalar × Value), holds _ (Value.mapEntriesM f entries)
  | [] => h.pure _
  | (_, v) :: rest => h.bind (mapTexts hf v) fun _ => h.bind (mapEntries hf rest) fun _ => h.pure _

end

theorem run
    (hlookup : ∀ r, holds _ (p.lookup r))
    (v : Value) :
    holds _ (p.run v) :=
  h.run' (h.withState.mapTexts (h.onText hlookup) v) []

end Pass

/-! ### All passes -/

section Resolve

variable (h : Closed holds)
include h

theorem fillWith
    {α : Type} {source : Option α} {step : α → Value → m Value}
    (hstep : ∀ a, source = some a → ∀ v, holds _ (step a v))
    (v : Value) :
    holds _ (Value.fillWith source step v) := by
  unfold Value.fillWith
  cases source with
  | none => exact h.pure v
  | some a => exact hstep a rfl v

theorem fillSecrets
    (secrets : List Value) (v : Value) :
    holds _ (Value.fillSecrets secrets v) :=
  h.run (fun _ => h.pure _) v

theorem fillHostAddress
    {hostAddress : m String}
    (haddress : holds _ hostAddress)
    (v : Value) :
    holds _ (Value.fillHostAddress hostAddress v) := by
  refine h.run' (h.withState.run (fun r => ?_) v) none
  refine h.withState.bind (h.withState.bind h.ofGet fun known => ?_) fun _ => h.withState.pure _
  cases known with
  | some text => exact h.withState.pure text
  | none =>
      exact h.withState.bind (h.ofLift haddress) fun _ =>
        h.withState.bind (h.ofSet _) fun _ => h.withState.pure _

/-- What holds of every request to the sources holds of the whole resolution. -/
theorem resolve
    {sources : Sources m}
    (hvmid : ∀ registry, sources.registry = some registry → ∀ kind token,
      holds _ (registry.vmid kind token))
    (hip : ∀ registry, sources.registry = some registry → ∀ network token,
      holds _ (registry.ip network token))
    (haddress : ∀ hostAddress, sources.hostAddress = some hostAddress → holds _ hostAddress)
    (v : Value) :
    holds _ (Value.resolve sources v) := by
  have hsecrets : ∀ w, holds _ (Value.fillWith sources.secrets Value.fillSecrets w) :=
    h.fillWith fun secrets _ => h.fillSecrets secrets
  have hroot : holds _ (sources.inventory.mapM (Value.fillWith sources.secrets Value.fillSecrets)) := by
    cases sources.inventory with
    | none => exact h.pure none
    | some root => exact h.map _ (hsecrets root)
  have hplain : ∀ (p : Pass m), (∀ r, ∃ found, p.lookup r = Pure.pure found) → ∀ w,
      holds _ (p.run w) := by
    intro p hp w
    refine h.run (fun r => ?_) w
    obtain ⟨found, hfound⟩ := hp r
    exact hfound ▸ h.pure found
  refine h.bind (hsecrets v) fun _ => h.bind hroot fun _ =>
    h.bind (h.fillWith (fun root _ => hplain _ fun _ => ⟨_, rfl⟩) _) fun _ =>
    h.bind (hplain _ (fun _ => ⟨_, rfl⟩) _) fun _ =>
    h.bind (h.fillWith (fun registry hregistry => h.run fun r => ?_) _) fun _ =>
    h.bind (h.fillWith (fun registry hregistry => h.run fun r => ?_) _) fun _ =>
    h.fillWith (fun hostAddress hgiven => h.fillHostAddress (haddress hostAddress hgiven)) _
  · dsimp only [Pass.vmid]
    split
    · exact h.bind (hvmid registry hregistry _ _) fun _ => h.pure _
    · exact h.pure _
  · dsimp only [Pass.ip]
    split
    · exact h.bind (hip registry hregistry _ _) fun _ => h.pure _
    · exact h.pure _

end Resolve

end Closed
end Homelab
