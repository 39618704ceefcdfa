import Homelab.Proofs.Ledger.Unchanged
import Homelab.Proofs.Resolution.Lookups
import Homelab.Proofs.Resolution.Substituted

/-!
# What a run has handed out

The passes that ask the ledger come last; those before them leave it alone.  In the end the
ledger has handed out one value for each token of a machine number or of an address, in the
order of asking, and the document has these values in the place of the tokens.

In a run that reserves they are the values that the tokens are bound to by then.  In a run that
releases they are those that the tokens were bound to at first, and none of the tokens is bound
any more.  Once the run has committed to the file that it has loaded, the same can be said of
the file.
-/

namespace Homelab

open Reservation

/-! ### The passes before those that ask -/

namespace Value

section

variable {m : Type → Type} [Monad m] [LawfulMonad m] [MonadExceptOf Failure m]

/-- The passes that ask for numbers and addresses come last. -/
theorem resolve_registry
    (root : Option Value) (secrets : Option (List Value)) (registry : Registry m) (v : Value) :
    resolve ⟨root, secrets, some registry, none⟩ v =
      resolve ⟨root, secrets, none, none⟩ v >>= fun v =>
        fillVmids registry v >>= fillIps registry := by
  simp [resolve, fillWith]

end

section

variable {σ : Type} {secrets : Option (List Value)} {v w : Value} {s s' : σ}

theorem state_of_fillSecrets
    (h : outcome (fillWith secrets fillSecrets v : ExceptT Failure (StateM σ) Value) s =
      (.ok w, s')) :
    s' = s := by
  rw [← Meaning.plain_eq_ok_iff, ending_fillWith ending_fillSecrets] at h
  exact (Meaning.still_eq_ok_iff.mp h).2

/-- The passes before leave the state alone. -/
theorem state_of_resolve
    {root : Option Value}
    (h : outcome (resolve ⟨root, secrets, none, none⟩ v : ExceptT Failure (StateM σ) Value) s =
      (.ok w, s')) :
    s' = s := by
  rw [← Meaning.plain_eq_ok_iff, ending_lookups] at h
  exact (Meaning.still_eq_ok_iff.mp h).2

end

end Value

/-! ### Two passes after one another -/

namespace Ledger

variable {inv : Inventory} {v w filled : Value} {mid l : Ledger}

/-- What a run has done that has filled a document with reservations. -/
structure Filled (inv : Inventory) (v w : Value) (l : Ledger) : Prop where
  calls : ∃ calls : List Call, (∀ c ∈ calls, c.mode = .reserve) ∧ l = (start inv).afterAll calls
  made : ∀ k : ReservedKind, ∃ new, k.book l = ⟨k.entries inv.reserved ++ new, new, []⟩ ∧
    tokens new = ((k.tokensOf v).map Reference.text).filter
      fun t => t ∉ tokens (k.entries inv.reserved)
  bound : ∀ k : ReservedKind, ∀ r ∈ k.tokensOf v, r.text ∈ tokens (k.book l).live
  handedOut : l.handedOut = ReservedKind.givenFor l v
  value : w = ReservedKind.ip.fill l (ReservedKind.vmid.fill l v)

/-- What a run has done that has released the tokens of a document. -/
structure Released (inv : Inventory) (v w : Value) (l : Ledger) : Prop where
  calls : ∃ calls : List Call, (∀ c ∈ calls, c.mode = .release) ∧ l = (start inv).afterAll calls
  live : ∀ k : ReservedKind, (k.book l).live =
    (k.entries inv.reserved).filter fun e => e.token ∉ (k.tokensOf v).map Reference.text
  added : ∀ k : ReservedKind, (k.book l).added = []
  removed : ∀ k : ReservedKind, tokens (k.book l).removed = (k.tokensOf v).map Reference.text
  bound : ∀ k : ReservedKind, ∀ r ∈ k.tokensOf v, r.text ∈ tokens (k.entries inv.reserved)
  handedOut : l.handedOut = ReservedKind.givenFor (start inv) v
  value : w = ReservedKind.ip.fill (start inv) (ReservedKind.vmid.fill (start inv) v)

theorem book_start
    (k : ReservedKind) (inv : Inventory) :
    k.book (start inv) = ⟨k.entries inv.reserved, [], []⟩ := by
  cases k <;> rfl

/-- Calls after one another are some calls. -/
theorem exists_calls_append
    {mode : Mode} {l₀ : Ledger}
    (h : ∃ calls : List Call, (∀ c ∈ calls, c.mode = mode) ∧ mid = l₀.afterAll calls)
    (h' : ∃ calls : List Call, (∀ c ∈ calls, c.mode = mode) ∧ l = mid.afterAll calls) :
    ∃ calls : List Call, (∀ c ∈ calls, c.mode = mode) ∧ l = l₀.afterAll calls := by
  obtain ⟨calls, hcalls, rfl⟩ := h
  obtain ⟨calls', hcalls', rfl⟩ := h'
  refine ⟨calls ++ calls', fun c hc => ?_, ?_⟩
  · rcases List.mem_append.mp hc with hc | hc
    · exact hcalls c hc
    · exact hcalls' c hc
  · rw [afterAll_append]

/-- The tokens of both kinds are different, so that each is handed out on its own. -/
theorem handedOut_append
    {first second : Ledger}
    (hbound : ∀ t ∈ (ReservedKind.vmid.tokensOf v).map Reference.text,
      t ∈ tokens (ReservedKind.vmid.book first).live)
    (hfirst : ((start inv).handedOut.map Prod.fst ++
        (ReservedKind.vmid.tokensOf v).map Reference.text).Nodup →
      mid.handedOut = (start inv).handedOut ++
        ReservedKind.vmid.given first ((ReservedKind.vmid.tokensOf v).map Reference.text))
    (hsecond : (mid.handedOut.map Prod.fst ++
        (ReservedKind.ip.tokensOf v).map Reference.text).Nodup →
      l.handedOut = mid.handedOut ++
        ReservedKind.ip.given second ((ReservedKind.ip.tokensOf v).map Reference.text)) :
    l.handedOut =
      ReservedKind.vmid.given first ((ReservedKind.vmid.tokensOf v).map Reference.text) ++
        ReservedKind.ip.given second ((ReservedKind.ip.tokensOf v).map Reference.text) := by
  have hnodup := ReservedKind.nodup_tokenTexts v
  rw [ReservedKind.tokenTexts, List.map_append] at hnodup
  have hmid : mid.handedOut =
      ReservedKind.vmid.given first ((ReservedKind.vmid.tokensOf v).map Reference.text) :=
    hfirst (List.nodup_append.mp hnodup).1
  have hkeys : mid.handedOut.map Prod.fst = (ReservedKind.vmid.tokensOf v).map Reference.text := by
    rw [hmid, ReservedKind.keys_given hbound]
  rw [hsecond (hkeys ▸ hnodup), hmid]

theorem filled_of_runs
    (hvmids : outcome ((ReservedKind.vmid.pass .reserve).run v) (start inv) = (.ok filled, mid))
    (hips : outcome ((ReservedKind.ip.pass .reserve).run filled) mid = (.ok w, l)) :
    Filled inv v w l ∧ filled = ReservedKind.vmid.fill l v := by
  obtain ⟨hfirst, rfl⟩ := ReservedKind.run_reserve hvmids
  obtain ⟨hsecond, hw⟩ := ReservedKind.run_reserve hips
  have hkept : ReservedKind.vmid.book l = ReservedKind.vmid.book mid :=
    hsecond.others .vmid (by decide)
  have hfill : ReservedKind.vmid.fill mid v = ReservedKind.vmid.fill l v :=
    ReservedKind.fill_eq_of_pairs (by rw [hkept]) v
  rw [ReservedKind.tokensOf_fill] at hsecond
  refine ⟨⟨exists_calls_append hfirst.calls hsecond.calls, fun k => ?_, fun k r hr => ?_, ?_,
    hfill ▸ hw⟩, hfill⟩
  · cases k with
    | vmid =>
        obtain ⟨new, hmade, htokens⟩ := hfirst.made
        exact ⟨new, hkept.trans hmade, htokens⟩
    | ip =>
        obtain ⟨new, hmade, htokens⟩ := hsecond.made
        rw [hfirst.others .ip (by decide)] at hmade htokens
        exact ⟨new, hmade, htokens⟩
  · cases k with
    | vmid =>
        rw [hkept]
        exact hfirst.bound _ (List.mem_map_of_mem hr)
    | ip => exact hsecond.bound _ (List.mem_map_of_mem hr)
  · rw [handedOut_append hfirst.bound hfirst.handed hsecond.handed, ReservedKind.givenFor,
      ReservedKind.given_congr fun t _ => by rw [hkept]]

theorem released_of_runs
    (hvalid : inv.Valid)
    (hvmids : outcome ((ReservedKind.vmid.pass .release).run v) (start inv) = (.ok filled, mid))
    (hips : outcome ((ReservedKind.ip.pass .release).run filled) mid = (.ok w, l)) :
    Released inv v w l := by
  have hnodup : ∀ k : ReservedKind, (tokens (k.book (start inv)).live).Nodup := by
    intro k
    rw [book_start]
    exact (k.lawful hvalid).tokens_nodup
  obtain ⟨hfirst, rfl⟩ := ReservedKind.run_release (hnodup .vmid) (by rw [book_start]) hvmids
  have hmid : ReservedKind.ip.book mid = ReservedKind.ip.book (start inv) :=
    hfirst.others .ip (by decide)
  obtain ⟨hsecond, hw⟩ := ReservedKind.run_release (by rw [hmid]; exact hnodup .ip)
    (by rw [hmid, book_start]) hips
  have hkept : ReservedKind.vmid.book l = ReservedKind.vmid.book mid :=
    hsecond.others .vmid (by decide)
  rw [ReservedKind.tokensOf_fill] at hsecond
  refine ⟨exists_calls_append hfirst.calls hsecond.calls, fun k => ?_, fun k => ?_, fun k => ?_,
    fun k r hr => ?_, ?_, ?_⟩
  · cases k with
    | vmid => rw [hkept, hfirst.live, book_start]
    | ip => rw [hsecond.live, hmid, book_start]
  · cases k with
    | vmid => rw [hkept, hfirst.added, book_start]
    | ip => rw [hsecond.added, hmid, book_start]
  · cases k with
    | vmid =>
        rw [hkept, hfirst.removed, book_start]
        rfl
    | ip =>
        rw [hsecond.removed, hmid, book_start]
        rfl
  · cases k with
    | vmid =>
        have hmem := hfirst.bound _ (List.mem_map_of_mem (f := Reference.text) hr)
        rwa [book_start] at hmem
    | ip =>
        have hmem := hsecond.bound _ (List.mem_map_of_mem (f := Reference.text) hr)
        rwa [hmid, book_start] at hmem
  · rw [handedOut_append hfirst.bound hfirst.handed hsecond.handed, ReservedKind.givenFor]
    congr 1
    exact ReservedKind.given_congr fun t _ => by rw [hmid]
  · rw [hw]
    exact ReservedKind.fill_eq_of_pairs (by rw [hmid]) _

/-! ### What a run has handed out -/

/-- What has become of a token that was handed out: it is bound to its value by now, or it was
at first and is no more. -/
def Settles (mode : Mode) (inv : Inventory) (l : Ledger) (k : ReservedKind) (token : String)
    (value : k.Bound) : Prop :=
  match mode with
  | .reserve => (token, value) ∈ pairs (k.book l).live
  | .release =>
      (token, value) ∈ pairs (k.entries inv.reserved) ∧ token ∉ tokens (k.book l).live

/-- What a run has done that has put values in the place of the tokens of a document. -/
structure HandsOut (mode : Mode) (inv : Inventory) (v w : Value) (l : Ledger) : Prop where
  calls : ∃ calls : List Call, (∀ c ∈ calls, c.mode = mode) ∧ l = (start inv).afterAll calls
  known : l.ReleasesKnown inv
  keys : l.handedOut.map Prod.fst = ReservedKind.tokenTexts v
  value : w = v.withAllocations l.handedOut
  settles : ∀ k : ReservedKind, ∀ r ∈ k.tokensOf v, ∃ value : k.Bound,
    l.handedOut.lookup r.text = some (k.allocated value) ∧ Settles mode inv l k r.text value

/-- What is handed out for a document are the values that its tokens are bound to. -/
theorem handedOut_eq
    {books : Ledger}
    (hbound : ∀ k : ReservedKind, ∀ r ∈ k.tokensOf v, r.text ∈ tokens (k.book books).live)
    (h : l.handedOut = ReservedKind.givenFor books v) :
    l.handedOut.map Prod.fst = ReservedKind.tokenTexts v ∧
      ∀ k : ReservedKind, ∀ r ∈ k.tokensOf v, ∃ value : k.Bound,
        l.handedOut.lookup r.text = some (k.allocated value) ∧
          (r.text, value) ∈ pairs (k.book books).live := by
  have hkeys : ∀ k : ReservedKind, ∀ t ∈ (k.tokensOf v).map Reference.text,
      t ∈ tokens (k.book books).live := by
    intro k t ht
    obtain ⟨r, hr, rfl⟩ := List.mem_map.mp ht
    exact hbound k r hr
  refine ⟨?_, fun k r hr => ?_⟩
  · rw [h, ReservedKind.givenFor, List.map_append, ReservedKind.keys_given (hkeys .vmid),
      ReservedKind.keys_given (hkeys .ip), ReservedKind.tokenTexts, List.map_append]
  · obtain ⟨e, he⟩ := ReservedKind.exists_find? (hbound k r hr)
    obtain ⟨hmem, htoken⟩ := mem_of_find?_eq_some he
    refine ⟨e.value, ?_, mem_pairs.mpr ⟨e, hmem, htoken, rfl⟩⟩
    rw [h, ReservedKind.lookup_givenFor hr he]

theorem Filled.releasesKnown
    (h : Filled inv v w l) :
    l.ReleasesKnown inv := by
  have hremoved : ∀ k : ReservedKind, (k.book l).ReleasesKnown (k.entries inv.reserved) := by
    intro k
    obtain ⟨new, hmade, -⟩ := h.made k
    simp [Book.ReleasesKnown, hmade, tokens]
  exact ⟨hremoved .vmid, hremoved .ip⟩

theorem Released.releasesKnown
    (h : Released inv v w l) :
    l.ReleasesKnown inv := by
  have hremoved : ∀ k : ReservedKind, (k.book l).ReleasesKnown (k.entries inv.reserved) := by
    intro k t ht
    rw [h.removed k, List.mem_map] at ht
    obtain ⟨r, hr, rfl⟩ := ht
    exact h.bound k r hr
  exact ⟨hremoved .vmid, hremoved .ip⟩

theorem Filled.handsOut
    (h : Filled inv v w l) :
    HandsOut .reserve inv v w l := by
  obtain ⟨hkeys, hgiven⟩ := handedOut_eq h.bound h.handedOut
  refine ⟨h.calls, h.releasesKnown, hkeys, ?_, hgiven⟩
  rw [h.value, h.handedOut, ReservedKind.fill_fill h.bound]

theorem Released.handsOut
    (h : Released inv v w l) :
    HandsOut .release inv v w l := by
  have hbound : ∀ k : ReservedKind, ∀ r ∈ k.tokensOf v,
      r.text ∈ tokens (k.book (start inv)).live := by
    intro k r hr
    rw [book_start]
    exact h.bound k r hr
  obtain ⟨hkeys, hgiven⟩ := handedOut_eq hbound h.handedOut
  refine ⟨h.calls, h.releasesKnown, hkeys, ?_, fun k r hr => ?_⟩
  · rw [h.value, h.handedOut, ReservedKind.fill_fill hbound]
  · obtain ⟨value, hlookup, hvalue⟩ := hgiven k r hr
    rw [book_start] at hvalue
    refine ⟨value, hlookup, hvalue, ?_⟩
    rw [h.live k, mem_tokens]
    rintro ⟨e, he, htoken⟩
    have hother := (List.mem_filter.mp he).2
    rw [htoken] at hother
    exact of_decide_eq_true hother (List.mem_map_of_mem hr)

/-- What the passes over a document have done to the ledger, and to the document. -/
theorem handsOut_of_resolve
    {mode : Mode} {root : Option Value} {secrets : Option (List Value)} {document : Value}
    (hvalid : inv.Valid)
    (h : outcome (Value.resolve ⟨root, secrets, some (registry mode), none⟩ document)
      (start inv) = (.ok w, l)) :
    ∃ v, outcome (Value.resolve ⟨root, secrets, none, none⟩ document : Run Value) (start inv) =
        (.ok v, start inv) ∧
      HandsOut mode inv v w l := by
  rw [Value.resolve_registry] at h
  obtain ⟨v, next, hv, h⟩ := outcome_bind_eq_ok.mp h
  obtain rfl := Value.state_of_resolve hv
  obtain ⟨filled, mid, hvmids, hips⟩ := outcome_bind_eq_ok.mp h
  refine ⟨v, hv, ?_⟩
  cases mode with
  | reserve => exact (filled_of_runs hvmids hips).1.handsOut
  | release => exact (released_of_runs hvalid hvmids hips).handsOut

/-! ### The file after the run has committed -/

section Committed

variable {mode : Mode} {file text : String} {site after : Site} {next : Ledger}

/-- A commit to the file that was loaded binds what the ledger binds, and nothing else. -/
theorem HandsOut.binds_iff [DepthLimits]
    (h : HandsOut mode inv v w l)
    (hread : site.read file = .ok text)
    (hload : Inventory.ofText file text = .ok inv)
    (hcommit : outcome (l.commit file) site = (.ok next, after))
    (k : ReservedKind) (token : String) (value : k.Bound) :
    k.Binds file after token value ↔ (token, value) ∈ pairs (k.book l).live := by
  obtain ⟨document, -, hinv⟩ := documentOfText_of_ofText hload
  have hvalid := Inventory.valid_of_ofValue hinv
  have hknown := h.known
  obtain ⟨calls, -, rfl⟩ := h.calls
  rw [k.live_book]
  rcases commit_cases ((plain_start inv).afterAll calls) file site with ⟨e, hends⟩ |
    ⟨hchanges, hends⟩ | ⟨text₀, text', disk, inv', hread₀, hdisk, hends, hread', hinv', hbare⟩
  · rw [hends] at hcommit
    cases hcommit
  · rw [hends] at hcommit
    obtain ⟨-, rfl⟩ := Prod.mk.inj hcommit
    rw [ReservedKind.binds_iff hread hload, inventory_of_not_hasChanges hvalid hchanges]
  · rw [hends] at hcommit
    obtain ⟨-, rfl⟩ := Prod.mk.inj hcommit
    obtain rfl := Except.ok.inj (hread.symm.trans hread₀)
    obtain rfl := Except.ok.inj (hload.symm.trans hdisk)
    rw [ReservedKind.binds_iff hread' hinv', ReservedKind.pairs_eq_of_bare hbare,
      mergedInto_loaded hvalid hknown]

/-- What has become of the tokens of a document in the file. -/
theorem HandsOut.settled [DepthLimits]
    (h : HandsOut mode inv v w l)
    (hread : site.read file = .ok text)
    (hload : Inventory.ofText file text = .ok inv)
    (hcommit : outcome (l.commit file) site = (.ok next, after)) :
    ∀ k : ReservedKind, ∀ r ∈ k.tokensOf v, ∃ value : k.Bound,
      l.handedOut.lookup r.text = some (k.allocated value) ∧
      match mode with
      | .reserve => k.Binds file after r.text value
      | .release =>
          k.Binds file site r.text value ∧ ∀ value', ¬ k.Binds file after r.text value' := by
  intro k r hr
  obtain ⟨value, hlookup, hsettles⟩ := h.settles k r hr
  have hbinds := h.binds_iff hread hload hcommit k r.text
  refine ⟨value, hlookup, ?_⟩
  cases mode with
  | reserve => exact (hbinds value).mpr hsettles
  | release =>
      refine ⟨(ReservedKind.binds_iff hread hload).mpr hsettles.1, fun value' hbound => ?_⟩
      obtain ⟨e, he, htoken, -⟩ := mem_pairs.mp ((hbinds value').mp hbound)
      exact hsettles.2 (mem_tokens.mpr ⟨e, he, htoken⟩)

end Committed

end Ledger
end Homelab
