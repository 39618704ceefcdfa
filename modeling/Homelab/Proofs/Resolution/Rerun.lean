import Homelab.Proofs.Resolution.HandedOut

/-!
# Running again after a commit

A run that reserves leaves every token of its document bound.  Once it has committed, the file
binds them to the same values, so that a later run on the same document is only told what it
asks for.  It fills the document in the same way, changes nothing and has nothing to commit.
-/

namespace Homelab

open Reservation

namespace Ledger

/-- The passes that ask a ledger: machine numbers are filled in, and then addresses. -/
def fillReservations [DepthLimits] (mode : Mode) (v : Value) : Run Value := do
  let v ← v.walkedBy (Value.fillVmids (registry mode))
  v.walkedBy (Value.fillIps (registry mode))

theorem outcome_fillReservations [DepthLimits]
    {mode : Mode} {v w : Value} {l l' : Ledger} :
    outcome (fillReservations mode v) l = (.ok w, l') ↔
      ∃ filled mid, outcome (v.walkedBy (ReservedKind.vmid.pass mode).run) l = (.ok filled, mid) ∧
        outcome (filled.walkedBy (ReservedKind.ip.pass mode).run) mid = (.ok w, l') := by
  have hvmids : Value.fillVmids (registry mode) = (ReservedKind.vmid.pass mode).run := rfl
  have hips : Value.fillIps (registry mode) = (ReservedKind.ip.pass mode).run := rfl
  rw [fillReservations, hvmids, hips, outcome_bind_eq_ok]

section Rerun

variable {file text : String} {site : Site} {inv inv' : Inventory} {v w : Value} {l : Ledger}

theorem filled_of_outcome [DepthLimits]
    (hrun : outcome (fillReservations .reserve v) (start inv) = (.ok w, l)) :
    Filled inv v w l ∧ v.IsWalked ∧ (ReservedKind.vmid.fill l v).IsWalked := by
  obtain ⟨filled, mid, hvmids, hips⟩ := outcome_fillReservations.mp hrun
  obtain ⟨hwalked, -⟩ := ReservedKind.filled_reserve hvmids
  obtain ⟨hwalked', -⟩ := ReservedKind.filled_reserve hips
  rw [Value.walkedBy_of_isWalked hwalked] at hvmids
  rw [Value.walkedBy_of_isWalked hwalked'] at hips
  obtain ⟨hfilled, hfirst⟩ := filled_of_runs hvmids hips
  exact ⟨hfilled, hwalked, hfirst ▸ hwalked'⟩

theorem tokens_of_pairs
    {k : ReservedKind} {es fs : List (Reservation k.Bound)}
    (h : pairs es = pairs fs) :
    tokens es = tokens fs := by
  have hpairs := congrArg (List.map Prod.fst) h
  simpa [pairs, tokens, Function.comp_def] using hpairs

/-- With the same bindings a document is filled in the same way. -/
theorem fill_eq_of_book
    {k : ReservedKind}
    (mid : Ledger)
    (hsame : pairs (k.entries inv'.reserved) = pairs (k.book l).live)
    (hmid : k.book mid = k.book (start inv'))
    (v : Value) :
    k.fill mid v = k.fill l v := by
  refine ReservedKind.fill_eq_of_pairs ?_ v
  rw [hmid, k.live_book, ← hsame]
  rfl

/-- The same run on an inventory with the bindings that it has made is only told what it asks
for. -/
theorem Filled.again [DepthLimits]
    (h : Filled inv v w l)
    (hwalked : v.IsWalked ∧ (ReservedKind.vmid.fill l v).IsWalked)
    (hsame : ∀ k : ReservedKind, pairs (k.entries inv'.reserved) = pairs (k.book l).live) :
    ∃ handedOut, outcome (fillReservations .reserve v) (start inv') =
      (.ok w, { start inv' with handedOut := handedOut }) := by
  have hbound : ∀ k : ReservedKind, ∀ r ∈ k.tokensOf v,
      r.text ∈ tokens (k.entries inv'.reserved) := by
    intro k r hr
    rw [tokens_of_pairs (hsame k)]
    exact h.bound k r hr
  obtain ⟨first, hfirst⟩ :=
    ReservedKind.filled_told (k := .vmid) (l := start inv') hwalked.1 (hbound .vmid)
  rw [fill_eq_of_book (start inv') (hsame .vmid) rfl] at hfirst
  obtain ⟨second, hsecond⟩ := ReservedKind.filled_told (k := .ip)
    (l := { start inv' with handedOut := first }) hwalked.2 fun r hr => hbound .ip r (by
      rwa [ReservedKind.tokensOf_fill] at hr)
  have hvalue : w = ReservedKind.ip.fill { start inv' with handedOut := first }
      (ReservedKind.vmid.fill l v) :=
    h.value.trans (fill_eq_of_book _ (hsame .ip) rfl _).symm
  rw [← hvalue] at hsecond
  exact ⟨second, outcome_fillReservations.mpr ⟨_, _, hfirst, hsecond⟩⟩

/-- With what a run has reserved an inventory can be written exactly if it can be written
without. -/
theorem Filled.isWritable_iff
    (h : Filled inv v w l)
    (hvalid : inv.Valid) :
    l.inventory.isWritable = true ↔ inv.isWritable = true := by
  obtain ⟨calls, -, hcalls⟩ := h.calls
  refine ⟨fun hwritable => ?_, fun hwritable => ?_⟩
  · obtain ⟨-, -, hinventory⟩ := tracks_afterAll hvalid calls
    rw [← hcalls] at hinventory
    obtain ⟨new, hvmids, -⟩ := h.made .vmid
    obtain ⟨new', hips, -⟩ := h.made .ip
    have hvmids' : l.vmidBook.live = inv.reserved.vmids ++ new := congrArg Book.live hvmids
    have hips' : l.ipBook.live = inv.reserved.ips ++ new' := congrArg Book.live hips
    rw [hinventory, Inventory.isWritable_withReservations_iff, hvmids', hips'] at hwritable
    obtain ⟨hrest, hshallow, hshallow'⟩ := hwritable
    rw [← Inventory.withReservations_self inv, Inventory.isWritable_withReservations_iff]
    exact ⟨hrest, fun e he => hshallow e (List.mem_append_left _ he),
      fun e he => hshallow' e (List.mem_append_left _ he)⟩
  · rw [hcalls]
    exact isWritable_afterAll hwritable calls

/-- A run that fills a document with reservations can commit to the file that it has loaded,
unless there is something to write and the inventory keeps a value of too many levels or the
file cannot be replaced.  Once it has, the same run on what the file holds by then fills the
document in the same way, has no changes and leaves the file alone. -/
theorem rerun_after_commit [DepthLimits]
    (hread : site.read file = .ok text)
    (hload : Inventory.ofText file text = .ok inv)
    (hrun : outcome (fillReservations .reserve v) (start inv) = (.ok w, l)) :
    let (result, after) := outcome (l.commit file) site
    ((∃ next, result = .ok next) ↔
      (l.hasChanges = true → inv.isWritable = true ∧ site.outside.replaceFault = none)) ∧
    (∀ e, result = .error e →
      after = site ∧
      (inv.isWritable = false → e = Inventory.tooManyLevels) ∧
      (inv.isWritable = true →
        ∃ reason, site.outside.replaceFault = some reason ∧ e = .system reason)) ∧
    ∀ next, result = .ok next →
      ∃ text' inv' again, after.read file = .ok text' ∧ Inventory.ofText file text' = .ok inv' ∧
        outcome (fillReservations .reserve v) (start inv') = (.ok w, again) ∧
        again.hasChanges = false ∧ outcome (again.commit file) after = (.ok again, after) := by
  obtain ⟨hfilled, hwalked⟩ := filled_of_outcome hrun
  obtain ⟨document, hdocument, hinv⟩ := documentOfText_of_ofText hload
  have hvalid := Inventory.valid_of_ofValue hinv
  have hwritable := hfilled.isWritable_iff hvalid
  obtain ⟨calls, -, hcalls⟩ := hfilled.calls
  -- a run on an inventory with the same bindings changes nothing
  have hagain : ∀ {text' : String} {inv' : Inventory} {after : Site},
      after.read file = .ok text' → Inventory.ofText file text' = .ok inv' →
      (∀ k : ReservedKind, pairs (k.entries inv'.reserved) = pairs (k.book l).live) →
      ∃ text' inv' again, after.read file = .ok text' ∧ Inventory.ofText file text' = .ok inv' ∧
        outcome (fillReservations .reserve v) (start inv') = (.ok w, again) ∧
        again.hasChanges = false ∧ outcome (again.commit file) after = (.ok again, after) := by
    intro text' inv' after hread' hload' hsame
    obtain ⟨handedOut, hrun'⟩ := hfilled.again hwalked hsame
    exact ⟨text', inv', _, hread', hload', hrun', rfl, rfl⟩
  cases hchanges : l.hasChanges with
  | false =>
      have hcommit : outcome (l.commit file) site = (.ok l, site) := by
        simp [commit, hchanges]
      have hsame : l.inventory = inv := by
        rw [hcalls] at hchanges ⊢
        exact inventory_of_not_hasChanges hvalid hchanges
      rw [hcommit]
      refine ⟨by simp, by simp, fun next _ => hagain hread hload fun k => ?_⟩
      rw [k.live_book, hsame]
  | true =>
      have hmerged : l.mergedInto inv = l.inventory := by
        have hknown := hfilled.releasesKnown
        rw [hcalls] at hknown ⊢
        exact mergedInto_loaded hvalid hknown
      have hsound : l.Sound := hcalls ▸ (sound_start hinv).afterAll calls
      have hplain : l.Plain := hcalls ▸ (plain_start inv).afterAll calls
      have hending := ending_commit hplain hchanges hread hdocument hinv
      generalize outcome (l.commit file) site = ending at hending ⊢
      cases hending with
      | tooDeep hdeep =>
          rw [hmerged, Bool.eq_false_iff, ne_eq, hwritable] at hdeep
          simp [hdeep]
      | conflict _ hbroken =>
          rw [hmerged] at hbroken
          exact absurd hsound.valid hbroken
      | refused hfits _ hreason =>
          rw [hmerged, hwritable] at hfits
          simp [hfits, hreason]
      | @written text' hfits _ hreplace hholds =>
          rw [hmerged, hwritable] at hfits
          obtain ⟨hread', inv', hload', hbare⟩ := load_of_holds hread hholds
          refine ⟨by simp [hfits, hreplace], by simp, fun next _ => hagain hread' hload' fun k => ?_⟩
          rw [k.live_book, ← hmerged]
          exact ReservedKind.pairs_eq_of_bare hbare

end Rerun

/-! ### A run that reserves and is repeated -/

theorem outcome_firstRequest
    {inv : Inventory}
    (hnew : inv.reservedVmid? "vm:id:web" = none)
    (hnext : inv.nextVmid "vm" = .ok 100) :
    outcome ((registry .reserve).vmid "vm" "vm:id:web") (start inv) =
      (.ok 100, (start inv).after ⟨.vmid, .reserve, "vm", "vm:id:web"⟩) := by
  have hledger : (start inv).after ⟨.vmid, .reserve, "vm", "vm:id:web"⟩ =
      (outcome (Allocated.vmid <$> (registry .reserve).vmid "vm" "vm:id:web") (start inv)).2 := rfl
  have hnew' : (start inv).inventory.reservedVmid? "vm:id:web" = none := hnew
  have hnext' : (start inv).inventory.nextVmid "vm" = .ok 100 := hnext
  rw [hledger, outcome_map]
  refine Prod.ext ?_ rfl
  simp only [registry, requestVmid, outcome_serve, vmid, hnew', Inventory.reserveVmid, hnext',
    Except.map]

/-- A document that is a token for a machine number becomes the first one that is free. -/
theorem outcome_fillFirst [DepthLimits]
    {inv : Inventory}
    (hnew : inv.reservedVmid? "vm:id:web" = none)
    (hnext : inv.nextVmid "vm" = .ok 100) :
    outcome (fillReservations .reserve (.str "vm:id:web")) (start inv) =
      (.ok (.int 100), (start inv).after ⟨.vmid, .reserve, "vm", "vm:id:web"⟩) := by
  have htokens : ReservedKind.vmid.tokensOf (.str "vm:id:web") =
      [⟨"vm:id:web", .machine .vm "web"⟩] := by decide
  have hrequest := Meaning.plain_eq_ok_iff.mpr (outcome_firstRequest hnew hnext)
  have hlookup : Meaning.plain.ending ((ReservedKind.vmid.pass .reserve).lookup
      ⟨"vm:id:web", .machine .vm "web"⟩) (start inv) =
      .ok (some (.int 100), (start inv).after ⟨.vmid, .reserve, "vm", "vm:id:web"⟩) := by
    simp only [ReservedKind.pass, Pass.vmid, Meaning.ending_bind, Meaning.ending_pure,
      GuestKind.name, hrequest, Except.bind]
  have hending := (Pass.ending_walkedBy (M := Meaning.plain)
    (ReservedKind.vmid.thorough_pass .reserve) (.str "vm:id:web")
    (start inv)).eq_askEach rfl (ReservedKind.formed_pass _ _ _ _)
  rw [ReservedKind.tokensOf_pass, htokens, Pass.askEach_singleton, Pass.askNew, hlookup] at hending
  refine outcome_fillReservations.mpr ⟨.int 100, _, ?_, rfl⟩
  rw [← Meaning.plain_eq_ok_iff, hending]
  rfl

theorem outcome_fillSample [DepthLimits]
    (kept : Value) :
    outcome (fillReservations .reserve (.str "vm:id:web")) (start (sampleInventory kept)) =
      (.ok (.int 100), sampleLedger kept) :=
  outcome_fillFirst rfl (nextVmid_sampleInventory kept)

/-- A machine number is reserved for a document and committed, and the run is repeated. -/
theorem rerun_after_commit_sample :
    ∃ text text' inv' again next after, (sampleSite text).read "inventory.json" = .ok text ∧
      outcome ((sampleLedger (.int 1)).commit "inventory.json") (sampleSite text) =
        (.ok next, after) ∧
      after.read "inventory.json" = .ok text' ∧
      Inventory.ofText "inventory.json" text' = .ok inv' ∧
      outcome (fillReservations .reserve (.str "vm:id:web")) (start inv') =
        (.ok (.int 100), again) ∧ again.hasChanges = false := by
  obtain ⟨text, hread, hload⟩ := exists_sampleLoad
  have hspec := rerun_after_commit hread hload (outcome_fillSample (.int 1))
  rcases hcommit : outcome ((sampleLedger (.int 1)).commit "inventory.json") (sampleSite text) with
    ⟨result, after⟩
  rw [hcommit] at hspec
  obtain ⟨hok, -, hagain⟩ := hspec
  have hwritable : (sampleInventory (.int 1)).isWritable = true := by
    rw [isWritable_sampleInventory]
    decide
  obtain ⟨next, rfl⟩ := hok.mpr fun _ => ⟨hwritable, rfl⟩
  obtain ⟨text', inv', again, hread', hload', hrun', hchanges, -⟩ := hagain next rfl
  exact ⟨text, text', inv', again, next, after, hread, hcommit, hread', hload', hrun', hchanges⟩

/-- The passes succeed on an inventory that keeps a value of too many levels, but the commit
fails. -/
theorem filled_but_not_committed :
    ∃ text, (sampleSite text).read "inventory.json" = .ok text ∧
      Inventory.ofText "inventory.json" text = .ok (sampleInventory (nested 300)) ∧
      outcome (fillReservations .reserve (.str "vm:id:web")) (start (sampleInventory (nested 300))) =
        (.ok (.int 100), sampleLedger (nested 300)) ∧
      outcome ((sampleLedger (nested 300)).commit "inventory.json") (sampleSite text) =
        (.error Inventory.tooManyLevels, sampleSite text) := by
  obtain ⟨text, hread, hdocument⟩ :=
    exists_sampleText (fits_nested 300) (by decide) (sorted_nested 300)
  have hinv := ofValue_sampleDocument (nested 300)
  have hlevels : Inventory.levelLimit < (nested 300).levels := by
    rw [levels_nested]
    decide
  have hdeep : ((sampleLedger (nested 300)).mergedInto (sampleInventory (nested 300))).isWritable =
      false := isWritable_sampleInventory_deep hlevels _ _
  refine ⟨text, hread, ?_, outcome_fillSample (nested 300), ?_⟩
  · rw [Inventory.ofText, hdocument]
    exact hinv
  · have hending := ending_commit (usedIn_sampleLedger (nested 300)).plain
      (hasChanges_sampleLedger _) hread hdocument hinv
    generalize outcome ((sampleLedger (nested 300)).commit "inventory.json") (sampleSite text) =
      ending at hending ⊢
    cases hending with
    | tooDeep hwritable => rfl
    | conflict hwritable hvalid => simp [hdeep] at hwritable
    | refused hwritable hvalid hreason => simp [hdeep] at hwritable
    | written hwritable hvalid hreplace hholds => simp [hdeep] at hwritable

end Ledger
end Homelab
