import Homelab.Proofs.ModuleRun.Completed
import Homelab.Proofs.Resolution.Untouched

/-!
# First steps that are tried again

A first step that fails may have filled the document of the run before.  Tried again, it then
resolves what is filled already: there are no tokens left, and the ledger that it begins with
knows nothing of what was handed out before.  So the run commits nothing in the end.  If the
document is still that of the manifest, the run goes on as if nothing had been tried before.
-/

namespace Homelab

/-! ### How the state of an act moves -/

namespace ActOn

variable {σ τ α β : Type} {R : σ → σ → Prop}

/-- However an act ends, its state is one that the state at its beginning can move to. -/
def Moves (R : σ → σ → Prop) (a : ActOn σ α) : Prop :=
  ∀ (s : σ) (site : Site), R s (a.ending s site).1.2

theorem Leaves.moves
    {view : σ → τ} {a : ActOn σ α}
    (h : Leaves view a)
    (hview : ∀ {s s'}, view s' = view s → R s s') :
    Moves R a :=
  fun s site => hview (h s site).1

theorem Moves.bind
    {a : ActOn σ α} {f : α → ActOn σ β}
    (h : Moves R a)
    (hf : ∀ x, Moves R (f x))
    (htrans : ∀ {s s' s''}, R s s' → R s' s'' → R s s'') :
    Moves R (a >>= f) := by
  intro s site
  have hfirst := h s site
  rw [ending_bind]
  rcases ha : ending a s site with ⟨⟨e | x, s'⟩, site'⟩
  · rwa [ha] at hfirst
  · rw [ha] at hfirst
    exact htrans hfirst (hf x s' site')

end ActOn

namespace ModuleRun

open ActOn

variable {mode : Ledger.Mode} {run next tried begun : ModuleRun} {site mid after : Site}

/-! ### What a first step does to its run -/

/-- What a run is made of. -/
def source (run : ModuleRun) : Value × String × Settings :=
  (run.document, run.file, run.settings)

/-- The document of a run is the same as before, or it has no tokens any more; the file and the
settings are the same. -/
structure Follows (run next : ModuleRun) : Prop where
  document : next.document = run.document ∨ next.document.references = []
  file : next.file = run.file
  settings : next.settings = run.settings

theorem Follows.refl
    (run : ModuleRun) :
    Follows run run :=
  ⟨.inl rfl, rfl, rfl⟩

theorem Follows.trans
    (h : Follows run tried)
    (h' : Follows tried next) :
    Follows run next := by
  refine ⟨?_, h'.file.trans h.file, h'.settings.trans h.settings⟩
  rcases h'.document with hsame | hnone
  · rw [hsame]
    exact h.document
  · exact .inr hnone

theorem follows_of_source
    (h : next.source = run.source) :
    Follows run next := by
  simp only [source, Prod.mk.injEq] at h
  exact ⟨.inl h.1, h.2.1, h.2.2⟩

theorem Leaves.follows
    {α : Type} {a : ActOn ModuleRun α}
    (h : Leaves source a) :
    Moves Follows a :=
  h.moves follows_of_source

theorem leaves_source_fetch :
    Leaves source fetch := by
  refine leaves_scratch.bind fun clone => Leaves.bind (leaves_modify fun _ => rfl) fun _ =>
    leaves_get.bind fun run => (leaves_lift (Act.leavesFiles_runCommand _)).bind fun _ =>
      leaves_modify fun _ => rfl

/-- A document that has been resolved is put into the run only if it has no tokens left. -/
theorem moves_keepResolved
    (resolved : Value) :
    Moves Follows (do
      ActOn.ofExcept resolved.ensureResolved
      modify fun run => { run with document := resolved }
      let manifest ← ActOn.ofExcept (ModuleManifest.ofValue resolved)
      modify fun run => { run with manifest := manifest }) := by
  intro run site
  rw [ending_bind, ending_ofExcept]
  cases hensure : resolved.ensureResolved with
  | error e => exact .refl run
  | ok _ =>
      have hnone := Value.references_of_ensureResolved hensure
      simp only [ending_bind, ending_modify, ending_ofExcept]
      cases ModuleManifest.ofValue resolved with
      | error e => exact ⟨.inr hnone, rfl, rfl⟩
      | ok manifest => exact ⟨.inr hnone, rfl, rfl⟩

theorem moves_resolve [DepthLimits]
    (mode : Ledger.Mode) (inv : Inventory) (secrets : Option (List Value)) :
    Moves Follows (resolve mode inv secrets) := by
  refine (Leaves.follows (leaves_ofExcept _)).bind (fun document => ?_) Follows.trans
  refine Moves.bind (Leaves.follows (leaves_modify ?_)) (fun _ => ?_) Follows.trans
  · exact fun _ => rfl
  · refine (Leaves.follows leaves_get).bind (fun run => ?_) Follows.trans
    refine (Leaves.follows ?_).bind (fun resolved => moves_keepResolved resolved) Follows.trans
    exact fun _ site => ⟨rfl, .refl site⟩

/-- However a first step ends, the document is the same as before or has no tokens any more. -/
theorem moves_init [DepthLimits]
    (mode : Ledger.Mode) :
    Moves Follows (init mode) := by
  refine (Leaves.follows leaves_get).bind (fun run => ?_) Follows.trans
  refine (Leaves.follows (leaves_lift (Inventory.leavesFiles_load _))).bind (fun inv => ?_)
    Follows.trans
  refine (Leaves.follows (leaves_lift (Settings.leavesFiles_fetchSecrets _))).bind
    (fun secrets => ?_) Follows.trans
  exact (moves_resolve mode inv secrets).bind (fun _ => Leaves.follows leaves_source_fetch)
    Follows.trans

/-! ### After some tries -/

/-- What a run has become after some first steps that have all failed. -/
inductive Retried [DepthLimits] (mode : Ledger.Mode) (run : ModuleRun) (site : Site) :
    ModuleRun → Site → Prop where
  | none : Retried mode run site run site
  | again {tried next : ModuleRun} {mid mid' : Site} {e : Failure}
      (h : Retried mode run site tried mid)
      (hfails : ending (init mode) tried mid = ((.error e, next), mid')) :
      Retried mode run site next mid'

theorem Retried.follows [DepthLimits]
    (h : Retried mode run site tried mid) :
    Follows run tried ∧ site.Keeps mid := by
  induction h with
  | none => exact ⟨.refl run, .refl site⟩
  | @again tried next mid mid' e h hfails ih =>
      have hmoves := moves_init mode tried mid
      have hkeeps := (leavesFiles_init mode tried mid).2
      rw [hfails] at hmoves hkeeps
      exact ⟨ih.1.trans hmoves, ih.2.trans hkeeps⟩

/-- A run whose document has no tokens leaves the file as it is. -/
theorem Completes.read_of_no_references [DepthLimits]
    (h : Completes mode run site after)
    (hnone : run.document.references = []) :
    after.read run.file = site.read run.file := by
  obtain ⟨begun, inv, secrets, l, before, next, hbegun, hkeeps, hcommit⟩ := h.committed
  obtain ⟨-, rfl⟩ := Value.eq_of_resolve_of_no_references hnone hbegun.resolved
  have hnothing : outcome ((Ledger.start inv).commit run.file) before =
      (.ok (Ledger.start inv), before) := by
    simp [Ledger.commit, Ledger.hasChanges, Ledger.start, Reserved.isEmpty, Reserved.empty]
  obtain ⟨-, rfl⟩ := Prod.mk.inj (hnothing.symm.trans hcommit)
  exact hkeeps.read run.file

/-- Runs of one document that are told the same leave the same text in the file. -/
theorem Completes.read_congr [DepthLimits]
    {run' : ModuleRun} {site' after' : Site}
    (h : Completes mode run site after)
    (h' : Completes mode run' site' after')
    (hdocument : run'.document = run.document)
    (hfile : run'.file = run.file)
    (hread : site'.read run.file = site.read run.file)
    (hsecrets : (outcome run'.settings.fetchSecrets site').1 =
      (outcome run.settings.fetchSecrets site).1) :
    after'.read run.file = after.read run.file := by
  obtain ⟨begun, inv, secrets, l, before, next, hbegun, hkeeps, hcommit⟩ := h.committed
  obtain ⟨begun', inv', secrets', l', before', next', hbegun', hkeeps', hcommit'⟩ := h'.committed
  obtain ⟨text, htext, hload⟩ := Inventory.text_of_load hbegun.loaded
  obtain ⟨text', htext', hload'⟩ := Inventory.text_of_load hbegun'.loaded
  rw [hfile] at htext' hload' hcommit'
  obtain rfl : text = text' := Except.ok.inj (htext.symm.trans (hread.symm.trans htext'))
  obtain rfl : inv = inv' := Except.ok.inj (hload.symm.trans hload')
  obtain rfl : secrets = secrets' :=
    Except.ok.inj (hbegun.fetched.symm.trans (hsecrets.symm.trans hbegun'.fetched))
  have hfilled : begun'.inventoryDocument = begun.inventoryDocument :=
    Except.ok.inj (hbegun'.filled.symm.trans hbegun.filled)
  have hresolved := hbegun'.resolved
  rw [hfilled, hdocument] at hresolved
  obtain ⟨-, rfl⟩ := Prod.mk.inj (hbegun.resolved.symm.trans hresolved)
  rw [← hkeeps.read] at htext
  rw [← hkeeps'.read] at htext'
  exact Ledger.read_of_same_text htext htext' rfl rfl hcommit hcommit'

/-- A run is begun again and again until its first step succeeds, and then comes to its end.  If
its document is still that of the manifest by then, the file has the same text as if the first
step had succeeded at once; otherwise the file is left as it is.  So the reservations are the
same exactly if the document is that of the manifest, or there is nothing to be changed in
them. -/
theorem retried_binds_iff [DepthLimits]
    {site₀ after₀ : Site}
    (hretried : Retried mode run site tried mid)
    (hcompletes : Completes mode tried mid after)
    (hatOnce : Completes mode run site₀ after₀)
    (hread : site₀.read run.file = site.read run.file)
    (hsecrets : (outcome run.settings.fetchSecrets site₀).1 =
      (outcome run.settings.fetchSecrets mid).1) :
    (tried.document = run.document → after.read run.file = after₀.read run.file) ∧
    (tried.document ≠ run.document → after.read run.file = site.read run.file) ∧
    ((∀ (k : ReservedKind) (token : String) (value : k.Bound),
        k.Binds run.file after token value ↔ k.Binds run.file after₀ token value) ↔
      tried.document = run.document ∨
        ∀ (k : ReservedKind) (token : String) (value : k.Bound),
          k.Binds run.file after₀ token value ↔ k.Binds run.file site token value) := by
  obtain ⟨hfollows, hkeeps⟩ := hretried.follows
  have hsame : tried.document = run.document → after.read run.file = after₀.read run.file := by
    intro hdocument
    refine hatOnce.read_congr hcompletes hdocument hfollows.file ?_ ?_
    · rw [hkeeps.read, hread]
    · rw [hfollows.settings, hsecrets]
  have hleft : tried.document ≠ run.document → after.read run.file = site.read run.file := by
    intro hdocument
    have hnone := hfollows.document.resolve_left hdocument
    rw [← hfollows.file, hcompletes.read_of_no_references hnone, hkeeps.read]
  refine ⟨hsame, hleft, ?_⟩
  by_cases hdocument : tried.document = run.document
  · exact ⟨fun _ => .inl hdocument, fun _ k token value => ReservedKind.binds_of_read_eq (hsame hdocument)⟩
  · have hafter : ∀ (k : ReservedKind) (token : String) (value : k.Bound),
        k.Binds run.file after token value ↔ k.Binds run.file site token value :=
      fun k token value => ReservedKind.binds_of_read_eq (hleft hdocument)
    constructor
    · intro h
      refine .inr fun k token value => ?_
      rw [← h, hafter]
    · rintro (hsame | hunchanged) k token value
      · exact absurd hsame hdocument
      · rw [hafter, hunchanged]

/-! ### A first step that fails once -/

/-- A site where the first command fails. -/
def flakySite (text : String) : Site :=
  { sampleSite text with
    outside := { (sampleSite text).outside with
      command := fun journal _ => if journal.length < 2 then .error (.failed 128 "") else .ok "" } }

/-- The answers of a site to a run whose vault is closed: the first step of the run comes to
fetching the module, with the number in the place of the token. -/
theorem ending_init_closed [DepthLimits]
    {text : String} {l : Ledger}
    (hread : site.read "inventory.json" = .ok text)
    (hload : Inventory.ofText "inventory.json" text = .ok (sampleInventory (.int 1)))
    (hfile : run.file = "inventory.json")
    (hsettings : run.settings = closedSettings)
    (hlevels : run.document.levels ≤ DepthLimits.walking)
    (hresolved : outcome (Value.resolve ⟨some (sampleInventory (.int 1)).toValue, none,
      some (Ledger.registry .reserve), none⟩ run.document)
        (Ledger.start (sampleInventory (.int 1))) = (.ok (moduleDocument (.int 100)), l)) :
    ending (init .reserve) run site = ending fetch (run.withNumber l) (warned site) := by
  have hsecrets : outcome run.settings.fetchSecrets site = (.ok none, warned site) := by
    rw [hsettings, fetchSecrets_closedSettings]
  exact ending_init_sample (hfile ▸ hread) (hfile ▸ hload) hsecrets rfl hlevels hresolved

/-- A run of a manifest with the token of a machine. -/
def tokenRun : ModuleRun := sampleRun closedSettings (.str "vm:id:web")

theorem outcome_resolve_tokenRun :
    outcome (Value.resolve ⟨some (sampleInventory (.int 1)).toValue, none,
      some (Ledger.registry .reserve), none⟩ tokenRun.document)
        (Ledger.start (sampleInventory (.int 1))) =
      (.ok (moduleDocument (.int 100)), Ledger.numberLedger "vm:id:web") :=
  Ledger.outcome_resolve_token (r := ⟨"vm:id:web", .machine .vm "web"⟩) rfl rfl rfl rfl
    (Ledger.nextVmid_sampleInventory (.int 1))

/-- The first step fails at the clone; by then the document has been resolved. -/
theorem ending_init_flaky [DepthLimits]
    {text : String}
    (hread : (sampleSite text).read "inventory.json" = .ok text)
    (hload : Inventory.ofText "inventory.json" text = .ok (sampleInventory (.int 1))) :
    ∃ e next mid, ending (init .reserve) tokenRun (flakySite text) = ((.error e, next), mid) ∧
      next.document = moduleDocument (.int 100) ∧ next.file = "inventory.json" ∧
      next.settings = closedSettings ∧ (flakySite text).Keeps mid ∧ 2 ≤ mid.journal.length := by
  have hinit : ending (init .reserve) tokenRun (flakySite text) =
      ending fetch (tokenRun.withNumber (Ledger.numberLedger "vm:id:web"))
        (warned (flakySite text)) :=
    ending_init_closed hread hload rfl rfl (DepthLimits.le_walking (by decide))
      outcome_resolve_tokenRun
  rw [hinit, ending_fetch]
  exact ⟨_, _, _, rfl, rfl, rfl, rfl, ⟨rfl, rfl⟩, Nat.le_refl 2⟩

/-- A run whose document has been resolved comes to its end, with nothing to commit. -/
theorem exists_completes_resolved [DepthLimits]
    {text : String}
    (hread : site.read "inventory.json" = .ok text)
    (hload : Inventory.ofText "inventory.json" text = .ok (sampleInventory (.int 1)))
    (hdocument : run.document = moduleDocument (.int 100))
    (hfile : run.file = "inventory.json")
    (hsettings : run.settings = closedSettings)
    (hcommands : ∀ journal c, site.journal.length ≤ journal.length →
      site.outside.command journal c = .ok "") :
    ∃ after, Completes .reserve run site after := by
  have hresolved : outcome (Value.resolve ⟨some (sampleInventory (.int 1)).toValue, none,
      some (Ledger.registry .reserve), none⟩ (moduleDocument (.int 100)))
        (Ledger.start (sampleInventory (.int 1))) =
      (.ok (moduleDocument (.int 100)), Ledger.start (sampleInventory (.int 1))) :=
    Value.outcome_resolve_of_no_references (references_moduleDocument (.int 100)) rfl
  have hinit : ending (init .reserve) run site =
      ending fetch (run.withNumber (Ledger.start (sampleInventory (.int 1)))) (warned site) :=
    ending_init_closed hread hload hfile hsettings
      (by rw [hdocument]; exact DepthLimits.le_walking (by decide))
      (by rw [hdocument]; exact hresolved)
  have hwarned : site.journal.length ≤ (warned site).journal.length := by
    simp only [warned, Site.note, Site.record]
    split <;> simp
  refine completes_sample hinit (fun journal c hlonger => ?_) fun before _ => ⟨_, _, rfl⟩
  rw [warned, (Site.Keeps.note site _ _).outside]
  exact hcommands journal c (hwarned.trans hlonger)

/-- The run comes to its end at once if the module can be fetched. -/
theorem exists_completes_tokenRun [DepthLimits]
    {text : String}
    (hread : site.read "inventory.json" = .ok text)
    (hload : Inventory.ofText "inventory.json" text = .ok (sampleInventory (.int 1)))
    (houtside : site.outside = (sampleSite text).outside) :
    ∃ after, Completes .reserve tokenRun site after := by
  have hinit : ending (init .reserve) tokenRun site =
      ending fetch (tokenRun.withNumber (Ledger.numberLedger "vm:id:web")) (warned site) :=
    ending_init_closed hread hload rfl rfl (DepthLimits.le_walking (by decide))
      outcome_resolve_tokenRun
  have hwarned : site.Keeps (warned site) := .note _ _ _
  refine completes_sample hinit (fun journal c _ => ?_) fun before hbefore => ?_
  · rw [hwarned.outside, houtside]
    rfl
  · have hbefore' := hwarned.trans hbefore
    refine Ledger.exists_commit_numberLedger _ (hbefore'.read _ ▸ hread) hload ?_
    rw [hbefore'.outside, houtside]
    rfl

/-- In the end the first number that is free is bound to the token, and nothing else is bound. -/
theorem Completes.binds_tokenRun [DepthLimits]
    {text : String}
    (h : Completes .reserve tokenRun site after)
    (hread : site.read "inventory.json" = .ok text)
    (hload : Inventory.ofText "inventory.json" text = .ok (sampleInventory (.int 1)))
    (bound : String) (number : Int) :
    ReservedKind.vmid.Binds "inventory.json" after bound number ↔
      bound = "vm:id:web" ∧ number = 100 := by
  have hloaded : (outcome (Inventory.load tokenRun.file) site).1 =
      .ok (sampleInventory (.int 1)) := by
    simp [Inventory.load, tokenRun, sampleRun, hread, hload]
  have hfilled : (sampleInventory (.int 1)).document >>= withSecrets none =
      .ok (sampleInventory (.int 1)).toValue := by
    rw [document_sampleInventory]
    rfl
  have hsecrets : (outcome tokenRun.settings.fetchSecrets site).1 = .ok none := rfl
  obtain ⟨before, next, hkeeps, hcommit⟩ :=
    h.committed_of_resolved hloaded hsecrets hfilled outcome_resolve_tokenRun
  exact Ledger.binds_numberLedger _ (hkeeps.read _ ▸ hread) hload hcommit bound number

/-- The first step of a run resolves its manifest and cannot fetch the module.  It is tried again,
and the run comes to its end; another run comes to its end at once. -/
theorem exists_sampleRetry [DepthLimits] :
    ∃ text tried mid after after₀, (sampleSite text).read "inventory.json" = .ok text ∧
      Inventory.ofText "inventory.json" text = .ok (sampleInventory (.int 1)) ∧
      Retried .reserve tokenRun (flakySite text) tried mid ∧
      tried.document = moduleDocument (.int 100) ∧
      Completes .reserve tried mid after ∧
      Completes .reserve tokenRun (sampleSite text) after₀ := by
  obtain ⟨text, hread, hload⟩ := exists_sampleLoad
  obtain ⟨e, tried, mid, hfails, hdocument, hfile, hsettings, hkeeps, hlength⟩ :=
    ending_init_flaky hread hload
  have hcommands : ∀ journal c, mid.journal.length ≤ journal.length →
      mid.outside.command journal c = .ok "" := by
    intro journal c hlonger
    rw [hkeeps.outside]
    exact if_neg (by omega)
  obtain ⟨after, hretried⟩ := exists_completes_resolved (hkeeps.read _ ▸ hread) hload hdocument
    hfile hsettings hcommands
  obtain ⟨after₀, hatOnce⟩ := exists_completes_tokenRun hread hload rfl
  exact ⟨text, tried, mid, after, after₀, hread, hload, .again .none hfails, hdocument, hretried,
    hatOnce⟩

/-- What is tried again after the document has been resolved leaves the file as it is. -/
theorem retried_binds_iff_sample :
    ∃ text tried mid after after₀,
      Retried .reserve tokenRun (flakySite text) tried mid ∧ Completes .reserve tried mid after ∧
      Completes .reserve tokenRun (sampleSite text) after₀ ∧
      tried.document ≠ tokenRun.document ∧
      after.read "inventory.json" = (flakySite text).read "inventory.json" := by
  obtain ⟨text, tried, mid, after, after₀, hread, hload, hretried, hdocument, hcompletes, hatOnce⟩ :=
    exists_sampleRetry
  have hne : tried.document ≠ tokenRun.document := by
    rw [hdocument]
    simp [tokenRun, sampleRun, moduleDocument, Value.object, Value.int, Value.str]
  have hspec := retried_binds_iff hretried hcompletes hatOnce rfl rfl
  exact ⟨text, tried, mid, after, after₀, hretried, hcompletes, hatOnce, hne, hspec.2.1 hne⟩

/-- A run that is begun at once reserves the number of its machine; tried again after the module
could not be fetched, it reserves none. -/
theorem reservation_lost_by_retry :
    ofDocument (moduleDocument (.str "vm:id:web")) "inventory.json" closedSettings = .ok tokenRun ∧
    ∃ text tried mid after after₀,
      (flakySite text).read "inventory.json" = (sampleSite text).read "inventory.json" ∧
      Retried .reserve tokenRun (flakySite text) tried mid ∧ Completes .reserve tried mid after ∧
      Completes .reserve tokenRun (sampleSite text) after₀ ∧
      ReservedKind.vmid.Binds "inventory.json" after₀ "vm:id:web" (100 : Int) ∧
      ¬ ReservedKind.vmid.Binds "inventory.json" after "vm:id:web" (100 : Int) := by
  obtain ⟨text, tried, mid, after, after₀, hread, hload, hretried, hdocument, hcompletes, hatOnce⟩ :=
    exists_sampleRetry
  refine ⟨ofDocument_sampleRun _ _, text, tried, mid, after, after₀, rfl, hretried, hcompletes,
    hatOnce, ?_, ?_⟩
  · exact (hatOnce.binds_tokenRun hread hload _ _).mpr ⟨rfl, rfl⟩
  · have hnone : tried.document.references = [] := by
      rw [hdocument]
      exact references_moduleDocument (.int 100)
    obtain ⟨hfollows, hkeeps⟩ := hretried.follows
    have hfile : tried.file = "inventory.json" := hfollows.file
    have hleft := hcompletes.read_of_no_references hnone
    rw [hfile, hkeeps.read] at hleft
    rw [ReservedKind.binds_iff (hleft.trans hread) hload]
    exact List.not_mem_nil

end ModuleRun
end Homelab
