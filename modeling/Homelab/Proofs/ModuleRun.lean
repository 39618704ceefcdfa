import Homelab.Proofs.Resolution.HandedOut
import Homelab.Proofs.Site

/-!
# How a run of a module goes

The first two steps of a run leave the files alone.  The first step decides what the run stands
for: the resolved manifest, and the ledger that has handed out what is in it.  Nothing of that
is changed by the second.  Only the third step can write, and it does so after its command has
succeeded.
-/

namespace Homelab
namespace ModuleRun

open ActOn

/-- What a run stands for once its manifest is resolved. -/
def resolution (run : ModuleRun) : Value × Value × Option Ledger × String :=
  (run.document, run.inventoryDocument, run.ledger, run.file)

theorem of_resolution_eq
    {run next : ModuleRun}
    (h : next.resolution = run.resolution) :
    next.document = run.document ∧ next.inventoryDocument = run.inventoryDocument ∧
      next.ledger = run.ledger ∧ next.file = run.file := by
  simpa [resolution] using h

theorem leaves_scratch
    {σ τ : Type} {view : σ → τ} :
    Leaves view (lift (do return (← get).outside.scratch) : ActOn σ String) :=
  leaves_lift (Act.leavesFiles_get.bind fun _ => Act.leavesFiles_pure _)

theorem leaves_seconds
    {σ τ : Type} {view : σ → τ} :
    Leaves view (lift (do return (← get).outside.seconds) : ActOn σ Int) :=
  leaves_lift (Act.leavesFiles_get.bind fun _ => Act.leavesFiles_pure _)

/-- Fetching the module leaves what the run stands for. -/
theorem leaves_fetch :
    Leaves resolution fetch := by
  refine leaves_scratch.bind fun clone => Leaves.bind (leaves_modify ?_) fun _ =>
    leaves_get.bind fun run => (leaves_lift (Act.leavesFiles_runCommand _)).bind fun _ =>
      leaves_modify ?_
  · exact fun _ => rfl
  · exact fun _ => rfl

/-- Making the plan leaves it, too. -/
theorem leaves_plan
    (mode : Ledger.Mode) :
    Leaves resolution (plan mode) := by
  refine leaves_get.bind fun run => (leaves_ofExcept _).bind fun directory =>
    (leaves_ofExcept _).bind fun vars => (leaves_ofExcept _).bind fun backend =>
      (leaves_lift (Act.leavesFiles_runCommand _)).bind fun _ =>
        leaves_seconds.bind fun seconds => Leaves.bind (leaves_modify ?_) fun _ =>
          (leaves_lift (Act.leavesFiles_runCommand _)).bind fun _ => leaves_pure _
  exact fun _ => rfl

theorem ending_onLedger
    {α : Type} (ledger : Ledger) (request : Ledger.Run α) (run : ModuleRun) (site : Site) :
    ending (onLedger ledger request) run site =
      (((outcome request ledger).1, { run with ledger := some (outcome request ledger).2 }), site) :=
  rfl

theorem leavesFiles_onLedger
    {α : Type} (ledger : Ledger) (request : Ledger.Run α) :
    LeavesFiles (onLedger ledger request) :=
  fun _ site => ⟨rfl, .refl site⟩

theorem leavesFiles_resolve [DepthLimits]
    (mode : Ledger.Mode) (inventory : Inventory) (secrets : Option (List Value)) :
    LeavesFiles (resolve mode inventory secrets) :=
  (leaves_ofExcept _).bind fun _ => leavesFiles_modify.bind fun _ => leaves_get.bind fun _ =>
    (leavesFiles_onLedger _ _).bind fun _ => (leaves_ofExcept _).bind fun _ =>
      leavesFiles_modify.bind fun _ => (leaves_ofExcept _).bind fun _ => leavesFiles_modify

/-- The first step leaves the files alone, however it ends. -/
theorem leavesFiles_init [DepthLimits]
    (mode : Ledger.Mode) :
    LeavesFiles (init mode) :=
  leaves_get.bind fun _ => (leaves_lift (Inventory.leavesFiles_load _)).bind fun _ =>
    (leaves_lift (Settings.leavesFiles_fetchSecrets _)).bind fun _ =>
      (leavesFiles_resolve _ _ _).bind fun _ => leaves_fetch.leavesFiles

/-! ### What a run stands for -/

theorem of_ofDocument
    {document : Value} {file : String} {settings : Settings} {run : ModuleRun}
    (h : ofDocument document file settings = .ok run) :
    run.document = document ∧ run.file = file := by
  rw [ofDocument] at h
  cases hmanifest : ModuleManifest.ofValue document with
  | error e =>
      rw [hmanifest] at h
      cases h
  | ok manifest =>
      rw [hmanifest] at h
      obtain rfl := Except.ok.inj h
      exact ⟨rfl, rfl⟩

variable {mode : Ledger.Mode} {inv : Inventory} {secrets : Option (List Value)}
  {run begun : ModuleRun} {site after : Site}

/-- A run whose manifest is resolved.  The passes before those that ask the ledger have made a
document of the manifest; the run has handed out a value for each of the tokens that are left,
and has put it in the place of the token. -/
structure Resolved (inv : Inventory) (manifest v : Value) (run : ModuleRun) : Prop where
  filled : ∃ secrets, inv.document >>= withSecrets secrets = .ok run.inventoryDocument ∧
    outcome (Value.resolve ⟨some run.inventoryDocument, secrets, none, none⟩ manifest :
      Ledger.Run Value) (Ledger.start inv) = (.ok v, Ledger.start inv)
  document : run.document = v.withAllocations run.allocations
  tokens : run.allocations.map Prod.fst = ReservedKind.tokenTexts v

theorem Resolved.congr
    {manifest v : Value} {next : ModuleRun}
    (h : Resolved inv manifest v run)
    (hsame : next.resolution = run.resolution) :
    Resolved inv manifest v next := by
  obtain ⟨hdocument, hinventory, hledger, -⟩ := of_resolution_eq hsame
  have hallocations : next.allocations = run.allocations := by
    rw [allocations, allocations, hledger]
  refine ⟨hinventory ▸ h.filled, ?_, ?_⟩
  · rw [hdocument, hallocations]
    exact h.document
  · rw [hallocations]
    exact h.tokens

theorem outcome_within [DepthLimits]
    {step : Value → Ledger.Run Value} {v w : Value} {l l' : Ledger}
    (h : outcome (v.within step) l = (.ok w, l')) :
    outcome (step v) l = (.ok w, l') := by
  unfold Value.within at h
  split at h
  · exact h
  · cases h

theorem resolved_of_resolve [DepthLimits]
    (hvalid : inv.Valid)
    (h : ending (resolve mode inv secrets) run site = ((.ok (), begun), after)) :
    begun.file = run.file ∧ ∃ v l, Resolved inv run.document v begun ∧
      begun.ledger = some l ∧ Ledger.HandsOut mode inv v begun.document l := by
  obtain ⟨document, run₁, site₁, hdocument, h⟩ := ending_bind_eq_ok.mp h
  obtain ⟨_, run₂, site₂, hstart, h⟩ := ending_bind_eq_ok.mp h
  obtain ⟨run₃, _, site₃, hget, h⟩ := ending_bind_eq_ok.mp h
  obtain ⟨resolved, run₄, site₄, hresolved, h⟩ := ending_bind_eq_ok.mp h
  obtain ⟨_, run₅, site₅, hensure, h⟩ := ending_bind_eq_ok.mp h
  obtain ⟨_, run₆, site₆, hkeep, h⟩ := ending_bind_eq_ok.mp h
  obtain ⟨manifest, run₇, site₇, hmanifest, h⟩ := ending_bind_eq_ok.mp h
  simp only [ending_ofExcept, ending_modify, ending_get, ending_onLedger, Prod.mk.injEq]
    at hdocument hstart hget hresolved hensure hkeep hmanifest h
  obtain ⟨⟨hdocument, rfl⟩, rfl⟩ := hdocument
  obtain ⟨⟨-, rfl⟩, rfl⟩ := hstart
  obtain ⟨⟨hget, rfl⟩, rfl⟩ := hget
  obtain rfl := Except.ok.inj hget
  obtain ⟨⟨hresolved, rfl⟩, rfl⟩ := hresolved
  obtain ⟨⟨-, rfl⟩, rfl⟩ := hensure
  obtain ⟨⟨-, rfl⟩, rfl⟩ := hkeep
  obtain ⟨⟨-, rfl⟩, rfl⟩ := hmanifest
  obtain ⟨⟨-, rfl⟩, rfl⟩ := h
  obtain ⟨v, hv, hhands⟩ := Ledger.handsOut_of_resolve hvalid
    (outcome_within (Prod.ext hresolved rfl))
  exact ⟨rfl, v, _, ⟨⟨secrets, hdocument, hv⟩, hhands.value, hhands.keys⟩, rfl, hhands⟩

theorem resolved_of_init [DepthLimits]
    (h : ending (init mode) run site = ((.ok (), begun), after)) :
    begun.file = run.file ∧ ∃ inv v l, (outcome (Inventory.load run.file) site).1 = .ok inv ∧
      Resolved inv run.document v begun ∧ begun.ledger = some l ∧
      Ledger.HandsOut mode inv v begun.document l := by
  obtain ⟨_, run₁, site₁, hget, h⟩ := ending_bind_eq_ok.mp h
  obtain ⟨inv, run₂, site₂, hload, h⟩ := ending_bind_eq_ok.mp h
  obtain ⟨secrets, run₃, site₃, hsecrets, h⟩ := ending_bind_eq_ok.mp h
  obtain ⟨_, run₄, site₄, hresolve, hfetch⟩ := ending_bind_eq_ok.mp h
  simp only [ending_get, ending_lift, Prod.mk.injEq] at hget hload hsecrets
  obtain ⟨⟨hget, rfl⟩, rfl⟩ := hget
  obtain rfl := Except.ok.inj hget
  obtain ⟨⟨hload, rfl⟩, rfl⟩ := hload
  obtain ⟨⟨-, rfl⟩, rfl⟩ := hsecrets
  obtain ⟨text, -, htext⟩ := Inventory.text_of_load hload
  obtain ⟨document, -, hinv⟩ := Ledger.documentOfText_of_ofText htext
  obtain ⟨hfile, v, l, hresolved, hledger, hhands⟩ :=
    resolved_of_resolve (Inventory.valid_of_ofValue hinv) hresolve
  have hsame : begun.resolution = run₄.resolution := by
    have hleaves := (leaves_fetch run₄ site₄).1
    rwa [hfetch] at hleaves
  obtain ⟨hdocument, -, hledger', hfile'⟩ := of_resolution_eq hsame
  exact ⟨hfile'.trans hfile, inv, v, l, hload, hresolved.congr hsame, hledger'.trans hledger,
    hdocument ▸ hhands⟩

/-! ### What is applied -/

/-- The command that applies the plan has succeeded on a site, and then the ledger was
committed. -/
def Commits [DepthLimits] (run : ModuleRun) (site after : Site) : Prop :=
  ∃ directory vars output ledger settled, run.directory = .ok directory ∧
    run.environment = .ok vars ∧
    site.outside.command site.journal (run.applyCommand directory vars) = .ok output ∧
    run.ledger = some ledger ∧
    outcome (ledger.commit run.file) (site.record (.command (run.applyCommand directory vars))) =
      (.ok settled, after)

/-- The third step fails and leaves the files alone, or its command succeeds and it commits. -/
theorem ending_apply [DepthLimits]
    {ledger : Ledger}
    (hledger : run.ledger = some ledger)
    (hplain : ledger.Plain)
    (site : Site) :
    (∃ e after, ending apply run site = ((.error e, run), after) ∧ site.Keeps after) ∨
      ∃ applied after, ending apply run site = ((.ok (), applied), after) ∧
        run.Commits site after := by
  rw [apply, ending_bind, ending_get]
  simp only [ending_bind, ending_ofExcept, ending_lift, Act.outcome_runCommand]
  cases hdirectory : run.directory with
  | error e => exact .inl ⟨e, site, rfl, .refl site⟩
  | ok directory =>
      cases hvars : run.environment with
      | error e => exact .inl ⟨e, site, rfl, .refl site⟩
      | ok vars =>
          simp only
          cases hcommand : site.outside.command site.journal (run.applyCommand directory vars) with
          | error reason => exact .inl ⟨_, _, rfl, .record site _⟩
          | ok output =>
              simp only [hledger, ending_bind, ending_lift]
              rcases hcommit : outcome (ledger.commit run.file)
                (site.record (.command (run.applyCommand directory vars))) with ⟨e | settled, after⟩
              · obtain rfl := Ledger.site_of_failed_commit hplain hcommit
                exact .inl ⟨e, _, rfl, .record site _⟩
              · exact .inr ⟨_, after, rfl, directory, vars, output, ledger, settled, hdirectory,
                  hvars, hcommand, hledger, hcommit⟩

end ModuleRun
end Homelab
