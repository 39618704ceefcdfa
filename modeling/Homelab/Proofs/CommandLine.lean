import Homelab.Proofs.ModuleRun.Retry

/-!
# What a run from the command line does to the inventory file

A run of a module resolves and plans, applies the plan, and only then commits.  A failure at any
point ends it with a status that says so, and the files are as they were.  A run that ends well
has put a value in the place of each token of its manifest; the inventory file binds the tokens
to these values, or does not bind them any more where the machines were to be destroyed.
-/

namespace Homelab
namespace CommandLine

open ActOn

/-! ### What comes before the plan is applied -/

theorem leavesFiles_exportVariable
    (name value : String) :
    (exportVariable name value).LeavesFiles := by
  unfold exportVariable
  split
  · exact (Act.leavesFiles_throw _).bind fun _ => Act.leavesFiles_modify fun _ => ⟨rfl, rfl⟩
  · exact Act.leavesFiles_modify fun _ => ⟨rfl, rfl⟩

theorem leavesFiles_useCredentials [DepthLimits]
    (file : Option String) :
    (useCredentials file).LeavesFiles := by
  cases file with
  | none => exact Act.leavesFiles_pure _
  | some name =>
      exact (Document.leavesFiles_loadCredentials name).bind fun _ =>
        (leavesFiles_exportVariable _ _).bind fun _ => leavesFiles_exportVariable _ _

theorem leavesFiles_sayAllocations
    (columns : Nat) (title : String) (handedOut : List (String × Allocated)) :
    LeavesFiles (sayAllocations columns title handedOut) := by
  unfold sayAllocations
  split
  · exact leaves_pure _
  · exact leavesFiles_modify

theorem ending_after
    {σ : Type} (step : ActOn σ Unit) (s : σ) (shown : String) (site : Site) :
    ending (after step s) shown site =
      (((ending step s site).1.1.map fun _ => (ending step s site).1.2, shown),
        (ending step s site).2) := rfl

theorem ending_after_eq_ok
    {σ : Type} {step : ActOn σ Unit} {s s' : σ} {shown shown' : String} {site site' : Site} :
    ending (after step s) shown site = ((.ok s', shown'), site') ↔
      ending step s site = ((.ok (), s'), site') ∧ shown' = shown := by
  rw [ending_after]
  rcases ending step s site with ⟨⟨e | _, next⟩, end'⟩
  · simp [Except.map]
  · constructor
    · intro h
      obtain ⟨hvalue, rfl⟩ := Prod.mk.inj h
      obtain ⟨hnext, rfl⟩ := Prod.mk.inj hvalue
      obtain rfl : next = s' := Except.ok.inj hnext
      exact ⟨rfl, rfl⟩
    · rintro ⟨h, rfl⟩
      obtain ⟨hvalue, rfl⟩ := Prod.mk.inj h
      rw [(Prod.mk.inj hvalue).2]
      rfl

theorem leavesFiles_after
    {σ : Type} {step : ActOn σ Unit}
    (h : LeavesFiles step)
    (s : σ) :
    LeavesFiles (after step s) :=
  fun _ site => ⟨rfl, (h s site).2⟩

/-- What a run is for. -/
def modeOf (destroy : Bool) : Ledger.Mode :=
  if destroy then .release else .reserve

/-- A run of a module up to where its plan is applied. -/
def planModule [DepthLimits] (columns : Nat) (files : Files) (destroy : Bool) :
    Shown ModuleRun := do
  lift (useCredentials files.credentials)
  let document ← lift (Document.loadManifest files.manifest)
  let settings ← lift (Settings.load [])
  let run ← ActOn.ofExcept (ModuleRun.ofDocument (.map document) files.inventory settings)
  let run ← after (ModuleRun.init (modeOf destroy)) run
  sayAllocations columns (if destroy then "Released" else "Reserved") run.allocations
  after (do let _ ← ModuleRun.plan (modeOf destroy)) run

/-- A run of a module is planned and then applied. -/
theorem runModule_eq [DepthLimits]
    (columns : Nat) (files : Files) (destroy : Bool) :
    runModule columns files destroy =
      planModule columns files destroy >>= fun run =>
        after ModuleRun.apply run >>= fun _ => pure () := by
  simp [runModule, planModule, modeOf]

/-- Until the plan is applied the files are left alone. -/
theorem leavesFiles_planModule [DepthLimits]
    (columns : Nat) (files : Files) (destroy : Bool) :
    LeavesFiles (planModule columns files destroy) :=
  (leaves_lift (leavesFiles_useCredentials _)).bind fun _ =>
    (leaves_lift (Document.leavesFiles_loadMapping _ _)).bind fun _ =>
      (leaves_lift (Settings.leavesFiles_load _)).bind fun _ => (leaves_ofExcept _).bind fun _ =>
        (leavesFiles_after (ModuleRun.leavesFiles_init _) _).bind fun _ =>
          (leavesFiles_sayAllocations _ _ _).bind fun _ =>
            leavesFiles_after ((ModuleRun.leaves_plan _).leavesFiles.bind fun _ => leaves_pure _) _

/-! ### What has been planned -/

theorem outcome_loadManifest_congr [DepthLimits]
    {site next : Site}
    (h : site.Keeps next)
    (path : String) :
    (outcome (Document.loadManifest path) next).1 =
      (outcome (Document.loadManifest path) site).1 := by
  have hgraph : ∀ site : Site, outcome (Document.loadGraph path) site =
      ((site.contentOf (Text.plainPath path)).bind
        (Document.ofContent (Text.plainPath path)), site) := by
    intro site
    simp only [Document.loadGraph, Act.contentOf, outcome_bind, outcome_get, outcome_ofExcept]
    cases site.contentOf (Text.plainPath path) <;> simp [Except.bind]
  simp only [Document.loadManifest, Document.loadMapping, Document.load, outcome_bind, hgraph,
    outcome_ofExcept, h.contentOf]
  cases (site.contentOf (Text.plainPath path)).bind (Document.ofContent (Text.plainPath path)) with
  | error e => rfl
  | ok g =>
      simp only
      cases g.value with
      | error e => rfl
      | ok v => cases v <;> rfl

theorem outcome_load_congr [DepthLimits]
    {site next : Site}
    (h : site.Keeps next)
    (file : String) :
    (outcome (Inventory.load file) next).1 = (outcome (Inventory.load file) site).1 := by
  simp only [Inventory.load, outcome_bind, outcome_readFile, h.read, outcome_ofExcept]
  cases site.read file <;> rfl

/-- What a run stands for whose plan is made. -/
theorem planned_of_ending [DepthLimits]
    {columns : Nat} {files : Files} {destroy : Bool} {run : ModuleRun} {shown : String}
    {site planned : Site}
    (h : ending (planModule columns files destroy) "" site = ((.ok run, shown), planned)) :
    run.file = files.inventory ∧ ∃ manifest inv v l,
      (outcome (Document.loadManifest files.manifest) site).1 = .ok manifest ∧
      (outcome (Inventory.load files.inventory) site).1 = .ok inv ∧
      run.Resolved inv (.map manifest) v ∧ run.ledger = some l ∧
      Ledger.HandsOut (modeOf destroy) inv v run.document l := by
  obtain ⟨_, shown₁, site₁, hcredentials, h⟩ := ending_bind_eq_ok.mp h
  obtain ⟨manifest, shown₂, site₂, hmanifest, h⟩ := ending_bind_eq_ok.mp h
  obtain ⟨settings, shown₃, site₃, hsettings, h⟩ := ending_bind_eq_ok.mp h
  obtain ⟨start, shown₄, site₄, hstart, h⟩ := ending_bind_eq_ok.mp h
  obtain ⟨begun, shown₅, site₅, hinit, h⟩ := ending_bind_eq_ok.mp h
  obtain ⟨_, shown₆, site₆, hsay, hplan⟩ := ending_bind_eq_ok.mp h
  simp only [ending_lift, ending_ofExcept, Prod.mk.injEq]
    at hcredentials hmanifest hsettings hstart
  obtain ⟨-, rfl⟩ := hcredentials
  obtain ⟨⟨hmanifest, -⟩, rfl⟩ := hmanifest
  obtain ⟨-, rfl⟩ := hsettings
  obtain ⟨⟨hstart, -⟩, rfl⟩ := hstart
  obtain ⟨hinit, -⟩ := ending_after_eq_ok.mp hinit
  obtain ⟨hplan, -⟩ := ending_after_eq_ok.mp hplan
  -- the steps before have left the files alone, so that later ones find what is there at first
  have hcredentials := leavesFiles_useCredentials files.credentials site
  have hkeeps := (hcredentials.trans (Document.leavesFiles_loadManifest files.manifest _)).trans
    (Settings.leavesFiles_load [] _)
  rw [outcome_loadManifest_congr hcredentials] at hmanifest
  obtain ⟨hdocument, hstarted⟩ := ModuleRun.of_ofDocument hstart
  obtain ⟨hfile, inv, v, l, hload, hresolved, hledger, hhands⟩ := ModuleRun.resolved_of_init hinit
  rw [hdocument] at hresolved
  rw [hstarted] at hfile hload
  rw [outcome_load_congr hkeeps] at hload
  have hsame : run.resolution = begun.resolution := by
    have hleaves := ((ModuleRun.leaves_plan (modeOf destroy)).bind fun _ => leaves_pure ()) begun
      site₆
    rw [hplan] at hleaves
    exact hleaves.1
  obtain ⟨hdocument', -, hledger', hfile'⟩ := ModuleRun.of_resolution_eq hsame
  exact ⟨hfile'.trans hfile, manifest, inv, v, l, hmanifest, hload, hresolved.congr hsame,
    hledger'.trans hledger, hdocument' ▸ hhands⟩

/-! ### What comes of a run -/

/-- What has become of a token in the inventory file: it is bound to a value, or, where machines
were to be destroyed, it was bound to the value and is bound no more. -/
def SettledIn [DepthLimits] (destroy : Bool) (file : String) (site after : Site) (k : ReservedKind)
    (token : String) (value : k.Bound) : Prop :=
  if destroy then
    k.Binds file site token value ∧ ∀ value', ¬ k.Binds file after token value'
  else k.Binds file after token value

theorem binds_congr [DepthLimits]
    {k : ReservedKind} {file token : String} {value : k.Bound} {site next : Site}
    (h : site.Keeps next) :
    k.Binds file next token value ↔ k.Binds file site token value := by
  simp only [ReservedKind.Binds, h.read]

/-- A run that has committed to the file that it has loaded has settled all its tokens. -/
theorem settled_of_commits [DepthLimits]
    {run : ModuleRun} {destroy : Bool} {inv : Inventory} {v : Value} {l : Ledger}
    {site planned after : Site}
    (hload : (outcome (Inventory.load run.file) site).1 = .ok inv)
    (hledger : run.ledger = some l)
    (hhands : Ledger.HandsOut (modeOf destroy) inv v run.document l)
    (hkeeps : site.Keeps planned)
    (hcommits : run.Commits planned after) :
    ∀ k : ReservedKind, ∀ r ∈ k.tokensOf v, ∃ value : k.Bound,
      run.allocations.lookup r.text = some (k.allocated value) ∧
        SettledIn destroy run.file site after k r.text value := by
  obtain ⟨directory, vars, output, ledger, settled, -, -, -, hledger', hcommit⟩ := hcommits
  obtain rfl := Option.some.inj (hledger.symm.trans hledger')
  obtain ⟨text, hread, htext⟩ := Inventory.text_of_load hload
  have hbefore := hkeeps.trans (.record planned (.command (run.applyCommand directory vars)))
  rw [← hbefore.read] at hread
  intro k r hr
  obtain ⟨value, hlookup, hsettled⟩ := hhands.settled hread htext hcommit k r hr
  refine ⟨value, ?_, ?_⟩
  · rw [ModuleRun.allocations, hledger]
    exact hlookup
  · cases destroy with
    | false => exact hsettled
    | true => exact ⟨(binds_congr hbefore).mp hsettled.1, hsettled.2⟩

/-- A run of a module fails and leaves the files alone, or it is planned, applied and
committed. -/
theorem ending_runModule [DepthLimits]
    (columns : Nat) (files : Files) (destroy : Bool) (site : Site) :
    (∃ e shown after, ending (runModule columns files destroy) "" site =
        ((.error e, shown), after) ∧ site.Keeps after) ∨
      ∃ run shown planned after,
        ending (planModule columns files destroy) "" site = ((.ok run, shown), planned) ∧
        ending (runModule columns files destroy) "" site = ((.ok (), shown), after) ∧
        run.Commits planned after := by
  have hkeeps := (leavesFiles_planModule columns files destroy "" site).2
  rw [runModule_eq, ending_bind]
  rcases hplan : ending (planModule columns files destroy) "" site with
    ⟨⟨e | run, shown⟩, planned⟩
  · rw [hplan] at hkeeps
    exact .inl ⟨e, shown, planned, rfl, hkeeps⟩
  · rw [hplan] at hkeeps
    obtain ⟨-, -, inv, v, l, -, -, -, hledger, hhands⟩ := planned_of_ending hplan
    have hplain : l.Plain := by
      obtain ⟨calls, -, rfl⟩ := hhands.calls
      exact (Ledger.plain_start inv).afterAll calls
    simp only [ending_bind, ending_after]
    rcases ModuleRun.ending_apply hledger hplain planned with ⟨e, after, happly, hsame⟩ |
      ⟨applied, after, happly, hcommits⟩
    · rw [happly]
      exact .inl ⟨e, shown, after, rfl, hkeeps.trans hsame⟩
    · rw [happly]
      exact .inr ⟨run, shown, planned, after, rfl, rfl, hcommits⟩

/-- A run of a module fails and leaves the files as they are, or it ends well and the inventory
file was written only after the command that applies the plan had succeeded.  Then every token
that a value was handed out for is bound to this value, or it is bound no more if the machines
were to be destroyed. -/
theorem inventory_of_module_run [DepthLimits]
    (columns : Nat) (files : Files) (destroy : Bool) (site : Site) :
    let (ended, after) := conclude columns (.module files destroy) site
    (ended.status = failed ∧ after.files = site.files) ∨
      ended.status = 0 ∧ ∃ run shown planned manifest inv v,
        ending (planModule columns files destroy) "" site = ((.ok run, shown), planned) ∧
        planned.files = site.files ∧ run.Commits planned after ∧
        (outcome (Document.loadManifest files.manifest) site).1 = .ok manifest ∧
        (outcome (Inventory.load files.inventory) site).1 = .ok inv ∧
        run.Resolved inv (.map manifest) v ∧
        ∀ k : ReservedKind, ∀ r ∈ k.tokensOf v, ∃ value : k.Bound,
          run.allocations.lookup r.text = some (k.allocated value) ∧
            SettledIn destroy files.inventory site after k r.text value := by
  have hserve : serve columns (.module files destroy) "" site =
      ending (runModule columns files destroy >>= fun _ =>
        return "✅ " ++ title (.module files destroy) ++ " finished successfully\n") "" site := rfl
  rw [conclude, hserve, ending_bind]
  rcases ending_runModule columns files destroy site with ⟨e, shown, after, hrun, hkeeps⟩ |
    ⟨run, shown, planned, after, hplan, hrun, hcommits⟩
  · rw [hrun]
    refine .inl ⟨rfl, ?_⟩
    split
    · exact hkeeps.files
    · exact (hkeeps.trans (.note after _ _)).files
  · rw [hrun]
    have hkeeps := (leavesFiles_planModule columns files destroy "" site).2
    rw [hplan] at hkeeps
    obtain ⟨hfile, manifest, inv, v, l, hmanifest, hload, hresolved, hledger, hhands⟩ :=
      planned_of_ending hplan
    refine .inr ⟨rfl, run, shown, planned, manifest, inv, v, hplan, hkeeps.files, hcommits,
      hmanifest, hload, hresolved, ?_⟩
    rw [← hfile] at hload ⊢
    exact settled_of_commits hload hledger hhands hkeeps hcommits

/-! ### A run that ends well -/

theorem exists_ending_sayAllocations
    (columns : Nat) (title : String) (handedOut : List (String × Allocated)) (site : Site) :
    ∃ shown, ending (sayAllocations columns title handedOut) "" site = ((.ok (), shown), site) := by
  unfold sayAllocations
  split
  · exact ⟨_, rfl⟩
  · exact ⟨_, rfl⟩

/-- A run whose three steps succeed ends well. -/
theorem exists_conclude_of_completes [DepthLimits]
    {document : Entries} {settings : Settings} {run : ModuleRun} {site after : Site}
    (columns : Nat) (files : Files) (destroy : Bool)
    (hcredentials : files.credentials = none)
    (hmanifest : outcome (Document.loadManifest files.manifest) site = (.ok document, site))
    (hsettings : outcome (Settings.load []) site = (.ok settings, site))
    (hrun : ModuleRun.ofDocument (.map document) files.inventory settings = .ok run)
    (hcompletes : ModuleRun.Completes (modeOf destroy) run site after) :
    ∃ shown, conclude columns (.module files destroy) site = (⟨0, shown, none⟩, after) := by
  obtain ⟨begun, path, planned, applied, site₁, site₂, hinit, hplan, happly⟩ := hcompletes
  have hplanned : ending (do let _ ← ModuleRun.plan (modeOf destroy)) begun site₁ =
      ((.ok (), planned), site₂) := by
    rw [ending_bind, hplan]
    rfl
  obtain ⟨shown, hsay⟩ := exists_ending_sayAllocations columns
    (if destroy then "Released" else "Reserved") begun.allocations site₁
  have hended : ending (runModule columns files destroy) "" site = ((.ok (), shown), after) := by
    simp only [runModule_eq, planModule, hcredentials, useCredentials, ending_bind, ending_lift,
      outcome_pure, hmanifest, hsettings, ending_ofExcept, hrun,
      ending_after_eq_ok.mpr ⟨hinit, rfl⟩, hsay, ending_after_eq_ok.mpr ⟨hplanned, rfl⟩,
      ending_after_eq_ok.mpr ⟨happly, rfl⟩, ending_pure]
  have hserve : serve columns (.module files destroy) "" site =
      ending (runModule columns files destroy >>= fun _ =>
        return "✅ " ++ title (.module files destroy) ++ " finished successfully\n") "" site := rfl
  rw [conclude, hserve, ending_bind, hended]
  exact ⟨_, rfl⟩

/-- A site with an inventory file and a manifest beside it. -/
def manifestSite (inventory manifest : String) : Site :=
  { sampleSite inventory with
    files := [("inventory.json", .text inventory), ("module.json", .text manifest)] }

/-- The manifest of a machine whose number is a token is in some file. -/
theorem exists_manifestText [DepthLimits]
    (token : String) :
    ∃ manifest, (Content.text manifest).read = .ok manifest ∧
      Json.read manifest = .ok (moduleDocument (.str token)) := by
  have hstr : ∀ (d : Nat) (s : String), (Value.str s).Fits d := fun d s => .scalar trivial
  have hfits : (moduleDocument (.str token)).Fits 2 := by
    refine Value.fits_object (by simp) ?_
    simp only [List.forall_mem_cons]
    refine ⟨hstr _ _, Value.fits_object (by simp) ?_, by simp⟩
    simp only [List.forall_mem_cons]
    exact ⟨hstr _ _, hstr _ _, by simp⟩
  have hsorted : (moduleDocument (.str token)).sorted =
      moduleDocument (.str token) := by
    have hkeys : ["module", "variables"].Pairwise (· ≤ ·) := by decide
    have hnames : ["server_name", "vm_id"].Pairwise (· ≤ ·) := by decide
    have hvariables : (Value.object [("server_name", .str "web"), ("vm_id", .str token)]).sorted =
        .object [("server_name", .str "web"), ("vm_id", .str token)] :=
      Value.sorted_object (by exact hnames)
    rw [moduleDocument, Value.sorted_object (by exact hkeys)]
    simp only [List.map_cons, List.map_nil, hvariables, Value.sorted]
  have hroom := hfits.mono (Nat.le_of_lt (DepthLimits.lt_reading (by omega)))
  obtain ⟨manifest, htext, hread⟩ := Json.read_fileText hroom
  exact ⟨manifest, Json.content_fileText hroom htext, hsorted ▸ hread⟩

theorem outcome_loadManifest_manifestSite [DepthLimits]
    {inventory manifest : String} {es : Entries}
    (hcontent : (Content.text manifest).read = .ok manifest)
    (hread : Json.read manifest = .ok (.map es)) :
    outcome (Document.loadManifest "module.json") (manifestSite inventory manifest) =
      (.ok es, manifestSite inventory manifest) := by
  have hplain : Text.plainPath "module.json" = "module.json" := by decide +kernel
  have hmarkup : Document.isMarkup "module.json" = false := by decide +kernel
  have hfound : (manifestSite inventory manifest).contentOf "module.json" =
      .ok (.text manifest) := rfl
  have hgraph : Document.ofContent "module.json" (.text manifest) =
      .ok (Graph.ofValue (.map es)) := by
    simp only [Document.ofContent, hmarkup, hcontent, Bool.false_eq_true, if_false, bind,
      Except.bind, hread]
  simp only [Document.loadManifest, Document.loadMapping, Document.load, Document.loadGraph,
    hplain, outcome_bind, Act.contentOf, outcome_get, outcome_ofExcept, hfound, hgraph, Graph.value,
    Graph.ofValue, Graph.valueOf, outcome_pure]

/-- A module is planned and applied, and its machine has the first number that is free. -/
theorem inventory_of_module_run_sample :
    ∃ inventory manifest ended after,
      conclude 80 (.module ⟨"module.json", "inventory.json", none⟩ false)
        (manifestSite inventory manifest) = (ended, after) ∧
      ended.status = 0 ∧
      (∃ run planned, planned.files = (manifestSite inventory manifest).files ∧
        ModuleRun.Commits run planned after) ∧
      ∀ bound number, ReservedKind.vmid.Binds "inventory.json" after bound number ↔
        bound = "vm:id:web" ∧ number = (100 : Int) := by
  obtain ⟨inventory, hread, hload⟩ := exists_sampleLoad
  obtain ⟨manifest, hcontent, hmanifest⟩ := exists_manifestText "vm:id:web"
  have hread' : (manifestSite inventory manifest).read "inventory.json" = .ok inventory := hread
  obtain ⟨after, hcompletes⟩ := ModuleRun.exists_completes_tokenRun hread' hload rfl
  obtain ⟨shown, hconclude⟩ := exists_conclude_of_completes 80
    ⟨"module.json", "inventory.json", none⟩ false rfl
    (outcome_loadManifest_manifestSite hcontent hmanifest)
    (show outcome (Settings.load []) _ = (.ok ModuleRun.closedSettings, _) from rfl)
    (ModuleRun.ofDocument_sampleRun _ _) hcompletes
  refine ⟨inventory, manifest, _, after, hconclude, rfl, ?_, hcompletes.binds_tokenRun hread' hload⟩
  have hspec := inventory_of_module_run 80 ⟨"module.json", "inventory.json", none⟩ false
    (manifestSite inventory manifest)
  rw [hconclude] at hspec
  rcases hspec with ⟨hfailed, -⟩ | ⟨-, run, -, planned, -, -, -, -, hfiles, hcommits, -⟩
  · cases hfailed
  · exact ⟨run, planned, hfiles, hcommits⟩

end CommandLine
end Homelab
