import Homelab.Proofs.ModuleRun
import Homelab.Proofs.Resolution.Untouched

/-!
# Runs that come to their end

A run that comes to the end of its three steps has loaded the inventory and asked the vault
once, has resolved its document by what it was told, and has committed the ledger that came of
this to the file.  So the text that the file is left with can be told from the text that was
there, from the document, and from the answer of the vault.
-/

namespace Homelab

/-- What is written to a file that can have a name is read alike on every site. -/
theorem Site.read_write_congr
    {site site' : Site} {file text : String} {content : Content}
    (h : site.read file = .ok text) :
    (site'.write file content).read file = (site.write file content).read file := by
  have hname : ¬ file.toList.contains (Char.ofNat 0) = true := by
    intro hnull
    rw [Site.read, Site.contentOf, if_pos hnull] at h
    cases h
  simp only [Site.read, Site.contentOf, if_neg hname, Site.file?, Site.write, Site.lookup_put]

/-- What a file binds can be told from its text. -/
theorem ReservedKind.binds_of_read_eq [DepthLimits]
    {k : ReservedKind} {file token : String} {value : k.Bound} {site after : Site}
    (h : after.read file = site.read file) :
    k.Binds file after token value ↔ k.Binds file site token value := by
  simp only [Binds, h]

/-! ### The text that a commit leaves -/

namespace Ledger

/-- The text of an inventory file after the changes of the run have gone into it. -/
def textAfter [DepthLimits] (l : Ledger) (file text : String) : Except Failure String :=
  if l.hasChanges then do
    let disk ← Inventory.ofText file text
    let inv ← l.merged disk
    inv.textWith ["reserved"] (← Inventory.documentOfText file text)
  else .ok text

/-- A commit that succeeds leaves this text. -/
theorem text_of_commit [DepthLimits]
    {l next : Ledger} {file text : String} {site after : Site}
    (hread : site.read file = .ok text)
    (h : outcome (l.commit file) site = (.ok next, after)) :
    ∃ text', l.textAfter file text = .ok text' ∧
      after = if l.hasChanges then site.write file (.text text') else site := by
  cases hchanges : l.hasChanges with
  | false =>
      refine ⟨text, by simp [textAfter, hchanges], ?_⟩
      rw [commit, hchanges] at h
      exact (Prod.mk.inj h).2.symm
  | true =>
      rw [commit, hchanges, if_pos rfl] at h
      obtain ⟨disk, site₁, hload, h⟩ := outcome_bind_eq_ok.mp h
      obtain ⟨inv, site₂, hmerged, h⟩ := outcome_bind_eq_ok.mp h
      obtain ⟨_, site₃, hpersist, hsettled⟩ := outcome_bind_eq_ok.mp h
      simp only [Inventory.load, outcome_bind, outcome_readFile, hread, outcome_ofExcept,
        Prod.mk.injEq] at hload
      obtain ⟨hdisk, rfl⟩ := hload
      simp only [outcome_ofExcept, Prod.mk.injEq] at hmerged
      obtain ⟨hmerged, rfl⟩ := hmerged
      rw [outcome_pure, Prod.mk.injEq] at hsettled
      obtain ⟨-, rfl⟩ := hsettled
      obtain ⟨document, hdocument, -⟩ := documentOfText_of_ofText hdisk
      simp only [Inventory.persist, outcome_bind, outcome_readFile, hread, outcome_ofExcept,
        hdocument] at hpersist
      cases htext : inv.textWith ["reserved"] document with
      | error e =>
          rw [htext] at hpersist
          cases hpersist
      | ok text' =>
          refine ⟨text', by simp [textAfter, hchanges, hdisk, hmerged, hdocument, htext, bind,
            Except.bind], ?_⟩
          simp only [htext, outcome_replaceFile] at hpersist
          cases hreplace : site.outside.replaceFault with
          | some reason =>
              rw [hreplace] at hpersist
              cases hpersist
          | none =>
              rw [hreplace] at hpersist
              exact (Prod.mk.inj hpersist).2.symm

/-- Ledgers with the same changes leave the same text. -/
theorem textAfter_congr [DepthLimits]
    {l m : Ledger} {file text : String}
    (hchanges : l.hasChanges = m.hasChanges)
    (hmerged : ∀ disk, Inventory.ofText file text = .ok disk → l.mergedInto disk = m.mergedInto disk) :
    l.textAfter file text = m.textAfter file text := by
  rw [textAfter, textAfter, hchanges]
  split
  · cases hdisk : Inventory.ofText file text with
    | error e => rfl
    | ok disk =>
        have hsame : l.merged disk = m.merged disk := by
          rw [merged, merged, hmerged disk hdisk]
        simp only [bind, Except.bind, hsame]
  · rfl

/-- Commits that leave the same text in the file leave files that are read alike. -/
theorem read_of_same_text [DepthLimits]
    {l m next next' : Ledger} {file text : String} {site site' after after' : Site}
    (hread : site.read file = .ok text)
    (hread' : site'.read file = .ok text)
    (hsame : l.textAfter file text = m.textAfter file text)
    (hchanges : l.hasChanges = m.hasChanges)
    (h : outcome (l.commit file) site = (.ok next, after))
    (h' : outcome (m.commit file) site' = (.ok next', after')) :
    after'.read file = after.read file := by
  obtain ⟨text₁, htext, rfl⟩ := text_of_commit hread h
  obtain ⟨text₂, htext', rfl⟩ := text_of_commit hread' h'
  obtain rfl : text₁ = text₂ := Except.ok.inj (htext.symm.trans (hsame.trans htext'))
  rw [← hchanges]
  split
  · exact Site.read_write_congr hread
  · rw [hread, hread']

end Ledger

/-! ### The steps of a run -/

namespace ModuleRun

open ActOn

variable {mode : Ledger.Mode} {run begun : ModuleRun} {inv : Inventory}
  {secrets : Option (List Value)} {l : Ledger} {site after : Site}

/-- What a first step has done that has succeeded: it has resolved the document of the run by the
inventory of the file and by the answer of the vault, and the ledger is what came of this. -/
structure Begun [DepthLimits] (mode : Ledger.Mode) (run begun : ModuleRun) (site : Site)
    (inv : Inventory) (secrets : Option (List Value)) (l : Ledger) : Prop where
  loaded : (outcome (Inventory.load run.file) site).1 = .ok inv
  fetched : (outcome run.settings.fetchSecrets site).1 = .ok secrets
  filled : inv.document >>= withSecrets secrets = .ok begun.inventoryDocument
  resolved : outcome (Value.resolve ⟨some begun.inventoryDocument, secrets,
    some (Ledger.registry mode), none⟩ run.document) (Ledger.start inv) = (.ok begun.document, l)
  ledger : begun.ledger = some l
  file : begun.file = run.file

theorem Begun.congr [DepthLimits]
    {next : ModuleRun}
    (h : Begun mode run begun site inv secrets l)
    (hsame : next.resolution = begun.resolution) :
    Begun mode run next site inv secrets l := by
  obtain ⟨hdocument, hinventory, hledger, hfile⟩ := of_resolution_eq hsame
  exact ⟨h.loaded, h.fetched, hinventory ▸ h.filled, hinventory ▸ hdocument ▸ h.resolved,
    hledger.trans h.ledger, hfile.trans h.file⟩

theorem filled_of_resolve [DepthLimits]
    (h : ending (resolve mode inv secrets) run site = ((.ok (), begun), after)) :
    inv.document >>= withSecrets secrets = .ok begun.inventoryDocument ∧ begun.file = run.file ∧
      ∃ l, begun.ledger = some l ∧
        outcome (Value.resolve ⟨some begun.inventoryDocument, secrets,
          some (Ledger.registry mode), none⟩ run.document) (Ledger.start inv) =
            (.ok begun.document, l) := by
  obtain ⟨document, run₁, site₁, hdocument, h⟩ := ending_bind_eq_ok.mp h
  obtain ⟨_, run₂, site₂, hstart, h⟩ := ending_bind_eq_ok.mp h
  obtain ⟨run₃, _, site₃, hget, h⟩ := ending_bind_eq_ok.mp h
  obtain ⟨resolved, run₄, site₄, hresolved, h⟩ := ending_bind_eq_ok.mp h
  obtain ⟨_, run₅, site₅, hensure, h⟩ := ending_bind_eq_ok.mp h
  obtain ⟨_, run₆, site₆, hkeep, h⟩ := ending_bind_eq_ok.mp h
  obtain ⟨manifest, run₇, site₇, hmanifest, h⟩ := ending_bind_eq_ok.mp h
  simp only [ending_ofExcept, ending_modify, ending_get, ending_onLedger, Prod.mk.injEq]
    at hdocument hstart hget hresolved hensure hkeep hmanifest h
  obtain ⟨⟨hdocument, rfl⟩, rfl⟩ := hdocument
  obtain ⟨⟨-, rfl⟩, rfl⟩ := hstart
  obtain ⟨⟨hget, rfl⟩, rfl⟩ := hget
  obtain rfl := Except.ok.inj hget
  obtain ⟨⟨hresolved, rfl⟩, rfl⟩ := hresolved
  obtain ⟨⟨-, rfl⟩, rfl⟩ := hensure
  obtain ⟨⟨-, rfl⟩, rfl⟩ := hkeep
  obtain ⟨⟨-, rfl⟩, rfl⟩ := hmanifest
  obtain ⟨⟨-, rfl⟩, rfl⟩ := h
  exact ⟨hdocument, rfl, _, rfl, outcome_within (Prod.ext hresolved rfl)⟩

theorem begun_of_init [DepthLimits]
    (h : ending (init mode) run site = ((.ok (), begun), after)) :
    ∃ inv secrets l, Begun mode run begun site inv secrets l := by
  obtain ⟨_, run₁, site₁, hget, h⟩ := ending_bind_eq_ok.mp h
  obtain ⟨inv, run₂, site₂, hload, h⟩ := ending_bind_eq_ok.mp h
  obtain ⟨secrets, run₃, site₃, hsecrets, h⟩ := ending_bind_eq_ok.mp h
  obtain ⟨_, run₄, site₄, hresolve, hfetch⟩ := ending_bind_eq_ok.mp h
  simp only [ending_get, ending_lift, Prod.mk.injEq] at hget hload hsecrets
  obtain ⟨⟨hget, rfl⟩, rfl⟩ := hget
  obtain rfl := Except.ok.inj hget
  obtain ⟨⟨hload, rfl⟩, rfl⟩ := hload
  obtain ⟨⟨hsecrets, rfl⟩, rfl⟩ := hsecrets
  have hsite : (outcome (Inventory.load run.file) site).2 = site := by
    simp only [Inventory.load, outcome_bind, outcome_readFile, outcome_ofExcept]
    cases site.read run.file <;> rfl
  rw [hsite] at hsecrets
  obtain ⟨hfilled, hfile, l, hledger, hresolved⟩ := filled_of_resolve hresolve
  have hleaves := (leaves_fetch run₄ site₄).1
  rw [hfetch] at hleaves
  exact ⟨inv, secrets, l,
    Begun.congr ⟨hload, hsecrets, hfilled, hresolved, hledger, hfile⟩ hleaves⟩

/-- The three steps of a run succeed, one after another. -/
def Completes [DepthLimits] (mode : Ledger.Mode) (run : ModuleRun) (site after : Site) : Prop :=
  ∃ begun path planned applied site₁ site₂,
    ending (init mode) run site = ((.ok (), begun), site₁) ∧
    ending (plan mode) begun site₁ = ((.ok path, planned), site₂) ∧
    ending apply planned site₂ = ((.ok (), applied), after)

/-- A run that comes to its end has committed the ledger of its first step to the file that this
has loaded. -/
theorem Completes.committed [DepthLimits]
    (h : Completes mode run site after) :
    ∃ begun inv secrets l before next, Begun mode run begun site inv secrets l ∧
      site.Keeps before ∧ outcome (l.commit run.file) before = (.ok next, after) := by
  obtain ⟨begun, path, planned, applied, site₁, site₂, hinit, hplan, happly⟩ := h
  obtain ⟨inv, secrets, l, hbegun⟩ := begun_of_init hinit
  have hkeeps := (leavesFiles_init mode run site).2
  rw [hinit] at hkeeps
  have hleaves := leaves_plan mode begun site₁
  rw [hplan] at hleaves
  have hplanned := hbegun.congr hleaves.1
  obtain ⟨text, hread, htext⟩ := Inventory.text_of_load hbegun.loaded
  obtain ⟨document, -, hinv⟩ := Ledger.documentOfText_of_ofText htext
  obtain ⟨v, -, hhands⟩ :=
    Ledger.handsOut_of_resolve (Inventory.valid_of_ofValue hinv) hbegun.resolved
  have hplain : l.Plain := by
    obtain ⟨calls, -, rfl⟩ := hhands.calls
    exact (Ledger.plain_start inv).afterAll calls
  rcases ending_apply hplanned.ledger hplain site₂ with ⟨e, _, hends, -⟩ |
    ⟨applied', after', hends, hcommits⟩
  · rw [hends] at happly
    cases happly
  · rw [hends] at happly
    obtain ⟨-, rfl⟩ := Prod.mk.inj happly
    obtain ⟨directory, vars, output, ledger, settled, -, -, -, hledger, hcommit⟩ := hcommits
    obtain rfl := Option.some.inj (hplanned.ledger.symm.trans hledger)
    rw [hplanned.file] at hcommit
    exact ⟨begun, inv, secrets, l, _, settled, hbegun,
      (hkeeps.trans hleaves.2).trans (.record site₂ _), hcommit⟩

/-- What is committed in the end is what the passes over the document have led to. -/
theorem Completes.committed_of_resolved [DepthLimits]
    {document w : Value}
    (h : Completes mode run site after)
    (hload : (outcome (Inventory.load run.file) site).1 = .ok inv)
    (hsecrets : (outcome run.settings.fetchSecrets site).1 = .ok secrets)
    (hfilled : inv.document >>= withSecrets secrets = .ok document)
    (hresolved : outcome (Value.resolve ⟨some document, secrets, some (Ledger.registry mode), none⟩
      run.document) (Ledger.start inv) = (.ok w, l)) :
    ∃ before next, site.Keeps before ∧ outcome (l.commit run.file) before = (.ok next, after) := by
  obtain ⟨begun, inv', secrets', l', before, next, hbegun, hkeeps, hcommit⟩ := h.committed
  obtain rfl := Except.ok.inj (hload.symm.trans hbegun.loaded)
  obtain rfl := Except.ok.inj (hsecrets.symm.trans hbegun.fetched)
  have hdocument : begun.inventoryDocument = document :=
    Except.ok.inj (hbegun.filled.symm.trans hfilled)
  have hresolved' := hbegun.resolved
  rw [hdocument, hresolved] at hresolved'
  obtain ⟨-, rfl⟩ := Prod.mk.inj hresolved'
  exact ⟨before, next, hkeeps, hcommit⟩

/-! ### Steps that succeed -/

/-- A first step whose passes succeed comes to fetching the module. -/
theorem ending_init [DepthLimits]
    {site' : Site} {document w : Value} {manifest : ModuleManifest}
    (hload : outcome (Inventory.load run.file) site = (.ok inv, site))
    (hsecrets : outcome run.settings.fetchSecrets site = (.ok secrets, site'))
    (hfilled : inv.document >>= withSecrets secrets = .ok document)
    (hlevels : run.document.levels ≤ DepthLimits.walking)
    (hresolved : outcome (Value.resolve ⟨some document, secrets, some (Ledger.registry mode), none⟩
      run.document) (Ledger.start inv) = (.ok w, l))
    (hensure : w.ensureResolved = .ok ())
    (hmanifest : ModuleManifest.ofValue w = .ok manifest) :
    ending (init mode) run site =
      ending fetch { run with
        inventoryDocument := document
        ledger := some l
        document := w
        manifest := manifest } site' := by
  simp only [init, resolve, ending_bind, ending_get, ending_lift, hload, hsecrets, hfilled,
    ending_ofExcept, ending_modify, ending_onLedger, Value.within, hlevels, if_true, hresolved,
    hensure, hmanifest]

theorem ending_fetch
    (run : ModuleRun) (site : Site) :
    ending fetch run site =
      let clone := site.outside.scratch
      let command := cloneCommand run.manifest clone
      match site.outside.command site.journal command with
      | .ok _ =>
          ((.ok (), { run with
            cloneDirectory := some clone
            moduleDirectory := some (directoryIn run.manifest clone) }), site.record (.command command))
      | .error fault =>
          ((.error (fault.failure command),
            { run with cloneDirectory := some clone }), site.record (.command command)) := by
  have hscratch : outcome (do return (← get).outside.scratch : Act String) site =
      (.ok site.outside.scratch, site) := rfl
  simp only [fetch, ending_bind, ending_lift, hscratch, ending_modify, ending_get,
    Act.outcome_runCommand]
  cases site.outside.command site.journal (cloneCommand run.manifest site.outside.scratch) <;> rfl

/-- A run comes to its end whose first step has succeeded, if it can be planned, all further
commands succeed, and its ledger is committed. -/
theorem completes_of_init [DepthLimits]
    {mid : Site} {directory : String} {vars : List (String × String)} {backend : List String}
    (hinit : ending (init mode) run site = ((.ok (), begun), mid))
    (hledger : begun.ledger = some l)
    (hdirectory : begun.directory = .ok directory)
    (hvars : begun.environment = .ok vars)
    (hbackend : begun.backendArguments = .ok backend)
    (hcommands : ∀ journal c, mid.journal.length ≤ journal.length →
      mid.outside.command journal c = .ok "")
    (hcommit : ∀ before, mid.Keeps before →
      ∃ next after, outcome (l.commit begun.file) before = (.ok next, after)) :
    ∃ after, Completes mode run site after := by
  have hcommand : ∀ (more : List Event) (c : Command),
      mid.outside.command (mid.journal ++ more) c = .ok "" :=
    fun more c => hcommands _ c (by simp)
  have hseconds : ∀ site : Site, outcome (do return (← get).outside.seconds : Act Int) site =
      (.ok site.outside.seconds, site) := fun _ => rfl
  have hplan : ∃ path planned site₂, ending (plan mode) begun mid = ((.ok path, planned), site₂) ∧
      planned.ledger = some l ∧ planned.directory = .ok directory ∧
      planned.environment = .ok vars ∧ planned.file = begun.file ∧ mid.Keeps site₂ ∧
      ∃ more, site₂.journal = mid.journal ++ more := by
    have hfirst := hcommand []
    rw [List.append_nil] at hfirst
    simp only [plan, ending_bind, ending_get, ending_ofExcept, hdirectory, hvars, hbackend,
      ending_lift, Act.outcome_runCommand, hfirst, hseconds, ending_modify, Site.record, hcommand,
      ending_pure]
    exact ⟨_, _, _, rfl, hledger, hdirectory, hvars, rfl, ⟨rfl, rfl⟩, _, List.append_assoc _ _ _⟩
  obtain ⟨path, planned, site₂, hplan, hledger', hdirectory', hvars', hfile, hkeeps, more,
    hjournal⟩ := hplan
  have hlast : ∀ c, site₂.outside.command site₂.journal c = .ok "" := by
    intro c
    rw [hkeeps.outside, hjournal, hcommand]
  obtain ⟨next, after, hcommitted⟩ := hcommit
    (site₂.record (.command (planned.applyCommand directory vars))) (hkeeps.trans (.record site₂ _))
  have happly : ∃ applied, ending apply planned site₂ = ((.ok (), applied), after) := by
    rw [← hfile] at hcommitted
    simp only [apply, ending_bind, ending_get, ending_ofExcept, hdirectory', hvars', ending_lift,
      Act.outcome_runCommand, hlast, hledger', hcommitted, ending_modify]
    exact ⟨_, rfl⟩
  obtain ⟨applied, happly⟩ := happly
  exact ⟨after, begun, path, planned, applied, mid, site₂, hinit, hplan, happly⟩

end ModuleRun

/-! ### A small manifest -/

/-- A manifest of a module with two variables. -/
def moduleDocument (number : Value) : Value :=
  .object [("module", .str "modules"),
    ("variables", .object [("server_name", .str "web"), ("vm_id", number)])]

/-- The module manifest with two variables. -/
def sampleManifest (number : Value) : ModuleManifest :=
  ⟨"modules", "master", none, .vm, [("server_name", .str "web"), ("vm_id", number)], []⟩

theorem findAll_modules :
    Reference.findAll "modules" = [] := by
  have hparse : Reference.parse? "modules" = none := by decide
  simp [Reference.findAll, hparse, Reference.embeddedIn, Reference.pieces,
    Reference.Piece.reference?]

theorem findAll_web :
    Reference.findAll "web" = [] := by
  have hparse : Reference.parse? "web" = none := by decide
  simp [Reference.findAll, hparse, Reference.embeddedIn, Reference.pieces,
    Reference.Piece.reference?]

theorem references_moduleDocument
    (number : Value) :
    (moduleDocument number).references = number.references := by
  simp [moduleDocument, Value.object, Value.references, Value.entryReferences, findAll_modules,
    findAll_web]

/-- A pass over the manifest is a pass over the number in it. -/
theorem ending_run_moduleDocument
    {m : Type → Type} [Monad m] [MonadExceptOf Failure m] {σ ε : Type} {p : Pass m}
    {M : Meaning m σ ε}
    (hp : p.Thorough) (number : Value) (s : σ) :
    M.ending (p.run (moduleDocument number)) s =
      (M.ending (p.run number) s).map fun r => (moduleDocument r.1, r.2) := by
  have hplaces : ∀ text : String, Reference.findAll text = [] → p.placesIn text = [] := by
    intro text hnone
    have hfound : Pass.Place.findAll text = [] := by
      rw [← List.map_eq_nil_iff (f := Pass.Place.token), Pass.Place.token_findAll, hnone]
    rw [Pass.placesIn, hfound, List.filter_nil]
  have hsame : p.places (moduleDocument number) = p.places number := by
    simp [Pass.places, moduleDocument, Value.object, Value.texts, Value.entryTexts,
      hplaces _ findAll_modules, hplaces _ findAll_web]
  have htext : ∀ (memo : Memo) (text : String), Reference.findAll text = [] →
      (Memo.table memo).text p.serves true text = .str text := by
    intro memo text hnone
    exact TokenTable.text_eq_self (by simp [hnone])
  rw [Pass.ending_run hp, Pass.ending_run hp, hsame]
  cases p.visitAll M ([], s) (p.places number) with
  | error e => rfl
  | ok st =>
      simp [Except.map, moduleDocument, Value.object, TokenTable.rewrite, TokenTable.rewriteEntries,
        htext _ _ findAll_modules, htext _ _ findAll_web]

/-- A text that is one token becomes what the lookup gives for it. -/
theorem Pass.ending_run_token
    {m : Type → Type} [Monad m] [MonadExceptOf Failure m] {σ ε : Type} {p : Pass m}
    {M : Meaning m σ ε} {r : Reference} {v : Value} {s s' : σ}
    (hp : p.Thorough)
    (hparse : Reference.parse? r.text = some r)
    (hserves : p.serves r.target = true)
    (hlookup : M.ending (p.lookup r) s = .ok (some v, s')) :
    M.ending (p.run (.str r.text)) s = .ok (v, s') := by
  have hplaces : p.places (.str r.text) = [⟨r, false⟩] := by
    simp [places, Value.texts, placesIn, Place.findAll, hparse, hserves]
  rw [ending_run hp, hplaces, visitAll_singleton, visit, askOnce, askNew, hlookup]
  simp [Except.map, Except.bind, Place.formless?, TokenTable.rewrite, TokenTable.text, hparse,
    hserves, Memo.table]

namespace Ledger

/-- A run that reserves asks for a machine number by the call for the token. -/
theorem outcome_request_new
    {inv : Inventory} {token : String} {n : Int}
    (hnew : inv.reservedVmid? token = none)
    (hnext : inv.nextVmid "vm" = .ok n) :
    outcome ((registry .reserve).vmid "vm" token) (start inv) =
      (.ok n, (start inv).after ⟨.vmid, .reserve, "vm", token⟩) := by
  have hledger : (start inv).after ⟨.vmid, .reserve, "vm", token⟩ =
      (outcome (Allocated.vmid <$> (registry .reserve).vmid "vm" token) (start inv)).2 := rfl
  have hnew' : (start inv).inventory.reservedVmid? token = none := hnew
  have hnext' : (start inv).inventory.nextVmid "vm" = .ok n := hnext
  rw [hledger, outcome_map]
  refine Prod.ext ?_ rfl
  simp only [registry, requestVmid, outcome_serve, vmid, hnew', Inventory.reserveVmid, hnext',
    Except.map]

/-- A manifest with a token for a machine number gets the first one that is free. -/
theorem outcome_resolve_token
    {root filled : Value} {secrets : Option (List Value)} {inv : Inventory} {r : Reference}
    {label : String} {n : Int}
    (hroot : outcome (Value.fillWith secrets Value.fillSecrets root : Run Value) (start inv) =
      (.ok filled, start inv))
    (hparse : Reference.parse? r.text = some r)
    (htarget : r.target = .machine .vm label)
    (hnew : inv.reservedVmid? r.text = none)
    (hnext : inv.nextVmid "vm" = .ok n) :
    outcome (Value.resolve ⟨some root, secrets, some (registry .reserve), none⟩
      (moduleDocument (.str r.text))) (start inv) =
        (.ok (moduleDocument (.int n)), (start inv).after ⟨.vmid, .reserve, "vm", r.text⟩) := by
  have hall : ∀ q ∈ (moduleDocument (.str r.text)).references, q.target.isAllocated = true := by
    rw [references_moduleDocument]
    simp [Value.references, Reference.findAll, hparse, htarget, Target.isAllocated]
  have hnone : (moduleDocument (.int n)).references = [] := by
    rw [references_moduleDocument]
    rfl
  have hlookup : Meaning.plain.ending ((ReservedKind.vmid.pass .reserve).lookup r) (start inv) =
      .ok (some (.int n), (start inv).after ⟨.vmid, .reserve, "vm", r.text⟩) := by
    simp only [ReservedKind.pass, Pass.vmid, htarget, Meaning.ending_bind, Meaning.ending_pure,
      GuestKind.name, Meaning.plain_eq_ok_iff.mpr (outcome_request_new hnew hnext), Except.bind]
  have hvmids : outcome (Value.fillWith (some (registry .reserve)) Value.fillVmids
      (moduleDocument (.str r.text))) (start inv) =
        (.ok (moduleDocument (.int n)), (start inv).after ⟨.vmid, .reserve, "vm", r.text⟩) := by
    have hpass := Pass.ending_run_token (ReservedKind.thorough_pass .vmid .reserve) hparse
      (by simp [htarget]; rfl) hlookup
    have hrun := ending_run_moduleDocument (M := Meaning.plain)
      (ReservedKind.thorough_pass .vmid .reserve) (.str r.text) (start inv)
    rw [hpass] at hrun
    exact Meaning.plain_eq_ok_iff.mp hrun
  have hips : ∀ l, outcome ((ReservedKind.ip.pass .reserve).run (moduleDocument (.int n))) l =
      (.ok (moduleDocument (.int n)), l) := by
    intro l
    rw [← Meaning.plain_eq_ok_iff]
    exact Pass.ending_run_of_unserved (ReservedKind.thorough_pass _ _) (by simp [hnone]) l
  have hroot' : outcome ((some root).mapM (Value.fillWith secrets Value.fillSecrets) : Run _)
      (start inv) = (.ok (some filled), start inv) := by
    rw [Option.mapM_some, outcome_map, hroot]
    rfl
  rw [Value.outcome_resolve_of_allocated hall hroot', outcome_bind, hvmids]
  exact hips _

/-- The ledger of a run that has reserved a machine number for a token. -/
def numberLedger (token : String) : Ledger :=
  (start (sampleInventory (.int 1))).after ⟨.vmid, .reserve, "vm", token⟩

section Number

variable (token : String)

theorem usedIn_numberLedger :
    UsedIn .reserve (numberLedger token) :=
  .call (.start (ofValue_sampleDocument (.int 1))) rfl

theorem added_numberLedger :
    (numberLedger token).added = ⟨[⟨100, token, []⟩], [], []⟩ := by
  rw [numberLedger, after_reserveVmid rfl (nextVmid_sampleInventory (.int 1))]
  rfl

theorem exists_commit_numberLedger [DepthLimits]
    {text : String} {site : Site}
    (hread : site.read "inventory.json" = .ok text)
    (hload : Inventory.ofText "inventory.json" text = .ok (sampleInventory (.int 1)))
    (hreplace : site.outside.replaceFault = none) :
    ∃ next after, outcome ((numberLedger token).commit "inventory.json") site =
      (.ok next, after) := by
  have hchanges : (numberLedger token).hasChanges = true := by
    rw [hasChanges, added_numberLedger]
    rfl
  have hfree : ¬ (numberLedger token).Collides (sampleInventory (.int 1)) := by
    simp [Collides, added_numberLedger, Inventory.committedVmids, sampleInventory, untouched,
      Reserved.empty]
  have hwritable : (sampleInventory (.int 1)).isWritable = true := by
    rw [isWritable_sampleInventory]
    decide
  obtain ⟨document, hdocument, hdisk⟩ := documentOfText_of_ofText hload
  obtain ⟨text', hcommit, -⟩ := (usedIn_numberLedger token).commit_eq hchanges hread hdocument hdisk
    hfree hwritable hreplace
  exact ⟨_, _, hcommit⟩

/-- Once it is committed, the number is all that is bound. -/
theorem binds_numberLedger [DepthLimits]
    {text : String} {site after : Site} {next : Ledger}
    (hread : site.read "inventory.json" = .ok text)
    (hload : Inventory.ofText "inventory.json" text = .ok (sampleInventory (.int 1)))
    (hcommit : outcome ((numberLedger token).commit "inventory.json") site = (.ok next, after))
    (bound : String) (number : Int) :
    ReservedKind.vmid.Binds "inventory.json" after bound number ↔ bound = token ∧ number = 100 := by
  have hbefore : ¬ ReservedKind.vmid.Binds "inventory.json" site bound number := by
    rw [ReservedKind.binds_iff hread hload]
    exact List.not_mem_nil
  rw [binds_after_commit_iff (usedIn_numberLedger token) hcommit, added_numberLedger]
  simp only [hbefore, false_and, false_or]
  change (bound, number) ∈ [(token, (100 : Int))] ↔ _
  rw [List.mem_singleton, Prod.mk.injEq]

end Number

end Ledger

/-! ### A small run -/

namespace ModuleRun

open ActOn

/-- Settings that do not open the vault. -/
def closedSettings : Settings :=
  ⟨none, none, none, none, "bw", "INFO", 24, Double.ofInt 5, false⟩

/-- The site after the word to the operator that the vault is not opened. -/
def warned (site : Site) : Site :=
  site.note .warning "BW_CLIENTID/BW_CLIENTSECRET not set, skipping vault references"

theorem fetchSecrets_closedSettings [DepthLimits]
    (site : Site) :
    outcome closedSettings.fetchSecrets site = (.ok none, warned site) := rfl

/-- A run of the sample manifest. -/
def sampleRun (settings : Settings) (number : Value) : ModuleRun :=
  ⟨moduleDocument number, sampleManifest number, "inventory.json", settings, .map [], none, none,
    none, none⟩

theorem ofDocument_sampleRun
    (settings : Settings) (number : Value) :
    ofDocument (moduleDocument number) "inventory.json" settings =
      .ok (sampleRun settings number) := rfl

/-- The run with the first machine number that is free in the place of its token. -/
def withNumber (run : ModuleRun) (l : Ledger) : ModuleRun :=
  { run with
    inventoryDocument := (sampleInventory (.int 1)).toValue
    ledger := some l
    document := moduleDocument (.int 100)
    manifest := sampleManifest (.int 100) }

section Sample

variable {text : String} {number : Value}

theorem isOversized_number :
    (Scalar.int 100).isOversized = false := Scalar.isOversized_of_lt (by decide)

theorem document_sampleInventory :
    (sampleInventory (.int 1)).document = .ok (sampleInventory (.int 1)).toValue := by
  rw [Inventory.document, if_pos]
  rw [isWritable_sampleInventory]
  decide

theorem ending_init_sample [DepthLimits]
    {site' : Site}
    (hread : site.read run.file = .ok text)
    (hload : Inventory.ofText run.file text = .ok (sampleInventory (.int 1)))
    (hsecrets : outcome run.settings.fetchSecrets site = (.ok secrets, site'))
    (hfilled : withSecrets secrets (sampleInventory (.int 1)).toValue =
      .ok (sampleInventory (.int 1)).toValue)
    (hlevels : run.document.levels ≤ DepthLimits.walking)
    (hresolved : outcome (Value.resolve ⟨some (sampleInventory (.int 1)).toValue, secrets,
      some (Ledger.registry .reserve), none⟩ run.document)
        (Ledger.start (sampleInventory (.int 1))) = (.ok (moduleDocument (.int 100)), l)) :
    ending (init .reserve) run site = ending fetch (run.withNumber l) site' := by
  have hload' : outcome (Inventory.load run.file) site = (.ok (sampleInventory (.int 1)), site) := by
    simp [Inventory.load, hread, hload]
  refine ending_init hload' hsecrets ?_ hlevels hresolved ?_ rfl
  · rw [document_sampleInventory]
    exact hfilled
  · exact Value.ensureResolved_of_no_references (references_moduleDocument (.int 100))

theorem completes_sample [DepthLimits]
    {mid : Site}
    (hinit : ending (init .reserve) run site = ending fetch (run.withNumber l) mid)
    (hcommands : ∀ journal c, mid.journal.length ≤ journal.length →
      mid.outside.command journal c = .ok "")
    (hcommit : ∀ before, mid.Keeps before →
      ∃ next after, outcome (l.commit run.file) before = (.ok next, after)) :
    ∃ after, Completes .reserve run site after := by
  have hvars : (run.withNumber l).environment =
      .ok [("TF_VAR_server_name", "web"), ("TF_VAR_vm_id", toString (100 : Int))] := by
    simp [environment, withNumber, sampleManifest, arguments, argumentText, Value.inlineText?,
      Json.compact?, Json.scalarText?, isOversized_number]
    rfl
  have hbackend : ∃ backend, (run.withNumber l).backendArguments = .ok backend := by
    have hconfig : (run.withNumber l).backendConfig = [] := rfl
    have hserver : (Value.str "web").written = .ok "web" := rfl
    have hnumber : (Value.int 100).written = .ok (Value.int 100).display := by
      simp [Value.written, Value.int, Value.isOversized, isOversized_number]
    have hvar : (run.withNumber l).manifestVariable? "server_name" = some (.str "web") := rfl
    have hvar' : (run.withNumber l).manifestVariable? "vm_id" = some (.int 100) := rfl
    simp only [backendArguments, hconfig, hvar, hvar', stateArgument, stateName, hserver, hnumber]
    exact ⟨_, rfl⟩
  rw [ending_fetch] at hinit
  simp only [hcommands mid.journal _ (Nat.le_refl _)] at hinit
  refine completes_of_init hinit rfl rfl hvars hbackend.choose_spec ?_ ?_
  · intro journal c hlength
    rw [Site.record, List.length_append] at hlength
    exact hcommands journal c (Nat.le_of_add_right_le hlength)
  · exact fun before hkeeps => hcommit before ((Site.Keeps.record mid _).trans hkeeps)

end Sample

end ModuleRun
end Homelab
