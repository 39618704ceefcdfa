import Homelab.Proofs.ModuleRun.Completed
import Homelab.Proofs.Resolution.NewTokens
import Homelab.Proofs.Vault

/-!
# What a run tells the file

Secrets are filled into the document of a run before its tokens for machine numbers and addresses
are looked for.  What the file is told of the document are these tokens, and nothing else: in a
run that reserves, those that have no reservation yet, in their order; in a run that releases, all
of them.  So the secrets of the vault leave no trace in the file exactly if they do not change
these tokens.  A secret that is such a token itself is written to the file.
-/

namespace Homelab

open Reservation

namespace Ledger

variable {mode : Mode} {inv : Inventory} {v v' w w' : Value} {l l' next : Ledger}
  {file text : String} {site after : Site}

/-- Two documents tell the file the same: the same new tokens in the same order in a run that
reserves, the same tokens in a run that releases. -/
def SameTokens (mode : Mode) (inv : Inventory) (v v' : Value) : Prop :=
  match mode with
  | .reserve => ∀ k : ReservedKind, k.newTokens inv v = k.newTokens inv v'
  | .release => ∀ (k : ReservedKind) (token : String),
      token ∈ (k.tokensOf v).map Reference.text ↔ token ∈ (k.tokensOf v').map Reference.text

/-- What a run has done to the ledger with the tokens of its document. -/
inductive Allocates (inv : Inventory) (v w : Value) (l : Ledger) : Mode → Prop where
  | reserves {notes : List (String × Allocated)}
      (filled : Filled inv v w l)
      (calls : l = ((start inv).afterAll (newCalls inv v)).withNotes notes) :
      Allocates inv v w l .reserve
  | releases
      (released : Released inv v w l) :
      Allocates inv v w l .release

theorem Allocates.handsOut
    (h : Allocates inv v w l mode) :
    HandsOut mode inv v w l := by
  cases h with
  | reserves filled => exact filled.handsOut
  | releases released => exact released.handsOut

theorem allocates_of_resolve
    {root : Option Value} {secrets : Option (List Value)} {document : Value}
    (hvalid : inv.Valid)
    (h : outcome (Value.resolve ⟨root, secrets, some (registry mode), none⟩ document)
      (start inv) = (.ok w, l)) :
    ∃ v, outcome (Value.resolve ⟨root, secrets, none, none⟩ document : Run Value) (start inv) =
        (.ok v, start inv) ∧
      Allocates inv v w l mode := by
  rw [Value.resolve_registry] at h
  obtain ⟨v, next, hv, h⟩ := outcome_bind_eq_ok.mp h
  obtain rfl := Value.state_of_resolve hv
  obtain ⟨filled, mid, hvmids, hips⟩ := outcome_bind_eq_ok.mp h
  refine ⟨v, hv, ?_⟩
  cases mode with
  | reserve =>
      obtain ⟨notes, hcalls⟩ := eq_newCalls hvmids hips
      exact .reserves (filled_of_runs hvmids hips).1 hcalls
  | release => exact .releases (released_of_runs hvalid hvmids hips)

/-! ### From the tokens to the text -/

theorem merge_congr
    {k : ReservedKind} {removed removed' : List (Reservation k.Bound)}
    (h : ∀ t, t ∈ tokens removed ↔ t ∈ tokens removed')
    (onDisk added : List (Reservation k.Bound)) :
    merge onDisk added removed = merge onDisk added removed' := by
  rw [merge_eq, merge_eq, untouched, untouched]
  simp only [h]

theorem Released.mem_removed_iff
    (h : Released inv v w l)
    (h' : Released inv v' w' l')
    (hsame : SameTokens .release inv v v')
    (k : ReservedKind) (token : String) :
    token ∈ tokens (k.book l).removed ↔ token ∈ tokens (k.book l').removed := by
  rw [h.removed, h'.removed]
  exact hsame k token

theorem Released.hasChanges_congr
    (h : Released inv v w l)
    (h' : Released inv v' w' l')
    (hsame : SameTokens .release inv v v') :
    l.hasChanges = l'.hasChanges := by
  have hempty : ∀ k : ReservedKind, (k.book l).removed = [] ↔ (k.book l').removed = [] := by
    intro k
    rw [← List.map_eq_nil_iff (f := Reservation.token), ← List.map_eq_nil_iff
      (f := Reservation.token) (l := (k.book l').removed), List.eq_nil_iff_forall_not_mem,
      List.eq_nil_iff_forall_not_mem]
    exact forall_congr' fun token => not_congr (h.mem_removed_iff h' hsame k token)
  rw [Bool.eq_iff_iff, ← not_iff_not, Bool.not_eq_true, Bool.not_eq_true,
    hasChanges_eq_false_iff, hasChanges_eq_false_iff]
  refine forall_congr' fun k => ?_
  rw [h.added, h'.added, hempty]

theorem Released.mergedInto_congr
    (h : Released inv v w l)
    (h' : Released inv v' w' l')
    (hsame : SameTokens .release inv v v')
    (disk : Inventory) :
    l.mergedInto disk = l'.mergedInto disk := by
  have hentries : ∀ k : ReservedKind, merge (k.entries disk.reserved) (k.book l).added
      (k.book l).removed = merge (k.entries disk.reserved) (k.book l').added
      (k.book l').removed := by
    intro k
    rw [h.added, h'.added]
    exact merge_congr (h.mem_removed_iff h' hsame k) _ _
  have hvmids : merge disk.reserved.vmids l.added.vmids l.removed.vmids =
      merge disk.reserved.vmids l'.added.vmids l'.removed.vmids := hentries .vmid
  have hips : merge disk.reserved.ips l.added.ips l.removed.ips =
      merge disk.reserved.ips l'.added.ips l'.removed.ips := hentries .ip
  rw [Ledger.mergedInto, Ledger.mergedInto, hvmids, hips]

/-- Documents with the same tokens lead to the same changes of the file. -/
theorem Allocates.changes_congr
    (h : Allocates inv v w l mode)
    (h' : Allocates inv v' w' l' mode)
    (hsame : SameTokens mode inv v v') :
    l.hasChanges = l'.hasChanges ∧ ∀ disk, l.mergedInto disk = l'.mergedInto disk := by
  cases h with
  | reserves _ hcalls =>
      cases h' with
      | reserves _ hcalls' =>
          have hnew : newCalls inv v = newCalls inv v' := by
            rw [newCalls, newCalls, hsame .vmid, hsame .ip]
          rw [hcalls, hcalls', hnew]
          exact ⟨rfl, fun disk => rfl⟩
  | releases hreleased =>
      cases h' with
      | releases hreleased' =>
          exact ⟨hreleased.hasChanges_congr hreleased' hsame,
            hreleased.mergedInto_congr hreleased' hsame⟩

/-! ### From the text to the tokens -/

/-- After a commit to the file that was loaded, the file has the bindings of the ledger, in their
order. -/
theorem HandsOut.exists_pairs [DepthLimits]
    (h : HandsOut mode inv v w l)
    (hread : site.read file = .ok text)
    (hload : Inventory.ofText file text = .ok inv)
    (hcommit : outcome (l.commit file) site = (.ok next, after)) :
    ∃ text' inv', after.read file = .ok text' ∧ Inventory.ofText file text' = .ok inv' ∧
      ∀ k : ReservedKind, pairs (k.entries inv'.reserved) = pairs (k.book l).live := by
  obtain ⟨document, -, hinv⟩ := documentOfText_of_ofText hload
  have hvalid := Inventory.valid_of_ofValue hinv
  have hknown := h.known
  obtain ⟨calls, -, rfl⟩ := h.calls
  simp only [ReservedKind.live_book]
  rcases commit_cases ((plain_start inv).afterAll calls) file site with ⟨e, hends⟩ |
    ⟨hchanges, hends⟩ | ⟨text₀, text', disk, inv', hread₀, hdisk, hends, hread', hinv', hbare⟩
  · rw [hends] at hcommit
    cases hcommit
  · rw [hends] at hcommit
    obtain ⟨-, rfl⟩ := Prod.mk.inj hcommit
    refine ⟨text, inv, hread, hload, fun k => ?_⟩
    rw [inventory_of_not_hasChanges hvalid hchanges]
  · rw [hends] at hcommit
    obtain ⟨-, rfl⟩ := Prod.mk.inj hcommit
    obtain rfl := Except.ok.inj (hread.symm.trans hread₀)
    obtain rfl := Except.ok.inj (hload.symm.trans hdisk)
    refine ⟨text', inv', hread', hinv', fun k => ?_⟩
    rw [ReservedKind.pairs_eq_of_bare hbare, mergedInto_loaded hvalid hknown]

/-- The tokens of a document that is released are those that were bound and are no more. -/
theorem Released.mem_tokens_iff
    (h : Released inv v w l)
    (k : ReservedKind) (token : String) :
    token ∈ (k.tokensOf v).map Reference.text ↔
      token ∈ tokens (k.entries inv.reserved) ∧ token ∉ tokens (k.book l).live := by
  rw [h.live]
  constructor
  · intro htoken
    obtain ⟨r, hr, rfl⟩ := List.mem_map.mp htoken
    refine ⟨h.bound k r hr, fun hlive => ?_⟩
    obtain ⟨e, he, hetoken⟩ := mem_tokens.mp hlive
    have hother := of_decide_eq_true (List.mem_filter.mp he).2
    exact hother (hetoken ▸ htoken)
  · rintro ⟨hbound, hgone⟩
    by_contra hother
    obtain ⟨e, he, rfl⟩ := mem_tokens.mp hbound
    exact hgone (mem_tokens.mpr ⟨e, List.mem_filter.mpr ⟨he, by simpa using hother⟩, rfl⟩)

/-- What is bound in the end tells what tokens were asked for. -/
theorem Allocates.sameTokens
    (h : Allocates inv v w l mode)
    (h' : Allocates inv v' w' l' mode)
    (hsame : ∀ k : ReservedKind, pairs (k.book l).live = pairs (k.book l').live) :
    SameTokens mode inv v v' := by
  cases h with
  | reserves hfilled _ =>
      cases h' with
      | reserves hfilled' _ =>
          intro k
          obtain ⟨new, hbook, htokens⟩ := hfilled.made k
          obtain ⟨new', hbook', htokens'⟩ := hfilled'.made k
          have hpairs := hsame k
          rw [hbook, hbook', pairs_append, pairs_append, List.append_cancel_left_eq] at hpairs
          rw [ReservedKind.newTokens, ReservedKind.newTokens, ← htokens, ← htokens',
            tokens_of_pairs hpairs]
  | releases hreleased =>
      cases h' with
      | releases hreleased' =>
          intro k token
          rw [hreleased.mem_tokens_iff, hreleased'.mem_tokens_iff, tokens_of_pairs (hsame k)]

end Ledger

namespace ModuleRun

open ActOn

variable {mode : Ledger.Mode} {run run' : ModuleRun} {site site' after after' : Site}

/-- What the document of a run has become when the secrets of the vault, the values of the
inventory and its own values have been filled in. -/
def Prepared [DepthLimits] (run : ModuleRun) (site : Site) (inv : Inventory) (v : Value) : Prop :=
  ∃ secrets root, (outcome (Inventory.load run.file) site).1 = .ok inv ∧
    (outcome run.settings.fetchSecrets site).1 = .ok secrets ∧
    inv.document >>= withSecrets secrets = .ok root ∧
    outcome (Value.resolve ⟨some root, secrets, none, none⟩ run.document : Ledger.Run Value)
      (Ledger.start inv) = (.ok v, Ledger.start inv)

/-- A run that comes to its end has prepared its document, has asked for its tokens, and has
committed what came of this. -/
theorem Completes.allocates [DepthLimits]
    (h : Completes mode run site after) :
    ∃ text inv v w l before next, site.read run.file = .ok text ∧
      Inventory.ofText run.file text = .ok inv ∧ Prepared run site inv v ∧
      Ledger.Allocates inv v w l mode ∧ before.read run.file = .ok text ∧
      outcome (l.commit run.file) before = (.ok next, after) := by
  obtain ⟨begun, inv, secrets, l, before, next, hbegun, hkeeps, hcommit⟩ := h.committed
  obtain ⟨text, hread, hload⟩ := Inventory.text_of_load hbegun.loaded
  obtain ⟨document, -, hinv⟩ := Ledger.documentOfText_of_ofText hload
  obtain ⟨v, hv, hallocates⟩ :=
    Ledger.allocates_of_resolve (Inventory.valid_of_ofValue hinv) hbegun.resolved
  exact ⟨text, inv, v, begun.document, l, before, next, hread, hload,
    ⟨secrets, begun.inventoryDocument, hbegun.loaded, hbegun.fetched, hbegun.filled, hv⟩, hallocates,
    (hkeeps.read _).trans hread, hcommit⟩

/-- Two runs that begin with the same text in the file and come to their end leave the same text
in it exactly if their documents, with all secrets filled in, have the same tokens to tell
it. -/
theorem same_text_iff_same_tokens [DepthLimits]
    (h : Completes mode run site after)
    (h' : Completes mode run' site' after')
    (hfile : run'.file = run.file)
    (hread : site'.read run.file = site.read run.file) :
    ∃ inv v v', Prepared run site inv v ∧ Prepared run' site' inv v' ∧
      (after'.read run.file = after.read run.file ↔ Ledger.SameTokens mode inv v v') := by
  obtain ⟨text, inv, v, w, l, before, next, hsite, hload, hprepared, hallocates, hbefore, hcommit⟩ :=
    h.allocates
  obtain ⟨text', inv', v', w', l', before', next', hsite', hload', hprepared', hallocates', hbefore',
    hcommit'⟩ := h'.allocates
  rw [hfile] at hsite' hload' hbefore' hcommit'
  obtain rfl : text' = text := Except.ok.inj (hsite'.symm.trans (hread.trans hsite))
  obtain rfl : inv' = inv := Except.ok.inj (hload'.symm.trans hload)
  refine ⟨inv', v, v', hprepared, hprepared', ?_, ?_⟩
  · intro hsame
    obtain ⟨text₁, inv₁, hafter, hload₁, hpairs⟩ :=
      hallocates.handsOut.exists_pairs hbefore hload hcommit
    obtain ⟨text₂, inv₂, hafter', hload₂, hpairs'⟩ :=
      hallocates'.handsOut.exists_pairs hbefore' hload' hcommit'
    obtain rfl : text₂ = text₁ := Except.ok.inj (hafter'.symm.trans (hsame.trans hafter))
    obtain rfl : inv₂ = inv₁ := Except.ok.inj (hload₂.symm.trans hload₁)
    exact hallocates.sameTokens hallocates' fun k => (hpairs k).symm.trans (hpairs' k)
  · intro hsame
    obtain ⟨hchanges, hmerged⟩ := hallocates.changes_congr hallocates' hsame
    exact Ledger.read_of_same_text hbefore hbefore'
      (Ledger.textAfter_congr hchanges fun disk _ => hmerged disk) hchanges hcommit hcommit'

end ModuleRun

/-! ### A secret that is a token -/

/-- A document is resolved like what it becomes when it is filled with secrets. -/
theorem Value.outcome_resolve_of_secrets
    {σ : Type} {root : Option Value} {secrets : Option (List Value)}
    {registry : Option (Registry (ExceptT Failure (StateM σ)))} {v w : Value} {s : σ}
    (hfilled : outcome (fillWith secrets fillSecrets v : ExceptT Failure (StateM σ) Value) s =
      (.ok w, s))
    (hagain : outcome (fillWith secrets fillSecrets w : ExceptT Failure (StateM σ) Value) s =
      (.ok w, s)) :
    outcome (resolve ⟨root, secrets, registry, none⟩ v) s =
      outcome (resolve ⟨root, secrets, registry, none⟩ w) s := by
  simp only [resolve, outcome_bind, hfilled, hagain]

namespace ModuleRun

open ActOn

/-- Settings that open the vault. -/
def openSettings : Settings :=
  ⟨some "id", some "secret", some "password", none, "bw", "INFO", 24, Double.ofInt 5, false⟩

/-- A site where the vault lists some items. -/
def vaultSite (text items : String) : Site :=
  { sampleSite text with
    outside := { (sampleSite text).outside with
      vault := fun _ c => .ended 0 (if c.words.contains "list" then items else "key") "" } }

/-- An item of the vault. -/
def secretItem (id : String) : Value := .object [("name", .str "web"), ("id", .str id)]

/-- A run of a manifest that leaves the number of the machine to the vault. -/
def secretRun : ModuleRun := sampleRun openSettings (.str "vault:web.id")

section Sample

variable {text items : String} {r : Reference} {label : String}

theorem fetchSecrets_vaultSite [DepthLimits]
    {vs : List Value}
    (hitems : Vault.itemsOf (Text.strip items) = .ok vs) :
    (outcome openSettings.fetchSecrets (vaultSite text items)).1 = .ok (some vs) := by
  have hkey : Text.strip "key" = "key" := by decide +kernel
  have hprogram : openSettings.account.program = "bw" := rfl
  have henabled : openSettings.vaultEnabled = true := by decide
  have hreply : ∀ (step : Vault.Step) (session : VaultSession) (site : Site),
      site.outside = (vaultSite text items).outside →
        step.reply openSettings.account session site =
          .ended 0 (if step = .list then items else "key") "" := by
    intro step session site hsite
    cases step <;> simp [Vault.Step.reply, Vault.Step.call, Vault.Step.name, Vault.Step.arguments,
      hsite, vaultSite, hprogram]
  have hcalled : ∀ (step : Vault.Step) (session : VaultSession) (site : Site),
      (step.called openSettings.account session site).outside = site.outside := fun _ _ _ => rfl
  have hclose : ∀ (session : VaultSession) (site : Site),
      site.outside = (vaultSite text items).outside →
        (ending (Vault.close openSettings.account) session site).1.1 = .ok () := by
    intro session site hsite
    have hresults : site.outside.GivesResults := by
      rw [hsite]
      exact fun _ _ => trivial
    exact (Vault.close_of_givesResults openSettings.account _ hresults).1
  rw [Vault.outcome_fetchSecrets, if_pos henabled]
  simp only [Vault.opening, Vault.ending_forM_cons, Vault.Step.finish, Vault.Step.output,
    Vault.Step.done]
  simp [hreply, hcalled, hclose, hkey, hitems, Except.map, Except.bind]

theorem secretAt_secretItem
    (id : String) :
    Pass.secretAt? [secretItem id] "web" ["id"] = some (.str id) := by
  have hnamed : Value.isNamed "web" (secretItem id) = true := by
    simp [Value.isNamed, secretItem, Value.object, Value.get?, Entries.find?, Value.str]
  have hid : (secretItem id).lookup ["id"] = .str id := by
    have hother : (Scalar.str "id" == Scalar.str "name") = false := by decide
    simp [secretItem, Value.object, Value.lookup, Value.child, Entries.find?, List.lookup_cons,
      hother]
  simp only [Pass.secretAt?, List.find?_cons_of_pos hnamed, hid]

/-- The manifest becomes one with the secret in the place of its token. -/
theorem outcome_fillSecrets_token
    {secrets : List Value} {q : Reference} {item : String} {path : List String} {v : Value}
    (hparse : Reference.parse? q.text = some q)
    (htarget : q.target = .secret item path)
    (hsecret : Pass.secretAt? secrets item path = some v)
    (l : Ledger) :
    outcome (Value.fillWith (some secrets) Value.fillSecrets (moduleDocument (.str q.text)) :
      Ledger.Run Value) l = (.ok (moduleDocument v), l) := by
  have hlookup : Meaning.plain.ending ((Pass.vault secrets : Pass Ledger.Run).lookup q) l =
      .ok (some v, l) := by
    simp only [Pass.vault, htarget, hsecret, Meaning.ending_pure]
  have hpass := Pass.ending_run_token (Pass.thorough_vault secrets) hparse (by rw [htarget]; rfl)
    hlookup
  have hrun := ending_run_moduleDocument (M := Meaning.plain) (Pass.thorough_vault secrets)
    (.str q.text) l
  rw [hpass] at hrun
  exact Meaning.plain_eq_ok_iff.mp hrun

/-- A secret that is a token for a machine number is reserved. -/
theorem outcome_resolve_secretRun
    (hparse : Reference.parse? r.text = some r)
    (htarget : r.target = .machine .vm label) :
    outcome (Value.resolve ⟨some (sampleInventory (.int 1)).toValue, some [secretItem r.text],
      some (Ledger.registry .reserve), none⟩ secretRun.document)
        (Ledger.start (sampleInventory (.int 1))) =
      (.ok (moduleDocument (.int 100)), Ledger.numberLedger r.text) := by
  have hagain : ∀ l, outcome (Value.fillWith (some [secretItem r.text]) Value.fillSecrets
      (moduleDocument (.str r.text)) : Ledger.Run Value) l =
        (.ok (moduleDocument (.str r.text)), l) := by
    refine fun l => Meaning.plain_eq_ok_iff.mp
      (Pass.ending_run_of_unserved (Pass.thorough_vault _) ?_ l)
    rw [references_moduleDocument]
    simp [Value.references, Reference.findAll, hparse, htarget, Pass.vault]
  have hroot : outcome (Value.fillWith (some [secretItem r.text]) Value.fillSecrets
      (sampleInventory (.int 1)).toValue : Ledger.Run Value)
        (Ledger.start (sampleInventory (.int 1))) =
      (.ok (sampleInventory (.int 1)).toValue, Ledger.start (sampleInventory (.int 1))) := rfl
  have hfirst := outcome_fillSecrets_token (q := ⟨"vault:web.id", .secret "web" ["id"]⟩) (by rfl) rfl
    (secretAt_secretItem r.text) (Ledger.start (sampleInventory (.int 1)))
  have hdocument : secretRun.document = moduleDocument (.str "vault:web.id") := rfl
  rw [hdocument, Value.outcome_resolve_of_secrets hfirst (hagain _)]
  exact Ledger.outcome_resolve_token hroot hparse htarget rfl (Ledger.nextVmid_sampleInventory _)

theorem exists_site_of_fetchSecrets [DepthLimits]
    {settings : Settings} {site : Site} {secrets : Option (List Value)}
    (h : (outcome settings.fetchSecrets site).1 = .ok secrets) :
    ∃ mid, outcome settings.fetchSecrets site = (.ok secrets, mid) ∧ site.Keeps mid :=
  ⟨(outcome settings.fetchSecrets site).2, Prod.ext h rfl, Settings.leavesFiles_fetchSecrets _ _⟩

/-- A run with such a secret comes to its end, and all that is bound then is the secret. -/
theorem exists_completes_secretRun [DepthLimits]
    (hread : (sampleSite text).read "inventory.json" = .ok text)
    (hload : Inventory.ofText "inventory.json" text = .ok (sampleInventory (.int 1)))
    (hitems : Vault.itemsOf (Text.strip items) = .ok [secretItem r.text])
    (hparse : Reference.parse? r.text = some r)
    (htarget : r.target = .machine .vm label) :
    ∃ after, Completes .reserve secretRun (vaultSite text items) after ∧
      ∀ bound number, ReservedKind.vmid.Binds "inventory.json" after bound number ↔
        bound = r.text ∧ number = 100 := by
  have hsettings : secretRun.settings = openSettings := rfl
  have hfetched : (outcome secretRun.settings.fetchSecrets (vaultSite text items)).1 =
      .ok (some [secretItem r.text]) := by
    rw [hsettings]
    exact fetchSecrets_vaultSite hitems
  have hfilled : withSecrets (some [secretItem r.text]) (sampleInventory (.int 1)).toValue =
      .ok (sampleInventory (.int 1)).toValue := by
    rfl
  obtain ⟨mid, hsecrets, hkeeps⟩ := exists_site_of_fetchSecrets hfetched
  have hread' : (vaultSite text items).read secretRun.file = .ok text := hread
  have hinit : ending (init .reserve) secretRun (vaultSite text items) =
      ending fetch (secretRun.withNumber (Ledger.numberLedger r.text)) mid :=
    ending_init_sample hread' hload hsecrets hfilled (DepthLimits.le_walking (by decide))
      (outcome_resolve_secretRun hparse htarget)
  obtain ⟨after, hcompletes⟩ := completes_sample hinit
    (fun journal c _ => by rw [hkeeps.outside]; rfl)
    fun before hbefore => Ledger.exists_commit_numberLedger r.text
      ((hkeeps.trans hbefore).read _ ▸ hread) hload (by rw [(hkeeps.trans hbefore).outside]; rfl)
  refine ⟨after, hcompletes, ?_⟩
  have hloaded : (outcome (Inventory.load secretRun.file) (vaultSite text items)).1 =
      .ok (sampleInventory (.int 1)) := by
    simp only [Inventory.load, outcome_bind, outcome_readFile, hread', outcome_ofExcept]
    exact hload
  have hdocument : (sampleInventory (.int 1)).document >>= withSecrets (some [secretItem r.text]) =
      .ok (sampleInventory (.int 1)).toValue := by
    rw [document_sampleInventory]
    exact hfilled
  obtain ⟨before, next, hbefore, hcommit⟩ := hcompletes.committed_of_resolved hloaded hfetched
    hdocument (outcome_resolve_secretRun hparse htarget)
  exact Ledger.binds_numberLedger r.text (hbefore.read _ ▸ hread) hload hcommit

end Sample

/-- The items of a vault with a token for one machine. -/
def webItems : String := "[\x7b\"name\":\"web\",\"id\":\"vm:id:web\"\x7d]"

/-- The items of a vault with a token for another machine. -/
def dbItems : String := "[\x7b\"name\":\"web\",\"id\":\"vm:id:db\"\x7d]"

theorem itemsOf_webItems :
    Vault.itemsOf (Text.strip webItems) = .ok [secretItem "vm:id:web"] := by
  have hstrip : Text.strip webItems = webItems := by decide +kernel
  have hchars : webItems.toList = ['[', '\x7b', '"', 'n', 'a', 'm', 'e', '"', ':', '"', 'w', 'e', 'b',
      '"', ',', '"', 'i', 'd', '"', ':', '"', 'v', 'm', ':', 'i', 'd', ':', 'w', 'e', 'b', '"', '\x7d',
      ']'] := by decide
  have hread : Json.read webItems = .ok (.list [secretItem "vm:id:web"]) := by
    rw [Json.read, Json.readWithin, hchars]
    rfl
  rw [hstrip, Vault.itemsOf, hread]

theorem itemsOf_dbItems :
    Vault.itemsOf (Text.strip dbItems) = .ok [secretItem "vm:id:db"] := by
  have hstrip : Text.strip dbItems = dbItems := by decide +kernel
  have hchars : dbItems.toList = ['[', '\x7b', '"', 'n', 'a', 'm', 'e', '"', ':', '"', 'w', 'e', 'b',
      '"', ',', '"', 'i', 'd', '"', ':', '"', 'v', 'm', ':', 'i', 'd', ':', 'd', 'b', '"', '\x7d',
      ']'] := by decide
  have hread : Json.read dbItems = .ok (.list [secretItem "vm:id:db"]) := by
    rw [Json.read, Json.readWithin, hchars]
    rfl
  rw [hstrip, Vault.itemsOf, hread]

/-- Two runs of one manifest on one file, with one item in the vault that is a token for a machine
in either run, and not for the same machine. -/
theorem exists_secretRuns :
    ∃ text after after', (sampleSite text).read "inventory.json" = .ok text ∧
      Completes .reserve secretRun (vaultSite text webItems) after ∧
      Completes .reserve secretRun (vaultSite text dbItems) after' ∧
      ReservedKind.vmid.Binds "inventory.json" after "vm:id:web" (100 : Int) ∧
      ¬ ReservedKind.vmid.Binds "inventory.json" after' "vm:id:web" (100 : Int) := by
  obtain ⟨text, hread, hload⟩ := exists_sampleLoad
  obtain ⟨after, hcompletes, hbinds⟩ := exists_completes_secretRun
    (r := ⟨"vm:id:web", .machine .vm "web"⟩) hread hload itemsOf_webItems rfl rfl
  obtain ⟨after', hcompletes', hbinds'⟩ := exists_completes_secretRun
    (r := ⟨"vm:id:db", .machine .vm "db"⟩) hread hload itemsOf_dbItems rfl rfl
  refine ⟨text, after, after', hread, hcompletes, hcompletes', (hbinds _ _).mpr ⟨rfl, rfl⟩, ?_⟩
  rw [hbinds']
  decide

/-- The secrets of these runs change the tokens that the file is told. -/
theorem same_text_iff_same_tokens_sample :
    ∃ text after after' inv v v', Completes .reserve secretRun (vaultSite text webItems) after ∧
      Completes .reserve secretRun (vaultSite text dbItems) after' ∧
      Prepared secretRun (vaultSite text webItems) inv v ∧
      Prepared secretRun (vaultSite text dbItems) inv v' ∧
      ¬ Ledger.SameTokens .reserve inv v v' := by
  obtain ⟨text, after, after', -, hcompletes, hcompletes', hbinds, hnot⟩ := exists_secretRuns
  obtain ⟨inv, v, v', hprepared, hprepared', hiff⟩ :=
    same_text_iff_same_tokens hcompletes hcompletes' rfl rfl
  refine ⟨text, after, after', inv, v, v', hcompletes, hcompletes', hprepared, hprepared', ?_⟩
  intro hsame
  have hread : after'.read "inventory.json" = after.read "inventory.json" := hiff.mpr hsame
  exact hnot ((ReservedKind.binds_of_read_eq hread).mpr hbinds)

/-- Two runs of one manifest on one file come to their end, and the file is left with another text
in either of them; in one of them it keeps the secret as the token of a reservation. -/
theorem secret_reaches_file :
    ofDocument (moduleDocument (.str "vault:web.id")) "inventory.json" openSettings =
      .ok secretRun ∧
    ∃ text after after', (sampleSite text).read "inventory.json" = .ok text ∧
      (vaultSite text dbItems).read "inventory.json" =
        (vaultSite text webItems).read "inventory.json" ∧
      Completes .reserve secretRun (vaultSite text webItems) after ∧
      Completes .reserve secretRun (vaultSite text dbItems) after' ∧
      ReservedKind.vmid.Binds "inventory.json" after "vm:id:web" (100 : Int) ∧
      after'.read "inventory.json" ≠ after.read "inventory.json" := by
  obtain ⟨text, after, after', hread, hcompletes, hcompletes', hbinds, hnot⟩ := exists_secretRuns
  exact ⟨ofDocument_sampleRun _ _, text, after, after', hread, rfl, hcompletes, hcompletes', hbinds,
    fun hsame => hnot ((ReservedKind.binds_of_read_eq hsame).mpr hbinds)⟩

end ModuleRun
end Homelab
