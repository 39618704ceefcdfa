import Homelab.Proofs.TemplateBuild.Resolved
import Homelab.Proofs.TemplateBuild.Shared
import Homelab.Proofs.TemplateManifest

/-!
# Template manifests that refer to themselves

A field of a template manifest can refer to another entry of the manifest.  The first step of a
build ends as if the value stood in the field itself, for every field but one: the address of the
build host is looked up on the network that the manifest names before it is resolved.
-/

namespace Homelab
namespace TemplateBuild

open ActOn Value

variable {build build' : TemplateBuild} {site mid : Site} {inventory : Inventory}
  {inventoryDocument : Value} {secrets : Option (List Value)} {e : Failure}

/-! ### Two first steps -/

/-- Two first steps end alike: with the same result on the same site, after the same commands; and
if they succeed, with the same inventory and the same cluster, and with manifests that are the same
but for one entry more. -/
structure EndsAlike (key : String) (v : Value)
    (ends ends' : (Except Failure Unit × TemplateBuild) × Site) : Prop where
  result : ends'.1.1 = ends.1.1
  site : ends'.2 = ends.2
  inventory : ends.1.1 = .ok () → ends'.1.2.inventory = ends.1.2.inventory
  cluster : ends.1.1 = .ok () → ends'.1.2.cluster = ends.1.2.cluster
  document : ends.1.1 = .ok () → Enlarged key v ends.1.2.document ends'.1.2.document
  manifest : ends.1.1 = .ok () →
    TemplateManifest.Enlarged key v ends.1.2.manifest ends'.1.2.manifest

theorem EndsAlike.of_error
    {key : String} {v : Value} {ends ends' : (Except Failure Unit × TemplateBuild) × Site}
    (h : ends.1.1 = .error e)
    (h' : ends'.1.1 = .error e)
    (hsite : ends'.2 = ends.2) :
    EndsAlike key v ends ends' := by
  refine ⟨h'.trans h.symm, hsite, ?_, ?_, ?_, ?_⟩ <;>
  · intro hok
    rw [h] at hok
    cases hok

variable {field key token : String} {v w w' : Value} {a : Scalar}

theorem finish_alike
    (h : Enlarged key v w w')
    (hv : v.references = [])
    (hkey : ∀ names ∈ TemplateManifest.fields, key ∉ names)
    (hinventory : build'.inventory = build.inventory)
    (verified : Bool) (inventoryDocument : Value) (mid : Site) :
    EndsAlike key v (ending (finish verified inventoryDocument w) build mid)
      (ending (finish verified inventoryDocument w') build' mid) := by
  have hresolved : w'.ensureResolved = w.ensureResolved := by
    rw [ensureResolved, ensureResolved, unresolved, unresolved, h.references_eq hv]
  have hmanifest := TemplateManifest.ofValue_enlarged h hkey
  simp only [finish, ending_bind, ending_ofExcept, ending_modify, ending_lift, hresolved]
  cases w.ensureResolved with
  | error e => exact .of_error rfl rfl rfl
  | ok _ =>
      simp only
      generalize TemplateManifest.ofValue w = read at hmanifest ⊢
      generalize TemplateManifest.ofValue w' = read' at hmanifest ⊢
      cases hmanifest with
      | failed e => exact .of_error rfl rfl rfl
      | given hm =>
          simp only
          cases clusterConfig inventoryDocument with
          | error e => exact .of_error rfl rfl rfl
          | ok config =>
              simp only
              rcases outcome (Cluster.connect config verified) mid with ⟨e | cluster, after⟩
              · exact .of_error rfl rfl rfl
              · exact ⟨rfl, rfl, fun _ => hinventory, fun _ => rfl, fun _ => h, fun _ => hm⟩

/-- Two builds that differ in one field of the manifest: in the second one its value stands under a
key of its own, and a token for it in the field. -/
structure Detour (field key token : String) (a : Scalar) (build build' : TemplateBuild) : Prop where
  document : SetAside field key token (.scalar a) build.document build'.document
  plain : (Value.scalar a).references = []
  given : a ≠ .null
  token : ∃ r, Reference.parse? token = some r ∧ r.target = .config [key]
  unknown : ∀ names ∈ TemplateManifest.fields, key ∉ names
  file : build'.file = build.file
  settings : build'.settings = build.settings
  host : build'.host = build.host

/-- No token looks at the field or at its new key where the values of the document itself are filled
in. -/
def Unseen [DepthLimits] (field key : String) (build : TemplateBuild) (site : Site) : Prop :=
  ∀ w, build.Gathers site w →
    ∀ r ∈ w.references, r.target ≠ .config [field] ∧ r.target ≠ .config [key]

/-- What the lookups make of the two manifests. -/
theorem Detour.looked_alike [DepthLimits]
    (h : Detour field key token a build build')
    (hunseen : Unseen field key build site)
    (hsupplied : outcome build.supplied site = (.ok (inventory, inventoryDocument, secrets), mid)) :
    Alike (Enlarged key (.scalar a))
      (resolve ⟨some inventoryDocument, secrets, none, none⟩ build.document)
      (resolve ⟨some inventoryDocument, secrets, none, none⟩ build'.document) := by
  obtain ⟨r, htoken, htarget⟩ := h.token
  rw [lookups_eq, lookups_eq]
  refine (h.document.gathered h.plain htoken htarget _ _).bind fun w w' hw hmoved => ?_
  exact hmoved.fillConfig h.plain h.given htoken htarget
    (hunseen w ⟨_, _, _, _, hsupplied, hw⟩)

/-- The two manifests are resolved alike, if no address is asked for or both name one network. -/
theorem Detour.resolved_alike [DepthLimits]
    (h : Detour field key token a build build')
    (hunseen : Unseen field key build site)
    (hnetwork : build.AsksForAddress site → build'.manifest.network = build.manifest.network)
    (hsupplied : outcome build.supplied site = (.ok (inventory, inventoryDocument, secrets), mid)) :
    let ends := outcome (build.resolved inventory inventoryDocument secrets) mid
    let ends' := outcome (build'.resolved inventory inventoryDocument secrets) mid
    Alike (Enlarged key (.scalar a)) ends.1 ends'.1 ∧ ends'.2 = ends.2 := by
  dsimp only
  by_cases hlevels : build.document.levels ≤ DepthLimits.walking
  · have hlevels' := h.document.levels_le_iff.mpr hlevels
    have hlooked := h.looked_alike hunseen hsupplied
    generalize hone : (resolve ⟨some inventoryDocument, secrets, none, none⟩ build.document :
      Except Failure Value) = looked at hlooked
    generalize htwo : (resolve ⟨some inventoryDocument, secrets, none, none⟩ build'.document :
      Except Failure Value) = looked' at hlooked
    cases hlooked with
    | failed e =>
        rw [outcome_resolved_error hlevels hone, outcome_resolved_error hlevels' htwo]
        exact ⟨.failed e, rfl⟩
    | @given looked looked' henlarged =>
        have hreferences := henlarged.references_eq h.plain
        by_cases hserved : ∃ r ∈ looked.references, r.target = .hostAddress
        · have hsource : build'.source inventory = build.source inventory := by
            rw [source, source, h.host,
              hnetwork (asksForAddress_of_looked hlevels hsupplied hone hserved)]
          rw [outcome_resolved_asked hlevels hone hserved,
            outcome_resolved_asked hlevels' htwo (hreferences ▸ hserved), hsource]
          rcases outcome (HostAddress.lookUp (build.source inventory)) mid with ⟨e | address, after⟩
          · exact ⟨.failed e, rfl⟩
          · exact ⟨.given (henlarged.rewrite (rewrite_text_eq_self h.plain)), rfl⟩
        · have hnone : ∀ r ∈ looked.references, r.target ≠ .hostAddress := by
            simpa using hserved
          rw [outcome_resolved_unasked hlevels hone hnone,
            outcome_resolved_unasked hlevels' htwo (hreferences ▸ hnone)]
          exact ⟨.given henlarged, rfl⟩
  · have hlevels' := mt h.document.levels_le_iff.mp hlevels
    rw [outcome_resolved_deep hlevels, outcome_resolved_deep hlevels']
    exact ⟨.failed _, rfl⟩

/-- Two first steps end alike with the value in its field and aside, if no address is asked for or
both manifests name one network. -/
theorem Detour.init_alike [DepthLimits]
    (h : Detour field key token a build build')
    (hunseen : Unseen field key build site)
    (hnetwork : build.AsksForAddress site → build'.manifest.network = build.manifest.network) :
    EndsAlike key (.scalar a) (ending init build site) (ending init build' site) := by
  have hsame : outcome build'.supplied site = outcome build.supplied site := by
    rw [supplied, supplied, h.file, h.settings]
  rw [init_eq, ending_supplying, ending_supplying, hsame]
  rcases hsupplied : outcome build.supplied site with
    ⟨e | ⟨inventory, inventoryDocument, secrets⟩, mid⟩
  · exact .of_error rfl rfl rfl
  · obtain ⟨hresolved, hsite⟩ := h.resolved_alike hunseen hnetwork hsupplied
    simp only [ending_bind, ending_lift]
    have hbuild : ∀ (build : TemplateBuild), { build with inventory := some inventory }.resolved
        inventory inventoryDocument secrets =
          build.resolved inventory inventoryDocument secrets := fun _ => rfl
    rw [hbuild, hbuild, h.settings]
    rcases hone : outcome (build.resolved inventory inventoryDocument secrets) mid with ⟨x, after⟩
    rcases htwo : outcome (build'.resolved inventory inventoryDocument secrets) mid with
      ⟨x', after'⟩
    rw [hone, htwo] at hresolved hsite
    obtain rfl : after' = after := hsite
    cases hresolved with
    | failed e => exact .of_error rfl rfl rfl
    | given henlarged =>
        simp only
        exact finish_alike henlarged h.plain h.unknown (by rfl) _ _ _

/-! ### The network of the manifest -/

/-- If the address is looked up by the token, and no network goes by that name, the first step fails
for want of a network, as it does not with another name. -/
theorem Detour.init_of_asked [DepthLimits]
    (h : Detour field key token a build build')
    (hunseen : Unseen field key build site)
    (hasks : build.AsksForAddress site)
    (htoken : build'.manifest.network = token)
    (hother : build.manifest.network ≠ token)
    (hnone : ∀ inventory, (outcome (Inventory.load build.file) site).1 = .ok inventory →
      inventory.network? token = none) :
    (ending init build' site).1.1 = .error (.networkNotFound token) ∧
      (ending init build site).1.1 ≠ .error (.networkNotFound token) := by
  obtain ⟨hlevels, w, looked, ⟨inventory, inventoryDocument, secrets, mid, hsupplied, hw⟩, hconfig,
    hserved⟩ := hasks
  have hlooked : resolve ⟨some inventoryDocument, secrets, none, none⟩ build.document =
      (.ok looked : Except Failure Value) := by
    rw [lookups_eq, hw]
    exact hconfig
  have hsupplied' : outcome build'.supplied site =
      (.ok (inventory, inventoryDocument, secrets), mid) := by
    rw [supplied, h.file, h.settings, ← supplied, hsupplied]
  have halike := h.looked_alike hunseen hsupplied
  rw [hlooked] at halike
  generalize htwo : (resolve ⟨some inventoryDocument, secrets, none, none⟩ build'.document :
    Except Failure Value) = looked' at halike
  cases halike with
  | @given _ looked' henlarged =>
      have hserved' : ∃ r ∈ looked'.references, r.target = .hostAddress := by
        rwa [henlarged.references_eq h.plain]
      constructor
      · have hlookUp : outcome (HostAddress.lookUp (build'.source inventory)) mid =
            (.error (.networkNotFound token), mid) := by
          rw [source, htoken, HostAddress.lookUp, hnone _ (load_of_supplied hsupplied)]
          rfl
        rw [ending_init_of_asked (h.document.levels_le_iff.mpr hlevels) hsupplied' htwo hserved',
          hlookUp]
      · rw [ending_init_of_asked hlevels hsupplied hlooked hserved]
        rcases hlookUp : outcome (HostAddress.lookUp (build.source inventory)) mid with
          ⟨e | address, after⟩
        · intro hfails
          obtain rfl := Except.error.inj hfails
          exact hother (HostAddress.network_of_lookUp hlookUp).symm
        · exact finish_ne_networkNotFound _ _ _ _ _ _

/-- A field of a manifest refers to another entry instead of holding its text itself, and nothing
else looks at either.  Then the first step of a build ends alike, unless the field is the network
and the address of the build host is asked for: that is looked up by the token, so that the first
step fails if no network goes by it. -/
theorem init_alike_unless_network_asked [DepthLimits]
    {document document' : Value} {file : String} {settings : Settings} {r : Reference}
    (hbuild : ofDocument document file settings = .ok build)
    (hfield : field ∈ TemplateManifest.textFields)
    (hkey : ∀ names ∈ TemplateManifest.fields, key ∉ names)
    (htoken : Reference.parse? token = some r)
    (htarget : r.target = .config [key])
    (hmoved : SetAside field key token v document document')
    (hplain : v.references = [])
    (site : Site)
    (hunseen : Unseen field key build site) :
    ∃ build', ofDocument document' file settings = .ok build' ∧
      let ends := ending init build site
      let ends' := ending init build' site
      (field ≠ "network" ∨ ¬ build.AsksForAddress site → EndsAlike key v ends ends') ∧
        (field = "network" →
          EndsAlike key v
            (ending init { build with manifest := { build.manifest with network := token } } site)
            ends' ∧
          (build.AsksForAddress site → build.manifest.network ≠ token →
            (∀ inventory, (outcome (Inventory.load file) site).1 = .ok inventory →
              inventory.network? token = none) →
            ends'.1.1 = .error (.networkNotFound token) ∧
              ends.1.1 ≠ .error (.networkNotFound token))) := by
  obtain ⟨m, hm, rfl⟩ := exists_manifest_of_ofDocument hbuild
  obtain ⟨es, rfl, hfound⟩ := hmoved.exists_find?
  obtain ⟨a, rfl, hgiven⟩ := TemplateManifest.exists_scalar_of_textFields hm hfield hfound
  obtain ⟨extra, hm'⟩ := TemplateManifest.exists_ofValue_setAside hmoved hfield hkey hm
  have hdetour : ∀ network : String, Detour field key token a
      ⟨.map es, { m with network := network }, file, settings, m.host.map BuildHost.host,
        none, none, none⟩
      ⟨document', { m.withToken field token with extra := extra }, file, settings,
        m.host.map BuildHost.host, none, none, none⟩ :=
    fun network => ⟨hmoved, hplain, hgiven, ⟨r, htoken, htarget⟩, hkey, rfl, rfl, rfl⟩
  refine ⟨_, by rw [ofDocument, hm']; rfl, ?_, fun hfield' => ⟨?_, ?_⟩⟩
  · intro hsafe
    refine (hdetour m.network).init_alike hunseen fun hasks => ?_
    exact if_neg (hsafe.resolve_right fun hnot => hnot hasks)
  · exact (hdetour token).init_alike hunseen fun _ => if_pos hfield'
  · intro hasks hother hnone
    exact (hdetour m.network).init_of_asked hunseen hasks (if_pos hfield') hother hnone

/-! ### A manifest that refers to the name of its network -/

/-- A manifest with one variable for the address of the build host. -/
def servedTemplate (network address : String) (more : Entries) : Value :=
  .map ([(.str "iso_file", .str "a:b"), (.str "iso_url", .str "u"), (.str "name", .str "web")] ++
    (.str "network", .str network) ::
      ([(.str "packer_template_url", .str "r"),
        (.str "variables", .map [(.str "address", .str address)]), (.str "version", .str "1")] ++
          more))

/-- The build of this manifest. -/
def servedBuild : TemplateBuild :=
  ⟨servedTemplate "lan" "host:ip" [],
    ⟨"web", "1", "u", "a:b", "r", "lan", [("address", "host:ip")], none, none, []⟩,
    "inventory.json", ModuleRun.closedSettings, none, none, none, none⟩

/-- A site whose host has an address on the network of the small inventory. -/
def servedSite (text : String) : Site :=
  { sampleSite text with
    outside := { (sampleSite text).outside with command := fun _ _ => .ok "inet 10.0.0.5/24" } }

theorem ofDocument_servedBuild :
    ofDocument (servedTemplate "lan" "host:ip" []) "inventory.json" ModuleRun.closedSettings =
      .ok servedBuild := rfl

theorem parse?_sampleReference :
    Reference.parse? "config:net" = some ⟨"config:net", .config ["net"]⟩ := by decide

theorem setAside_servedTemplate :
    SetAside "network" "net" "config:net" (.str "lan") (servedTemplate "lan" "host:ip" [])
      (servedTemplate "config:net" "host:ip" [(.str "net", .str "lan")]) := by
  refine .intro ⟨?_, by decide⟩ (by decide) ⟨_, [], (List.append_nil _).symm, by simp⟩
  simp

theorem references_servedTemplate :
    (servedTemplate "lan" "host:ip" []).references = [⟨"host:ip", .hostAddress⟩] ∧
      (servedTemplate "lan" "10.0.0.5" []).references = [] := by
  have hfind := findAll_sampleTexts
  have hparse : Reference.parse? "host:ip" = some ⟨"host:ip", .hostAddress⟩ := by decide
  have hhost : Reference.findAll "host:ip" = [⟨"host:ip", .hostAddress⟩] := by
    rw [Reference.findAll, hparse]
  simp [servedTemplate, Value.references, Value.entryReferences, hfind "a:b", hfind "u",
    hfind "web", hfind "lan", hfind "r", hfind "1", hfind "10.0.0.5", hhost]

theorem addressed_servedTemplate :
    TokenTable.rewrite (addressed (.ok "10.0.0.5")) (servedTemplate "lan" "host:ip" []) =
      servedTemplate "lan" "10.0.0.5" [] := by
  have hself : ∀ s ∈ ["web", "db", "a:b", "u", "lan", "r", "1", "10.0.0.5"],
      addressed (.ok "10.0.0.5") s = .str s := by
    refine fun s hs => TokenTable.text_eq_self fun r hr => ?_
    rw [findAll_sampleTexts s hs] at hr
    cases hr
  have hhost : addressed (.ok "10.0.0.5") "host:ip" = .str "10.0.0.5" := rfl
  simp [servedTemplate, TokenTable.rewrite, TokenTable.rewriteEntries, hself "a:b", hself "u",
    hself "web", hself "lan", hself "r", hself "1", hhost]

section

variable {text : String}

/-- Up to the address of the build host the sample manifest is left alone. -/
theorem looked_servedBuild
    (inventory : Option Value) (secrets : Option (List Value)) :
    gathered inventory secrets servedBuild.document = .ok servedBuild.document ∧
      (fillConfig servedBuild.document : Except Failure Value) = .ok servedBuild.document :=
  looked_of_hostAddress (by simp [servedBuild, references_servedTemplate.1]) inventory secrets

theorem unseen_servedBuild [DepthLimits] :
    Unseen "network" "net" servedBuild (servedSite text) := by
  rintro w ⟨inventory, inventoryDocument, secrets, mid, -, hw⟩ r hr
  obtain rfl := Except.ok.inj ((looked_servedBuild _ _).1.symm.trans hw)
  simp only [servedBuild, references_servedTemplate.1, List.mem_singleton] at hr
  subst hr
  exact ⟨nofun, nofun⟩

variable [DepthLimits] (hread : (servedSite text).read "inventory.json" = .ok text)
  (hload : Inventory.ofText "inventory.json" text = .ok (sampleInventory (.int 1)))
include hread hload

theorem load_servedSite :
    outcome (Inventory.load "inventory.json") (servedSite text) =
      (.ok (sampleInventory (.int 1)), servedSite text) := by
  simp [Inventory.load, hread, hload]

theorem supplied_servedBuild :
    outcome servedBuild.supplied (servedSite text) =
      (.ok (sampleInventory (.int 1), (sampleInventory (.int 1)).toValue, none),
        ModuleRun.warned (servedSite text)) := by
  have hload' : outcome (Inventory.load servedBuild.file) (servedSite text) =
      (.ok (sampleInventory (.int 1)), servedSite text) := load_servedSite hread hload
  have hsecrets : outcome servedBuild.settings.fetchSecrets (servedSite text) =
      (.ok none, ModuleRun.warned (servedSite text)) := rfl
  have hfilled : (sampleInventory (.int 1)).document >>=
      Value.fillWith none Value.fillSecrets = .ok (sampleInventory (.int 1)).toValue := by
    rw [ModuleRun.document_sampleInventory]
    rfl
  simp only [supplied, outcome_bind, hload', hsecrets, hfilled, outcome_ofExcept, outcome_pure]

theorem asksForAddress_servedBuild :
    servedBuild.AsksForAddress (servedSite text) := by
  obtain ⟨hgathered, hconfig⟩ := looked_servedBuild (some (sampleInventory (.int 1)).toValue) none
  refine ⟨?_, _, _, ⟨_, _, _, _, supplied_servedBuild hread hload, hgathered⟩, hconfig, ?_⟩
  · refine DepthLimits.le_walking ?_
    simp [servedBuild, servedTemplate, Value.levels, Value.entryLevels]
  · simp [servedBuild, references_servedTemplate.1]

theorem network?_servedSite
    (inventory : Inventory)
    (h : (outcome (Inventory.load "inventory.json") (servedSite text)).1 = .ok inventory) :
    inventory.network? "config:net" = none := by
  rw [load_servedSite hread hload] at h
  obtain rfl := Except.ok.inj h
  rfl

omit [DepthLimits] hread hload in
theorem lookUp_servedSite :
    outcome (HostAddress.lookUp (servedBuild.source (sampleInventory (.int 1))))
        (ModuleRun.warned (servedSite text)) =
      (.ok "10.0.0.5", (ModuleRun.warned (servedSite text)).record
        (.command (HostAddress.listInterfaces none))) := by
  have hfound : HostAddress.findIn "10.0.0.0/24" "inet 10.0.0.5/24" = .ok (some "10.0.0.5") := rfl
  have hnetwork : (sampleInventory (.int 1)).network? "lan" =
      some ⟨"lan", "10.0.0.0/24", "10.0.0.1", "10.0.0.1",
        some ⟨some "10.0.0.2", some "10.0.0.9", []⟩, none, none, none, []⟩ := rfl
  have hcommand : (ModuleRun.warned (servedSite text)).outside.command
      (ModuleRun.warned (servedSite text)).journal (HostAddress.listInterfaces none) =
        .ok "inet 10.0.0.5/24" := rfl
  simp only [HostAddress.lookUp, source, servedBuild, hnetwork, outcome_bind,
    Act.outcome_runCommand, hcommand, outcome_ofExcept, hfound, outcome_pure]

theorem resolved_servedBuild :
    outcome
        (servedBuild.resolved (sampleInventory (.int 1)) (sampleInventory (.int 1)).toValue none)
        (ModuleRun.warned (servedSite text)) =
      (.ok (servedTemplate "lan" "10.0.0.5" []), (ModuleRun.warned (servedSite text)).record
        (.command (HostAddress.listInterfaces none))) := by
  obtain ⟨hlevels, -⟩ := asksForAddress_servedBuild hread hload
  obtain ⟨hgathered, hconfig⟩ := looked_servedBuild (some (sampleInventory (.int 1)).toValue) none
  have hlooked : (resolve ⟨some (sampleInventory (.int 1)).toValue, none, none, none⟩
      servedBuild.document : Except Failure Value) = .ok servedBuild.document := by
    rw [lookups_eq, hgathered]
    exact hconfig
  have hserved : ∃ r ∈ servedBuild.document.references, r.target = .hostAddress := by
    simp [servedBuild, references_servedTemplate.1]
  rw [outcome_resolved_asked hlevels hlooked hserved, lookUp_servedSite]
  simp only [servedBuild, addressed_servedTemplate]

/-- With the name of the network in its field the first step succeeds. -/
theorem init_servedBuild :
    (ending init servedBuild (servedSite text)).1.1 = .ok () := by
  have hmanifest : TemplateManifest.ofValue (servedTemplate "lan" "10.0.0.5" []) =
      .ok ⟨"web", "1", "u", "a:b", "r", "lan", [("address", "10.0.0.5")], none, none, []⟩ := rfl
  have hcluster : Cluster.ofConfig (sampleInventory (.int 1)).cluster
      servedBuild.settings.verified = .ok sampleCluster := rfl
  have hload' : outcome (Inventory.load servedBuild.file) (servedSite text) =
      (.ok (sampleInventory (.int 1)), servedSite text) := load_servedSite hread hload
  obtain ⟨after, hends⟩ := ending_init_ok hload' (ModuleRun.fetchSecrets_closedSettings _)
    ModuleRun.document_sampleInventory (resolved_servedBuild hread hload)
    (ensureResolved_of_no_references references_servedTemplate.2) hmanifest rfl hcluster
  rw [hends]

end

/-- The name of the network is set aside in the sample manifest. -/
theorem init_alike_unless_network_asked_sample :
    ∃ text build', ofDocument (servedTemplate "config:net" "host:ip" [(.str "net", .str "lan")])
        "inventory.json" ModuleRun.closedSettings = .ok build' ∧
      servedBuild.AsksForAddress (servedSite text) ∧
      (ending init build' (servedSite text)).1.1 = .error (.networkNotFound "config:net") ∧
      (ending init servedBuild (servedSite text)).1.1 ≠ .error (.networkNotFound "config:net") := by
  obtain ⟨text, hread, hload⟩ := exists_sampleLoad
  have hasks := asksForAddress_servedBuild hread hload
  obtain ⟨build', hbuild', -, hnetwork⟩ := init_alike_unless_network_asked ofDocument_servedBuild
    (by decide) (by decide) parse?_sampleReference rfl setAside_servedTemplate
    (by simp [Value.references, findAll_sampleTexts "lan"]) (servedSite text) unseen_servedBuild
  obtain ⟨-, hfails⟩ := hnetwork rfl
  exact ⟨text, build', hbuild', hasks,
    hfails hasks (by decide) (network?_servedSite hread hload)⟩

/-- The build of the sample manifest with the name of its network aside. -/
def referringBuild : TemplateBuild :=
  ⟨servedTemplate "config:net" "host:ip" [(.str "net", .str "lan")],
    ⟨"web", "1", "u", "a:b", "r", "config:net", [("address", "host:ip")], none, none,
      [("net", .str "lan")]⟩,
    "inventory.json", ModuleRun.closedSettings, none, none, none, none⟩

theorem detour_servedBuild :
    Detour "network" "net" "config:net" (.str "lan") servedBuild referringBuild :=
  ⟨setAside_servedTemplate, by simp [Value.references, findAll_sampleTexts "lan"], by simp,
    ⟨_, parse?_sampleReference, rfl⟩, by decide, rfl, rfl, rfl⟩

/-- The first step succeeds with the name of the network in its field, and fails with that name
under a key of its own and a token for it in the field. -/
theorem network_aside_not_found :
    ∃ text, (servedSite text).read "inventory.json" = .ok text ∧
      Inventory.ofText "inventory.json" text = .ok (sampleInventory (.int 1)) ∧
      ofDocument (servedTemplate "lan" "host:ip" []) "inventory.json" ModuleRun.closedSettings =
        .ok servedBuild ∧
      ofDocument (servedTemplate "config:net" "host:ip" [(.str "net", .str "lan")])
        "inventory.json" ModuleRun.closedSettings = .ok referringBuild ∧
      Unseen "network" "net" servedBuild (servedSite text) ∧
      (ending init servedBuild (servedSite text)).1.1 = .ok () ∧
      (ending init referringBuild (servedSite text)).1.1 =
        .error (.networkNotFound "config:net") := by
  obtain ⟨text, hread, hload⟩ := exists_sampleLoad
  have hfails := detour_servedBuild.init_of_asked unseen_servedBuild
    (asksForAddress_servedBuild hread hload) rfl (by decide) (network?_servedSite hread hload)
  exact ⟨text, hread, hload, ofDocument_servedBuild, rfl, unseen_servedBuild,
    init_servedBuild hread hload, hfails.1⟩

end TemplateBuild
end Homelab
