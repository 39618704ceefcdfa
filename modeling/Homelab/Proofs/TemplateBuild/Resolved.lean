import Homelab.Proofs.Resolution.HostAddress
import Homelab.Proofs.Resolution.SetAside
import Homelab.Proofs.TemplateBuild

/-!
# How the first step resolves its manifest

The first step of a build gets the inventory and the secrets together, looks values up for the
tokens of the manifest, and asks for the address of the build host if a token for it is left.  That
address is looked up on the network that the manifest names before it is resolved, and only there
can a network be missing.
-/

namespace Homelab

namespace HostAddress

/-- The first answer of a source is that of the build host, and is remembered. -/
theorem ending_provide
    (source : Source) (site : Site) :
    Meaning.plain.withState.ending (provide source) (none, site) =
      (Meaning.plain.ending (lookUp source) site).map fun r => (r.1, (some r.1, r.2)) := by
  have hset : ∀ (known : Option String) (st : Option String × Site),
      Meaning.plain.withState.ending (set known : StateT (Option String) Act PUnit) st =
        .ok (⟨⟩, (known, st.2)) := fun known st => Meaning.plain.withState_set st known
  rw [provide, Meaning.ending_bind, Meaning.withState_get]
  simp only [Except.bind, Meaning.ending_bind, Meaning.withState_lift, hset, Meaning.ending_pure]
  cases Meaning.plain.ending (lookUp source) site <;> rfl

/-- Only the network that the address is looked up on can be missing. -/
theorem network_of_lookUp
    {source : Source} {site after : Site} {name : String}
    (h : outcome (lookUp source) site = (.error (.networkNotFound name), after)) :
    name = source.network := by
  unfold lookUp at h
  split at h
  · exact (Failure.networkNotFound.inj (Except.error.inj (Prod.mk.inj h).1)).symm
  · rename_i n hfound
    simp only [outcome_bind, Act.outcome_runCommand] at h
    cases hcommand : site.outside.command site.journal (listInterfaces source.host) with
    | error fault =>
        rw [hcommand] at h
        cases fault <;> cases h
    | ok output =>
        simp only [hcommand, outcome_ofExcept, findIn] at h
        cases hsubnet : Interface.read? n.subnet with
        | none =>
            rw [hsubnet] at h
            cases h
        | some i =>
            simp only [hsubnet] at h
            cases hfind : (find? i output).map Address.text with
            | none =>
                rw [hfind] at h
                cases h
            | some address =>
                rw [hfind] at h
                cases h

end HostAddress

/-! ### Failures for want of a network -/

namespace Endpoint

theorem port_ne_networkNotFound
    (digits : List Char) (name : String) :
    port digits ≠ .error (.networkNotFound name) := by
  unfold port
  split
  · rintro ⟨⟩
  · split
    · rintro ⟨⟩
    · simp only
      split <;> rintro ⟨⟩

/-- No network is looked for in an endpoint. -/
theorem read_ne_networkNotFound
    (s name : String) :
    read s ≠ .error (.networkNotFound name) := by
  unfold read
  generalize (if hasScheme s.toList then s.toList else "https://".toList ++ s.toList) = address
  simp only
  split
  · rintro ⟨⟩
  · split
    · rintro ⟨⟩
    · split
      · rintro ⟨⟩
      · rintro ⟨⟩
      · exact Meaning.bind_ne_error (port_ne_networkNotFound _ _) fun _ => by
          rintro ⟨⟩

end Endpoint

namespace Cluster

theorem ofConfig_ne_networkNotFound
    (c : ClusterConfig) (verified : Bool) (name : String) :
    ofConfig c verified ≠ .error (.networkNotFound name) := by
  refine Meaning.bind_ne_error (Endpoint.read_ne_networkNotFound _ _) fun r =>
    Meaning.bind_ne_error ?_ fun _ => by rintro ⟨⟩
  unfold splitUser
  split <;> rintro ⟨⟩

theorem connect_ne_networkNotFound
    (c : ClusterConfig) (verified : Bool) (name : String) (site : Site) :
    (outcome (connect c verified) site).1 ≠ .error (.networkNotFound name) := by
  have h := ofConfig_ne_networkNotFound c verified name
  simp only [connect, outcome_bind, outcome_ofExcept]
  cases hcluster : ofConfig c verified with
  | error e =>
      rw [hcluster] at h
      exact fun hfails => h (congrArg Except.error (Except.error.inj hfails))
  | ok cluster => rintro ⟨⟩

end Cluster

theorem Value.ensureResolved_ne_networkNotFound
    (v : Value) (name : String) :
    v.ensureResolved ≠ .error (.networkNotFound name) := by
  unfold Value.ensureResolved
  split <;> rintro ⟨⟩

theorem TemplateManifest.ofValue_ne_networkNotFound
    (v : Value) (name : String) :
    TemplateManifest.ofValue v ≠ .error (.networkNotFound name) := by
  unfold TemplateManifest.ofValue
  split <;> rintro ⟨⟩

namespace TemplateBuild

open ActOn Value

/-! ### The first step in its parts -/

/-- What the first step gets together before it looks at the manifest: the inventory, the document
of the inventory filled with secrets, and the secrets. -/
def supplied [DepthLimits] (build : TemplateBuild) :
    Act (Inventory × Value × Option (List Value)) := do
  let inventory ← Inventory.load build.file
  let secrets ← build.settings.fetchSecrets
  let document ← Act.ofExcept (inventory.document >>= Value.fillWith secrets Value.fillSecrets)
  return (inventory, document, secrets)

/-- The beginning of the first step, and what follows on it. -/
def supplying [DepthLimits]
    (rest : TemplateBuild → Inventory → Value → Option (List Value) → ActOn TemplateBuild Unit) :
    ActOn TemplateBuild Unit := do
  let inventory ← ActOn.lift (Inventory.load (← get).file)
  modify fun build => { build with inventory := some inventory }
  let build ← get
  let secrets ← ActOn.lift build.settings.fetchSecrets
  let document ← ActOn.ofExcept
    (inventory.document >>= Value.fillWith secrets Value.fillSecrets)
  rest build inventory document secrets

/-- The end of the first step, once the manifest is resolved. -/
def finish (verified : Bool) (inventoryDocument document : Value) : ActOn TemplateBuild Unit := do
  ActOn.ofExcept document.ensureResolved
  modify fun build => { build with document := document }
  let manifest ← ActOn.ofExcept (TemplateManifest.ofValue document)
  modify fun build => { build with manifest := manifest }
  let config ← ActOn.ofExcept (clusterConfig inventoryDocument)
  let cluster ← ActOn.lift (Cluster.connect config verified)
  modify fun build => { build with cluster := some cluster }

theorem init_eq [DepthLimits] :
    init = supplying fun build inventory document secrets =>
      ActOn.lift (build.resolved inventory document secrets) >>=
        finish build.settings.verified document := rfl

variable {build : TemplateBuild} {site mid : Site} {inventory : Inventory}
  {inventoryDocument looked : Value} {secrets : Option (List Value)} {e : Failure}

theorem ending_supplying [DepthLimits]
    (rest : TemplateBuild → Inventory → Value → Option (List Value) → ActOn TemplateBuild Unit)
    (build : TemplateBuild) (site : Site) :
    ending (supplying rest) build site =
      match outcome build.supplied site with
      | (.error e, mid) =>
          ((.error e,
            match (outcome (Inventory.load build.file) site).1 with
            | .ok inventory => { build with inventory := some inventory }
            | .error _ => build), mid)
      | (.ok (inventory, document, secrets), mid) =>
          ending (rest { build with inventory := some inventory } inventory document secrets)
            { build with inventory := some inventory } mid := by
  simp only [supplied, supplying, outcome_bind, ending_bind, ending_get, ending_lift, ending_modify,
    ending_ofExcept]
  rcases outcome (Inventory.load build.file) site with ⟨e | inv, loaded⟩
  · rfl
  · simp only
    rcases outcome build.settings.fetchSecrets loaded with ⟨e | secrets, fetched⟩
    · rfl
    · simp only [outcome_ofExcept]
      cases inv.document >>= Value.fillWith secrets Value.fillSecrets <;> rfl

/-! ### The manifest is resolved -/

/-- Where the build looks the address of its host up. -/
def source (build : TemplateBuild) (inventory : Inventory) : HostAddress.Source :=
  ⟨inventory, build.manifest.network, build.host⟩

theorem outcome_resolved_deep [DepthLimits]
    (h : ¬ build.document.levels ≤ DepthLimits.walking) :
    outcome (build.resolved inventory inventoryDocument secrets) site =
      (.error .depthExceeded, site) := by
  rw [resolved, within, if_neg h]
  rfl

/-- The lookups come first. -/
theorem plain_resolved [DepthLimits]
    (h : build.document.levels ≤ DepthLimits.walking) :
    Meaning.plain.ending (build.resolved inventory inventoryDocument secrets) site =
      ((Meaning.plain.withState.still
        (resolve ⟨some inventoryDocument, secrets, none, none⟩ build.document) (none, site)).bind
          fun r => Meaning.plain.withState.ending
            (fillHostAddress (HostAddress.provide (build.source inventory)) r.1) r.2).map
              fun r => (r.1, r.2.2) := by
  rw [resolved, Meaning.ending_run', within, if_pos h, ending_resolve_hostAddress]
  rfl

theorem outcome_resolved_error [DepthLimits]
    (hlevels : build.document.levels ≤ DepthLimits.walking)
    (h : resolve ⟨some inventoryDocument, secrets, none, none⟩ build.document =
      (.error e : Except Failure Value)) :
    outcome (build.resolved inventory inventoryDocument secrets) site = (.error e, site) := by
  rw [← Meaning.plain_eq_error_iff, plain_resolved hlevels, h]
  rfl

theorem outcome_resolved_unasked [DepthLimits]
    (hlevels : build.document.levels ≤ DepthLimits.walking)
    (h : resolve ⟨some inventoryDocument, secrets, none, none⟩ build.document =
      (.ok looked : Except Failure Value))
    (hnone : ∀ r ∈ looked.references, r.target ≠ .hostAddress) :
    outcome (build.resolved inventory inventoryDocument secrets) site = (.ok looked, site) := by
  rw [← Meaning.plain_eq_ok_iff, plain_resolved hlevels, h, Meaning.still]
  simp only [Except.bind]
  rw [ending_fillHostAddress_of_unserved hnone]
  rfl

theorem outcome_resolved_asked [DepthLimits]
    (hlevels : build.document.levels ≤ DepthLimits.walking)
    (h : resolve ⟨some inventoryDocument, secrets, none, none⟩ build.document =
      (.ok looked : Except Failure Value))
    (hserved : ∃ r ∈ looked.references, r.target = .hostAddress) :
    outcome (build.resolved inventory inventoryDocument secrets) site =
      match outcome (HostAddress.lookUp (build.source inventory)) site with
      | (.error e, after) => (.error e, after)
      | (.ok address, after) =>
          (.ok (TokenTable.rewrite (addressed (.ok address)) looked), after) := by
  rcases hanswer : outcome (HostAddress.lookUp (build.source inventory)) site with
    ⟨e | address, after⟩
  · rw [← Meaning.plain_eq_error_iff] at hanswer
    rw [← Meaning.plain_eq_error_iff, plain_resolved hlevels, h, Meaning.still]
    simp only [Except.bind]
    rw [ending_fillHostAddress_error hserved (by rw [HostAddress.ending_provide, hanswer]; rfl)]
    rfl
  · rw [← Meaning.plain_eq_ok_iff] at hanswer
    rw [← Meaning.plain_eq_ok_iff, plain_resolved hlevels, h, Meaning.still]
    simp only [Except.bind]
    rw [ending_fillHostAddress_ok hserved (by rw [HostAddress.ending_provide, hanswer]; rfl)]
    rfl

/-! ### The address of the build host -/

/-- The document as the pass over the values of the document itself finds it in a first step. -/
def Gathers [DepthLimits] (build : TemplateBuild) (site : Site) (w : Value) : Prop :=
  ∃ inventory inventoryDocument secrets mid,
    outcome build.supplied site = (.ok (inventory, inventoryDocument, secrets), mid) ∧
      gathered (some inventoryDocument) secrets build.document = .ok w

/-- A first step comes to a token for the address of the build host. -/
def AsksForAddress [DepthLimits] (build : TemplateBuild) (site : Site) : Prop :=
  build.document.levels ≤ DepthLimits.walking ∧ ∃ w looked, build.Gathers site w ∧
    (fillConfig w : Except Failure Value) = .ok looked ∧
      ∃ r ∈ looked.references, r.target = .hostAddress

/-- The address is asked for where the lookups leave a token for it. -/
theorem asksForAddress_of_looked [DepthLimits]
    (hlevels : build.document.levels ≤ DepthLimits.walking)
    (hsupplied : outcome build.supplied site = (.ok (inventory, inventoryDocument, secrets), mid))
    (hlooked : resolve ⟨some inventoryDocument, secrets, none, none⟩ build.document =
      (.ok looked : Except Failure Value))
    (hserved : ∃ r ∈ looked.references, r.target = .hostAddress) :
    build.AsksForAddress site := by
  rw [lookups_eq, bind_eq_ok] at hlooked
  obtain ⟨w, hw, hlooked⟩ := hlooked
  exact ⟨hlevels, w, looked, ⟨_, _, _, _, hsupplied, hw⟩, hlooked, hserved⟩

/-- The inventory of a first step is that of its file. -/
theorem load_of_supplied [DepthLimits]
    (h : outcome build.supplied site = (.ok (inventory, inventoryDocument, secrets), mid)) :
    (outcome (Inventory.load build.file) site).1 = .ok inventory := by
  obtain ⟨loaded, s₁, hload, h⟩ := outcome_bind_eq_ok.mp h
  obtain ⟨fetched, s₂, -, h⟩ := outcome_bind_eq_ok.mp h
  obtain ⟨document, s₃, -, h⟩ := outcome_bind_eq_ok.mp h
  obtain ⟨hvalue, -⟩ := Prod.mk.inj h
  rw [hload, (Prod.mk.inj (Except.ok.inj hvalue)).1]

/-- A first step whose lookups leave a token for the address of the build host. -/
theorem ending_init_of_asked [DepthLimits]
    (hlevels : build.document.levels ≤ DepthLimits.walking)
    (hsupplied : outcome build.supplied site = (.ok (inventory, inventoryDocument, secrets), mid))
    (hlooked : resolve ⟨some inventoryDocument, secrets, none, none⟩ build.document =
      (.ok looked : Except Failure Value))
    (hserved : ∃ r ∈ looked.references, r.target = .hostAddress) :
    ending init build site =
      match outcome (HostAddress.lookUp (build.source inventory)) mid with
      | (.error e, after) => ((.error e, { build with inventory := some inventory }), after)
      | (.ok address, after) =>
          ending (finish build.settings.verified inventoryDocument
              (TokenTable.rewrite (addressed (.ok address)) looked))
            { build with inventory := some inventory } after := by
  have hresolved : outcome ({ build with inventory := some inventory }.resolved inventory
      inventoryDocument secrets) mid =
        match outcome (HostAddress.lookUp (build.source inventory)) mid with
        | (.error e, after) => (.error e, after)
        | (.ok address, after) =>
            (.ok (TokenTable.rewrite (addressed (.ok address)) looked), after) :=
    outcome_resolved_asked hlevels hlooked hserved
  rw [init_eq, ending_supplying, hsupplied]
  simp only [ending_bind, ending_lift, hresolved]
  rcases outcome (HostAddress.lookUp (build.source inventory)) mid with ⟨e | address, after⟩ <;> rfl

theorem clusterConfig_ne_networkNotFound
    (inventoryDocument : Value) (name : String) :
    clusterConfig inventoryDocument ≠ .error (.networkNotFound name) := by
  unfold clusterConfig
  split
  · rintro ⟨⟩
  · split <;> rintro ⟨⟩

/-- Once the manifest is resolved no network is looked for. -/
theorem finish_ne_networkNotFound
    (verified : Bool) (inventoryDocument w : Value) (name : String) (build : TemplateBuild)
    (site : Site) :
    (ending (finish verified inventoryDocument w) build site).1.1 ≠
      .error (.networkNotFound name) := by
  have hcomputed : ∀ {α : Type} {r : Except Failure α}, r ≠ .error (.networkNotFound name) →
      ∀ (s : TemplateBuild) site, (ending (ActOn.ofExcept r) s site).1.1 ≠
        .error (.networkNotFound name) := by
    intro α r hr s site
    rwa [ending_ofExcept]
  have hkept : ∀ (f : TemplateBuild → TemplateBuild) s site,
      (ending (modify f) s site).1.1 ≠ .error (.networkNotFound name) := by
    intro f s site
    rw [ending_modify]
    rintro ⟨⟩
  refine ending_bind_ne_error (hcomputed (w.ensureResolved_ne_networkNotFound name)) (fun _ => ?_)
    build site
  refine ending_bind_ne_error (hkept _) fun _ => ?_
  refine ending_bind_ne_error (hcomputed (TemplateManifest.ofValue_ne_networkNotFound w name))
    fun _ => ?_
  refine ending_bind_ne_error (hkept _) fun _ => ?_
  refine ending_bind_ne_error (hcomputed (clusterConfig_ne_networkNotFound _ name))
    fun config => ?_
  refine ending_bind_ne_error (fun s site => ?_) fun _ => hkept _
  exact Cluster.connect_ne_networkNotFound config verified name site

end TemplateBuild
end Homelab
