import Homelab.Proofs.Inventory.Persisted
import Homelab.Proofs.Inventory.Templates
import Homelab.Proofs.Resolution.Throughout
import Homelab.Proofs.Resolution.Untouched
import Homelab.Proofs.Site.Commands
import Homelab.TemplateBuild

/-!
# The first step of a build

The first step of a build loads the inventory into memory and leaves the files alone.  It
succeeds if the manifest resolves and the cluster can be addressed.
-/

namespace Homelab

/-! ### What leaves the files alone -/

namespace Act

theorem closed_leavesFiles :
    Closed fun α (a : Act α) => a.LeavesFiles where
  pure a := leavesFiles_pure a
  throw e := leavesFiles_throw e
  bind h hf := h.bind hf
  map f _ h := by
    rw [map_eq_pure_bind]
    exact h.bind fun _ => leavesFiles_pure _

end Act

open Act

namespace HostAddress

theorem leavesFiles_lookUp
    (source : Source) :
    (lookUp source).LeavesFiles := by
  unfold lookUp
  split
  · exact leavesFiles_throw _
  · refine (leavesFiles_runCommand _).bind fun _ => (leavesFiles_ofExcept _).bind fun found => ?_
    cases found with
    | some address => exact leavesFiles_pure _
    | none => exact leavesFiles_throw _

theorem leavesFiles_provide
    (source : Source) :
    Closed.FromAll (fun α (a : Act α) => a.LeavesFiles) (Option String) String (provide source) := by
  have h := closed_leavesFiles
  refine h.withState.bind h.ofGet fun known => ?_
  cases known with
  | some address => exact h.withState.pure _
  | none =>
      exact h.withState.bind (h.ofLift (leavesFiles_lookUp source)) fun _ =>
        h.withState.bind (h.ofSet _) fun _ => h.withState.pure _

end HostAddress

namespace TemplateBuild

open ActOn

theorem leavesFiles_resolved [DepthLimits]
    (build : TemplateBuild) (inventory : Inventory) (document : Value)
    (secrets : Option (List Value)) :
    (build.resolved inventory document secrets).LeavesFiles := by
  have h := closed_leavesFiles
  refine h.run' ?_ none
  unfold Value.within
  split
  · refine h.withState.resolve ?_ ?_ ?_ _
    · exact fun registry hregistry => nomatch hregistry
    · exact fun registry hregistry => nomatch hregistry
    · intro hostAddress hgiven
      exact Option.some.inj hgiven ▸ HostAddress.leavesFiles_provide _
  · exact h.withState.throw _

/-! ### The first step -/

/-- What of a build tells what it writes. -/
def memory (build : TemplateBuild) : String × Option Inventory := (build.file, build.inventory)

/-- What a first step can change of a build: the inventory in memory becomes that of the file, if
this can be loaded. -/
structure Loads [DepthLimits] (build : TemplateBuild) (site : Site) (built : TemplateBuild)
    (after : Site) : Prop where
  keeps : site.Keeps after
  file : built.file = build.file
  inventory : built.inventory =
    match (outcome (Inventory.load build.file) site).1 with
    | .ok inv => some inv
    | .error _ => build.inventory

theorem loads_of_load [DepthLimits]
    {rest : Inventory → ActOn TemplateBuild Unit}
    (hrest : ∀ inv, Leaves memory (rest inv))
    (build : TemplateBuild) (site : Site) :
    let act : ActOn TemplateBuild Unit := lift (Inventory.load build.file) >>= fun inv =>
      modify (fun build => { build with inventory := some inv }) >>= fun _ => rest inv
    Loads build site (ending act build site).1.2 (ending act build site).2 := by
  intro act
  have hkeeps := Inventory.leavesFiles_load build.file site
  rcases hload : outcome (Inventory.load build.file) site with ⟨e | inv, loaded⟩
  · have hends : ending act build site = ((.error e, build), loaded) := by
      simp only [act, ending_bind, ending_lift, hload]
    rw [hload] at hkeeps
    rw [hends]
    exact ⟨hkeeps, rfl, by rw [hload]⟩
  · have hends : ending act build site =
        ending (rest inv) { build with inventory := some inv } loaded := by
      simp only [act, ending_bind, ending_lift, hload, ending_modify]
    rw [hload] at hkeeps
    rw [hends]
    obtain ⟨hmemory, hleaves⟩ := hrest inv { build with inventory := some inv } loaded
    obtain ⟨hfile, hinventory⟩ := Prod.mk.inj hmemory
    exact ⟨hkeeps.trans hleaves, hfile, by rw [hinventory, hload]⟩

/-- The first step loads the inventory into memory, and changes nothing else of what the build
writes. -/
theorem loads_init [DepthLimits]
    (build : TemplateBuild) (site : Site) :
    Loads build site (ending init build site).1.2 (ending init build site).2 := by
  rw [init, ending_bind, ending_get]
  simp only
  refine loads_of_load (fun inv => ?_) build site
  exact leaves_get.bind fun _ =>
      (leaves_lift (Settings.leavesFiles_fetchSecrets _)).bind fun _ =>
      (leaves_ofExcept _).bind fun _ => (leaves_lift (leavesFiles_resolved _ _ _ _)).bind fun _ =>
      (leaves_ofExcept _).bind fun _ => Leaves.bind (leaves_modify fun _ => rfl) fun _ =>
      (leaves_ofExcept _).bind fun _ => Leaves.bind (leaves_modify fun _ => rfl) fun _ =>
      (leaves_ofExcept _).bind fun _ => (leaves_lift (Cluster.silent_connect _ _).leavesFiles).bind fun _ =>
      leaves_modify fun _ => rfl

/-- A manifest without tokens is resolved to itself. -/
theorem outcome_resolved_of_no_references [DepthLimits]
    {build : TemplateBuild}
    (hnone : build.document.references = [])
    (hlevels : build.document.levels ≤ DepthLimits.walking)
    (inv : Inventory) (document : Value) (site : Site) :
    outcome (build.resolved inv document none) site = (.ok build.document, site) := by
  rw [← Meaning.plain_eq_ok_iff, resolved, Meaning.ending_run', Value.within, if_pos hlevels,
    Value.ending_resolve_of_no_references hnone]
  rfl

/-- A first step succeeds if its manifest resolves and the cluster can be addressed. -/
theorem ending_init_ok [DepthLimits]
    {build : TemplateBuild} {site mid last : Site} {inv : Inventory} {document resolved : Value}
    {manifest : TemplateManifest} {config : ClusterConfig} {cluster : Cluster}
    (hload : outcome (Inventory.load build.file) site = (.ok inv, site))
    (hsecrets : outcome build.settings.fetchSecrets site = (.ok none, mid))
    (hdocument : inv.document = .ok document)
    (hresolved : outcome ({ build with inventory := some inv }.resolved inv document none) mid =
      (.ok resolved, last))
    (hensure : resolved.ensureResolved = .ok ())
    (hmanifest : TemplateManifest.ofValue resolved = .ok manifest)
    (hconfig : clusterConfig document = .ok config)
    (hcluster : Cluster.ofConfig config build.settings.verified = .ok cluster) :
    ∃ after, ending init build site = ((.ok (), { build with
      document := resolved, manifest := manifest, inventory := some inv,
      cluster := some cluster }), after) := by
  have hfilled : inv.document >>= Value.fillWith none Value.fillSecrets = .ok document := by
    rw [hdocument]
    rfl
  have hconnect : outcome (Cluster.connect config build.settings.verified) last =
      (.ok cluster, last.record (.cluster (.connect cluster.access))) := by
    simp [Cluster.connect, hcluster, Except.map]
  simp only [init, ending_bind, ending_get, ending_lift, ending_modify, ending_ofExcept, hload,
    hsecrets, hfilled, hresolved, hensure, hmanifest, hconfig, hconnect]
  exact ⟨_, rfl⟩

end TemplateBuild
end Homelab
