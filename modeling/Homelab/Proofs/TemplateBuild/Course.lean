import Homelab.Proofs.TemplateBuild

/-!
# How the second step of a build goes

The second step takes a number for the template, runs its commands one after another until one
fails, and enters the finished template in memory and then in the inventory file.  Once the
directory of the build was cleared, it is removed again at the end.  Up to the entry of the
template the files stay as they are.
-/

namespace Homelab
namespace TemplateBuild

/-- The template that a build enters with a number. -/
def template (build : TemplateBuild) (vmid : Int) : Template :=
  ⟨build.manifest.name, build.manifest.version, vmid, []⟩

end TemplateBuild

/-- The inventory with a template entered. -/
def Inventory.withTemplate (inv : Inventory) (t : Template) : Inventory :=
  { inv with templates := TemplateBuild.enter t inv.templates }

namespace TemplateBuild

open Act ActOn

/-! ### Parts that run nothing -/

theorem silent_awaitImage
    (cluster : Cluster) (storage image : String) (interval : Double) :
    ∀ left, (awaitImage cluster storage image interval left).Silent
  | 0 => silent_pure _
  | left + 1 => by
      refine (silent_sleep _).bind fun _ => (cluster.silent_hasImage _ _).bind fun found => ?_
      cases found with
      | true => exact silent_pure _
      | false => exact silent_awaitImage cluster storage image interval left

theorem silent_provideImage
    (cluster : Cluster) (manifest : TemplateManifest) (settings : Settings) :
    (provideImage cluster manifest settings).Silent := by
  refine (cluster.silent_hasImage _ _).bind fun found => ?_
  cases found with
  | true => exact silent_pure _
  | false =>
      refine (cluster.silent_download _ _ _).bind fun _ =>
        (silent_awaitImage _ _ _ _ _).bind fun found => ?_
      cases found with
      | true => exact silent_pure _
      | false => exact silent_throw _

theorem silent_makeRoom
    (cluster : Cluster) (name : String) (replace : Bool) :
    (makeRoom cluster name replace).Silent := by
  refine (cluster.silent_machine? name).bind fun found => ?_
  cases found with
  | none => exact silent_pure _
  | some machine =>
      cases replace with
      | true => exact (silent_ofExcept _).bind fun _ => cluster.silent_delete _
      | false => exact silent_throw _

/-! ### Commands of a build -/

section Commands

variable (build : TemplateBuild)

/-- The command that removes the directory of a build. -/
def removal : Command := removeCommand build.host build.directory

/-- The command that fetches the repository of a build. -/
def fetching : Command := cloneCommand build.host build.manifest build.directory

/-- The command that builds the template with a number. -/
def building (vmid : Int) : Command :=
  buildCommand build.host build.directory (environment build.manifest vmid)

/-- A build that has taken a number. -/
def numbered (vmid : Int) : TemplateBuild := { build with vmid := some vmid }

/-- A build that has the template with a number entered in its memory. -/
def entered (inv : Inventory) (vmid : Int) : TemplateBuild :=
  { build with inventory := some (inv.withTemplate (build.template vmid)), vmid := some vmid }

/-- A build takes the next number that its inventory has for a template. -/
structure Takes (inv : Inventory) (vmid : Int) : Prop where
  inventory : build.inventory = some inv
  number : inv.nextVmid Resource.template.name = .ok vmid

/-- The courses that the second step can take.  A file is written in the last one only, and the
template is entered in memory in the last two. -/
inductive Course [DepthLimits] (site : Site) :
    (Except Failure Int × TemplateBuild) × Site → Prop where
  | unready {e : Failure} {after : Site}
      (hpasses : site.Passes after []) :
      Course site ((.error e, build), after)
  | uncleared {inv : Inventory} {vmid : Int} {fault : CommandFault} {e : Failure} {after : Site}
      (htakes : build.Takes inv vmid)
      (hpasses : site.Passes after [(build.removal, .error fault)]) :
      Course site ((.error e, build.numbered vmid), after)
  | unfetched {inv : Inventory} {vmid : Int} {cleared : String} {fault : CommandFault}
      {removed : CommandEnd} {e : Failure} {after : Site}
      (htakes : build.Takes inv vmid)
      (hpasses : site.Passes after
        [(build.removal, .ok cleared), (build.fetching, .error fault), (build.removal, removed)]) :
      Course site ((.error e, build.numbered vmid), after)
  | unbuilt {inv : Inventory} {vmid : Int} {cleared fetched : String} {fault : CommandFault}
      {removed : CommandEnd} {e : Failure} {after : Site}
      (htakes : build.Takes inv vmid)
      (hpasses : site.Passes after
        [(build.removal, .ok cleared), (build.fetching, .ok fetched),
          (build.building vmid, .error fault), (build.removal, removed)]) :
      Course site ((.error e, build.numbered vmid), after)
  | unrecorded {inv : Inventory} {vmid : Int} {cleared fetched built : String}
      {removed : CommandEnd} {e : Failure} {after : Site}
      (htakes : build.Takes inv vmid)
      (hpasses : site.Passes after
        [(build.removal, .ok cleared), (build.fetching, .ok fetched),
          (build.building vmid, .ok built), (build.removal, removed)]) :
      Course site ((.error e, build.entered inv vmid), after)
  | recorded {inv : Inventory} {vmid : Int} {cleared fetched built : String}
      {removed : CommandEnd} {text text' : String} {document : Value} {before after : Site}
      (htakes : build.Takes inv vmid)
      (hbefore : site.Passes before
        [(build.removal, .ok cleared), (build.fetching, .ok fetched),
          (build.building vmid, .ok built)])
      (hread : before.read build.file = .ok text)
      (hdocument : Inventory.documentOfText build.file text = .ok document)
      (htext : (inv.withTemplate (build.template vmid)).textWith ["templates"] document = .ok text')
      (hafter : (before.write build.file (.text text')).Passes after [(build.removal, removed)]) :
      Course site ((.ok vmid, build.entered inv vmid), after)

end Commands

theorem passes_removeDirectory
    (host : Option String) (directory : String) (site : Site) :
    ∃ removed, site.Passes (outcome (removeDirectory host directory) site).2
      [(removeCommand host directory, removed)] := by
  have hcommand : site.Passes (outcome (runCommand (removeCommand host directory)) site).2
      [(removeCommand host directory,
        site.outside.command site.journal (removeCommand host directory))] := by
    rw [outcome_runCommand]
    exact .record site _
  have hends : (outcome (removeDirectory host directory) site).2 =
      (removeDirectory host directory site).2 := rfl
  change site.Passes (runCommand (removeCommand host directory) site).2 _ at hcommand
  refine ⟨site.outside.command site.journal (removeCommand host directory), ?_⟩
  rw [hends, removeDirectory]
  rcases hrun : runCommand (removeCommand host directory) site with ⟨e | output, after⟩
  · rw [hrun] at hcommand
    exact hcommand.trans (.note after _ _)
  · rw [hrun] at hcommand
    exact hcommand

/-- The template is in memory by the time that the file is written. -/
theorem ending_recordTemplate [DepthLimits]
    (inv : Inventory) (vmid : Int) (build : TemplateBuild) (site : Site) :
    let persisted :=
      outcome ((inv.withTemplate (build.template vmid)).persist build.file ["templates"]) site
    ending (recordTemplate inv vmid) (build.numbered vmid) site =
      ((persisted.1, build.entered inv vmid), persisted.2) := rfl

theorem ending_removing
    {α : Type} (host : Option String) (directory : String) (body : ActOn TemplateBuild α)
    (build : TemplateBuild) (site : Site) :
    ending (removing host directory body) build site =
      ((ending body build site).1,
        (outcome (removeDirectory host directory) (ending body build site).2).2) := rfl

theorem inventory_of_ready
    {build : TemplateBuild} {cluster : Cluster} {inv : Inventory}
    (h : build.ready = .ok (cluster, inv)) :
    build.inventory = some inv := by
  unfold ready at h
  split at h
  · rename_i hinventory
    rw [hinventory, (Prod.mk.inj (Except.ok.inj h)).2]
  · cases h

/-- Once a build has taken its number and cleared its directory, it goes on in one of the courses
that get so far. -/
theorem course_of_cleared [DepthLimits]
    {build : TemplateBuild} {site cleared : Site} {inv : Inventory} {vmid : Int} {output : String}
    (htakes : build.Takes inv vmid)
    (hclear : site.Passes cleared [(build.removal, .ok output)]) :
    let body := ending (buildIn build.directory inv vmid) (build.numbered vmid) cleared
    let after := (outcome (removeDirectory build.host build.directory) body.2).2
    build.Course site ((body.1.1.map fun _ => vmid, body.1.2), after) := by
  have hremove := passes_removeDirectory build.host build.directory
  have hbody : ending (buildIn build.directory inv vmid) (build.numbered vmid) cleared =
      ending (lift (runCommand build.fetching) >>= fun _ =>
        lift (runCommand (build.building vmid)) >>= fun _ => recordTemplate inv vmid)
        (build.numbered vmid) cleared := rfl
  simp only [hbody]
  rcases ending_command_bind build.fetching _ (build.numbered vmid) cleared with
    ⟨fault, e, fetched, hfetch, hends⟩ | ⟨_, fetched, hfetch, hends⟩
  · obtain ⟨removed, hremoved⟩ := hremove fetched
    rw [hends]
    exact .unfetched htakes ((hclear.trans hfetch).trans hremoved)
  rw [hends]
  rcases ending_command_bind (build.building vmid) _ (build.numbered vmid) fetched with
    ⟨fault, e, made, hmake, hends⟩ | ⟨_, made, hmake, hends⟩
  · obtain ⟨removed, hremoved⟩ := hremove made
    rw [hends]
    exact .unbuilt htakes (((hclear.trans hfetch).trans hmake).trans hremoved)
  have hpasses := (hclear.trans hfetch).trans hmake
  rw [hends, ending_recordTemplate]
  rcases Inventory.outcome_persist (inv.withTemplate (build.template vmid)) build.file ["templates"]
    made with ⟨e, hpersist⟩ | ⟨text, document, text', hread, hdocument, htext, hpersist⟩
  · obtain ⟨removed, hremoved⟩ := hremove made
    rw [hpersist]
    exact .unrecorded htakes (hpasses.trans hremoved)
  · obtain ⟨removed, hremoved⟩ := hremove (made.write build.file (.text text'))
    rw [hpersist]
    exact .recorded htakes hpasses hread hdocument htext hremoved

/-- Every second step takes one of the courses. -/
theorem course_run [DepthLimits]
    (build : TemplateBuild) (replace : Bool) (site : Site) :
    build.Course site (ending (run replace) build site) := by
  rw [run, ending_bind, ending_get]
  simp only
  rw [ending_bind, ending_ofExcept]
  cases hready : build.ready with
  | error e => exact .unready (.refl site)
  | ok found =>
  obtain ⟨cluster, inv⟩ := found
  simp only
  rcases ending_silent_bind (silent_provideImage _ _ _) _ build site with
    ⟨e, provided, hprovide, hends⟩ | ⟨_, provided, hprovide, hends⟩
  · rw [hends]
    exact .unready hprovide
  rw [hends]
  rcases ending_silent_bind (silent_makeRoom _ _ _) _ build provided with
    ⟨e, made, hroom, hends⟩ | ⟨_, made, hroom, hends⟩
  · rw [hends]
    exact .unready (hprovide.trans hroom)
  rw [hends, ending_bind, ending_ofExcept]
  cases hvmid : inv.nextVmid Resource.template.name with
  | error e => exact .unready (hprovide.trans hroom)
  | ok vmid =>
  have htakes : build.Takes inv vmid := ⟨inventory_of_ready hready, hvmid⟩
  simp only
  rw [ending_bind, ending_modify]
  change build.Course site (ending (lift (runCommand build.removal) >>= fun _ =>
      removing build.host build.directory (buildIn build.directory inv vmid) >>= fun _ =>
        pure vmid) (build.numbered vmid) made)
  rcases ending_command_bind build.removal _ (build.numbered vmid) made with
    ⟨fault, e, cleared, hclear, hends⟩ | ⟨output, cleared, hclear, hends⟩
  · rw [hends]
    exact .uncleared htakes ((hprovide.trans hroom).trans hclear)
  · have hcourse := course_of_cleared htakes ((hprovide.trans hroom).trans hclear)
    rw [hends, ending_bind, ending_removing]
    generalize ending (buildIn build.directory inv vmid) (build.numbered vmid) cleared = body
      at hcourse ⊢
    obtain ⟨⟨e | _, built⟩, after⟩ := body
    · exact hcourse
    · exact hcourse

/-! ### What the second step leaves behind -/

/-- The ways in which the second step ends.  It fails, and leaves the files alone; by then the
template may be entered in memory.  Or it has written the templates of its memory to the file
as this was then, with its own template entered. -/
inductive Ending [DepthLimits] (build : TemplateBuild) (site : Site) :
    (Except Failure Int × TemplateBuild) × Site → Prop where
  | failed {e : Failure} {built : TemplateBuild} {after : Site}
      (hkeeps : site.Keeps after)
      (hfile : built.file = build.file)
      (hinventory : built.inventory = build.inventory ∨ ∃ inv vmid, build.inventory = some inv ∧
        inv.nextVmid Resource.template.name = .ok vmid ∧
        built.inventory = some (inv.withTemplate (build.template vmid))) :
      Ending build site ((.error e, built), after)
  | recorded {inv : Inventory} {vmid : Int} {text text' : String} {document : Value}
      {before after : Site}
      (hinventory : build.inventory = some inv)
      (hvmid : inv.nextVmid Resource.template.name = .ok vmid)
      (hkeeps : site.Keeps before)
      (hread : before.read build.file = .ok text)
      (hdocument : Inventory.documentOfText build.file text = .ok document)
      (htext : (inv.withTemplate (build.template vmid)).textWith ["templates"] document = .ok text')
      (hafter : (before.write build.file (.text text')).Keeps after) :
      Ending build site ((.ok vmid, { build with
        inventory := some (inv.withTemplate (build.template vmid)), vmid := some vmid }), after)

section Ending

variable {build : TemplateBuild} {site : Site} {ends : (Except Failure Int × TemplateBuild) × Site}

theorem Ending.file [DepthLimits]
    (h : Ending build site ends) :
    ends.1.2.file = build.file := by
  cases h with
  | failed hkeeps hfile => exact hfile
  | recorded => rfl

theorem Ending.outside [DepthLimits]
    (h : Ending build site ends) :
    ends.2.outside = site.outside := by
  cases h with
  | failed hkeeps => exact hkeeps.outside
  | recorded _ _ hkeeps _ _ _ hafter => exact hafter.outside.trans hkeeps.outside

/-- The inventory in memory stays, or has the template entered. -/
theorem Ending.inventory [DepthLimits]
    (h : Ending build site ends) :
    ends.1.2.inventory = build.inventory ∨ ∃ inv vmid, build.inventory = some inv ∧
      inv.nextVmid Resource.template.name = .ok vmid ∧
      ends.1.2.inventory = some (inv.withTemplate (build.template vmid)) := by
  cases h with
  | failed _ _ hinventory => exact hinventory
  | recorded hinventory hvmid => exact .inr ⟨_, _, hinventory, hvmid, rfl⟩

theorem Ending.keeps_of_error [DepthLimits]
    {e : Failure}
    (h : Ending build site ends)
    (hfails : ends.1.1 = .error e) :
    site.Keeps ends.2 := by
  cases h with
  | failed hkeeps => exact hkeeps
  | recorded => cases hfails

end Ending

theorem Course.ending [DepthLimits]
    {build : TemplateBuild} {site : Site} {ends : (Except Failure Int × TemplateBuild) × Site}
    (h : build.Course site ends) :
    Ending build site ends := by
  cases h with
  | unready hpasses => exact .failed hpasses.toKeeps rfl (.inl rfl)
  | uncleared _ hpasses | unfetched _ hpasses | unbuilt _ hpasses =>
      exact .failed hpasses.toKeeps rfl (.inl rfl)
  | unrecorded htakes hpasses =>
      exact .failed hpasses.toKeeps rfl (.inr ⟨_, _, htakes.inventory, htakes.number, rfl⟩)
  | recorded htakes hbefore hread hdocument htext hafter =>
      exact .recorded htakes.inventory htakes.number hbefore.toKeeps hread hdocument htext
        hafter.toKeeps

/-- Every second step ends in one of the two ways. -/
theorem ending_run [DepthLimits]
    (build : TemplateBuild) (replace : Bool) (site : Site) :
    Ending build site (ending (run replace) build site) :=
  (course_run build replace site).ending

/-! ### Steps that succeed -/

/-- What follows an act that gives a value goes on from a site with the same files. -/
theorem ending_lift_bind_of_ok
    {σ α β : Type} {a : Act α} {x : α} {site : Site}
    (h : a.LeavesFiles)
    (hvalue : (outcome a site).1 = .ok x)
    (f : α → ActOn σ β) (s : σ) :
    ∃ after, site.Keeps after ∧ ending (lift a >>= f) s site = ending (f x) s after := by
  have hkeeps := h site
  rw [ending_bind, ending_lift]
  generalize outcome a site = ends at hkeeps hvalue ⊢
  obtain ⟨result, after⟩ := ends
  obtain rfl : result = .ok x := hvalue
  exact ⟨after, hkeeps, rfl⟩

section Succeeds

variable {build : TemplateBuild} {site : Site} {inv : Inventory} {vmid : Int}

theorem outcome_runCommand_ok
    {mid : Site}
    (hcommands : ∀ journal c, ∃ output, site.outside.command journal c = .ok output)
    (hkeeps : site.Keeps mid)
    (c : Command) :
    ∃ output, (outcome (runCommand c) mid).1 = .ok output := by
  obtain ⟨output, houtput⟩ := hcommands mid.journal c
  rw [outcome_runCommand, hkeeps.outside, houtput]
  exact ⟨output, rfl⟩

/-- Nothing is fetched if the image is there. -/
theorem outcome_provideImage_ok
    {cluster : Cluster} {manifest : TemplateManifest}
    (h : (outcome (cluster.hasImage manifest.storage manifest.image) site).1 = .ok true)
    (settings : Settings) :
    (outcome (provideImage cluster manifest settings) site).1 = .ok () := by
  rw [provideImage, outcome_bind]
  generalize outcome (cluster.hasImage manifest.storage manifest.image) site = ends at h ⊢
  obtain ⟨result, after⟩ := ends
  obtain rfl : result = .ok true := h
  rfl

/-- There is room if no machine goes by the name. -/
theorem outcome_makeRoom_ok
    {cluster : Cluster} {name : String}
    (h : (outcome (cluster.machine? name) site).1 = .ok none)
    (replace : Bool) :
    (outcome (makeRoom cluster name replace) site).1 = .ok () := by
  rw [makeRoom, outcome_bind]
  generalize outcome (cluster.machine? name) site = ends at h ⊢
  obtain ⟨result, after⟩ := ends
  obtain rfl : result = .ok none := h
  rfl

theorem ending_buildIn_of_ok [DepthLimits]
    (hcommands : ∀ journal c, ∃ output, site.outside.command journal c = .ok output)
    (build : TemplateBuild) (inv : Inventory) (vmid : Int) :
    ∃ mid, site.Keeps mid ∧ (ending (buildIn build.directory inv vmid) (build.numbered vmid) site).1 =
      ((outcome ((inv.withTemplate (build.template vmid)).persist build.file ["templates"]) mid).1,
        build.entered inv vmid) := by
  rw [buildIn, ending_bind, ending_get]
  simp only
  obtain ⟨_, hfetched⟩ := outcome_runCommand_ok hcommands (.refl site) build.fetching
  obtain ⟨fetched, hfetch, hends⟩ := ending_lift_bind_of_ok (leavesFiles_runCommand _) hfetched
    (fun _ => lift (runCommand (build.building vmid)) >>= fun _ => recordTemplate inv vmid)
    (build.numbered vmid)
  obtain ⟨_, hmade⟩ := outcome_runCommand_ok hcommands hfetch (build.building vmid)
  obtain ⟨made, hmake, hends'⟩ := ending_lift_bind_of_ok (leavesFiles_runCommand _) hmade
    (fun _ => recordTemplate inv vmid) (build.numbered vmid)
  refine ⟨made, hfetch.trans hmake, ?_⟩
  exact congrArg Prod.fst (hends.trans (hends'.trans (ending_recordTemplate inv vmid build made)))

/-- If the image is there, nothing goes by the name of the template and all commands succeed, it
only remains to write the templates. -/
theorem ending_run_of_built [DepthLimits]
    {cluster : Cluster}
    (hready : build.ready = .ok (cluster, inv))
    (hvmid : inv.nextVmid Resource.template.name = .ok vmid)
    (himage : ∀ mid, site.Keeps mid →
      (outcome (cluster.hasImage build.manifest.storage build.manifest.image) mid).1 = .ok true)
    (hroom : ∀ mid, site.Keeps mid →
      (outcome (cluster.machine? build.manifest.name) mid).1 = .ok none)
    (hcommands : ∀ journal c, ∃ output, site.outside.command journal c = .ok output)
    (replace : Bool) :
    ∃ mid, site.Keeps mid ∧ (ending (run replace) build site).1 =
      ((outcome ((inv.withTemplate (build.template vmid)).persist build.file ["templates"]) mid).1.map
        fun _ => vmid, build.entered inv vmid) := by
  rw [run, ending_bind, ending_get]
  simp only
  rw [ending_bind, ending_ofExcept, hready]
  simp only
  obtain ⟨provided, hprovide, hends⟩ :=
    ending_lift_bind_of_ok (silent_provideImage _ _ _).leavesFiles
      (outcome_provideImage_ok (himage site (.refl site)) _) _ build
  rw [hends]
  obtain ⟨made, hmake, hends⟩ :=
    ending_lift_bind_of_ok (silent_makeRoom _ _ _).leavesFiles
      (outcome_makeRoom_ok (hroom provided hprovide) replace) _ build
  rw [hends, ending_bind, ending_ofExcept, hvmid]
  simp only
  rw [ending_bind, ending_modify]
  simp only
  obtain ⟨_, hcleared⟩ := outcome_runCommand_ok hcommands (hprovide.trans hmake) build.removal
  obtain ⟨cleared, hclear, hends⟩ := ending_lift_bind_of_ok (leavesFiles_runCommand _) hcleared
    (fun _ => removing build.host build.directory (buildIn build.directory inv vmid) >>= fun _ =>
      pure vmid) (build.numbered vmid)
  have hkeeps := (hprovide.trans hmake).trans hclear
  obtain ⟨mid, hmid, hbody⟩ := ending_buildIn_of_ok (hkeeps.outside ▸ hcommands) build inv vmid
  refine ⟨mid, hkeeps.trans hmid, (congrArg Prod.fst hends).trans ?_⟩
  rw [ending_bind, ending_removing, hbody]
  cases (outcome ((inv.withTemplate (build.template vmid)).persist build.file ["templates"]) mid).1 <;>
    rfl

/-- A second step succeeds if it remains to write the templates, and this succeeds. -/
theorem ending_run_ok [DepthLimits]
    {cluster : Cluster}
    (hready : build.ready = .ok (cluster, inv))
    (hvmid : inv.nextVmid Resource.template.name = .ok vmid)
    (himage : ∀ mid, site.Keeps mid →
      (outcome (cluster.hasImage build.manifest.storage build.manifest.image) mid).1 = .ok true)
    (hroom : ∀ mid, site.Keeps mid →
      (outcome (cluster.machine? build.manifest.name) mid).1 = .ok none)
    (hcommands : ∀ journal c, ∃ output, site.outside.command journal c = .ok output)
    (hpersist : ∀ mid, site.Keeps mid → (outcome
      ((inv.withTemplate (build.template vmid)).persist build.file ["templates"]) mid).1 = .ok ())
    (replace : Bool) :
    (ending (run replace) build site).1.1 = .ok vmid := by
  obtain ⟨mid, hkeeps, hends⟩ :=
    ending_run_of_built hready hvmid himage hroom hcommands replace
  rw [hends, hpersist mid hkeeps]
  rfl

end Succeeds

end TemplateBuild
end Homelab
