import Homelab.Proofs.TemplateBuild.Shared

/-!
# What a second step that fails leaves in memory

A template is entered in memory before the inventory file is written.  So a second step that
fails leaves the memory as it was only if it fails before: if the template was built but could not
be written, it stays in memory, and its number is not given to the next attempt.
-/

namespace Homelab
namespace TemplateBuild

open ActOn

/-- With the template entered, the number that it has taken is not free. -/
theorem nextVmid_withTemplate_ne
    (inv : Inventory) (t : Template) :
    (inv.withTemplate t).nextVmid Resource.template.name ≠ .ok t.vmid := by
  intro h
  obtain ⟨-, -, hfree, -⟩ := Inventory.lowest_of_nextVmid h
  refine hfree (List.mem_append_left _ (List.mem_append_right _ ?_))
  exact List.mem_map.mpr ⟨t, mem_enter_self t _, rfl⟩

theorem takes_of_run [DepthLimits]
    {build : TemplateBuild} {replace : Bool} {site : Site} {vmid : Int}
    (h : (ending (run replace) build site).1.1 = .ok vmid) :
    ∃ inv, build.Takes inv vmid := by
  have hcourse := course_run build replace site
  generalize ending (run replace) build site = ends at hcourse h
  cases hcourse with
  | unready | uncleared | unfetched | unbuilt | unrecorded => cases h
  | recorded htakes => exact ⟨_, Except.ok.inj h ▸ htakes⟩

/-- Among the commands is one that has built the template. -/
def Built (commands : List (Command × CommandEnd)) : Prop :=
  ∃ c ∈ commands, c.1.words.head? = some "packer" ∧ c.2.isOk = true

/-- The template stays in memory exactly if it was built. -/
theorem Course.memory_cases [DepthLimits]
    {build : TemplateBuild} {site : Site} {ends : (Except Failure Int × TemplateBuild) × Site}
    {e : Failure}
    (h : build.Course site ends)
    (hfails : ends.1.1 = .error e) :
    ∃ commands, site.Ran ends.2 commands ∧
      (¬Built commands ∧ ends.1.2.inventory = build.inventory ∨
        Built commands ∧ ∃ inv vmid, build.Takes inv vmid ∧
          ends.1.2.inventory = some (inv.withTemplate (build.template vmid))) := by
  cases h with
  | unready hpasses =>
      exact ⟨_, hpasses.toRan, .inl ⟨by simp [Built], rfl⟩⟩
  | uncleared htakes hpasses | unfetched htakes hpasses | unbuilt htakes hpasses =>
      refine ⟨_, hpasses.toRan, .inl ⟨?_, rfl⟩⟩
      simp [Built, removal, removeCommand, fetching, cloneCommand, Except.isOk, Except.toBool]
  | unrecorded htakes hpasses =>
      exact ⟨_, hpasses.toRan, .inr ⟨⟨_, .tail _ (.tail _ (.head _)), rfl, rfl⟩, _, _, htakes, rfl⟩⟩
  | recorded => cases hfails

/-- After a second step that fails the memory is as it was, and the next one that succeeds gets the
number that was the next before, exactly if the template was not built. -/
theorem memory_kept_iff_not_built [DepthLimits]
    {build : TemplateBuild} {replace : Bool} {site : Site} {e : Failure}
    (h : (ending (run replace) build site).1.1 = .error e) :
    let ends := ending (run replace) build site
    ∃ commands, site.Ran ends.2 commands ∧
      (ends.1.2.inventory = build.inventory ↔ ¬Built commands) ∧
      ∀ again site' vmid, (ending (run again) ends.1.2 site').1.1 = .ok vmid →
        ((∃ inv, build.inventory = some inv ∧
          inv.nextVmid Resource.template.name = .ok vmid) ↔ ¬Built commands) := by
  intro ends
  have hcourse : build.Course site ends := course_run build replace site
  obtain ⟨commands, hran, hcases⟩ := hcourse.memory_cases h
  clear_value ends
  rcases hcases with ⟨hbuilt, hkept⟩ | ⟨hbuilt, inv, vmid, htakes, hentered⟩
  · refine ⟨commands, hran, iff_of_true hkept hbuilt, fun again site' vmid hagain => ?_⟩
    obtain ⟨inv, htakes⟩ := takes_of_run hagain
    exact iff_of_true ⟨inv, hkept ▸ htakes.inventory, htakes.number⟩ hbuilt
  · refine ⟨commands, hran, iff_of_false (fun hsame => ?_) (not_not_intro hbuilt),
      fun again site' vmid' hagain => iff_of_false ?_ (not_not_intro hbuilt)⟩
    · have hinv : inv.withTemplate (build.template vmid) = inv :=
        Option.some.inj (hentered.symm.trans (hsame.trans htakes.inventory))
      exact nextVmid_withTemplate_ne inv (build.template vmid) (hinv.symm ▸ htakes.number)
    · rintro ⟨found, hfound, hnumber⟩
      obtain rfl := Option.some.inj (hfound.symm.trans htakes.inventory)
      obtain rfl := Except.ok.inj (hnumber.symm.trans htakes.number)
      obtain ⟨inv', htakes'⟩ := takes_of_run hagain
      obtain rfl := Option.some.inj (hentered.symm.trans htakes'.inventory)
      exact nextVmid_withTemplate_ne found (build.template vmid') htakes'.number

/-! ### A file that is missing -/

theorem read_removed
    {text : String} {after : Site}
    (hkeeps : (stockedSite text).Keeps after) :
    (after.remove "inventory.json").read "inventory.json" =
      .error (.fileNotFound "inventory.json") := by
  have hremoved : ((stockedSite text).remove "inventory.json").Keeps
      (after.remove "inventory.json") :=
    ⟨by rw [Site.remove, hkeeps.files]; rfl, hkeeps.outside⟩
  rw [hremoved.read]
  rfl

/-- If the file goes away between the two steps, the template is built and stays in memory. -/
theorem ending_run_removed [DepthLimits]
    {text : String} {after : Site}
    (hkeeps : (stockedSite text).Keeps after) :
    (ending (run false) (sampleBegun 0) (after.remove "inventory.json")).1 =
      (.error (.fileNotFound "inventory.json"),
        (sampleBegun 0).entered (sampleInventory (.int 1)) 300) := by
  have houtside : (after.remove "inventory.json").outside = (stockedSite text).outside :=
    hkeeps.outside
  have hready : (sampleBegun 0).ready = .ok (_, sampleInventory (.int 1)) := rfl
  obtain ⟨mid, hmid, hends⟩ := ending_run_of_built hready nextVmid_template_sampleInventory
    (fun mid (hmid : (after.remove "inventory.json").Keeps mid) =>
      hasImage_stocked (hmid.outside.trans houtside) _)
    (fun mid hmid => machine?_stocked (hmid.outside.trans houtside) _)
    (fun journal c => ⟨"", by rw [houtside]; rfl⟩) false
  have hread : mid.read (sampleBegun 0).file = .error (.fileNotFound "inventory.json") :=
    (hmid.read _).trans (read_removed hkeeps)
  rw [hends, Inventory.persist, outcome_bind, outcome_readFile, hread]
  rfl

theorem exists_sampleBegun [DepthLimits] :
    ∃ text after, (stockedSite text).read "inventory.json" = .ok text ∧
      Inventory.ofText "inventory.json" text = .ok (sampleInventory (.int 1)) ∧
      ending init (sampleBuild 0) (stockedSite text) = ((.ok (), sampleBegun 0), after) ∧
      (stockedSite text).Keeps after := by
  obtain ⟨text, hread, hload⟩ := exists_sampleLoad
  replace hread : (stockedSite text).read "inventory.json" = .ok text := hread
  obtain ⟨after, hends⟩ := ending_init_sampleBuild hread hload 0
  have hkeeps := (loads_init (sampleBuild 0) (stockedSite text)).keeps
  rw [hends] at hkeeps
  exact ⟨text, after, hread, hload, hends, hkeeps⟩

/-- The memory of a build is not kept if its file goes away between the two steps. -/
theorem memory_kept_iff_not_built_sample :
    ∃ text after commands,
      ending init (sampleBuild 0) (stockedSite text) = ((.ok (), sampleBegun 0), after) ∧
      let ends := ending (run false) (sampleBegun 0) (after.remove "inventory.json")
      ends.1.1 = .error (.fileNotFound "inventory.json") ∧
        (after.remove "inventory.json").Ran ends.2 commands ∧ Built commands := by
  obtain ⟨text, after, -, -, hinit, hkeeps⟩ := exists_sampleBegun
  have hends := ending_run_removed hkeeps
  have hfails := congrArg Prod.fst hends
  obtain ⟨commands, hran, hkept, -⟩ := memory_kept_iff_not_built hfails
  refine ⟨text, after, commands, hinit, hfails, hran, ?_⟩
  by_contra hbuilt
  have hsame := hkept.mpr hbuilt
  rw [hends] at hsame
  cases congrArg (fun inv => inv.map fun inv => inv.templates.length) hsame

theorem nextVmid_template_entered :
    ((sampleInventory (.int 1)).withTemplate ((sampleBegun 0).template 300)).nextVmid
      Resource.template.name = .ok 301 := by
  have hused : ((sampleInventory (.int 1)).withTemplate ((sampleBegun 0).template 300)).usedVmids =
      [300] := rfl
  refine Inventory.nextVmid_eq (r := .template) (k := 301) rfl (by decide) (by decide) ?_ ?_
  · rw [hused]
    decide
  · intro j hfirst hj
    have hlow : 300 ≤ j := hfirst
    have hj' : j = 300 := by omega
    rw [hused, hj']
    decide

/-- A build fails because its file has gone away.  Once the file is back, the next attempt does not
get the number that this one had. -/
theorem number_lost_with_file :
    ∃ text after, (stockedSite text).read "inventory.json" = .ok text ∧
      Inventory.ofText "inventory.json" text = .ok (sampleInventory (.int 1)) ∧
      ending init (sampleBuild 0) (stockedSite text) = ((.ok (), sampleBegun 0), after) ∧
      let ends := ending (run false) (sampleBegun 0) (after.remove "inventory.json")
      ends.1.1 = .error (.fileNotFound "inventory.json") ∧ ends.1.2.vmid = some 300 ∧
        ends.1.2.inventory ≠ (sampleBegun 0).inventory ∧
        (ending (run false) ends.1.2 after).1.1 = .ok 301 := by
  obtain ⟨text, after, hread, hload, hinit, hkeeps⟩ := exists_sampleBegun
  have hends := ending_run_removed hkeeps
  refine ⟨text, after, hread, hload, hinit, congrArg Prod.fst hends, ?_, fun hsame => ?_, ?_⟩
  · rw [hends]
    rfl
  · rw [hends] at hsame
    cases congrArg (fun inv => inv.map fun inv => inv.templates.length) hsame
  · rw [hends]
    exact ((stocked_stockedSite hread hload).keeps hkeeps).ending_run_of_memory 0 rfl rfl rfl
      (recordable_sampleInventory.withTemplate (sampleBegun 0) nextVmid_template_sampleInventory)
      nextVmid_template_entered rfl

end TemplateBuild
end Homelab
