import Homelab.Proofs.ModuleRun.Completed
import Homelab.Proofs.TemplateBuild.Recorded

/-!
# Builds that share an inventory file

Any number of builds share an inventory file, and their steps come in any order.  A build writes
the templates that it has in memory since its first step, with its own entered.  So what stands in
the file afterwards is what it knew of: a template that was recorded since then is lost, and its
machine number may be taken again.  If every build that succeeds knows of the templates that stand
under other names, none is lost and no number is taken twice; and only then is none lost.
-/

namespace Homelab
namespace TemplateBuild

open ActOn

/-! ### Templates that stand -/

/-- Of the templates recorded one after another, those that stand: a template takes the place of
an earlier one of its name. -/
def standing (recorded : List Template) : List Template :=
  recorded.foldl (fun ts t => enter t ts) []

@[simp] theorem standing_append
    (recorded : List Template) (t : Template) :
    standing (recorded ++ [t]) = enter t (standing recorded) := by
  rw [standing, List.foldl_append]
  rfl

theorem nodup_standing
    (recorded : List Template) :
    ((standing recorded).map Template.name).Nodup := by
  induction recorded using List.reverseRecOn with
  | nil => exact List.nodup_nil
  | append_singleton before t ih =>
      rw [standing_append]
      exact nodup_enter ih

/-- If no name is recorded twice, all that is recorded stands. -/
theorem standing_eq_self
    {recorded : List Template}
    (h : (recorded.map Template.name).Nodup) :
    standing recorded = recorded := by
  induction recorded using List.reverseRecOn with
  | nil => rfl
  | append_singleton before t ih =>
      rw [List.map_append, List.map_singleton, List.nodup_append] at h
      obtain ⟨hbefore, -, hnew⟩ := h
      rw [standing_append, ih hbefore, enter_of_new]
      exact fun hmem => hnew _ hmem _ (List.mem_singleton_self _) rfl

/-! ### Builds that take turns -/

/-- Builds that share a site, and the templates that they have recorded, one after another. -/
structure Builds where
  site : Site
  build : Nat → TemplateBuild
  recorded : List Template

/-- What a build can do in its turn. -/
inductive Turn where
  | init (i : Nat)
  | run (i : Nat) (replace : Bool)

namespace Builds

/-- The builds before their first turn. -/
def start (site : Site) (build : Nat → TemplateBuild) : Builds := ⟨site, build, []⟩

/-- The templates recorded after the second step of a build has ended. -/
def recordedAfter (bs : Builds) (i : Nat) : Except Failure Int → List Template
  | .ok vmid => bs.recorded ++ [(bs.build i).template vmid]
  | .error _ => bs.recorded

/-- A build takes a turn. -/
def turn [DepthLimits] (bs : Builds) : Turn → Builds
  | .init i =>
      let ends := ending init (bs.build i) bs.site
      ⟨ends.2, Function.update bs.build i ends.1.2, bs.recorded⟩
  | .run i replace =>
      let ends := ending (run replace) (bs.build i) bs.site
      ⟨ends.2, Function.update bs.build i ends.1.2, bs.recordedAfter i ends.1.1⟩

/-- The builds after some turns. -/
def turns [DepthLimits] (bs : Builds) (ts : List Turn) : Builds := ts.foldl turn bs

/-- The second step of a build succeeds if it is its turn. -/
def Succeeds [DepthLimits] (bs : Builds) (i : Nat) (replace : Bool) : Prop :=
  ∃ vmid, (ending (run replace) (bs.build i) bs.site).1.1 = .ok vmid

/-- Every template that stands is in the file. -/
def NoneLost [DepthLimits] (file : String) (bs : Builds) : Prop :=
  ∀ t ∈ standing bs.recorded, ∃ text inv, bs.site.read file = .ok text ∧
    Inventory.ofText file text = .ok inv ∧ t ∈ inv.templates.map Template.bare

/-- No two templates that stand have one machine number. -/
def NoneTwice (bs : Builds) : Prop :=
  ((standing bs.recorded).map Template.vmid).Nodup

/-- A build has in memory the templates that stand under other names than its own. -/
def Aware (bs : Builds) (i : Nat) : Prop :=
  ∀ inv, (bs.build i).inventory = some inv → ∀ t ∈ standing bs.recorded,
    t.name ≠ (bs.build i).manifest.name → t ∈ inv.templates.map Template.bare

/-- Whenever a build succeeds in the course of some turns, it is aware of the others. -/
def AwareThroughout [DepthLimits] (bs : Builds) (ts : List Turn) : Prop :=
  ∀ before i replace, before ++ [.run i replace] <+: ts →
    (bs.turns before).Succeeds i replace → (bs.turns before).Aware i

/-- The builds work on one file. -/
structure Sharing [DepthLimits] (file : String) (bs : Builds) : Prop where
  used : ∀ i, Used (bs.build i)
  file : ∀ i, (bs.build i).file = file

variable {file : String} {bs : Builds} {ts : List Turn}

theorem turns_append [DepthLimits]
    (bs : Builds) (ts : List Turn) (t : Turn) :
    bs.turns (ts ++ [t]) = (bs.turns ts).turn t := by
  rw [turns, List.foldl_append]
  rfl

theorem Sharing.turn [DepthLimits]
    (h : Sharing file bs)
    (t : Turn) :
    Sharing file (bs.turn t) := by
  have hupdate : ∀ (i : Nat) (built : TemplateBuild), Used built → built.file = file →
      (∀ j, Used (Function.update bs.build i built j)) ∧
        ∀ j, (Function.update bs.build i built j).file = file := by
    intro i built hused hfile
    exact ⟨(Function.forall_update_iff bs.build fun _ b => Used b).mpr ⟨hused, fun j _ => h.used j⟩,
      (Function.forall_update_iff bs.build fun _ b => b.file = file).mpr
        ⟨hfile, fun j _ => h.file j⟩⟩
  cases t with
  | init i =>
      obtain ⟨hused, hfile⟩ := hupdate i _ ((h.used i).afterInit bs.site)
        ((loads_init (bs.build i) bs.site).file.trans (h.file i))
      exact ⟨hused, hfile⟩
  | run i replace =>
      obtain ⟨hused, hfile⟩ := hupdate i _ ((h.used i).afterRun replace bs.site)
        ((ending_run (bs.build i) replace bs.site).file.trans (h.file i))
      exact ⟨hused, hfile⟩

theorem Sharing.turns [DepthLimits]
    (h : Sharing file bs)
    (ts : List Turn) :
    Sharing file (bs.turns ts) := by
  induction ts generalizing bs with
  | nil => exact h
  | cons t rest ih => exact ih (h.turn t)

/-- A turn that records nothing leaves what is in the file. -/
theorem NoneLost.of_read_eq [DepthLimits]
    {next : Builds}
    (h : NoneLost file bs)
    (hread : next.site.read file = bs.site.read file)
    (hrecorded : next.recorded = bs.recorded) :
    NoneLost file next := by
  rw [NoneLost, hread, hrecorded]
  exact h

/-- What a turn does that records a template: the file holds then what the build had in memory,
with its own template entered. -/
structure Records [DepthLimits] (file : String) (bs : Builds) (i : Nat) (next : Builds)
    (t : Template) (inv : Inventory) : Prop where
  inventory : (bs.build i).inventory = some inv
  name : t.name = (bs.build i).manifest.name
  bare : t.bare = t
  unused : t.vmid ∉ inv.usedVmids
  recorded : next.recorded = bs.recorded ++ [t]
  disk : ∃ text disk, next.site.read file = .ok text ∧ Inventory.ofText file text = .ok disk ∧
    disk.templates.map Template.bare = (enter t inv.templates).map Template.bare

/-- A turn records a template if it is a second step that succeeds; any other turn leaves the
file alone. -/
theorem turn_run_cases [DepthLimits]
    (h : Sharing file bs)
    (i : Nat) (replace : Bool) :
    (bs.Succeeds i replace ∧ ∃ t inv, Records file bs i (bs.turn (.run i replace)) t inv) ∨
      (¬ bs.Succeeds i replace ∧ (bs.turn (.run i replace)).site.read file = bs.site.read file ∧
        (bs.turn (.run i replace)).recorded = bs.recorded) := by
  cases hresult : (ending (run replace) (bs.build i) bs.site).1.1 with
  | ok vmid =>
      obtain ⟨inv, document, text, hrecorded⟩ := (h.used i).recorded hresult
      obtain ⟨disk, hdisk, htemplates, -⟩ := hrecorded.disk
      have hread := hrecorded.read
      rw [h.file i] at hdisk hread
      refine .inl ⟨⟨vmid, hresult⟩, (bs.build i).template vmid, inv, hrecorded.inventory, rfl, rfl,
        (Inventory.nextVmid_spec hrecorded.number).1, ?_, text, disk, hread, hdisk, htemplates⟩
      simp only [Builds.turn, hresult, recordedAfter]
  | error e =>
      have hkeeps := (ending_run (bs.build i) replace bs.site).keeps_of_error hresult
      refine .inr ⟨?_, hkeeps.read file, ?_⟩
      · rintro ⟨vmid, hvmid⟩
        cases hresult.symm.trans hvmid
      · simp only [Builds.turn, hresult, recordedAfter]

/-- If the build is aware of the others, nothing is lost by what it records. -/
theorem Records.noneLost [DepthLimits]
    {i : Nat} {next : Builds} {t : Template} {inv : Inventory}
    (h : Records file bs i next t inv)
    (haware : bs.Aware i) :
    NoneLost file next := by
  obtain ⟨text, disk, hread, hdisk, htemplates⟩ := h.disk
  intro u hu
  refine ⟨text, disk, hread, hdisk, ?_⟩
  rw [htemplates]
  rw [h.recorded, standing_append, mem_enter_iff (nodup_standing _)] at hu
  rcases hu with rfl | ⟨hu, hname⟩
  · exact List.mem_map.mpr ⟨u, mem_enter_self u _, h.bare⟩
  · obtain ⟨v, hv, rfl⟩ := List.mem_map.mp (haware inv h.inventory u hu (h.name ▸ hname))
    exact List.mem_map.mpr ⟨v, mem_enter_of_ne hv hname, rfl⟩

/-- If nothing is lost by what it records, the build is aware of the others. -/
theorem Records.aware [DepthLimits]
    {i : Nat} {next : Builds} {t : Template} {inv : Inventory}
    (h : Records file bs i next t inv)
    (hkept : NoneLost file next) :
    bs.Aware i := by
  obtain ⟨text, disk, hread, hdisk, htemplates⟩ := h.disk
  intro inv' hinv' u hu hname
  obtain rfl := Option.some.inj (h.inventory.symm.trans hinv')
  rw [← h.name] at hname
  have hstands : u ∈ standing next.recorded := by
    rw [h.recorded, standing_append]
    exact mem_enter_of_ne hu hname
  obtain ⟨text', disk', hread', hdisk', hmem⟩ := hkept u hstands
  obtain rfl := Except.ok.inj (hread.symm.trans hread')
  obtain rfl := Except.ok.inj (hdisk.symm.trans hdisk')
  rw [htemplates] at hmem
  obtain ⟨v, hv, rfl⟩ := List.mem_map.mp hmem
  rcases mem_of_mem_enter hv with rfl | hv
  · exact absurd rfl hname
  · exact List.mem_map.mpr ⟨v, hv, rfl⟩

theorem vmid_mem_usedVmids
    {inv : Inventory} {t : Template}
    (h : t ∈ inv.templates.map Template.bare) :
    t.vmid ∈ inv.usedVmids := by
  obtain ⟨u, hu, rfl⟩ := List.mem_map.mp h
  rw [Inventory.usedVmids, Inventory.committedVmids, List.mem_append, List.mem_append]
  exact .inl (.inr (List.mem_map.mpr ⟨u, hu, rfl⟩))

/-- If the build is aware of the others, its machine number is none of theirs. -/
theorem Records.noneTwice [DepthLimits]
    {i : Nat} {next : Builds} {t : Template} {inv : Inventory}
    (h : Records file bs i next t inv)
    (haware : bs.Aware i)
    (htwice : NoneTwice bs) :
    NoneTwice next := by
  have hnew : ∀ u ∈ standing bs.recorded, u.name ≠ t.name → u.vmid ≠ t.vmid := by
    intro u hu hname hsame
    refine h.unused (hsame ▸ vmid_mem_usedVmids ?_)
    exact haware inv h.inventory u hu (h.name ▸ hname)
  rw [NoneTwice, h.recorded, standing_append]
  exact nodup_vmids_enter (nodup_standing _) htwice hnew

/-- None of the templates that stand is ever lost and no machine number is taken twice, if
whichever build succeeds is aware of the others; and it is, if none is ever lost. -/
theorem kept_iff_awareThroughout [DepthLimits]
    (h : Sharing file bs)
    (hnew : bs.recorded = [])
    (ts : List Turn) :
    (∀ before, before <+: ts → NoneLost file (bs.turns before) ∧ NoneTwice (bs.turns before)) ↔
      AwareThroughout bs ts := by
  constructor
  · intro hkept before i replace hbefore hsucceeds
    have hafter := (hkept _ hbefore).1
    rw [turns_append] at hafter
    rcases turn_run_cases (h.turns before) i replace with ⟨-, t, inv, hrecords⟩ | ⟨hfails, -⟩
    · exact hrecords.aware hafter
    · exact absurd hsucceeds hfails
  · intro haware before
    induction before using List.reverseRecOn with
    | nil =>
        intro _
        constructor
        · intro t ht
          rw [turns, List.foldl_nil, hnew] at ht
          cases ht
        · rw [NoneTwice, turns, List.foldl_nil, hnew]
          exact List.nodup_nil
    | append_singleton before t ih =>
        intro hbefore
        obtain ⟨hlost, htwice⟩ := ih ((List.prefix_append before [t]).trans hbefore)
        rw [turns_append]
        cases t with
        | init i =>
            have hkeeps := (loads_init ((bs.turns before).build i) (bs.turns before).site).keeps
            exact ⟨hlost.of_read_eq (hkeeps.read file) rfl, htwice⟩
        | run i replace =>
            rcases turn_run_cases (h.turns before) i replace with
              ⟨hsucceeds, t, inv, hrecords⟩ | ⟨-, hread, hrecorded⟩
            · have haware' := haware before i replace hbefore hsucceeds
              exact ⟨hrecords.noneLost haware', hrecords.noneTwice haware' htwice⟩
            · refine ⟨hlost.of_read_eq hread hrecorded, ?_⟩
              rw [NoneTwice, hrecorded]
              exact htwice

/-- The file can be loaded as soon as a build has an inventory in memory. -/
def Loadable [DepthLimits] (file : String) (bs : Builds) : Prop :=
  ∀ i inv, (bs.build i).inventory = some inv →
    ∃ found, (outcome (Inventory.load file) bs.site).1 = .ok found

theorem load_congr [DepthLimits]
    {site site' : Site}
    (h : site'.read file = site.read file) :
    (outcome (Inventory.load file) site').1 = (outcome (Inventory.load file) site).1 := by
  simp only [Inventory.load, outcome_bind, outcome_readFile, h]
  cases site.read file <;> simp

theorem Loadable.turn [DepthLimits]
    (hloadable : Loadable file bs)
    (h : Sharing file bs)
    (t : Turn) :
    Loadable file (bs.turn t) := by
  cases t with
  | init i =>
      have hloads := loads_init (bs.build i) bs.site
      rw [Loadable, load_congr (show (bs.turn (.init i)).site.read file = bs.site.read file from
        hloads.keeps.read file)]
      refine (Function.forall_update_iff bs.build fun _ b => ∀ inv, b.inventory = some inv → _).mpr
        ⟨fun inv hinv => ?_, fun j _ => hloadable j⟩
      rw [hloads.inventory, h.file i] at hinv
      cases hload : (outcome (Inventory.load file) bs.site).1 with
      | ok found => exact ⟨found, rfl⟩
      | error e =>
          rw [hload] at hinv
          exact hload ▸ hloadable i inv hinv
  | run i replace =>
      rcases turn_run_cases h i replace with ⟨-, t, inv, hrecords⟩ | ⟨-, hread, -⟩
      · obtain ⟨text, disk, hread, hdisk, -⟩ := hrecords.disk
        intro _ _ _
        refine ⟨disk, ?_⟩
        simp only [Inventory.load, outcome_bind, outcome_readFile, outcome_ofExcept, hread, hdisk]
      · rw [Loadable, load_congr hread]
        refine (Function.forall_update_iff bs.build fun _ b => ∀ inv, b.inventory = some inv → _).mpr
          ⟨fun inv hinv => ?_, fun j _ => hloadable j⟩
        rcases (ending_run (bs.build i) replace bs.site).inventory with
          hsame | ⟨found, vmid, hfound, -⟩
        · exact hloadable i inv (hsame ▸ hinv)
        · exact hloadable i found hfound

theorem Loadable.turns [DepthLimits]
    (hloadable : Loadable file bs)
    (h : Sharing file bs)
    (ts : List Turn) :
    Loadable file (bs.turns ts) := by
  induction ts generalizing bs with
  | nil => exact hloadable
  | cons t rest ih => exact ih (hloadable.turn h t) (h.turn t)

/-- A build that has just taken its first step has in memory whatever stands, if nothing is
lost. -/
theorem aware_after_init [DepthLimits]
    (h : Sharing file bs)
    (hloadable : Loadable file bs)
    (hkept : NoneLost file bs)
    (i : Nat) :
    (bs.turn (.init i)).Aware i := by
  intro inv hinv t ht _
  have hloads := loads_init (bs.build i) bs.site
  obtain ⟨found, hfound⟩ := hloadable.turn h (.init i) i inv hinv
  rw [load_congr (show (bs.turn (.init i)).site.read file = bs.site.read file from
    hloads.keeps.read file)] at hfound
  have hbuild : (bs.turn (.init i)).build i = (ending init (bs.build i) bs.site).1.2 :=
    Function.update_self ..
  rw [hbuild, hloads.inventory, h.file i, hfound] at hinv
  obtain rfl := Option.some.inj hinv
  obtain ⟨text, hread, htext⟩ := Inventory.text_of_load hfound
  obtain ⟨text', inv', hread', hinv', hmem⟩ := hkept t ht
  obtain rfl := Except.ok.inj (hread.symm.trans hread')
  obtain rfl := Except.ok.inj (htext.symm.trans hinv')
  exact hmem

/-- If every build takes its second step right after its first one, all of them are aware of the
others. -/
theorem awareThroughout_of_adjacent [DepthLimits]
    (h : Sharing file bs)
    (hloadable : Loadable file bs)
    (hnew : bs.recorded = [])
    (hadjacent : ∀ before i replace, before ++ [.run i replace] <+: ts →
      ∃ earlier, before = earlier ++ [.init i]) :
    AwareThroughout bs ts := by
  induction ts using List.reverseRecOn with
  | nil =>
      intro before i replace hbefore
      cases List.append_ne_nil_of_right_ne_nil before (List.cons_ne_nil _ _)
        (List.prefix_nil.mp hbefore)
  | append_singleton ts t ih =>
      have haware := ih fun before i replace hbefore =>
        hadjacent before i replace (hbefore.trans (List.prefix_append ts [t]))
      intro before i replace hbefore hsucceeds
      rcases List.prefix_concat_iff.mp hbefore with hlast | hbefore'
      · obtain ⟨earlier, rfl⟩ := hadjacent before i replace hbefore
        obtain ⟨rfl, -⟩ := List.append_inj' hlast rfl
        have hkept := (kept_iff_awareThroughout h hnew _).mpr haware earlier
          (List.prefix_append earlier [.init i])
        rw [turns_append]
        exact aware_after_init (h.turns earlier) (hloadable.turns h earlier) hkept.1 i
      · exact haware before i replace hbefore' hsucceeds

end Builds

/-- A build that succeeds writes the templates that it has in memory, with its own entered, and
leaves everything else in the file; so the templates of the file are the ones that were there,
with its own entered, only if this comes to the same list.  And in the course of any turns of builds
that share a file, no template that stands is ever lost and no machine number is taken twice, if
and only if every build that succeeds has in memory the templates that stand under other names. -/
theorem written_from_memory_and_kept_iff [DepthLimits]
    (file : String) :
    (∀ {build : TemplateBuild} {replace : Bool} {site : Site} {vmid : Int} {text : String}
      {document : Value} {disk : Inventory}, Used build → build.file = file →
      site.read file = .ok text → Inventory.documentOfText file text = .ok document →
      Inventory.ofValue document = .ok disk →
      (ending (run replace) build site).1.1 = .ok vmid →
      let after := (ending (run replace) build site).2
      let entered := enter (build.template vmid)
      ∃ inv text' next, build.inventory = some inv ∧ after.read file = .ok text' ∧
        Inventory.HoldsTemplates document (entered inv.templates) text' ∧
        Inventory.ofText file text' = .ok next ∧
        next.bare = Inventory.bare { disk with templates := entered inv.templates } ∧
        (Inventory.HoldsTemplates document (entered disk.templates) text' ↔
          Template.listed (entered inv.templates) = Template.listed (entered disk.templates))) ∧
    ∀ {site : Site} {builds : Nat → TemplateBuild} {ts : List Turn},
      (∀ i, ∃ document settings, ofDocument document file settings = .ok (builds i)) →
      let after := fun before => (Builds.start site builds).turns before
      ((∀ before, before <+: ts → (after before).NoneLost file ∧ (after before).NoneTwice) ↔
        (Builds.start site builds).AwareThroughout ts) ∧
      ((Builds.start site builds).AwareThroughout ts →
        ((after ts).recorded.map Template.name).Nodup →
        ((after ts).recorded.map Template.vmid).Nodup) := by
  constructor
  · intro build replace site vmid text document disk hused hfile hread hdocument hdisk hrun after
      entered
    subst hfile
    obtain ⟨inv, document', text', hrecorded⟩ := hused.recorded hrun
    obtain ⟨found, hfound, hsame⟩ := hrecorded.before
    obtain rfl := Except.ok.inj (hread.symm.trans hfound)
    obtain rfl := Except.ok.inj (hdocument.symm.trans hsame)
    obtain ⟨next, hnext, -, hbare⟩ := hrecorded.disk
    refine ⟨inv, text', next, hrecorded.inventory, hrecorded.read, hrecorded.holds, hnext,
      hbare disk hdisk, ?_, hrecorded.holds.congr⟩
    exact hrecorded.holds.listed_eq
  · intro site builds ts hfresh after
    have hsharing : Builds.Sharing file (Builds.start site builds) := by
      refine ⟨fun i => ?_, fun i => ?_⟩
      · obtain ⟨document, settings, hbuild⟩ := hfresh i
        exact .fresh hbuild
      · obtain ⟨document, settings, hbuild⟩ := hfresh i
        exact (of_ofDocument hbuild).1
    have hkept := Builds.kept_iff_awareThroughout hsharing rfl ts
    refine ⟨hkept, fun haware hnames => ?_⟩
    have htwice := (hkept.mpr haware ts (List.prefix_refl ts)).2
    rwa [Builds.NoneTwice, standing_eq_self hnames] at htwice

/-! ### Two builds on a small site -/

/-- A template manifest without tokens. -/
def sampleTemplate (name : String) : Value :=
  .object
    [("iso_file", .str "a:b"), ("iso_url", .str "u"), ("name", .str name), ("network", .str "lan"),
     ("packer_template_url", .str "r"), ("version", .str "1")]

/-- The names of two templates. -/
def sampleName : Nat → String
  | 0 => "web"
  | _ => "db"

/-- Builds of the two templates. -/
def sampleBuild (i : Nat) : TemplateBuild :=
  ⟨sampleTemplate (sampleName i), ⟨sampleName i, "1", "u", "a:b", "r", "lan", [], none, none, []⟩,
    "inventory.json", ModuleRun.closedSettings, none, none, none, none⟩

theorem ofDocument_sampleBuild
    (i : Nat) :
    ofDocument (sampleTemplate (sampleName i)) "inventory.json" ModuleRun.closedSettings =
      .ok (sampleBuild i) := rfl

/-- A site whose cluster has the image and no machines. -/
def stockedSite (text : String) : Site :=
  { sampleSite text with
    outside := { (sampleSite text).outside with
      cluster := fun _ c =>
        match c with
        | .listContent _ _ => .ok (.list [.object [("volid", .str "a:b")]])
        | _ => .ok (.list []) } }

/-- The cluster of the small inventory. -/
def sampleCluster : Cluster :=
  ⟨"pve", ⟨"pve", 8006, "root@pam", "run", some "secret", false⟩⟩

/-- A build after its first step, with the small inventory in memory. -/
def sampleBegun (i : Nat) : TemplateBuild :=
  { sampleBuild i with
    inventory := some (sampleInventory (.int 1)), cluster := some sampleCluster }

/-- The texts of the sample manifests have no tokens. -/
theorem findAll_sampleTexts :
    ∀ s ∈ ["web", "db", "a:b", "u", "lan", "r", "1", "10.0.0.5"], Reference.findAll s = [] := by
  have hnone : ∀ s ∈ ["web", "db", "a:b", "u", "lan", "r", "1", "10.0.0.5"],
      Reference.parse? s = none := by decide
  intro s hs
  have hparse := hnone s hs
  simp only [List.mem_cons, List.not_mem_nil, or_false] at hs
  rcases hs with rfl | rfl | rfl | rfl | rfl | rfl | rfl | rfl <;>
    simp [Reference.findAll, hparse, Reference.embeddedIn, Reference.pieces,
      Reference.Piece.reference?]

theorem references_sampleTemplate
    (i : Nat) :
    (sampleTemplate (sampleName i)).references = [] := by
  have hfind := findAll_sampleTexts
  have hname : Reference.findAll (sampleName i) = [] := by
    cases i with
    | zero => exact hfind "web" (by simp)
    | succ i => exact hfind "db" (by simp)
  simp [sampleTemplate, Value.object, Value.references, Value.entryReferences, hname,
    hfind "a:b", hfind "u", hfind "lan", hfind "r", hfind "1"]

theorem ending_init_sampleBuild [DepthLimits]
    {site : Site} {text : String}
    (hread : site.read "inventory.json" = .ok text)
    (hload : Inventory.ofText "inventory.json" text = .ok (sampleInventory (.int 1)))
    (i : Nat) :
    ∃ after, ending init (sampleBuild i) site = ((.ok (), sampleBegun i), after) := by
  have hnone := references_sampleTemplate i
  have hload' : outcome (Inventory.load (sampleBuild i).file) site =
      (.ok (sampleInventory (.int 1)), site) := by
    simp [Inventory.load, sampleBuild, hread, hload]
  refine ending_init_ok hload'
    (ModuleRun.fetchSecrets_closedSettings site) ModuleRun.document_sampleInventory
    (outcome_resolved_of_no_references hnone ?_ _ _ _)
    (Value.ensureResolved_of_no_references hnone) rfl rfl rfl
  refine DepthLimits.le_walking ?_
  show (sampleTemplate _).levels ≤ _
  simp [sampleTemplate, Value.object, Value.levels, Value.entryLevels]

section Stocked

variable {site : Site} {initial : String}

theorem hasImage_stocked
    (h : site.outside = (stockedSite initial).outside)
    (storage : String) :
    (outcome (sampleCluster.hasImage storage "a:b") site).1 = .ok true := by
  have hanswer : site.outside.cluster site.journal (.listContent sampleCluster.node storage) =
      .ok (.list [.object [("volid", .str "a:b")]]) := by
    rw [h]
    rfl
  rw [Cluster.hasImage, outcome_bind, Act.outcome_callCluster, hanswer]
  rfl

theorem machine?_stocked
    (h : site.outside = (stockedSite initial).outside)
    (name : String) :
    (outcome (sampleCluster.machine? name) site).1 = .ok none := by
  have hanswer : site.outside.cluster site.journal (.listMachines sampleCluster.node) =
      .ok (.list []) := by
    rw [h]
    rfl
  rw [Cluster.machine?, outcome_bind, Act.outcome_callCluster, hanswer]
  rfl

theorem nextVmid_template_sampleInventory :
    (sampleInventory (.int 1)).nextVmid Resource.template.name = .ok 300 :=
  Inventory.nextVmid_eq (r := .template) (k := 300) rfl (by decide) (by decide)
    (by simp [Inventory.usedVmids, Inventory.committedVmids, sampleInventory, Reserved.empty])
    fun j hfirst hj => absurd (show 300 ≤ j from hfirst) (by omega)

theorem recordable_sampleInventory [DepthLimits] :
    Recordable (sampleInventory (.int 1)) :=
  ⟨Inventory.wellFormed_of_ofValue (ofValue_sampleDocument (.int 1)), by simp [sampleInventory]⟩

/-- A stocked site whose file has the small inventory with some templates. -/
structure Stocked [DepthLimits] (initial : String) (site : Site) (ts : List Template) : Prop where
  outside : site.outside = (stockedSite initial).outside
  disk : ∃ text document disk, site.read "inventory.json" = .ok text ∧
    Inventory.documentOfText "inventory.json" text = .ok document ∧
    Inventory.ofValue document = .ok disk ∧
    disk.bare = Inventory.bare { sampleInventory (.int 1) with templates := ts }

theorem stocked_stockedSite [DepthLimits]
    {text : String}
    (hread : (stockedSite text).read "inventory.json" = .ok text)
    (hload : Inventory.ofText "inventory.json" text = .ok (sampleInventory (.int 1))) :
    Stocked text (stockedSite text) [] := by
  obtain ⟨document, hdocument, hdisk⟩ := Ledger.documentOfText_of_ofText hload
  exact ⟨rfl, text, document, _, hread, hdocument, hdisk, rfl⟩

theorem Stocked.keeps [DepthLimits]
    {ts : List Template} {after : Site}
    (h : Stocked initial site ts)
    (hkeeps : site.Keeps after) :
    Stocked initial after ts := by
  obtain ⟨text, document, disk, hread, hdisk⟩ := h.disk
  exact ⟨hkeeps.outside.trans h.outside, text, document, disk, (hkeeps.read _).trans hread, hdisk⟩

theorem Stocked.templates [DepthLimits]
    {ts : List Template} {text : String} {inv : Inventory}
    (h : Stocked initial site ts)
    (hread : site.read "inventory.json" = .ok text)
    (hinv : Inventory.ofText "inventory.json" text = .ok inv) :
    inv.templates.map Template.bare = ts.map Template.bare := by
  obtain ⟨found, document, disk, hfound, hdocument, hdisk, hbare⟩ := h.disk
  obtain rfl := Except.ok.inj (hread.symm.trans hfound)
  obtain ⟨document', hdocument', hinv⟩ := Ledger.documentOfText_of_ofText hinv
  obtain rfl := Except.ok.inj (hdocument.symm.trans hdocument')
  obtain rfl := Except.ok.inj (hdisk.symm.trans hinv)
  exact congrArg Inventory.templates hbare

/-- A build with the small inventory in memory, and no template but one of its own name, succeeds on
a stocked site. -/
theorem Stocked.ending_run_of_memory [DepthLimits]
    {ts us : List Template} {vmid : Int} {build : TemplateBuild}
    (h : Stocked initial site ts)
    (i : Nat)
    (hready : build.ready = .ok (sampleCluster, { sampleInventory (.int 1) with templates := us }))
    (hmanifest : build.manifest = (sampleBuild i).manifest)
    (hfile : build.file = "inventory.json")
    (hinv : Recordable { sampleInventory (.int 1) with templates := us })
    (hvmid : Inventory.nextVmid { sampleInventory (.int 1) with templates := us }
      Resource.template.name = .ok vmid)
    (hentered : enter (build.template vmid) us = [build.template vmid]) :
    (ending (run false) build site).1.1 = .ok vmid := by
  obtain ⟨text, document, disk, hread, hdocument, hdisk, hbare⟩ := h.disk
  let t := build.template vmid
  let next := Inventory.withTemplate { sampleInventory (.int 1) with templates := us } t
  have hrecordable : Recordable next := hinv.withTemplate _ hvmid
  have hnext : next = { sampleInventory (.int 1) with templates := [t] } :=
    congrArg (fun templates => { sampleInventory (.int 1) with templates := templates }) hentered
  have hwritable : next.isWritable = true := by
    have hlevels : next.isWritable = decide ((Value.int 1).levels ≤ Inventory.levelLimit) := by
      rw [hnext]
      simp [t, template, Inventory.isWritable, Inventory.extras, sampleInventory, Reserved.empty]
    rw [hlevels]
    decide
  have hvalid : Inventory.Valid { disk with templates := next.templates } := by
    have hsample : Inventory.Valid { sampleInventory (.int 1) with templates := [t] } :=
      Inventory.fault?_eq_none_iff.mp rfl
    rw [hnext]
    exact hsample.of_bare_eq
      (congrArg (fun inv : Inventory => { inv with templates := [t.bare] }) hbare)
  have hfits := Json.fits_of_read (Ledger.read_of_documentOfText hdocument)
  rw [← template_room] at hfits
  obtain ⟨text', htext⟩ := Inventory.exists_textWith_templates hrecordable.wellFormed template_room
    hfits hrecordable.templates hdisk hwritable hvalid
  refine ending_run_ok hready hvmid
    (fun mid hkeeps => ?_)
    (fun mid hkeeps => machine?_stocked (hkeeps.outside.trans h.outside) _)
    (fun journal c => ⟨"", by rw [h.outside]; rfl⟩) ?_ false
  · rw [hmanifest]
    exact hasImage_stocked (hkeeps.outside.trans h.outside) _
  · intro mid hkeeps
    have hread' : mid.read "inventory.json" = .ok text := (hkeeps.read _).trans hread
    have hreplace : mid.outside.replaceFault = none := by
      rw [hkeeps.outside, h.outside]
      rfl
    rw [hfile]
    show (outcome (next.persist "inventory.json" ["templates"]) mid).1 = .ok ()
    simp only [Inventory.persist, outcome_bind, outcome_readFile, outcome_ofExcept, hread', hdocument,
      htext, outcome_replaceFile, hreplace]

/-- A build with the small inventory in memory succeeds on a stocked site. -/
theorem Stocked.ending_run [DepthLimits]
    {ts : List Template}
    (h : Stocked initial site ts)
    (i : Nat) :
    (ending (run false) (sampleBegun i) site).1.1 = .ok 300 :=
  h.ending_run_of_memory i rfl rfl rfl recordable_sampleInventory nextVmid_template_sampleInventory
    rfl

theorem Stocked.turn_init [DepthLimits]
    {ts : List Template} {bs : Builds} {i : Nat}
    (h : Stocked initial bs.site ts)
    (hbuild : bs.build i = sampleBuild i)
    (hload : (outcome (Inventory.load "inventory.json") bs.site).1 =
      .ok (sampleInventory (.int 1))) :
    (bs.turn (.init i)).build = Function.update bs.build i (sampleBegun i) ∧
      Stocked initial (bs.turn (.init i)).site ts ∧
      (outcome (Inventory.load "inventory.json") (bs.turn (.init i)).site).1 =
        .ok (sampleInventory (.int 1)) := by
  obtain ⟨text, hread, htext⟩ := Inventory.text_of_load hload
  obtain ⟨after, hends⟩ := ending_init_sampleBuild hread htext i
  have hkeeps := (loads_init (bs.build i) bs.site).keeps
  refine ⟨?_, h.keeps hkeeps, ?_⟩
  · simp only [Builds.turn, hbuild, hends]
  · simp only [Inventory.load, outcome_bind, outcome_readFile, outcome_ofExcept]
    rw [show (bs.turn (.init i)).site.read "inventory.json" = .ok text from
      (hkeeps.read _).trans hread]
    exact htext

/-- A build with the small inventory in memory leaves its own template in the file only. -/
theorem Stocked.turn_run [DepthLimits]
    {ts : List Template} {bs : Builds} {i : Nat}
    (h : Stocked initial bs.site ts)
    (hbuild : bs.build i = sampleBegun i)
    (hused : Used (sampleBegun i)) :
    (bs.turn (.run i false)).build =
        Function.update bs.build i (ending (run false) (sampleBegun i) bs.site).1.2 ∧
      Stocked initial (bs.turn (.run i false)).site [(sampleBegun i).template 300] ∧
      (bs.turn (.run i false)).recorded = bs.recorded ++ [(sampleBegun i).template 300] := by
  have hresult := h.ending_run i
  obtain ⟨inv, document, text, hrecorded⟩ := hused.recorded hresult
  obtain ⟨text', hread, hdocument⟩ := hrecorded.before
  obtain ⟨found, document', disk, hfound, hdocument', hdisk, hbare⟩ := h.disk
  obtain rfl := Except.ok.inj (hread.symm.trans hfound)
  obtain rfl := Except.ok.inj (hdocument.symm.trans hdocument')
  obtain rfl := Option.some.inj hrecorded.inventory
  obtain ⟨next, hnext, -, hrest⟩ := hrecorded.disk
  obtain ⟨stored, hstored, hvalue⟩ := Ledger.documentOfText_of_ofText hnext
  refine ⟨?_, ⟨?_, text, stored, next, ?_, hstored, hvalue, ?_⟩, ?_⟩
  · simp only [Builds.turn, hbuild]
  · exact (TemplateBuild.ending_run (bs.build i) false bs.site).outside.trans h.outside
  · simp only [Builds.turn, hbuild]
    exact hrecorded.read
  · rw [hrest disk hdisk]
    exact congrArg (fun inv : Inventory =>
      { inv with templates := [((sampleBegun i).template 300).bare] }) hbare
  · simp only [Builds.turn, Builds.recordedAfter, hbuild, hresult]

end Stocked

/-- Both builds take their first step before one of them takes its second. -/
def sampleTurns : List Turn := [.init 0, .init 1, .run 0 false]

theorem used_sampleBegun [DepthLimits]
    {text : String} {site : Site}
    (hread : site.read "inventory.json" = .ok text)
    (hload : Inventory.ofText "inventory.json" text = .ok (sampleInventory (.int 1)))
    (i : Nat) :
    Used (sampleBegun i) := by
  obtain ⟨after, hends⟩ := ending_init_sampleBuild hread hload i
  have hused := (Used.fresh (ofDocument_sampleBuild i)).afterInit site
  rwa [hends] at hused

/-- The second build, whose turn it is after these turns, has the small inventory in memory, while
the first one has recorded its template. -/
theorem exists_sampleTurns [DepthLimits] :
    ∃ text, (stockedSite text).read "inventory.json" = .ok text ∧
      Inventory.ofText "inventory.json" text = .ok (sampleInventory (.int 1)) ∧
      Used (sampleBegun 1) ∧
      let bs := (Builds.start (stockedSite text) sampleBuild).turns sampleTurns
      bs.build 1 = sampleBegun 1 ∧ bs.recorded = [(sampleBegun 0).template 300] ∧
        Stocked text bs.site [(sampleBegun 0).template 300] := by
  obtain ⟨text, hread, hload⟩ := exists_sampleLoad
  have hstocked := stocked_stockedSite hread hload
  have hload' : (outcome (Inventory.load "inventory.json") (stockedSite text)).1 =
      .ok (sampleInventory (.int 1)) := by
    simp only [Inventory.load, outcome_bind, outcome_readFile, outcome_ofExcept]
    rw [show (stockedSite text).read "inventory.json" = .ok text from hread]
    exact hload
  have hused := used_sampleBegun hread hload
  refine ⟨text, hread, hload, hused 1, ?_⟩
  -- The builds after each of the three turns.
  let bs := Builds.start (stockedSite text) sampleBuild
  have hfresh : ∀ i, bs.build i = sampleBuild i := fun i => rfl
  obtain ⟨hbuild₁, hstocked₁, hload₁⟩ := Stocked.turn_init (show Stocked text bs.site [] from hstocked)
    (hfresh 0) hload'
  have hsecond : (bs.turn (.init 0)).build 1 = sampleBuild 1 := by
    rw [hbuild₁]
    exact hfresh 1
  obtain ⟨hbuild₂, hstocked₂, -⟩ := hstocked₁.turn_init hsecond hload₁
  have hfirst : ((bs.turn (.init 0)).turn (.init 1)).build 0 = sampleBegun 0 := by
    rw [hbuild₂, hbuild₁]
    rfl
  obtain ⟨hbuild₃, hstocked₃, hrecorded⟩ := hstocked₂.turn_run hfirst (hused 0)
  refine ⟨?_, hrecorded, hstocked₃⟩
  show (((bs.turn (.init 0)).turn (.init 1)).turn (.run 0 false)).build 1 = _
  rw [hbuild₃, hbuild₂]
  rfl

/-- No build has recorded a template before the only one that does so in these turns. -/
theorem awareThroughout_sampleTurns [DepthLimits]
    (site : Site) :
    (Builds.start site sampleBuild).AwareThroughout sampleTurns := by
  intro before i replace hbefore _ inv _ t ht
  have hrecorded : ((Builds.start site sampleBuild).turns before).recorded = [] := by
    match before, hbefore with
    | [], hbefore => rfl
    | [a], hbefore =>
        obtain ⟨rest, hturns⟩ := hbefore
        simp [sampleTurns] at hturns
    | [a, b], hbefore =>
        obtain ⟨rest, hturns⟩ := hbefore
        simp only [sampleTurns, List.cons_append, List.nil_append, List.cons.injEq] at hturns
        obtain ⟨rfl, rfl, -⟩ := hturns
        rfl
    | a :: b :: c :: more, hbefore =>
        have hlength := hbefore.length_le
        simp only [sampleTurns, List.length_append, List.length_cons, List.length_nil] at hlength
        omega
  rw [hrecorded] at ht
  cases ht

/-- A build that has not heard of a template that is in the file by now writes its own only; and
of a template that is recorded first nothing is lost. -/
theorem written_from_memory_and_kept_iff_sample :
    ∃ text document disk text',
      let bs := (Builds.start (stockedSite text) sampleBuild).turns sampleTurns
      let entered := enter ((sampleBegun 1).template 300)
      Used (bs.build 1) ∧ bs.site.read "inventory.json" = .ok text' ∧
      Inventory.documentOfText "inventory.json" text' = .ok document ∧
      Inventory.ofValue document = .ok disk ∧
      (ending (run false) (bs.build 1) bs.site).1.1 = .ok 300 ∧
      (∃ text'', (ending (run false) (bs.build 1) bs.site).2.read "inventory.json" = .ok text'' ∧
        Inventory.HoldsTemplates document (entered []) text'' ∧
        ¬ Inventory.HoldsTemplates document (entered disk.templates) text'') ∧
      (Builds.start (stockedSite text) sampleBuild).AwareThroughout sampleTurns ∧
      bs.NoneLost "inventory.json" ∧ bs.NoneTwice := by
  obtain ⟨text, hread, hload, hused, hbuild, hrecorded, hstocked⟩ := exists_sampleTurns
  obtain ⟨text', document, disk, hread', hdocument, hdisk, hbare⟩ := hstocked.disk
  refine ⟨text, document, disk, text', ?_⟩
  intro bs entered
  have hbuild' : bs.build 1 = sampleBegun 1 := hbuild
  have hsucceeds := hstocked.ending_run 1
  have haware := awareThroughout_sampleTurns (stockedSite text)
  have hspec := written_from_memory_and_kept_iff "inventory.json"
  have hkept := (hspec.2 fun i => ⟨_, _, ofDocument_sampleBuild i⟩).1.mpr haware sampleTurns
    (List.prefix_refl _)
  obtain ⟨inv, text'', -, hinv, hread'', hholds, -, -, hiff⟩ :=
    hspec.1 hused rfl hread' hdocument hdisk hsucceeds
  obtain rfl := Option.some.inj hinv
  rw [hbuild']
  refine ⟨hused, hread', hdocument, hdisk, hsucceeds, ⟨text'', hread'', hholds, fun hheld => ?_⟩,
    haware, hkept⟩
  have htemplates : disk.templates.map Template.bare = [(sampleBegun 0).template 300] :=
    congrArg Inventory.templates hbare
  obtain ⟨u, hu, hbare'⟩ := List.map_eq_singleton_iff.mp htemplates
  have hlengths := Template.length_eq_of_listed_eq (hiff.mp hheld)
  rw [hu, enter, if_neg] at hlengths
  · cases hlengths
  · exact fun hname => absurd ((congrArg Template.name hbare').symm.trans hname) (by decide)

/-- Two builds of different names succeed one after the other; the template of the first one is
lost, and both have recorded one machine number. -/
theorem template_lost_between_builds :
    ∃ text, (stockedSite text).read "inventory.json" = .ok text ∧
      Inventory.ofText "inventory.json" text = .ok (sampleInventory (.int 1)) ∧
      (∀ i, ofDocument (sampleTemplate (sampleName i)) "inventory.json" ModuleRun.closedSettings =
        .ok (sampleBuild i)) ∧
      let bs := (Builds.start (stockedSite text) sampleBuild).turns
        [.init 0, .init 1, .run 0 false, .run 1 false]
      bs.recorded = [⟨"web", "1", 300, []⟩, ⟨"db", "1", 300, []⟩] ∧
        ¬ bs.NoneLost "inventory.json" ∧ ¬ bs.NoneTwice := by
  obtain ⟨text, hread, hload, hused, hbuild, hrecorded, hstocked⟩ := exists_sampleTurns
  obtain ⟨-, hstocked', hrecorded'⟩ := hstocked.turn_run hbuild hused
  have hturns : (Builds.start (stockedSite text) sampleBuild).turns
      [.init 0, .init 1, .run 0 false, .run 1 false] =
        ((Builds.start (stockedSite text) sampleBuild).turns sampleTurns).turn (.run 1 false) :=
    Builds.turns_append _ sampleTurns _
  rw [hrecorded] at hrecorded'
  refine ⟨text, hread, hload, ofDocument_sampleBuild, ?_⟩
  rw [hturns]
  refine ⟨hrecorded', fun hkept => ?_, fun htwice => ?_⟩
  · have hstands : (sampleBegun 0).template 300 ∈
        standing (((Builds.start (stockedSite text) sampleBuild).turns sampleTurns).turn
          (.run 1 false)).recorded := by
      rw [hrecorded']
      exact List.mem_cons_self
    obtain ⟨text', inv, hread', hinv, hmem⟩ := hkept _ hstands
    rw [hstocked'.templates hread' hinv, List.map_singleton, List.mem_singleton] at hmem
    exact absurd (congrArg Template.name hmem) (by decide)
  · rw [Builds.NoneTwice, hrecorded'] at htwice
    exact absurd htwice (by decide)

end TemplateBuild
end Homelab
