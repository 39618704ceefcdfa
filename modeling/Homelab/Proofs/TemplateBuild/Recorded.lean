import Homelab.Proofs.TemplateBuild.Course

/-!
# What a build records

Whatever steps a build has been through, it has an inventory in memory that was once loaded, with
the templates that it has recorded itself entered since.  If it succeeds, it enters its template in
this inventory and replaces the templates of the file by the ones it has then.  Whatever else is in
the file stays.
-/

namespace Homelab
namespace TemplateBuild

open ActOn

/-! ### Templates entered in a list -/

section Enter

variable {t u : Template} {ts : List Template}

theorem mem_enter_self
    (t : Template) (ts : List Template) :
    t ∈ enter t ts := by
  induction ts with
  | nil => simp [enter]
  | cons v rest ih =>
      rw [enter]
      split
      · simp
      · exact List.mem_cons_of_mem v ih

theorem mem_of_mem_enter
    (h : u ∈ enter t ts) :
    u = t ∨ u ∈ ts := by
  induction ts with
  | nil => exact .inl (List.mem_singleton.mp h)
  | cons v rest ih =>
      rw [enter] at h
      split at h
      · exact (List.mem_cons.mp h).imp_right (List.mem_cons_of_mem v)
      · rcases List.mem_cons.mp h with rfl | h
        · exact .inr List.mem_cons_self
        · exact (ih h).imp_right (List.mem_cons_of_mem v)

/-- A template of another name stays in the list. -/
theorem mem_enter_of_ne
    (h : u ∈ ts)
    (hne : u.name ≠ t.name) :
    u ∈ enter t ts := by
  induction ts with
  | nil => cases h
  | cons v rest ih =>
      rw [enter]
      split
      · rename_i hname
        rcases List.mem_cons.mp h with rfl | h
        · exact absurd hname hne
        · exact List.mem_cons_of_mem t h
      · rcases List.mem_cons.mp h with rfl | h
        · exact List.mem_cons_self
        · exact List.mem_cons_of_mem v (ih h)

/-- A list in which each name stands once has nothing of a name beside the template that is
entered. -/
theorem mem_enter_iff
    (hnames : (ts.map Template.name).Nodup) :
    u ∈ enter t ts ↔ u = t ∨ u ∈ ts ∧ u.name ≠ t.name := by
  constructor
  · induction ts with
    | nil => exact fun h => .inl (List.mem_singleton.mp h)
    | cons v rest ih =>
        obtain ⟨hnot, hrest⟩ := List.nodup_cons.mp hnames
        intro h
        rw [enter] at h
        split at h
        · rename_i hname
          rcases List.mem_cons.mp h with rfl | h
          · exact .inl rfl
          · refine .inr ⟨List.mem_cons_of_mem v h, fun hsame => hnot ?_⟩
            exact List.mem_map.mpr ⟨u, h, hsame.trans hname.symm⟩
        · rename_i hname
          rcases List.mem_cons.mp h with rfl | h
          · exact .inr ⟨List.mem_cons_self, hname⟩
          · exact (ih hrest h).imp_right fun h => ⟨List.mem_cons_of_mem v h.1, h.2⟩
  · rintro (rfl | ⟨h, hne⟩)
    · exact mem_enter_self u ts
    · exact mem_enter_of_ne h hne

theorem nodup_enter
    (hnames : (ts.map Template.name).Nodup) :
    ((enter t ts).map Template.name).Nodup := by
  induction ts with
  | nil => simp [enter]
  | cons v rest ih =>
      obtain ⟨hnot, hrest⟩ := List.nodup_cons.mp hnames
      rw [enter]
      split
      · rename_i hname
        rw [List.map_cons, ← hname]
        exact List.nodup_cons.mpr ⟨hnot, hrest⟩
      · rename_i hname
        refine List.nodup_cons.mpr ⟨fun hmem => ?_, ih hrest⟩
        obtain ⟨u, hu, hsame⟩ := List.mem_map.mp hmem
        rcases mem_of_mem_enter hu with rfl | hu
        · exact hname hsame.symm
        · exact hnot (List.mem_map.mpr ⟨u, hu, hsame⟩)

/-- The template that is entered keeps the machine numbers distinct, if its own is none of those
that stay. -/
theorem nodup_vmids_enter
    (hnames : (ts.map Template.name).Nodup)
    (hvmids : (ts.map Template.vmid).Nodup)
    (hnew : ∀ u ∈ ts, u.name ≠ t.name → u.vmid ≠ t.vmid) :
    ((enter t ts).map Template.vmid).Nodup := by
  induction ts with
  | nil => simp [enter]
  | cons v rest ih =>
      obtain ⟨hname, hnames⟩ := List.nodup_cons.mp hnames
      obtain ⟨hvmid, hvmids⟩ := List.nodup_cons.mp hvmids
      rw [enter]
      split
      · rename_i hsame
        refine List.nodup_cons.mpr ⟨fun hmem => ?_, hvmids⟩
        obtain ⟨u, hu, hequal⟩ := List.mem_map.mp hmem
        refine hnew u (List.mem_cons_of_mem v hu) (fun h => hname ?_) hequal
        exact List.mem_map.mpr ⟨u, hu, h.trans hsame.symm⟩
      · rename_i hother
        refine List.nodup_cons.mpr ⟨fun hmem => ?_,
          ih hnames hvmids fun u hu => hnew u (List.mem_cons_of_mem v hu)⟩
        obtain ⟨u, hu, hequal⟩ := List.mem_map.mp hmem
        rcases mem_of_mem_enter hu with rfl | hu
        · exact hnew v List.mem_cons_self hother hequal.symm
        · exact hvmid (List.mem_map.mpr ⟨u, hu, hequal⟩)

theorem enter_of_new
    (h : t.name ∉ ts.map Template.name) :
    enter t ts = ts ++ [t] := by
  induction ts with
  | nil => rfl
  | cons v rest ih =>
      obtain ⟨hne, hrest⟩ := not_or.mp (List.mem_cons.not.mp h)
      rw [enter, if_neg (Ne.symm hne), ih hrest, List.cons_append]

end Enter

/-! ### What a build has in memory -/

/-- A build that has been through any steps, on whatever sites. -/
inductive Used [DepthLimits] : TemplateBuild → Prop where
  | fresh {build : TemplateBuild} {document : Value} {file : String} {settings : Settings}
      (h : ofDocument document file settings = .ok build) : Used build
  | afterInit {build : TemplateBuild} (h : Used build) (site : Site) :
      Used (ending init build site).1.2
  | afterRun {build : TemplateBuild} (h : Used build) (replace : Bool) (site : Site) :
      Used (ending (run replace) build site).1.2

/-- An inventory whose templates can be written to a document. -/
structure Recordable [DepthLimits] (inv : Inventory) : Prop where
  wellFormed : inv.WellFormed
  templates : ∀ t ∈ inv.templates, t.Fits (DepthLimits.reading - 3)

/-- A template stands in three lists and mappings of the document. -/
theorem template_room [DepthLimits] :
    DepthLimits.reading - 3 + 3 = DepthLimits.reading :=
  DepthLimits.sub_add_reading (by omega)

theorem recordable_of_load [DepthLimits]
    {file : String} {inv : Inventory} {site : Site}
    (h : (outcome (Inventory.load file) site).1 = .ok inv) :
    Recordable inv := by
  obtain ⟨text, -, htext⟩ := Inventory.text_of_load h
  obtain ⟨document, hdocument, hinv⟩ := Ledger.documentOfText_of_ofText htext
  have hfits := Json.fits_of_read (Ledger.read_of_documentOfText hdocument)
  rw [← template_room] at hfits
  exact ⟨Inventory.wellFormed_of_ofValue hinv, Inventory.templates_fit hfits hinv⟩

/-- With the template entered that a build makes, an inventory can still be written. -/
theorem Recordable.withTemplate [DepthLimits]
    {inv : Inventory} {vmid : Int}
    (h : Recordable inv)
    (build : TemplateBuild)
    (hvmid : inv.nextVmid Resource.template.name = .ok vmid) :
    Recordable (inv.withTemplate (build.template vmid)) := by
  obtain ⟨-, r, hr, hfirst, hlast⟩ := Inventory.nextVmid_spec hvmid
  obtain rfl : Resource.template = r := Option.some.inj hr
  have hdigits : vmid.natAbs < 10 ^ Json.digitLimit := by
    have hbound : vmid.natAbs < 10 ^ 3 := by
      simp only [Resource.last, Resource.first] at hfirst hlast
      omega
    exact Nat.lt_of_lt_of_le hbound (Nat.pow_le_pow_right (by omega) (by decide))
  have hnew : ∀ t ∈ enter (build.template vmid) inv.templates, t.WellFormed ∧
      t.Fits (DepthLimits.reading - 3) := by
    intro t ht
    rcases mem_of_mem_enter ht with rfl | ht
    · exact ⟨by simp [Template.WellFormed, template, Extra.Clear], hdigits, Extra.fits_nil _⟩
    · exact ⟨h.wellFormed.templates t ht, h.templates t ht⟩
  exact ⟨{ h.wellFormed with templates := fun t ht => (hnew t ht).1 }, fun t ht => (hnew t ht).2⟩

theorem exists_manifest_of_ofDocument
    {build : TemplateBuild} {document : Value} {file : String} {settings : Settings}
    (h : ofDocument document file settings = .ok build) :
    ∃ m, TemplateManifest.ofValue document = .ok m ∧
      build = ⟨document, m, file, settings, m.host.map BuildHost.host, none, none, none⟩ := by
  rw [ofDocument] at h
  cases hm : TemplateManifest.ofValue document with
  | error e =>
      rw [hm] at h
      cases h
  | ok m =>
      rw [hm] at h
      exact ⟨m, rfl, (Except.ok.inj h).symm⟩

theorem of_ofDocument
    {build : TemplateBuild} {document : Value} {file : String} {settings : Settings}
    (h : ofDocument document file settings = .ok build) :
    build.file = file ∧ build.inventory = none := by
  obtain ⟨manifest, -, rfl⟩ := exists_manifest_of_ofDocument h
  exact ⟨rfl, rfl⟩

/-- What holds of every inventory that is loaded, and still holds with a template entered, holds of
what a build has in memory. -/
theorem Used.holds [DepthLimits]
    {p : Inventory → Prop} {build : TemplateBuild}
    (h : Used build)
    (hload : ∀ file site inv, (outcome (Inventory.load file) site).1 = .ok inv → p inv)
    (henter : ∀ (build : TemplateBuild) inv vmid, p inv →
      inv.nextVmid Resource.template.name = .ok vmid → p (inv.withTemplate (build.template vmid))) :
    ∀ inv, build.inventory = some inv → p inv := by
  induction h with
  | fresh h =>
      intro inv hinv
      cases (of_ofDocument h).2.symm.trans hinv
  | @afterInit build _ site ih =>
      intro inv hinv
      rw [(loads_init build site).inventory] at hinv
      cases hfound : (outcome (Inventory.load build.file) site).1 with
      | ok found =>
          rw [hfound] at hinv
          obtain rfl := Option.some.inj hinv
          exact hload build.file site found hfound
      | error e =>
          rw [hfound] at hinv
          exact ih inv hinv
  | @afterRun build _ replace site ih =>
      intro inv hinv
      rcases (ending_run build replace site).inventory with
        hsame | ⟨found, vmid, hfound, hvmid, hbuilt⟩
      · exact ih inv (hsame ▸ hinv)
      · obtain rfl := Option.some.inj (hbuilt.symm.trans hinv)
        exact henter build found vmid (ih found hfound) hvmid

theorem Used.recordable [DepthLimits]
    {build : TemplateBuild}
    (h : Used build) :
    ∀ inv, build.inventory = some inv → Recordable inv :=
  h.holds (fun _ _ _ => recordable_of_load) fun build _ _ hinv hvmid => hinv.withTemplate build hvmid

/-! ### What a build records -/

/-- A build has written the templates that it has in memory to the file, with its own entered. -/
structure Recorded [DepthLimits] (build : TemplateBuild) (site after : Site) (inv : Inventory)
    (vmid : Int) (document : Value) (text : String) : Prop where
  inventory : build.inventory = some inv
  number : inv.nextVmid Resource.template.name = .ok vmid
  read : after.read build.file = .ok text
  holds : Inventory.HoldsTemplates document (enter (build.template vmid) inv.templates) text
  before : ∃ text', site.read build.file = .ok text' ∧
    Inventory.documentOfText build.file text' = .ok document
  disk : ∃ disk, Inventory.ofText build.file text = .ok disk ∧
    disk.templates.map Template.bare =
      (enter (build.template vmid) inv.templates).map Template.bare ∧
    ∀ before, Inventory.ofValue document = .ok before → disk.bare =
      Inventory.bare { before with templates := enter (build.template vmid) inv.templates }

theorem Used.recorded [DepthLimits]
    {build : TemplateBuild} {replace : Bool} {site : Site} {vmid : Int}
    (hused : Used build)
    (h : (ending (run replace) build site).1.1 = .ok vmid) :
    ∃ inv document text,
      Recorded build site (ending (run replace) build site).2 inv vmid document text := by
  have hends := ending_run build replace site
  generalize ending (run replace) build site = ends at hends h
  cases hends with
  | failed => cases h
  | @recorded inv vmid' text text' document before after hinventory hvmid hkeeps hread hdocument
      htext hafter =>
      obtain rfl := Except.ok.inj h
      have hrecordable := (hused.recordable inv hinventory).withTemplate build hvmid
      have hfits := Json.fits_of_read (Ledger.read_of_documentOfText hdocument)
      rw [← template_room] at hfits
      obtain ⟨hcontent, hholds, stored, disk, hstored, hdisk, htemplates, hrest⟩ :=
        Inventory.textWith_templates hrecordable.wellFormed template_room hfits
          hrecordable.templates htext
      refine ⟨inv, document, text', hinventory, hvmid, ?_, hholds, ⟨text, ?_, hdocument⟩, disk, ?_,
        htemplates, hrest⟩
      · rw [hafter.read]
        exact Site.read_write hread hcontent
      · rw [← hkeeps.read]
        exact hread
      · rw [Inventory.ofText, Inventory.documentOfText, hstored, Inventory.documentOf]
        exact hdisk

end TemplateBuild
end Homelab
