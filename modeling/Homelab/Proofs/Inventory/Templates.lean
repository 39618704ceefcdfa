import Homelab.Proofs.Inventory.Stored

/-!
# Templates in a document

The templates of an inventory from a JSON document can be written to a document again.  Where
they are put in the place of the ones in a file, the file has these templates then and nothing
of the ones before, and everything else in it is as it was.
-/

namespace Homelab

open Checked Schema

/-! ### Templates -/

/-- A template that can be written. -/
structure Template.Fits (depth : Nat) (t : Template) : Prop where
  vmid : t.vmid.natAbs < 10 ^ Json.digitLimit
  extra : t.extra.Fits depth

namespace Template

variable {depth : Nat} {v : Value} {t : Template}

theorem all_fits
    (hv : v.Fits (depth + 1)) :
    All (Fits depth) (ofValue v) := by
  refine all_record_fits _ hv fun es hes => ?_
  refine all_ap (all_ap (all_ap (all_map ?_ (all_true _)) (all_true _))
    (all_required_fits hes _ fun w hw => all_integer hw)) (all_extras_fits hes _)
  intro name _ version _ vmid hvmid extra hextra
  exact ⟨hvmid, hextra⟩

theorem fits_toValue
    (hform : t.WellFormed)
    (h : t.Fits depth) :
    t.toValue.Fits (depth + 1) := by
  refine (layout hform).fits ?_ h.extra
  intro f hf
  simp only [List.mem_cons, List.not_mem_nil, or_false] at hf
  rcases hf with rfl | rfl | rfl
  · exact .scalar trivial
  · exact .scalar trivial
  · exact .scalar h.vmid

/-- The part of a document that lists templates, with its keys in order. -/
def listed (ts : List Template) : Value := (Value.list (ts.map toValue)).sorted

theorem length_eq_of_listed_eq
    {ts us : List Template}
    (h : listed ts = listed us) :
    ts.length = us.length := by
  simp only [listed, Value.sorted, Value.sortedItems_eq, Value.list.injEq] at h
  simpa using congrArg List.length h

end Template

namespace Inventory

variable {depth : Nat} {document v : Value} {disk inv : Inventory} {text : String}

theorem templates_fit
    (hfits : document.Fits (depth + 3))
    (hdisk : ofValue document = .ok disk) :
    ∀ t ∈ disk.templates, t.Fits depth := by
  obtain ⟨es, rfl, hread, -⟩ := ofValue_eq_ok_iff.mp hdisk
  obtain ⟨d, hd, hes⟩ := hfits.entries
  obtain rfl : depth + 2 = d := by omega
  have hall : All (fun inv => ∀ t ∈ inv.templates, t.Fits depth) (ofFields es) := by
    refine all_ap (all_ap (all_ap (all_ap (all_ap (all_ap (all_map ?_ (all_true _)) (all_true _))
      (all_true _)) (all_true _))
      (all_withDefault_fits hes _ (fun w hw => all_list_fits hw fun _ => Template.all_fits)
        (by simp))) (all_true _)) (all_true _)
    intro cluster _ modules _ networks _ hosts _ templates htemplates reserved _ extra _
    exact htemplates
  exact hall disk hread

/-! ### Other templates in a document -/

theorem withDefault_put_templates
    {es : Entries} {ts : List Template}
    (hes : es.Keyed)
    (hv : list Template.ofValue v = .ok ts) :
    withDefault ["templates"] (list Template.ofValue) [] (Entries.put (.str "templates") v es) =
      .ok ts := by
  rw [withDefault, given?, Entries.find?_put hes, if_pos rfl]
  simp [hv]

theorem bare_templates_normal
    (inv : Inventory) (ts : List Template) :
    Inventory.bare { inv with templates := ts.map Template.normal } =
      Inventory.bare { inv with templates := ts } := by
  simp [bare, Template.bare, Template.normal]

/-- With a field set to some templates, a document is read with these templates. -/
theorem templates_of_put
    {es : Entries} {ts : List Template}
    (hes : es.Keyed)
    (hform : ∀ t ∈ ts, t.WellFormed)
    (h : ofFields (Entries.put (.str "templates") (.list (ts.map Template.toValue)) es) = .ok inv) :
    inv.templates = ts.map Template.normal := by
  have hread := withDefault_put_templates hes
    (list_map fun t ht => Template.ofValue_toValue (hform t ht))
  rw [ofFields] at h
  simp only [Checked.map_eq, Checked.seq_eq, ap_eq_ok_iff, map_eq_ok_iff, hread] at h
  obtain ⟨f₇, ⟨f₆, ⟨f₅, ⟨f₄, ⟨f₃, ⟨f₂, ⟨cluster, -, rfl⟩, modules, -, rfl⟩, networks, -, rfl⟩, hosts,
    -, rfl⟩, templates, htemplates, rfl⟩, reserved, -, rfl⟩, extra, -, rfl⟩ := h
  exact (Checked.ok.inj htemplates).symm

theorem ofFields_put_templates
    {es : Entries} {ts : List Template}
    (hes : es.Keyed)
    (h : ofFields es = .ok disk)
    (hv : list Template.ofValue v = .ok ts) :
    ofFields (Entries.put (.str "templates") v es) = .ok { disk with templates := ts } := by
  have hread := withDefault_put_templates hes hv
  rw [ofFields] at h ⊢
  simp only [Checked.map_eq, Checked.seq_eq] at h ⊢
  rw [hread, required_put hes (by decide), required_put hes (by decide),
    withDefault_put hes (by decide), withDefault_put hes (by decide),
    withDefault_put hes (by decide), extras_put hes (by simp [fields]) (by simp [fields])]
  simp only [ap_eq_ok_iff, map_eq_ok_iff] at h ⊢
  obtain ⟨f₇, ⟨f₆, ⟨f₅, ⟨f₄, ⟨f₃, ⟨f₂, ⟨cluster, hcluster, rfl⟩, modules, hmodules, rfl⟩, networks,
    hnetworks, rfl⟩, hosts, hhosts, rfl⟩, templates, -, rfl⟩, reserved, hreserved, rfl⟩, extra,
    hextra, rfl⟩ := h
  exact ⟨_, ⟨_, ⟨_, ⟨_, ⟨_, ⟨_, ⟨cluster, hcluster, rfl⟩, modules, hmodules, rfl⟩, networks,
    hnetworks, rfl⟩, hosts, hhosts, rfl⟩, ts, rfl, rfl⟩, reserved, hreserved, rfl⟩, extra,
    hextra, rfl⟩

/-- A text holds a document with other templates: everything else is under its key as before,
with sorted keys. -/
structure HoldsTemplates [DepthLimits] (document : Value) (ts : List Template) (text : String) :
    Prop where
  stored : ∃ stored, Json.read text = .ok stored ∧
    stored.get? "templates" = some (Template.listed ts) ∧
    ∀ key, key ≠ "templates" → stored.get? key = (document.get? key).map Value.sorted

/-- A text holds one list of templates only. -/
theorem HoldsTemplates.listed_eq [DepthLimits]
    {ts us : List Template}
    (h : HoldsTemplates document ts text)
    (h' : HoldsTemplates document us text) :
    Template.listed ts = Template.listed us := by
  obtain ⟨stored, hread, htemplates, -⟩ := h.stored
  obtain ⟨stored', hread', htemplates', -⟩ := h'.stored
  obtain rfl := Except.ok.inj (hread.symm.trans hread')
  exact Option.some.inj (htemplates.symm.trans htemplates')

theorem HoldsTemplates.congr [DepthLimits]
    {ts us : List Template}
    (h : HoldsTemplates document ts text)
    (hsame : Template.listed ts = Template.listed us) :
    HoldsTemplates document us text := by
  obtain ⟨stored, hread, htemplates, hrest⟩ := h.stored
  exact ⟨stored, hread, hsame ▸ htemplates, hrest⟩

section Written

variable (hform : inv.WellFormed)

include hform

/-- With the templates of an inventory its document has one field set. -/
theorem replaceEntries_templates
    (es : Entries) :
    replaceEntries inv.entries ["templates"] es =
      Entries.put (.str "templates") (.list (inv.templates.map Template.toValue)) es := by
  have hlookup : inv.written.lookup "templates" =
      some (.list (inv.templates.map Template.toValue)) := rfl
  exact replaceEntries_singleton ((layout_written hform.clear).find?_eq hlookup) es

variable [DepthLimits] (hlimit : depth + 3 = DepthLimits.reading)
  (hfits : document.Fits (depth + 3))
  (htemplates : ∀ t ∈ inv.templates, t.Fits depth)

include hlimit htemplates

theorem put_templates_fits
    {es : Entries}
    (hes : Entries.Fits (depth + 2) es) :
    (Value.map (Entries.put (.str "templates") (.list (inv.templates.map Template.toValue)) es)).Fits
      DepthLimits.reading := by
  rw [← hlimit]
  refine .map hes.keyed.put fun e he => ?_
  rcases Entries.mem_put hes.keyed.text e he with he | rfl
  · exact hes.values e he
  · refine .list fun w hw => ?_
    obtain ⟨t, ht, rfl⟩ := List.mem_map.mp hw
    exact Template.fits_toValue (hform.templates t ht) (htemplates t ht)

include hfits

/-- The text that is written with the templates of an inventory holds them, and an inventory
with them, which is the one that was there otherwise. -/
theorem textWith_templates
    (h : inv.textWith ["templates"] document = .ok text) :
    (Content.text text).read = .ok text ∧ HoldsTemplates document inv.templates text ∧
      ∃ stored disk, Json.read text = .ok stored ∧ ofValue stored = .ok disk ∧
        disk.templates.map Template.bare = inv.templates.map Template.bare ∧
        ∀ before, ofValue document = .ok before →
          disk.bare = Inventory.bare { before with templates := inv.templates } := by
  obtain ⟨-, es, rfl, ⟨disk, hdisk⟩, htext⟩ := textWith_eq_ok_iff.mp h
  rw [replaceEntries_templates hform] at hdisk htext
  obtain ⟨d, hd, hes⟩ := hfits.entries
  obtain rfl : depth + 2 = d := by omega
  have hstored := put_templates_fits hform hlimit htemplates hes
  obtain ⟨text', htext', hback⟩ := Json.read_fileText hstored
  obtain rfl := Option.some.inj (htext.symm.trans htext')
  obtain ⟨es', hes', hread, -⟩ := ofValue_eq_ok_iff.mp hdisk
  obtain rfl := Value.map.inj hes'
  refine ⟨Json.content_fileText hstored htext, ⟨_, hback, ?_, ?_⟩, _, _, hback,
    ofValue_sorted hstored hdisk, ?_, ?_⟩
  · rw [Entries.sorted_map, Value.get?, Entries.find?_sorted hes.keyed.put,
      Entries.find?_put hes.keyed, if_pos rfl]
    rfl
  · intro key hkey
    rw [Entries.sorted_map, Value.get?, Entries.find?_sorted hes.keyed.put,
      Entries.find?_put hes.keyed, if_neg hkey]
    rfl
  · have hbare : disk.sorted.templates.map Template.bare = disk.templates.map Template.bare :=
      congrArg Inventory.templates (bare_sorted disk)
    have hnormal : Template.bare ∘ Template.normal = Template.bare := rfl
    rw [hbare, templates_of_put hes.keyed hform.templates hread, List.map_map, hnormal]
  · intro before hbefore
    obtain ⟨es', hes', hread', -⟩ := ofValue_eq_ok_iff.mp hbefore
    obtain rfl := Value.map.inj hes'
    have hput := ofFields_put_templates hes.keyed hread'
      (list_map fun t ht => Template.ofValue_toValue (hform.templates t ht))
    obtain rfl := Checked.ok.inj (hread.symm.trans hput)
    rw [bare_sorted]
    exact bare_templates_normal before inv.templates

/-- The templates of an inventory can be written to a document if the inventory of this keeps to
the rules with them. -/
theorem exists_textWith_templates
    (hdisk : ofValue document = .ok disk)
    (hwritable : inv.isWritable = true)
    (hvalid : Valid { disk with templates := inv.templates }) :
    ∃ text, inv.textWith ["templates"] document = .ok text := by
  obtain ⟨es, rfl, hread, hfault⟩ := ofValue_eq_ok_iff.mp hdisk
  obtain ⟨d, hd, hes⟩ := hfits.entries
  obtain rfl : depth + 2 = d := by omega
  have hstored := put_templates_fits hform hlimit htemplates hes
  have hread' := ofFields_put_templates hes.keyed hread
    (list_map fun t ht => Template.ofValue_toValue (hform.templates t ht))
  have hbare := bare_templates_normal disk inv.templates
  have hvalue := ofValue_eq_ok_iff.mpr
    ⟨_, rfl, hread', fault?_eq_none_iff.mpr (hvalid.of_bare_eq hbare)⟩
  obtain ⟨text, htext, -⟩ := Json.read_fileText hstored
  refine ⟨text, textWith_eq_ok_iff.mpr ⟨hwritable, es, rfl, ?_⟩⟩
  rw [replaceEntries_templates hform]
  exact ⟨⟨_, hvalue⟩, htext⟩

end Written

end Inventory
end Homelab
