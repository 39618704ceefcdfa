import Homelab.Manifest
import Homelab.Proofs.Inventory.Stored
import Homelab.Proofs.Resolution.SetAside

/-!
# Template manifests with one entry more

An entry that belongs to no field is kept with a template manifest, and changes nothing else of it:
neither the fields nor what is wrong with them.  A value that is set aside under such a key leaves a
manifest whose field is the token that stands for it.
-/

namespace Homelab

namespace Schema

variable {α : Type} {es es' front back : Entries} {key field : String} {v w : Value}

theorem given?_congr
    {names : List String}
    (h : ∀ name ∈ names, Entries.find? name es' = Entries.find? name es) :
    given? names es' = given? names es := by
  induction names with
  | nil => rfl
  | cons name rest ih =>
      rw [given?, given?, h name List.mem_cons_self,
        ih fun n hn => h n (List.mem_cons_of_mem _ hn)]

theorem mem_of_given?
    {names : List String} {name : String}
    (h : given? names es = some (name, v)) :
    name ∈ names := by
  induction names with
  | nil => cases h
  | cons first rest ih =>
      rw [given?] at h
      split at h
      · rw [(Prod.mk.inj (Option.some.inj h)).1]
        exact List.mem_cons_self
      · exact List.mem_cons_of_mem _ (ih h)

theorem required_congr
    {names : List String} {f : Value → Checked α}
    (h : given? names es' = given? names es) :
    required names f es' = required names f es := by
  rw [required, required, h]

theorem withDefault_congr
    {names : List String} {f : Value → Checked α} {default : α}
    (h : given? names es' = given? names es) :
    withDefault names f default es' = withDefault names f default es := by
  rw [withDefault, withDefault, h]

theorem optional_congr
    {names : List String} {f : Value → Checked α}
    (h : given? names es' = given? names es) :
    optional names f es' = optional names f es :=
  withDefault_congr h

/-- Entries in which a token stands in a field for its value, apart from one key. -/
def Replaced (field key token : String) (es es' : Entries) : Prop :=
  ∀ name, name ≠ key →
    Entries.find? name es' = if name = field then some (.str token) else Entries.find? name es

theorem given?_replaced
    {token : String} {names : List String}
    (h : Replaced field key token es es')
    (hkey : key ∉ names)
    (hfield : field ∉ names) :
    given? names es' = given? names es := by
  refine given?_congr fun name hname => ?_
  rw [h name (ne_of_mem_of_not_mem hname hkey), if_neg (ne_of_mem_of_not_mem hname hfield)]

/-- The text of a field is the token where it stands, and what it was elsewhere. -/
theorem required_replaced
    {token name s : String}
    (h : Replaced field key token es es')
    (hkey : name ≠ key)
    (hs : required [name] text es = .ok s) :
    required [name] text es' = .ok (if field = name then token else s) := by
  have hname := h name hkey
  by_cases heq : field = name
  · rw [if_pos heq.symm] at hname
    rw [required, given?, hname, if_pos heq]
    rfl
  · rw [if_neg fun h => heq h.symm] at hname
    rw [if_neg heq, ← hs]
    refine required_congr (given?_congr fun n hn => ?_)
    rw [List.mem_singleton.mp hn, hname]

/-- An entry that belongs to no field is kept beside the others. -/
theorem extras_inserted
    {fields : List (List String)}
    (hes : es.Keyed)
    (hnew : Entries.find? key es = none)
    (h : Inserted (.str key, v) es es')
    (hkey : ∀ names ∈ fields, key ∉ names) :
    ∃ extra extra', extras fields es = .ok extra ∧ extras fields es' = .ok extra' ∧
      Inserted (key, v) extra extra' := by
  have hgiven : ∀ names ∈ fields, given? names es' = given? names es := fun names hnames =>
    given?_congr fun name hname => Entries.find?_of_inserted h fun heq =>
      hkey names hnames (heq ▸ hname)
  have hused : usedNames fields es' = usedNames fields es := by
    rw [usedNames, usedNames]
    exact List.filterMap_congr fun names hnames => by rw [hgiven names hnames]
  have hunused : (usedNames fields es).contains key = false := by
    rw [List.contains_eq_mem, decide_eq_false_iff_not, usedNames, List.mem_filterMap]
    rintro ⟨names, hnames, hfound⟩
    obtain ⟨⟨name, w⟩, hgiven, rfl⟩ := Option.map_eq_some_iff.mp hfound
    exact hkey names hnames (mem_of_given? hgiven)
  refine ⟨_, _, extras_eq_filter hes fields, extras_eq_filter (hes.inserted h hnew) fields, ?_⟩
  rw [hused]
  exact (h.filter (by rw [Scalar.keyText, hunused]; rfl)).map fun e => (e.1.keyText, e.2)

end Schema

namespace TemplateManifest

open Checked Schema

variable {key field token : String} {v w w' : Value} {m : TemplateManifest}

/-- The names of the fields whose values are texts of any form. -/
def textFields : List String := ["name", "version", "iso_url", "packer_template_url", "network"]

/-- A manifest with one entry more that belongs to no field. -/
def Enlarged (key : String) (v : Value) (m m' : TemplateManifest) : Prop :=
  ∃ extra, Inserted (key, v) m.extra extra ∧ m' = { m with extra := extra }

/-- A manifest as far as its fields tell. -/
def known (es : Entries) : Checked (List (String × Value) → TemplateManifest) :=
  TemplateManifest.mk
    <$> required ["name"] text es
    <*> required ["version"] text es
    <*> required ["iso_url"] text es
    <*> required ["iso_file"] imageText es
    <*> required ["packer_template_url"] text es
    <*> required ["network"] text es
    <*> withDefault ["variables"] (mapping text) [] es
    <*> Schema.optional pathNames text es
    <*> Schema.optional ["ssh"] BuildHost.ofValue es

theorem check_map
    (es : Entries) :
    check (.map es) = ap (known es) (extras fields es) := rfl

/-- The fields of a manifest are those of its entries. -/
structure Reads (es : Entries) (m : TemplateManifest) : Prop where
  name : required ["name"] text es = .ok m.name
  version : required ["version"] text es = .ok m.version
  imageUrl : required ["iso_url"] text es = .ok m.imageUrl
  image : required ["iso_file"] imageText es = .ok m.image
  repository : required ["packer_template_url"] text es = .ok m.repository
  network : required ["network"] text es = .ok m.network
  vars : withDefault ["variables"] (mapping text) [] es = .ok m.vars
  imagePath : Schema.optional pathNames text es = .ok m.imagePath
  host : Schema.optional ["ssh"] BuildHost.ofValue es = .ok m.host

/-- The fields do not tell what else is kept. -/
theorem Reads.withExtra
    {es : Entries}
    (h : Reads es m)
    (extra : List (String × Value)) :
    Reads es { m with extra := extra } :=
  ⟨h.name, h.version, h.imageUrl, h.image, h.repository, h.network, h.vars, h.imagePath, h.host⟩

theorem known_eq_ok_iff
    {es : Entries} {f : List (String × Value) → TemplateManifest} :
    known es = .ok f ↔ ∃ m, Reads es m ∧ f = fun extra => { m with extra := extra } := by
  constructor
  · intro h
    simp only [known, map_eq, seq_eq, ap_eq_ok_iff, map_eq_ok_iff] at h
    obtain ⟨_, ⟨_, ⟨_, ⟨_, ⟨_, ⟨_, ⟨_, ⟨_, ⟨name, hname, rfl⟩, version, hversion, rfl⟩, url, hurl,
      rfl⟩, image, himage, rfl⟩, repository, hrepository, rfl⟩, network, hnetwork, rfl⟩, vars,
      hvars, rfl⟩, path, hpath, rfl⟩, host, hhost, rfl⟩ := h
    exact ⟨⟨name, version, url, image, repository, network, vars, path, host, []⟩,
      ⟨hname, hversion, hurl, himage, hrepository, hnetwork, hvars, hpath, hhost⟩, rfl⟩
  · rintro ⟨m, h, rfl⟩
    simp only [known, h.name, h.version, h.imageUrl, h.image, h.repository, h.network, h.vars,
      h.imagePath, h.host, map_eq, seq_eq, map_ok, ap_ok]

/-- The manifest of a document with one entry more that belongs to no field. -/
theorem ofValue_enlarged
    (h : Value.Enlarged key v w w')
    (hkey : ∀ names ∈ fields, key ∉ names) :
    Value.Alike (Enlarged key v) (ofValue w) (ofValue w') := by
  cases h with
  | @intro es es' keyed new inserted =>
      obtain ⟨extra, extra', hextra, hextra', hmore⟩ :=
        extras_inserted keyed new inserted hkey
      have hgiven : ∀ names ∈ fields, given? names es' = given? names es := fun names hnames =>
        given?_congr fun name hname => Entries.find?_of_inserted inserted fun heq =>
          hkey names hnames (heq ▸ hname)
      have hknown : known es' = known es := by
        simp (disch := decide) only [known, required, withDefault, Schema.optional, hgiven]
      rw [ofValue, ofValue, check_map, check_map, hknown, hextra, hextra']
      cases hfields : known es with
      | bad issues => exact .failed _
      | ok f =>
          obtain ⟨m, -, rfl⟩ := known_eq_ok_iff.mp hfields
          exact .given ⟨extra', hmore, rfl⟩

theorem ofValue_eq_ok_iff
    {es : Entries} :
    ofValue (.map es) = .ok m ↔ Reads es m ∧ extras fields es = .ok m.extra := by
  have hchecked : ofValue (.map es) = .ok m ↔ ap (known es) (extras fields es) = .ok m := by
    rw [ofValue, check_map]
    cases ap (known es) (extras fields es) <;> simp
  rw [hchecked, ap_eq_ok_iff]
  constructor
  · rintro ⟨f, hf, extra, hextra, rfl⟩
    obtain ⟨m, hreads, rfl⟩ := known_eq_ok_iff.mp hf
    exact ⟨hreads.withExtra extra, hextra⟩
  · rintro ⟨hreads, hextra⟩
    exact ⟨_, known_eq_ok_iff.mpr ⟨m, hreads, rfl⟩, _, hextra, rfl⟩

/-- A text field is a single value that is not empty. -/
theorem exists_scalar_of_textFields
    {es : Entries}
    (hm : ofValue (.map es) = .ok m)
    (hfield : field ∈ textFields)
    (hfound : Entries.find? field es = some v) :
    ∃ a, v = .scalar a ∧ a ≠ .null := by
  have hreads := (ofValue_eq_ok_iff.mp hm).1
  have htext : ∃ s, required [field] text es = .ok s := by
    simp only [textFields, List.mem_cons, List.not_mem_nil, or_false] at hfield
    rcases hfield with rfl | rfl | rfl | rfl | rfl
    exacts [⟨_, hreads.name⟩, ⟨_, hreads.version⟩, ⟨_, hreads.imageUrl⟩, ⟨_, hreads.repository⟩,
      ⟨_, hreads.network⟩]
  obtain ⟨s, hs⟩ := htext
  rw [required, given?, hfound] at hs
  have hs' := under_eq_ok_iff.mp hs
  unfold text at hs'
  split at hs'
  · exact ⟨_, rfl, by simp⟩
  · exact ⟨_, rfl, by simp⟩
  · cases hs'

/-- A manifest with a token for the text of one field. -/
def withToken (field token : String) (m : TemplateManifest) : TemplateManifest :=
  { m with
    name := if field = "name" then token else m.name
    version := if field = "version" then token else m.version
    imageUrl := if field = "iso_url" then token else m.imageUrl
    repository := if field = "packer_template_url" then token else m.repository
    network := if field = "network" then token else m.network }

theorem Reads.replaced
    {es es' : Entries}
    (h : Reads es m)
    (hreplaced : Replaced field key token es es')
    (hfield : field ∈ textFields)
    (hkey : ∀ names ∈ fields, key ∉ names) :
    Reads es' (m.withToken field token) := by
  have htext : ∀ name s, [name] ∈ fields → required [name] text es = .ok s →
      required [name] text es' = .ok (if field = name then token else s) := by
    intro name s hname hs
    refine required_replaced hreplaced (fun heq => ?_) hs
    exact hkey _ hname (List.mem_singleton.mpr heq.symm)
  have hother : ∀ names ∈ [["iso_file"], ["variables"], pathNames, ["ssh"]],
      given? names es' = given? names es := by
    have hnames : ∀ names ∈ [["iso_file"], ["variables"], pathNames, ["ssh"]],
        names ∈ fields ∧ ∀ f ∈ textFields, f ∉ names := by decide
    intro names hmem
    exact given?_replaced hreplaced (hkey _ (hnames _ hmem).1) ((hnames _ hmem).2 _ hfield)
  constructor
  · exact htext _ _ (by decide) h.name
  · exact htext _ _ (by decide) h.version
  · exact htext _ _ (by decide) h.imageUrl
  · rw [required_congr (hother _ (by decide)), h.image]
    rfl
  · exact htext _ _ (by decide) h.repository
  · exact htext _ _ (by decide) h.network
  · rw [withDefault_congr (hother _ (by decide)), h.vars]
    rfl
  · rw [optional_congr (hother _ (by decide)), h.imagePath]
    rfl
  · rw [optional_congr (hother _ (by decide)), h.host]
    rfl

/-- The manifest of a document in which the text of a field is set aside. -/
theorem exists_ofValue_setAside
    (h : Value.SetAside field key token v w w')
    (hfield : field ∈ textFields)
    (hkey : ∀ names ∈ fields, key ∉ names)
    (hm : ofValue w = .ok m) :
    ∃ extra, ofValue w' = .ok { m.withToken field token with extra := extra } := by
  cases h with
  | @intro front back es' keyed new inserted =>
      obtain ⟨hreads, -⟩ := ofValue_eq_ok_iff.mp hm
      have hreplaced : Replaced field key token (front ++ (.str field, v) :: back) es' := by
        intro name hname
        rw [Entries.find?_setAside keyed new inserted, if_neg hname]
      have hkeyed : es'.Keyed := keyed.replace.inserted inserted (by
        rw [Entries.find?_replaced keyed, if_neg (Entries.ne_of_new keyed new), new])
      exact ⟨_, ofValue_eq_ok_iff.mpr
        ⟨(hreads.replaced hreplaced hfield hkey).withExtra _, extras_eq_filter hkeyed _⟩⟩

end TemplateManifest
end Homelab
