import Homelab.Proofs.Ledger.Commit

/-!
# What is written to an inventory file

Some fields of an inventory file become those of an inventory in memory.  The file is read
again, its fields are replaced, and the result is checked.  Then it is written to a new file,
which takes the place of the old one under its name.  Any of this can fail, and the new file may
be there by then, empty or with a part of the text; so it is removed again.  In the end either
all is done, or nothing has changed.
-/

namespace Homelab

/-! ### Files -/

namespace Site

theorem lookup_put_of_ne
    {name other : String}
    (h : other ≠ name)
    (content : Content) (files : List (String × Content)) :
    (put name content files).lookup other = files.lookup other := by
  induction files with
  | nil =>
      have hbeq : (other == name) = false := by simpa using h
      rw [put, List.lookup_cons, hbeq]
  | cons f rest ih =>
      obtain ⟨n, c⟩ := f
      by_cases hn : n = name
      · have hbeq : (other == n) = false := by simpa [hn] using h
        rw [put, if_pos hn, List.lookup_cons, List.lookup_cons, hbeq]
      · rw [put, if_neg hn, List.lookup_cons, List.lookup_cons, ih]

/-- A file that is there keeps its place in the listing. -/
theorem map_fst_put
    {name : String} {files : List (String × Content)}
    (h : (files.lookup name).isSome = true)
    (content : Content) :
    (put name content files).map Prod.fst = files.map Prod.fst := by
  induction files with
  | nil => simp at h
  | cons f rest ih =>
      obtain ⟨n, c⟩ := f
      by_cases hn : n = name
      · rw [put, if_pos hn]
        rfl
      · have hbeq : (name == n) = false := by simpa using Ne.symm hn
        rw [List.lookup_cons, hbeq] at h
        rw [put, if_neg hn, List.map_cons, List.map_cons, ih h]

theorem put_put
    (name : String) (content later : Content) (files : List (String × Content)) :
    put name later (put name content files) = put name later files := by
  induction files with
  | nil => simp [put]
  | cons f rest ih =>
      obtain ⟨n, c⟩ := f
      by_cases hn : n = name
      · simp [put, hn]
      · simp [put, hn, ih]

/-- A file that can be read is there. -/
theorem isSome_of_read
    {site : Site} {file text : String}
    (h : site.read file = .ok text) :
    (site.file? file).isSome = true := by
  cases hfile : site.file? file with
  | some content => rfl
  | none =>
      have herror : ∃ e, site.contentOf file = .error e := by
        simp only [contentOf, hfile]
        split
        · exact ⟨_, rfl⟩
        · split
          · exact ⟨_, rfl⟩
          · split
            · exact ⟨_, rfl⟩
            · split <;> exact ⟨_, rfl⟩
      obtain ⟨e, he⟩ := herror
      rw [read, he] at h
      cases h

theorem write_write
    (site : Site) (name : String) (content later : Content) :
    (site.write name content).write name later = site.write name later := by
  simp only [write, put_put]

/-- A file that was not there can be removed without a trace. -/
theorem remove_write
    {site : Site} {name : String}
    (h : site.file? name = none)
    (content : Content) :
    (site.write name content).remove name = site := by
  have hfiles : ∀ files : List (String × Content), files.lookup name = none →
      (put name content files).filter (fun f => f.1 ≠ name) = files := by
    intro files hnone
    induction files with
    | nil => simp [put]
    | cons f rest ih =>
        obtain ⟨n, c⟩ := f
        rw [List.lookup_cons] at hnone
        by_cases hn : n = name
        · simp [hn] at hnone
        · have hbeq : (name == n) = false := by simpa using Ne.symm hn
          rw [hbeq] at hnone
          rw [put, if_neg hn, List.filter_cons_of_pos (by simpa using hn), ih hnone]
  simp only [remove, write, hfiles site.files h]

end Site

/-! ### The steps -/

namespace Inventory

/-- A document with some fields as in an inventory, if it is an inventory then. -/
def mergedWith (inv : Inventory) (fields : List String) (current : Value) :
    Except Failure Value := do
  let merged ← fields.foldlM (replaceField (← inv.document)) current
  let _ ← ofValue merged
  return merged

theorem textWith_eq
    (inv : Inventory) (fields : List String) (current : Value) :
    inv.textWith fields current =
      match inv.mergedWith fields current with
      | .error e => .error e
      | .ok merged =>
          match Json.fileText? merged with
          | some text => .ok text
          | none => .error (.unwritten merged) := by
  simp only [textWith, mergedWith, bind, Except.bind, pure, Except.pure]
  cases inv.document with
  | error e => rfl
  | ok updated =>
      simp only
      cases fields.foldlM (replaceField updated) current with
      | error e => rfl
      | ok merged =>
          simp only
          cases ofValue merged <;> rfl

end Inventory

/-- What the system does about the new file that a text is written to. -/
structure Workplace where
  /-- The letters that are tried for the name of the new file, in order. -/
  letters : List String
  /-- Why no file can be made, if that is so. -/
  makeFault : Option String
  /-- Why nothing can be written to the file, if that is so. -/
  writeFault : Option String
  /-- What is in the file by the time that writing to it fails. -/
  begun : String

namespace Workplace

variable (place : Workplace)

/-- The name of a new file beside another, with some letters in it. -/
def nameBeside (file letters : String) : String :=
  let base := (file.toList.reverse.takeWhile (· ≠ '/')).reverse
  String.ofList (file.toList.take (file.toList.length - base.length)) ++
    "." ++ String.ofList base ++ "." ++ letters ++ ".tmp"

/-- The first name that no file has yet. -/
def freeName? (file : String) (site : Site) : Option String :=
  (place.letters.map (nameBeside file)).find? fun name => (site.file? name).isNone

/-- A new file beside another is made, with nothing in it. -/
def make (file : String) : Act String := do
  let site ← get
  match place.makeFault, place.freeName? file site with
  | some reason, _ => throw (.system reason)
  | none, none => throw (.system "No usable temporary file name found")
  | none, some name =>
      set (site.write name (.text ""))
      return name

/-- A document is written to a file; a part of it may be there if this fails. -/
def fill (name : String) (document : Value) : Act Unit := do
  match Json.fileText? document, place.writeFault with
  | some text, none => modify fun site => site.write name (.text text)
  | some _, some reason =>
      modify fun site => site.write name (.text place.begun)
      throw (.system reason)
  | none, _ =>
      modify fun site => site.write name (.text place.begun)
      throw (.unwritten document)

/-- A file takes the place of another. -/
def rename (name file : String) : Act Unit := do
  let site ← get
  match site.outside.replaceFault, site.file? name with
  | some reason, _ => throw (.system reason)
  | none, some content => set ((site.remove name).write file content)
  | none, none => throw (.fileNotFound name)

/-- If an act fails a file is removed, and the act has failed all the same. -/
def orRemove (name : String) (act : Act Unit) : Act Unit := do
  try act
  catch e =>
    modify fun site => site.remove name
    throw e

/-- A document is written to a new file, which takes the place of another. -/
def replace (file : String) (document : Value) : Act Unit := do
  let name ← place.make file
  orRemove name do
    place.fill name document
    rename name file

/-- Some fields of an inventory file become those of an inventory, step by step. -/
def persist [DepthLimits] (inv : Inventory) (file : String) (fields : List String) : Act Unit := do
  let current ← Act.ofExcept (Inventory.documentOfText file (← Act.readFile file))
  let merged ← Act.ofExcept (inv.mergedWith fields current)
  place.replace file merged

/-- Nothing goes wrong with a new file beside another. -/
structure Works (file : String) (site : Site) : Prop where
  make : place.makeFault = none
  write : place.writeFault = none
  free : ∃ name, place.freeName? file site = some name

variable {place} {site : Site} {file name : String}

theorem freeName?_spec
    (h : place.freeName? file site = some name) :
    site.file? name = none := by
  simpa using List.find?_some h

theorem outcome_make
    (place : Workplace) (file : String) (site : Site) :
    outcome (place.make file) site =
      match place.makeFault, place.freeName? file site with
      | some reason, _ => (.error (.system reason), site)
      | none, none => (.error (.system "No usable temporary file name found"), site)
      | none, some name => (.ok name, site.write name (.text "")) := by
  rw [make, outcome_bind, outcome_get]
  cases place.makeFault with
  | some reason => rfl
  | none => cases hfree : place.freeName? file site <;> simp [hfree, Except.map]

theorem outcome_orRemove
    (name : String) (act : Act Unit) (site : Site) :
    outcome (orRemove name act) site =
      match outcome act site with
      | (.ok a, after) => (.ok a, after)
      | (.error e, after) => (.error e, after.remove name) := by
  rw [orRemove, outcome_tryCatch]
  rcases outcome act site with ⟨_ | a, after⟩ <;> simp

/-- A new file is filled and takes the place of another, or it is gone and the site is as before
there was a new file. -/
theorem outcome_fill_rename
    (h : site.file? name = none)
    (document : Value) :
    outcome (orRemove name do place.fill name document; rename name file)
        (site.write name (.text "")) =
      match Json.fileText? document, place.writeFault, site.outside.replaceFault with
      | none, _, _ => (.error (.unwritten document), site)
      | some _, some reason, _ => (.error (.system reason), site)
      | some _, none, some reason => (.error (.system reason), site)
      | some text, none, none => (.ok (), site.write file (.text text)) := by
  have hremove := Site.remove_write h
  rw [outcome_orRemove, outcome_bind, fill]
  cases Json.fileText? document with
  | none => simp [Site.write_write, hremove]
  | some text =>
      cases place.writeFault with
      | some reason => simp [Site.write_write, hremove]
      | none =>
          have hfilled : (site.write name (.text text)).file? name = some (.text text) :=
            Site.lookup_put name _ _
          have houtside : (site.write name (.text text)).outside = site.outside := rfl
          simp only [outcome_modify, Site.write_write, rename, outcome_bind, outcome_get, hfilled,
            houtside]
          cases site.outside.replaceFault <;> simp [hremove]

/-- A document is in the file, or the site is as it was. -/
theorem outcome_replace_cases
    (place : Workplace) (file : String) (document : Value) (site : Site) :
    (∃ e, outcome (place.replace file document) site = (.error e, site)) ∨
      ∃ text, Json.fileText? document = some text ∧
        outcome (place.replace file document) site = (.ok (), site.write file (.text text)) := by
  rw [replace, outcome_bind, outcome_make]
  cases place.makeFault with
  | some reason => exact .inl ⟨_, rfl⟩
  | none =>
      cases hfree : place.freeName? file site with
      | none => exact .inl ⟨_, rfl⟩
      | some name =>
          simp only [outcome_fill_rename (freeName?_spec hfree)]
          cases Json.fileText? document with
          | none => exact .inl ⟨_, rfl⟩
          | some text =>
              cases place.writeFault with
              | some reason => exact .inl ⟨_, rfl⟩
              | none =>
                  cases site.outside.replaceFault with
                  | some reason => exact .inl ⟨_, rfl⟩
                  | none => exact .inr ⟨text, rfl, rfl⟩

/-- Where nothing goes wrong with the new file, it only depends on the last step whether the
document is in the file. -/
theorem outcome_replace_of_works
    (h : place.Works file site)
    (document : Value) :
    outcome (place.replace file document) site =
      match Json.fileText? document with
      | none => (.error (.unwritten document), site)
      | some text => outcome (Act.replaceFile file text) site := by
  obtain ⟨name, hfree⟩ := h.free
  rw [replace, outcome_bind, outcome_make, h.make, hfree]
  simp only [outcome_fill_rename (freeName?_spec hfree), h.write, outcome_replaceFile]
  cases Json.fileText? document with
  | none => rfl
  | some text => cases site.outside.replaceFault <;> rfl

/-- The fields are in the file, or the site is as it was. -/
theorem outcome_persist_cases [DepthLimits]
    (place : Workplace) (inv : Inventory) (file : String) (fields : List String) (site : Site) :
    (∃ e, outcome (place.persist inv file fields) site = (.error e, site)) ∨
      ∃ text document text', site.read file = .ok text ∧
        Inventory.documentOfText file text = .ok document ∧
        inv.textWith fields document = .ok text' ∧
        outcome (place.persist inv file fields) site = (.ok (), site.write file (.text text')) := by
  simp only [persist, outcome_bind, outcome_readFile, outcome_ofExcept]
  cases site.read file with
  | error e => exact .inl ⟨e, rfl⟩
  | ok text =>
      simp only
      cases hdocument : Inventory.documentOfText file text with
      | error e => exact .inl ⟨e, rfl⟩
      | ok document =>
          simp only
          cases hmerged : inv.mergedWith fields document with
          | error e => exact .inl ⟨e, rfl⟩
          | ok merged =>
              rcases place.outcome_replace_cases file merged site with ⟨e, hends⟩ |
                ⟨text', htext, hends⟩
              · exact .inl ⟨e, hends⟩
              · refine .inr ⟨text, document, text', rfl, hdocument, ?_, hends⟩
                rw [Inventory.textWith_eq, hmerged]
                simp only [htext]

/-- Where nothing goes wrong with the new file, the steps come to the same as one step. -/
theorem outcome_persist_of_works [DepthLimits]
    (h : place.Works file site)
    (inv : Inventory) (fields : List String) :
    outcome (place.persist inv file fields) site = outcome (inv.persist file fields) site := by
  simp only [persist, Inventory.persist, outcome_bind, outcome_readFile, outcome_ofExcept]
  cases site.read file with
  | error e => rfl
  | ok text =>
      simp only
      cases Inventory.documentOfText file text with
      | error e => rfl
      | ok document =>
          simp only [Inventory.textWith_eq]
          cases inv.mergedWith fields document with
          | error e => rfl
          | ok merged =>
              simp only [outcome_replace_of_works h]
              cases Json.fileText? merged <;> rfl

end Workplace

/-! ### The file afterwards -/

namespace Inventory

/-- The document in a file. -/
def documentIn [DepthLimits] (file : String) (site : Site) : Except Failure Value := do
  documentOfText file (← site.read file)

/-- Some fields of an inventory are stored in a file.  The document in the file is as it was,
except that these fields are as in the document of the inventory, or are not there if it has
none; it is an inventory; and no file has come or gone or changed otherwise. -/
structure Stored [DepthLimits] (inv : Inventory) (file : String) (fields : List String)
    (site after : Site) : Prop where
  document : ∃ before updated now, documentIn file site = .ok before ∧ inv.document = .ok updated ∧
    documentIn file after = .ok now ∧ ∀ key, now.get? key =
      (if key ∈ fields then updated.get? key else before.get? key).map Value.sorted
  loads : ∃ disk, outcome (load file) after = (.ok disk, after)
  listing : after.files.map Prod.fst = site.files.map Prod.fst
  others : ∀ other, other ≠ file → after.file? other = site.file? other

/-- Fields of an inventory are stored in a file, or all files are as they were. -/
def StoredOrKept [DepthLimits] (inv : Inventory) (file : String) (fields : List String)
    (site : Site) : Except Failure Unit × Site → Prop
  | (.ok _, after) => inv.Stored file fields site after
  | (.error _, after) => after.files = site.files

/-- Fields of an inventory are not written, or the text that they lead to is. -/
theorem outcome_persist [DepthLimits]
    (inv : Inventory) (file : String) (fields : List String) (site : Site) :
    (∃ e, outcome (inv.persist file fields) site = (.error e, site)) ∨
      ∃ text document text', site.read file = .ok text ∧ documentOfText file text = .ok document ∧
        inv.textWith fields document = .ok text' ∧
        outcome (inv.persist file fields) site = (.ok (), site.write file (.text text')) := by
  simp only [persist, outcome_bind, outcome_readFile, outcome_ofExcept]
  cases hread : site.read file with
  | error e => exact .inl ⟨e, rfl⟩
  | ok text =>
      simp only
      cases hdocument : documentOfText file text with
      | error e => exact .inl ⟨e, rfl⟩
      | ok document =>
          simp only
          cases htext : inv.textWith fields document with
          | error e => exact .inl ⟨e, rfl⟩
          | ok text' =>
              simp only [outcome_replaceFile]
              cases site.outside.replaceFault with
              | some reason => exact .inl ⟨_, rfl⟩
              | none => exact .inr ⟨text, document, text', rfl, hdocument, htext, rfl⟩

variable {inv : Inventory} {file text text' : String} {document : Value} {fields : List String}
  {site : Site}

/-- The text that is written stores the fields in the file. -/
theorem stored_of_textWith [DepthLimits]
    (h : inv.Shaped)
    (hread : site.read file = .ok text)
    (hdocument : documentOfText file text = .ok document)
    (htext : inv.textWith fields document = .ok text') :
    inv.Stored file fields site (site.write file (.text text')) := by
  have hfits := Json.fits_of_read (Ledger.read_of_documentOfText hdocument)
  obtain ⟨hplain, now, hnow, hkeys, disk, hdisk⟩ := read_textWith h hfits htext
  have hread' := Site.read_write hread hplain
  have hnow' : documentOfText file text' = .ok now := by
    rw [documentOfText, hnow, documentOf]
  have hthere : (site.files.lookup file).isSome = true := Site.isSome_of_read hread
  exact {
    document := by
      refine ⟨document, inv.toValue, now, ?_, if_pos (textWith_eq_ok_iff.mp htext).1, ?_, hkeys⟩
      · rw [documentIn, hread]
        exact hdocument
      · rw [documentIn, hread']
        exact hnow'
    loads := ⟨disk, Ledger.outcome_load hread' hnow' hdisk⟩
    listing := Site.map_fst_put hthere _
    others := fun other hother => Site.lookup_put_of_ne hother _ _ }

theorem storedOrKept_of_cases [DepthLimits]
    {ends : Except Failure Unit × Site}
    (h : inv.Shaped)
    (hends : (∃ e, ends = (.error e, site)) ∨
      ∃ text document text', site.read file = .ok text ∧ documentOfText file text = .ok document ∧
        inv.textWith fields document = .ok text' ∧
        ends = (.ok (), site.write file (.text text'))) :
    inv.StoredOrKept file fields site ends := by
  rcases hends with ⟨e, rfl⟩ | ⟨text, document, text', hread, hdocument, htext, rfl⟩
  · exact rfl
  · exact stored_of_textWith h hread hdocument htext

/-- Fields of an inventory in memory are stored in a file as a whole, or all files are as they
were.  This is so as well where the document is written to a new file first, whatever goes wrong
with it; and if nothing does, the steps come to the same as one step. -/
theorem stored_or_kept_of_persist [DepthLimits]
    (h : inv.Shaped)
    (file : String) (fields : List String) (site : Site) :
    inv.StoredOrKept file fields site (outcome (inv.persist file fields) site) ∧
      ∀ place : Workplace,
        inv.StoredOrKept file fields site (outcome (place.persist inv file fields) site) ∧
        (place.Works file site →
          outcome (place.persist inv file fields) site =
            outcome (inv.persist file fields) site) := by
  refine ⟨storedOrKept_of_cases h (outcome_persist inv file fields site), fun place => ⟨?_, ?_⟩⟩
  · exact storedOrKept_of_cases h (place.outcome_persist_cases inv file fields site)
  · exact fun hworks => Workplace.outcome_persist_of_works hworks inv fields

/-- What an inventory keeps besides its fields is stored in a file. -/
theorem stored_or_kept_of_persist_sample :
    ∃ text, (sampleSite text).read "inventory.json" = .ok text ∧
      (sampleInventory (.str "moved")).Shaped ∧
      (outcome ((sampleInventory (.str "moved")).persist "inventory.json" ["notes"])
        (sampleSite text)).1 = .ok () ∧
      (sampleInventory (.str "moved")).StoredOrKept "inventory.json" ["notes"] (sampleSite text)
        (outcome ((sampleInventory (.str "moved")).persist "inventory.json" ["notes"])
          (sampleSite text)) := by
  obtain ⟨text, hread, hdocument⟩ := exists_sampleText fits_one
    (DepthLimits.lt_reading (by omega)) (by simp [Value.sorted])
  have hfits : (sampleDocument (.str "moved")).Fits (0 + 5) := fits_sampleDocument (.scalar trivial)
  have hshaped := shaped_of_ofValue hfits (ofValue_sampleDocument (.str "moved"))
  obtain ⟨text', hwritten, -⟩ :=
    Json.read_fileText (hfits.mono (show 5 ≤ DepthLimits.reading by decide))
  have htext : (sampleInventory (.str "moved")).textWith ["notes"] (sampleDocument (.int 1)) =
      .ok text' := by
    refine textWith_eq_ok_iff.mpr ⟨?_, _, rfl, ⟨_, ofValue_sampleDocument (.str "moved")⟩, hwritten⟩
    rw [isWritable_sampleInventory]
    decide
  refine ⟨text, hread, hshaped, ?_, (stored_or_kept_of_persist hshaped _ _ _).1⟩
  have hreplace : (sampleSite text).outside.replaceFault = none := rfl
  simp [persist, hread, hdocument, htext, hreplace]

end Inventory
end Homelab
