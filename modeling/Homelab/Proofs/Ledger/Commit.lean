import Homelab.Proofs.Inventory.Stored
import Homelab.Proofs.Ledger.Sound

/-!
# Committing a ledger

A commit reads the inventory file again and merges the changes of the run into what is
there.  It ends in one of four ways, and only in one of them is the file written.  Which
one it is depends on the merged reservations: they have to be lawful beside what else the
file holds.
-/

namespace Homelab

open Reservation

/-! ### The file -/

theorem Site.lookup_put
    (name : String) (content : Content) (files : List (String × Content)) :
    (put name content files).lookup name = some content := by
  induction files with
  | nil => simp [put]
  | cons f rest ih =>
      obtain ⟨n, c⟩ := f
      by_cases hn : n = name
      · simp [put, hn]
      · have hbeq : (name == n) = false := by simpa using Ne.symm hn
        rw [put, if_neg hn, List.lookup_cons, hbeq]
        exact ih

/-- A file that could be read is read as it was written. -/
theorem Site.read_write
    {site : Site} {file text text' : String}
    (h : site.read file = .ok text)
    (htext : (Content.text text').read = .ok text') :
    (site.write file (.text text')).read file = .ok text' := by
  have hname : ¬ file.toList.contains (Char.ofNat 0) = true := by
    intro hnull
    rw [Site.read, Site.contentOf, if_pos hnull] at h
    cases h
  rw [Site.read, Site.contentOf, if_neg hname, Site.file?, Site.write, Site.lookup_put]
  exact htext

theorem Reservation.pairs_of_bare
    {α : Type} {es fs : List (Reservation α)}
    (h : es.map bare = fs.map bare) :
    pairs es = pairs fs := by
  have hbare : ∀ es : List (Reservation α), pairs es = pairs (es.map bare) := by
    intro es
    simp [pairs, bare]
  rw [hbare es, h, ← hbare fs]

namespace Ledger

/-! ### What the run has made -/

/-- What the run has made can be written. -/
structure Plain (l : Ledger) : Prop where
  vmids : l.vmidBook.Plain GivenVmid
  ips : l.ipBook.Plain IsInterface

theorem plain_start
    (inv : Inventory) :
    (start inv).Plain :=
  ⟨by simp [Book.Plain, vmidBook, start, Reserved.empty],
    by simp [Book.Plain, ipBook, start, Reserved.empty]⟩

theorem plain_settled
    (l : Ledger) :
    l.settled.Plain :=
  ⟨by simp [Book.Plain, vmidBook, settled, Reserved.empty],
    by simp [Book.Plain, ipBook, settled, Reserved.empty]⟩

theorem Plain.change
    {mode : Mode} {l next : Ledger}
    (h : l.Plain)
    (hchange : Change mode l next) :
    next.Plain :=
  ⟨hchange.vmids.plain h.vmids, hchange.ips.plain h.ips⟩

theorem Plain.afterAll
    {l : Ledger}
    (h : l.Plain)
    (calls : List Call) :
    (l.afterAll calls).Plain := by
  induction calls generalizing l with
  | nil => exact h
  | cons c rest ih => exact ih (h.change (change_after l c))

section Merged

variable {l : Ledger} {disk : Inventory}

theorem mergedInto_eq
    (l : Ledger) (disk : Inventory) :
    l.mergedInto disk =
      disk.withReservations (merge disk.reserved.vmids l.added.vmids l.removed.vmids)
        (merge disk.reserved.ips l.added.ips l.removed.ips) := rfl

theorem forall_merge
    {α : Type} {P : Reservation α → Prop} {onDisk added removed : List (Reservation α)}
    (hdisk : ∀ e ∈ onDisk, P e)
    (hadded : ∀ e ∈ added, P e) :
    ∀ e ∈ merge onDisk added removed, P e := by
  intro e he
  rw [merge_eq, List.mem_append] at he
  rcases he with he | he
  · exact hdisk e (mem_untouched.mp he).1
  · exact hadded e he

theorem Plain.wellFormed_mergedInto
    (h : l.Plain)
    (hdisk : disk.WellFormed) :
    (l.mergedInto disk).WellFormed := by
  rw [mergedInto_eq]
  refine Inventory.wellFormed_withReservations hdisk ?_ ?_
  · refine forall_merge hdisk.reserved.vmids fun e he => ?_
    rw [VmidWellFormed, (h.vmids e he).1]
    simp [Extra.Clear]
  · refine forall_merge hdisk.reserved.ips fun e he => ⟨(h.ips e he).2, ?_⟩
    rw [(h.ips e he).1]
    simp [Extra.Clear]

theorem Plain.fits_mergedInto
    {depth : Nat}
    (h : l.Plain)
    (hdisk : disk.reserved.Fits depth) :
    (l.mergedInto disk).reserved.Fits depth := by
  refine ⟨?_, ?_, hdisk.extra⟩
  · refine forall_merge hdisk.vmids fun e he => ⟨(h.vmids e he).2, ?_⟩
    rw [(h.vmids e he).1]
    exact Extra.fits_nil depth
  · refine forall_merge hdisk.ips fun e he => ?_
    rw [(h.ips e he).1]
    exact Extra.fits_nil depth

theorem Plain.isWritable_mergedInto
    (h : l.Plain)
    (hdisk : disk.isWritable = true) :
    (l.mergedInto disk).isWritable = true := by
  rw [← Inventory.withReservations_self disk, Inventory.isWritable_withReservations_iff] at hdisk
  rw [mergedInto_eq, Inventory.isWritable_withReservations_iff]
  refine ⟨hdisk.1, forall_merge hdisk.2.1 fun e he => ?_, forall_merge hdisk.2.2 fun e he => ?_⟩
  · simp [(h.vmids e he).1, Extra.IsShallow]
  · simp [(h.ips e he).1, Extra.IsShallow]

/-- What was merged is read again, if it can be written and keeps to the rules. -/
theorem merged_eq
    (hform : (l.mergedInto disk).WellFormed)
    (hwritable : (l.mergedInto disk).isWritable = true)
    (hvalid : (l.mergedInto disk).Valid) :
    l.merged disk = .ok (l.mergedInto disk).normal := by
  have hdocument : (l.mergedInto disk).document = .ok (l.mergedInto disk).toValue :=
    if_pos hwritable
  simp [merged, hdocument, Inventory.ofValue_toValue hform hvalid, bind, Except.bind]

theorem merged_eq_conflict
    (hform : (l.mergedInto disk).WellFormed)
    (hwritable : (l.mergedInto disk).isWritable = true)
    (hvalid : ¬ (l.mergedInto disk).Valid) :
    ∃ issues, l.merged disk = .error (.reservationConflict issues) := by
  have hdocument : (l.mergedInto disk).document = .ok (l.mergedInto disk).toValue :=
    if_pos hwritable
  have hinvalid : ∃ issues,
      Inventory.ofValue (l.mergedInto disk).toValue = .error (.inventoryInvalid issues) := by
    cases hread : Inventory.ofValue (l.mergedInto disk).toValue with
    | ok inv => exact absurd ((Inventory.ofValue_toValue_eq_ok_iff hform).mp hread).1 hvalid
    | error e =>
        rw [Inventory.toValue_eq, Inventory.ofValue] at hread
        split at hread
        · exact ⟨_, hread.symm⟩
        · split at hread
          · cases hread
          · exact ⟨_, hread.symm⟩
  obtain ⟨issues, hissues⟩ := hinvalid
  exact ⟨issues, by simp [merged, hdocument, hissues, bind, Except.bind]⟩

theorem merged_eq_tooManyLevels
    (hwritable : (l.mergedInto disk).isWritable = false) :
    l.merged disk = .error Inventory.tooManyLevels := by
  have hdocument : (l.mergedInto disk).document = .error Inventory.tooManyLevels :=
    if_neg (by simp [hwritable])
  simp [merged, hdocument, bind, Except.bind]

end Merged

/-! ### How a commit ends -/

/-- The ways in which the commit of a ledger with changes ends on a file with an
inventory. -/
inductive Ending [DepthLimits] (l : Ledger) (file : String) (document : Value) (disk : Inventory)
    (site : Site) : Except Failure Ledger × Site → Prop where
  | tooDeep
      (hwritable : (l.mergedInto disk).isWritable = false) :
      Ending l file document disk site (.error Inventory.tooManyLevels, site)
  | conflict {issues : List Issue}
      (hwritable : (l.mergedInto disk).isWritable = true)
      (hvalid : ¬ (l.mergedInto disk).Valid) :
      Ending l file document disk site (.error (.reservationConflict issues), site)
  | refused {reason : String}
      (hwritable : (l.mergedInto disk).isWritable = true)
      (hvalid : (l.mergedInto disk).Valid)
      (hreason : site.outside.replaceFault = some reason) :
      Ending l file document disk site (.error (.system reason), site)
  | written {text : String}
      (hwritable : (l.mergedInto disk).isWritable = true)
      (hvalid : (l.mergedInto disk).Valid)
      (hreplace : site.outside.replaceFault = none)
      (hholds : Inventory.Holds document disk (l.mergedInto disk).reserved.normal text) :
      Ending l file document disk site (.ok l.settled, site.write file (.text text))

theorem outcome_load [DepthLimits]
    {file text : String} {document : Value} {disk : Inventory} {site : Site}
    (hread : site.read file = .ok text)
    (hdocument : Inventory.documentOfText file text = .ok document)
    (hdisk : Inventory.ofValue document = .ok disk) :
    outcome (Inventory.load file) site = (.ok disk, site) := by
  have htext : Inventory.ofText file text = .ok disk := by
    rw [Inventory.ofText, hdocument]
    exact hdisk
  simp [Inventory.load, hread, htext]

theorem read_of_documentOfText [DepthLimits]
    {file text : String} {document : Value}
    (h : Inventory.documentOfText file text = .ok document) :
    Json.read text = .ok document :=
  Inventory.documentOf_eq_ok_iff.mp h

theorem documentOfText_of_ofText [DepthLimits]
    {file text : String} {inv : Inventory}
    (h : Inventory.ofText file text = .ok inv) :
    ∃ document, Inventory.documentOfText file text = .ok document ∧
      Inventory.ofValue document = .ok inv := by
  rw [Inventory.ofText] at h
  cases hdocument : Inventory.documentOfText file text with
  | error e =>
      rw [hdocument] at h
      cases h
  | ok document =>
      rw [hdocument] at h
      exact ⟨document, rfl, h⟩

/-- The file that a commit has written has the merged inventory. -/
theorem load_of_holds [DepthLimits]
    {l : Ledger} {file text text' : String} {document : Value} {disk : Inventory} {site : Site}
    (hread : site.read file = .ok text)
    (hholds : Inventory.Holds document disk (l.mergedInto disk).reserved.normal text') :
    (site.write file (.text text')).read file = .ok text' ∧
      ∃ inv, Inventory.ofText file text' = .ok inv ∧ inv.bare = (l.mergedInto disk).bare := by
  obtain ⟨stored, hjson, -, -, inv, hinv, hbare⟩ := hholds.stored
  refine ⟨Site.read_write hread hholds.content, inv, ?_, ?_⟩
  · rw [Inventory.ofText, Inventory.documentOfText, hjson, Inventory.documentOf]
    exact hinv
  · rw [hbare]
    simp [Inventory.bare, Reserved.bare_normal, mergedInto]

/-- Every commit on a file with an inventory ends in one of the four ways. -/
theorem ending_commit [DepthLimits]
    {l : Ledger} {file text : String} {document : Value} {disk : Inventory} {site : Site}
    (hplain : l.Plain)
    (hchanges : l.hasChanges = true)
    (hread : site.read file = .ok text)
    (hdocument : Inventory.documentOfText file text = .ok document)
    (hdisk : Inventory.ofValue document = .ok disk) :
    Ending l file document disk site (outcome (l.commit file) site) := by
  have hload := outcome_load hread hdocument hdisk
  have hfits := Json.fits_of_read (read_of_documentOfText hdocument)
  have hform := hplain.wellFormed_mergedInto (Inventory.wellFormed_of_ofValue hdisk)
  cases hwritable : (l.mergedInto disk).isWritable with
  | false =>
      have hcommit : outcome (l.commit file) site = (.error Inventory.tooManyLevels, site) := by
        simp [commit, hchanges, hload, merged_eq_tooManyLevels hwritable]
      rw [hcommit]
      exact .tooDeep hwritable
  | true =>
      by_cases hvalid : (l.mergedInto disk).Valid
      · have hmerged := merged_eq hform hwritable hvalid
        obtain ⟨depth, hlimit⟩ := DepthLimits.exists_add_eq_reading (show 4 < 260 by omega)
        rw [← hlimit] at hfits
        have hdisk' : disk.reserved.Fits depth := Inventory.reserved_fits hfits hdisk
        have hreserved := (hplain.fits_mergedInto hdisk').normal
        have hvalid' : Inventory.Valid
            { disk with reserved := (l.mergedInto disk).normal.reserved } :=
          hvalid.of_bare_eq (by simp [Inventory.bare, Inventory.normal, Reserved.bare_normal,
            mergedInto])
        have hform' : (l.mergedInto disk).normal.WellFormed :=
          Inventory.wellFormed_of_ofValue (Inventory.ofValue_toValue hform hvalid)
        obtain ⟨text', htext, hholds⟩ := Inventory.textWith_reserved hlimit hfits hdisk
          (Inventory.isWritable_normal hwritable) hform' hreserved hvalid'
        cases hreplace : site.outside.replaceFault with
        | some reason =>
            have hcommit : outcome (l.commit file) site = (.error (.system reason), site) := by
              simp [commit, hchanges, hload, hmerged, Inventory.persist, hread, hdocument, htext,
                hreplace, Except.map]
            rw [hcommit]
            exact .refused hwritable hvalid hreplace
        | none =>
            have hcommit : outcome (l.commit file) site =
                (.ok l.settled, site.write file (.text text')) := by
              simp [commit, hchanges, hload, hmerged, Inventory.persist, hread, hdocument, htext,
                hreplace, Except.map]
            rw [hcommit]
            exact .written hwritable hvalid hreplace hholds
      · obtain ⟨issues, hissues⟩ := merged_eq_conflict hform hwritable hvalid
        have hcommit : outcome (l.commit file) site =
            (.error (.reservationConflict issues), site) := by
          simp [commit, hchanges, hload, hissues]
        rw [hcommit]
        exact .conflict hwritable hvalid

/-! ### Ledgers used in one way -/

/-- A ledger that has only reserved, or only released, since its inventory was read. -/
inductive UsedIn (mode : Mode) : Ledger → Prop where
  | start {v : Value} {inv : Inventory}
      (h : Inventory.ofValue v = .ok inv) : UsedIn mode (start inv)
  | call {l : Ledger} {c : Call}
      (h : UsedIn mode l) (hmode : c.mode = mode) : UsedIn mode (l.after c)
  | settled {l : Ledger}
      (h : UsedIn mode l) : UsedIn mode l.settled

section UsedIn

variable {mode : Mode} {l : Ledger} {disk : Inventory}

theorem UsedIn.sound
    (h : UsedIn mode l) :
    l.Sound := by
  induction h with
  | start h => exact sound_start h
  | call h hmode ih => exact ih.change (change_after _ _)
  | settled h ih => exact ⟨ih.wellFormed, ih.valid⟩

theorem UsedIn.plain
    (h : UsedIn mode l) :
    l.Plain := by
  induction h with
  | start h => exact plain_start _
  | call h hmode ih => exact ih.change (change_after _ _)
  | settled h ih => exact plain_settled _

theorem UsedIn.oneWay
    (h : UsedIn mode l) :
    l.vmidBook.OneWay mode ∧ l.ipBook.OneWay mode := by
  have hempty : ∀ {α : Type} (live : List (Reservation α)), Book.OneWay mode ⟨live, [], []⟩ :=
    fun live => ⟨fun _ => rfl, fun _ => rfl, List.nil_sublist live⟩
  induction h with
  | start h => exact ⟨hempty _, hempty _⟩
  | @call l c h hmode ih =>
      subst hmode
      have hchange := change_after l c
      exact ⟨hchange.vmids.oneWay ih.1, hchange.ips.oneWay ih.2⟩
  | settled h ih => exact ⟨hempty _, hempty _⟩

/-- Something that the run has made is in use beside the reservations of the file, or is
the value of an entry of the file whose token the run has not touched. -/
def Collides (l : Ledger) (disk : Inventory) : Prop :=
  (∃ e ∈ l.added.vmids, e.value ∈ disk.committedVmids ∨
    ∃ d ∈ untouched disk.reserved.vmids l.added.vmids l.removed.vmids, d.value = e.value) ∨
  ∃ e ∈ l.added.ips, ∃ a, addressOf? e.value = some a ∧
    (a ∈ disk.hostAddresses ∨
      ∃ d ∈ untouched disk.reserved.ips l.added.ips l.removed.ips, addressOf? d.value = some a)

theorem not_forall_things_iff
    {α β : Type} {read : α → Option β} {es : List (Reservation α)} {P : β → Prop} :
    ¬ (∀ b ∈ things read es, ¬ P b) ↔ ∃ e ∈ es, ∃ b, read e.value = some b ∧ P b := by
  simp only [mem_things, not_forall, not_not]
  constructor
  · rintro ⟨b, ⟨e, he, hb⟩, hP⟩
    exact ⟨e, he, b, hb, hP⟩
  · rintro ⟨e, he, b, hb, hP⟩
    exact ⟨b, ⟨e, he, hb⟩, hP⟩

/-- The merged inventory keeps to the rules exactly if nothing collides. -/
theorem UsedIn.valid_mergedInto_iff
    (h : UsedIn mode l)
    (hdisk : disk.Valid) :
    (l.mergedInto disk).Valid ↔ ¬ l.Collides disk := by
  have hvmids : Lawful some l.inventory.committedVmids l.added.vmids :=
    h.sound.valid.lawfulVmids.sublist h.oneWay.1.holds
  have hips : Lawful addressOf? l.inventory.hostAddresses l.added.ips :=
    h.sound.valid.lawfulIps.sublist h.oneWay.2.holds
  have hcollide : ∀ (b : Int) (es : List (Reservation Int)), b ∈ things some es ↔
      ∃ d ∈ es, d.value = b := by
    intro b es
    simp [mem_things]
  rw [mergedInto_eq, Inventory.valid_withReservations_iff hdisk, Inventory.LawfulVmids,
    Inventory.LawfulIps,
    lawful_merge_iff hdisk.lawfulVmids hvmids.tokens_nodup hvmids.things_nodup,
    lawful_merge_iff hdisk.lawfulIps hips.tokens_nodup hips.things_nodup, Collides]
  simp only [← not_or]
  rw [← not_iff_not, not_and_or, not_forall_things_iff, not_forall_things_iff, not_not]
  simp only [hcollide, mem_things, Option.some.injEq, exists_eq_left']

end UsedIn

/-- A commit that does not collide writes the file, if the file can be written and replaced. -/
theorem UsedIn.commit_eq [DepthLimits]
    {mode : Mode} {l : Ledger} {site : Site} {file text : String} {document : Value}
    {disk : Inventory}
    (hused : UsedIn mode l)
    (hchanges : l.hasChanges = true)
    (hread : site.read file = .ok text)
    (hdocument : Inventory.documentOfText file text = .ok document)
    (hdisk : Inventory.ofValue document = .ok disk)
    (hfree : ¬ l.Collides disk)
    (hwritable : disk.isWritable = true)
    (hreplace : site.outside.replaceFault = none) :
    ∃ text', outcome (l.commit file) site = (.ok l.settled, site.write file (.text text')) ∧
      Inventory.Holds document disk (l.mergedInto disk).reserved.normal text' := by
  have hvalid := (hused.valid_mergedInto_iff (Inventory.valid_of_ofValue hdisk)).mpr hfree
  have hwritable' := hused.plain.isWritable_mergedInto hwritable
  have hending := ending_commit hused.plain hchanges hread hdocument hdisk
  generalize outcome (l.commit file) site = ending at hending ⊢
  cases hending with
  | tooDeep hdeep => exact absurd (hwritable'.symm.trans hdeep) (by decide)
  | conflict _ hbroken => exact absurd hvalid hbroken
  | refused _ _ hreason => exact absurd (hreplace.symm.trans hreason) (by simp)
  | @written text' _ _ _ hholds => exact ⟨text', rfl, hholds⟩

/-- The reservations of the file once the run has committed: those whose tokens it has not
touched, in their order, and then those that it has made, in theirs. -/
def reservedAfter (l : Ledger) (disk : Inventory) : Reserved :=
  { disk.reserved with
    vmids := untouched disk.reserved.vmids l.added.vmids l.removed.vmids ++ l.added.vmids
    ips := untouched disk.reserved.ips l.added.ips l.removed.ips ++ l.added.ips }

theorem reserved_mergedInto
    (l : Ledger) (disk : Inventory) :
    (l.mergedInto disk).reserved = l.reservedAfter disk := by
  simp only [mergedInto, reservedAfter, merge_eq]

/-- The commit of a ledger that was used in one way, on whatever inventory the file holds
by then.  It succeeds exactly if nothing collides, nothing that would have to be written
is nested too deeply, and the file can be replaced.  Then the file has the reservations of
the untouched tokens and those that the run has made, and all else as it was; otherwise
nothing has changed. -/
theorem commit_after_one_mode [DepthLimits]
    {mode : Mode} {l : Ledger} {site : Site} {file text : String} {document : Value}
    {disk : Inventory}
    (hused : UsedIn mode l)
    (hchanges : l.hasChanges = true)
    (hread : site.read file = .ok text)
    (hdocument : Inventory.documentOfText file text = .ok document)
    (hdisk : Inventory.ofValue document = .ok disk) :
    let (result, after) := outcome (l.commit file) site
    ((∃ next, result = .ok next) ↔
      ¬ l.Collides disk ∧ (l.mergedInto disk).isWritable = true ∧
        site.outside.replaceFault = none) ∧
    (∀ next, result = .ok next →
      next = l.settled ∧ next.hasChanges = false ∧
      ∃ text' stored inv, after = site.write file (.text text') ∧ after.read file = .ok text' ∧
        Inventory.documentOfText file text' = .ok stored ∧
        stored.get? "reserved" = some (l.reservedAfter disk).normal.toValue.sorted ∧
        (∀ key, key ≠ "reserved" → stored.get? key = (document.get? key).map Value.sorted) ∧
        Inventory.ofValue stored = .ok inv ∧
        inv.reserved.bare = (l.reservedAfter disk).bare) ∧
    ∀ e, result = .error e →
      after = site ∧
      ((l.mergedInto disk).isWritable = false → e = Inventory.tooManyLevels) ∧
      ((l.mergedInto disk).isWritable = true → l.Collides disk →
        ∃ issues, e = .reservationConflict issues) ∧
      ((l.mergedInto disk).isWritable = true → ¬ l.Collides disk →
        ∃ reason, site.outside.replaceFault = some reason ∧ e = .system reason) := by
  have hvalid := hused.valid_mergedInto_iff (Inventory.valid_of_ofValue hdisk)
  have hending := ending_commit hused.plain hchanges hread hdocument hdisk
  generalize outcome (l.commit file) site = ending at hending ⊢
  cases hending with
  | tooDeep hwritable =>
      simp [hwritable]
  | conflict hwritable hbroken =>
      have hcollides : l.Collides disk := by
        by_contra h
        exact hbroken (hvalid.mpr h)
      simp [hwritable, hcollides]
  | refused hwritable hkept hreason =>
      have hfree := hvalid.mp hkept
      simp [hwritable, hfree, hreason]
  | @written text' hwritable hkept hreplace hholds =>
      have hfree := hvalid.mp hkept
      obtain ⟨stored, hjson, hreserved, hrest, inv, hinv, hbare⟩ := hholds.stored
      rw [reserved_mergedInto] at hreserved hbare
      refine ⟨⟨fun _ => ⟨hfree, hwritable, hreplace⟩, fun _ => ⟨_, rfl⟩⟩, ?_, by simp⟩
      intro next hnext
      refine ⟨(Except.ok.inj hnext).symm, ?_, text', stored, inv, rfl,
        Site.read_write hread hholds.content, ?_, hreserved, hrest, hinv, ?_⟩
      · rw [← Except.ok.inj hnext]
        rfl
      · rw [Inventory.documentOfText, hjson, Inventory.documentOf]
      · have hreserved' := congrArg Inventory.reserved hbare
        simpa [Inventory.bare, Reserved.bare_normal] using hreserved'

end Ledger

/-! ### A small site -/

theorem fits_sampleDocument
    {depth : Nat} {kept : Value}
    (h : kept.Fits (depth + 4)) :
    (sampleDocument kept).Fits (depth + 5) := by
  have hstr : ∀ (d : Nat) (s : String), (Value.str s).Fits d := fun d s => .scalar trivial
  have hobject : ∀ {d : Nat} {fs : List (String × Value)}, (fs.map Prod.fst).Nodup →
      (∀ f ∈ fs, f.2.Fits d) → (Value.object fs).Fits (d + 1) := Value.fits_object
  refine hobject (by simp) ?_
  simp only [List.forall_mem_cons]
  refine ⟨.list ?_, h, hobject (by decide) ?_, hobject (by decide) ?_, by simp⟩
  · simp only [List.forall_mem_cons]
    refine ⟨hobject (by decide) ?_, by simp⟩
    simp only [List.forall_mem_cons]
    refine ⟨hstr _ _, hstr _ _, hstr _ _, hobject (by decide) ?_, hstr _ _, by simp⟩
    simp only [List.forall_mem_cons]
    exact ⟨hstr _ _, hstr _ _, by simp⟩
  · simp only [List.forall_mem_cons]
    exact ⟨hstr _ _, hstr _ _, hstr _ _, hstr _ _, by simp⟩
  · simp only [List.forall_mem_cons]
    refine ⟨hobject (by decide) ?_, by simp⟩
    simp only [List.forall_mem_cons]
    exact ⟨hobject (by decide) (by simp), hstr _ _, by simp⟩

theorem sorted_sampleDocument
    {kept : Value}
    (h : kept.sorted = kept) :
    (sampleDocument kept).sorted = sampleDocument kept := by
  have hkeys : ["networks", "notes", "proxmox", "terraform"].Pairwise (· ≤ ·) := by decide
  rw [sampleDocument, Value.sorted_object (by exact hkeys)]
  simp [Value.sorted_object, Value.sorted, Value.sortedItems, h]

theorem fits_nested
    (n : Nat) :
    (nested n).Fits (n + 1) := by
  induction n with
  | zero => exact .list (by simp)
  | succ n ih => exact .list (by simpa using ih)

theorem sorted_nested
    (n : Nat) :
    (nested n).sorted = nested n := by
  induction n with
  | zero => simp [nested, Value.sorted, Value.sortedItems]
  | succ n ih => simp [nested, Value.sorted, Value.sortedItems, ih]

/-- A site with one file, where files can be replaced. -/
def sampleSite (text : String) : Site where
  files := [("inventory.json", .text text)]
  vars := []
  threshold := 0
  journal := []
  outside := ⟨fun _ _ => .ok "", fun _ _ => .ended 0 "" "", fun _ _ => .error "", none, "tmp", 0⟩

theorem read_sampleSite
    {text : String}
    (h : (Content.text text).read = .ok text) :
    (sampleSite text).read "inventory.json" = .ok text := h

/-- The document of the small inventory is in some file. -/
theorem exists_sampleText [DepthLimits]
    {depth : Nat} {kept : Value}
    (hfits : kept.Fits depth)
    (hdepth : depth < DepthLimits.reading)
    (hsorted : kept.sorted = kept) :
    ∃ text, (sampleSite text).read "inventory.json" = .ok text ∧
      Inventory.documentOfText "inventory.json" text = .ok (sampleDocument kept) := by
  obtain ⟨rest, hrest⟩ := DepthLimits.exists_add_eq_reading (show 5 < 260 by omega)
  have hdocument := fits_sampleDocument (hfits.mono (show depth ≤ rest + 4 by omega))
  rw [hrest] at hdocument
  obtain ⟨text, htext, hread⟩ := Json.read_fileText hdocument
  refine ⟨text, read_sampleSite (Json.content_fileText hdocument htext), ?_⟩
  rw [Inventory.documentOfText, hread, sorted_sampleDocument hsorted, Inventory.documentOf]

theorem fits_one :
    (Value.int 1).Fits 0 := .scalar (Nat.one_lt_pow (by decide) (by omega))

theorem exists_sampleLoad [DepthLimits] :
    ∃ text, (sampleSite text).read "inventory.json" = .ok text ∧
      Inventory.ofText "inventory.json" text = .ok (sampleInventory (.int 1)) := by
  obtain ⟨text, hread, hdocument⟩ := exists_sampleText fits_one
    (DepthLimits.lt_reading (by omega)) (by simp [Value.sorted])
  refine ⟨text, hread, ?_⟩
  rw [Inventory.ofText, hdocument]
  exact ofValue_sampleDocument (.int 1)

namespace Ledger

/-- A ledger that has reserved a machine number. -/
def sampleLedger (kept : Value) : Ledger :=
  (start (sampleInventory kept)).after ⟨.vmid, .reserve, "vm", "vm:id:web"⟩

theorem usedIn_sampleLedger
    (kept : Value) :
    UsedIn .reserve (sampleLedger kept) :=
  .call (.start (ofValue_sampleDocument kept)) rfl

theorem nextVmid_sampleInventory
    (kept : Value) :
    (sampleInventory kept).nextVmid "vm" = .ok 100 :=
  Inventory.nextVmid_eq (r := .vm) (k := 100) rfl (by decide) (by decide)
    (by simp [Inventory.usedVmids, Inventory.committedVmids, sampleInventory, Reserved.empty])
    fun j hfirst hj => absurd (show 100 ≤ j from hfirst) (by omega)

theorem sampleLedger_eq
    (kept : Value) :
    sampleLedger kept =
      { inventory := (sampleInventory kept).withReservations [⟨100, "vm:id:web", []⟩] []
        added := ⟨[⟨100, "vm:id:web", []⟩], [], []⟩
        removed := .empty
        handedOut := [("vm:id:web", .vmid 100)] } := by
  exact after_reserveVmid rfl (nextVmid_sampleInventory kept)

theorem added_sampleLedger
    (kept : Value) :
    (sampleLedger kept).added = ⟨[⟨100, "vm:id:web", []⟩], [], []⟩ := by
  rw [sampleLedger_eq]

theorem hasChanges_sampleLedger
    (kept : Value) :
    (sampleLedger kept).hasChanges = true := by
  rw [hasChanges, added_sampleLedger]
  rfl

theorem not_collides_sampleLedger
    (kept kept' : Value) :
    ¬ (sampleLedger kept).Collides (sampleInventory kept') := by
  simp [Collides, added_sampleLedger, Inventory.committedVmids, sampleInventory, untouched,
    Reserved.empty]

/-- A machine number is committed, and is then in the file. -/
theorem commit_after_one_mode_sample :
    ∃ text text' stored,
      outcome ((sampleLedger (.int 1)).commit "inventory.json") (sampleSite text) =
        (.ok (sampleLedger (.int 1)).settled,
          (sampleSite text).write "inventory.json" (.text text')) ∧
      Inventory.documentOfText "inventory.json" text' = .ok stored ∧
      stored.get? "reserved" =
        some ((sampleLedger (.int 1)).reservedAfter (sampleInventory (.int 1))).normal.toValue.sorted := by
  obtain ⟨text, hread, hdocument⟩ := exists_sampleText fits_one
    (DepthLimits.lt_reading (by omega)) (by simp [Value.sorted])
  have hspec := commit_after_one_mode (usedIn_sampleLedger (.int 1)) (hasChanges_sampleLedger _)
    hread hdocument (ofValue_sampleDocument (.int 1))
  have hwritable : ((sampleLedger (.int 1)).mergedInto (sampleInventory (.int 1))).isWritable =
      true := by
    rw [mergedInto_eq, added_sampleLedger]
    exact isWritable_sampleInventory_plain (by simp [merge, sampleInventory, Reserved.empty])
      (by simp [merge, sampleInventory, Reserved.empty])
  rcases hcommit : outcome ((sampleLedger (.int 1)).commit "inventory.json") (sampleSite text) with
    ⟨result, after⟩
  rw [hcommit] at hspec
  obtain ⟨hok, hafter, -⟩ := hspec
  obtain ⟨next, rfl⟩ := hok.mpr ⟨not_collides_sampleLedger _ _, hwritable, rfl⟩
  obtain ⟨rfl, -, text', stored, inv, rfl, -, hstored, hreserved, -⟩ := hafter next rfl
  exact ⟨text, text', stored, hcommit, hstored, hreserved⟩

/-- A commit fails although nothing collides, if the file by then keeps a value of too many
levels. -/
theorem commit_fails_on_nested :
    ∃ text, (sampleSite text).read "inventory.json" = .ok text ∧
      Inventory.ofText "inventory.json" text = .ok (sampleInventory (nested 300)) ∧
      UsedIn .reserve (sampleLedger (.int 1)) ∧ (sampleLedger (.int 1)).hasChanges = true ∧
      ¬ (sampleLedger (.int 1)).Collides (sampleInventory (nested 300)) ∧
      outcome ((sampleLedger (.int 1)).commit "inventory.json") (sampleSite text) =
        (.error Inventory.tooManyLevels, sampleSite text) := by
  obtain ⟨text, hread, hdocument⟩ :=
    exists_sampleText (fits_nested 300) (by decide) (sorted_nested 300)
  have hlevels : Inventory.levelLimit < (nested 300).levels := by
    rw [levels_nested]
    decide
  have hending := ending_commit (usedIn_sampleLedger (.int 1)).plain (hasChanges_sampleLedger _)
    hread hdocument (ofValue_sampleDocument (nested 300))
  refine ⟨text, hread, ?_, usedIn_sampleLedger _, hasChanges_sampleLedger _,
    not_collides_sampleLedger _ _, ?_⟩
  · rw [Inventory.ofText, hdocument]
    exact ofValue_sampleDocument (nested 300)
  · have hdeep : ((sampleLedger (.int 1)).mergedInto (sampleInventory (nested 300))).isWritable =
        false := isWritable_sampleInventory_deep hlevels _ _
    generalize outcome ((sampleLedger (.int 1)).commit "inventory.json") (sampleSite text) = ending
      at hending ⊢
    cases hending with
    | tooDeep hwritable => rfl
    | conflict hwritable hvalid => simp [hdeep] at hwritable
    | refused hwritable hvalid hreason => simp [hdeep] at hwritable
    | written hwritable hvalid hreplace hholds => simp [hdeep] at hwritable

end Ledger
end Homelab
