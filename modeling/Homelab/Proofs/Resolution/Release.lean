import Homelab.Proofs.Inventory.Rewritten
import Homelab.Proofs.Resolution.Rerun

/-!
# Releasing what was reserved

A run that releases the tokens of a document undoes a run that has reserved them.  It is told
the values that were reserved, so that it fills the document in the same way, and the file has
the reservations again that it had at first.
-/

namespace Homelab

open Reservation

theorem ReservedKind.entries_reread
    (k : ReservedKind) (r : Reserved) :
    k.entries r.reread = (k.entries r).map reread := by
  cases k <;> rfl

namespace Ledger

section Release

variable {file text : String} {site after : Site} {document v w : Value} {inv inv' : Inventory}
  {l next : Ledger}

/-! ### A run that releases -/

/-- On an inventory with the bindings that a run has made, a run that releases fills the document
in the same way. -/
theorem Filled.release [DepthLimits]
    (h : Filled inv v w l)
    (hwalked : v.IsWalked ∧ (ReservedKind.vmid.fill l v).IsWalked)
    (hvalid : inv'.Valid)
    (hsame : ∀ k : ReservedKind, pairs (k.entries inv'.reserved) = pairs (k.book l).live) :
    ∃ l', outcome (fillReservations .release v) (start inv') = (.ok w, l') ∧
      Released inv' v w l' := by
  have hbound : ∀ k : ReservedKind, ∀ r ∈ k.tokensOf v,
      r.text ∈ tokens (k.entries inv'.reserved) := by
    intro k r hr
    rw [tokens_of_pairs (hsame k)]
    exact h.bound k r hr
  have hnodup : ∀ k : ReservedKind, (tokens (k.entries inv'.reserved)).Nodup :=
    fun k => (k.lawful hvalid).tokens_nodup
  obtain ⟨mid, hfirst, hvmids⟩ := ReservedKind.filled_release (k := .vmid) (l := start inv')
    hwalked.1 (hnodup .vmid) (hbound .vmid) (by simp [book_start, tokens])
  have hmid : ReservedKind.ip.book mid = ReservedKind.ip.book (start inv') :=
    hvmids.others .ip (by decide)
  have htokens : ReservedKind.ip.tokensOf (ReservedKind.vmid.fill l v) =
      ReservedKind.ip.tokensOf v := ReservedKind.tokensOf_fill l v
  obtain ⟨l', hsecond, -⟩ := ReservedKind.filled_release (k := .ip) (l := mid) hwalked.2
    (by rw [hmid]; exact hnodup .ip) (by rw [hmid, htokens]; exact hbound .ip)
    (by simp [hmid, book_start, tokens])
  rw [fill_eq_of_book _ (hsame .vmid) rfl] at hfirst
  rw [fill_eq_of_book _ (hsame .ip) hmid, ← h.value] at hsecond
  refine ⟨l', outcome_fillReservations.mpr ⟨_, mid, hfirst, hsecond⟩, ?_⟩
  rw [Value.walkedBy_of_isWalked hwalked.1] at hfirst
  rw [Value.walkedBy_of_isWalked hwalked.2] at hsecond
  exact released_of_runs hvalid hfirst hsecond

theorem Released.mergedInto
    (h : Released inv v w l)
    (hvalid : inv.Valid) :
    l.mergedInto inv = l.inventory := by
  have hknown := h.releasesKnown
  obtain ⟨calls, -, rfl⟩ := h.calls
  exact mergedInto_loaded hvalid hknown

/-! ### What a commit leaves in the file -/

/-- A file that holds the document of an inventory with other reservations, as they are read
again. -/
structure Rewritten [DepthLimits] (file : String) (document : Value) (r : Reserved)
    (site : Site) : Prop where
  replace : site.outside.replaceFault = none
  file : ∃ text stored inv, site.read file = .ok text ∧
    Inventory.documentOfText file text = .ok stored ∧ Inventory.ofValue stored = .ok inv ∧
    inv.reserved = r.reread ∧ inv.isWritable = true ∧
    stored.get? "reserved" = some r.normal.toValue.sorted ∧
    ∀ key, key ≠ "reserved" → stored.get? key = (document.get? key).map Value.sorted

/-- What was in order before the file was rewritten is as it was before that. -/
theorem Rewritten.of_rest [DepthLimits]
    {depth : Nat} {document' : Value} {r : Reserved}
    (h : Rewritten file document' r site)
    (hfits : document.Fits depth)
    (hrest : ∀ key, key ≠ "reserved" → document'.get? key = (document.get? key).map Value.sorted) :
    Rewritten file document r site := by
  obtain ⟨hreplace, text, stored, inv, hread, hstored, hinv, hreserved, hwritable, hvalue, hkeys⟩ := h
  refine ⟨hreplace, text, stored, inv, hread, hstored, hinv, hreserved, hwritable, hvalue,
    fun key hkey => ?_⟩
  rw [hkeys key hkey, hrest key hkey, ← hfits.get?_sorted, ← hfits.sorted.get?_sorted,
    hfits.sorted_sorted]

theorem rewritten_of_commit [DepthLimits]
    (hplain : l.Plain)
    (hchanges : l.hasChanges = true)
    (hread : site.read file = .ok text)
    (hdocument : Inventory.documentOfText file text = .ok document)
    (hinv : Inventory.ofValue document = .ok inv)
    (hcommit : outcome (l.commit file) site = (.ok next, after)) :
    Rewritten file document (l.mergedInto inv).reserved after := by
  have hending := ending_commit hplain hchanges hread hdocument hinv
  rw [hcommit] at hending
  cases hending with
  | @written text' hwritable _ hreplace hholds =>
      obtain ⟨stored, hjson, hreserved, hrest, -⟩ := hholds.stored
      refine ⟨hreplace, text', stored, _, Site.read_write hread hholds.content, ?_,
        hholds.inventory stored hjson, ?_, ?_, hreserved, hrest⟩
      · rw [Inventory.documentOfText, hjson, Inventory.documentOf]
      · exact Reserved.sorted_normal_normal _
      · exact Inventory.isWritable_sorted (Inventory.isWritable_reserved_normal
          (Inventory.isWritable_reserved_normal hwritable))

/-! ### There and back -/

theorem hasChanges_eq_false_iff
    {l : Ledger} :
    l.hasChanges = false ↔ ∀ k : ReservedKind, (k.book l).added = [] ∧ (k.book l).removed = [] := by
  constructor
  · intro h
    obtain ⟨hvmids, hvmids', hips, hips'⟩ := removed_of_not_hasChanges h
    intro k
    cases k with
    | vmid => exact ⟨hvmids, hvmids'⟩
    | ip => exact ⟨hips, hips'⟩
  · intro h
    have hvmids : l.added.vmids = [] ∧ l.removed.vmids = [] := h .vmid
    have hips : l.added.ips = [] ∧ l.removed.ips = [] := h .ip
    simp [hasChanges, Reserved.isEmpty, hvmids, hips]

/-- None of the tokens of a document is reserved in an inventory. -/
def Fresh (inv : Inventory) (v : Value) : Prop :=
  ∀ k : ReservedKind, ∀ r ∈ k.tokensOf v, r.text ∉ tokens (k.entries inv.reserved)

/-- Where none of the tokens was reserved before, each of them is now, once. -/
theorem Filled.tokens_made
    (h : Filled inv v w l)
    (hfresh : Fresh inv v)
    (k : ReservedKind) :
    ∃ new, k.book l = ⟨k.entries inv.reserved ++ new, new, []⟩ ∧
      tokens new = (k.tokensOf v).map Reference.text := by
  obtain ⟨new, hbook, htokens⟩ := h.made k
  refine ⟨new, hbook, htokens.trans ?_⟩
  rw [List.filter_eq_self]
  intro t ht
  obtain ⟨r, hr, rfl⟩ := List.mem_map.mp ht
  simpa using hfresh k r hr

/-- A run that releases has changes exactly if the run that has reserved had some. -/
theorem Released.hasChanges_eq
    {l' : Ledger}
    (h : Filled inv v w l)
    (hfresh : Fresh inv v)
    (h' : Released inv' v w l') :
    l'.hasChanges = l.hasChanges := by
  rw [Bool.eq_iff_iff, ← not_iff_not, Bool.not_eq_true, Bool.not_eq_true, hasChanges_eq_false_iff,
    hasChanges_eq_false_iff]
  refine forall_congr' fun k => ?_
  obtain ⟨new, hbook, htokens⟩ := h.tokens_made hfresh k
  have hempty : ∀ es : List (Reservation k.Bound), es = [] ↔ tokens es = [] := by
    intro es
    rw [tokens, List.map_eq_nil_iff]
  have hremoved := hempty (k.book l').removed
  rw [h'.removed, ← htokens, ← hempty] at hremoved
  simp [h'.added, hbook, hremoved]

/-- What was reserved and released is not left in the inventory. -/
theorem Released.reserved_mergedInto
    {l' : Ledger}
    (h : Filled inv v w l)
    (hfresh : Fresh inv v)
    (hvalid : inv'.Valid)
    (hreserved : inv'.reserved = l.inventory.reserved.reread)
    (hextra : l.inventory.reserved.extra = inv.reserved.extra)
    (h' : Released inv' v w l') :
    (l'.mergedInto inv').reserved = inv.reserved.reread := by
  have hentries : ∀ k : ReservedKind, k.entries (l'.mergedInto inv').reserved =
      (k.entries inv.reserved).map reread := by
    intro k
    obtain ⟨new, hbook, htokens⟩ := h.tokens_made hfresh k
    have hlive : k.entries l.inventory.reserved = k.entries inv.reserved ++ new := by
      rw [← k.live_book, hbook]
    have hold : ∀ e ∈ (k.entries inv.reserved).map reread,
        e.token ∉ (k.tokensOf v).map Reference.text := by
      intro e he hmem
      obtain ⟨d, hd, rfl⟩ := List.mem_map.mp he
      obtain ⟨r, hr, hrd⟩ := List.mem_map.mp hmem
      exact hfresh k r hr (mem_tokens.mpr ⟨d, hd, hrd.symm⟩)
    have hnew : ∀ e ∈ new.map reread, ¬ e.token ∉ (k.tokensOf v).map Reference.text := by
      intro e he
      obtain ⟨d, hd, rfl⟩ := List.mem_map.mp he
      rw [not_not, ← htokens]
      exact mem_tokens.mpr ⟨d, hd, rfl⟩
    rw [h'.mergedInto hvalid, ← k.live_book, h'.live, hreserved, k.entries_reread, hlive,
      List.map_append, List.filter_append, List.filter_eq_self.mpr (by simpa using hold),
      List.filter_eq_nil_iff.mpr (by simpa using hnew), List.append_nil]
  have hrest : (l'.mergedInto inv').reserved.extra = inv.reserved.extra.reread := by
    have hsame : (l'.mergedInto inv').reserved.extra = inv'.reserved.extra := rfl
    rw [hsame, hreserved, ← hextra]
    rfl
  have hvmids : (l'.mergedInto inv').reserved.vmids = inv.reserved.vmids.map reread :=
    hentries .vmid
  have hips : (l'.mergedInto inv').reserved.ips = inv.reserved.ips.map reread := hentries .ip
  rw [Reserved.reread, ← hvmids, ← hips, ← hrest]

/-- A run that releases can commit to the file of a run that has reserved. -/
theorem Released.commit_ok [DepthLimits]
    (h : Released inv v w l)
    (hread : site.read file = .ok text)
    (hdocument : Inventory.documentOfText file text = .ok document)
    (hinv : Inventory.ofValue document = .ok inv)
    (hwritable : inv.isWritable = true)
    (hreplace : site.outside.replaceFault = none) :
    ∃ next after, outcome (l.commit file) site = (.ok next, after) := by
  have hmerged := h.mergedInto (Inventory.valid_of_ofValue hinv)
  obtain ⟨calls, -, hcalls⟩ := h.calls
  have hsound : l.Sound := hcalls ▸ (sound_start hinv).afterAll calls
  have hwritable' : (l.mergedInto inv).isWritable = true := by
    rw [hmerged, hcalls]
    exact isWritable_afterAll hwritable calls
  cases hchanges : l.hasChanges with
  | false => exact ⟨l, site, by simp [commit, hchanges]⟩
  | true =>
      have hending := ending_commit (hcalls ▸ (plain_start inv).afterAll calls) hchanges hread
        hdocument hinv
      generalize outcome (l.commit file) site = ending at hending ⊢
      cases hending with
      | tooDeep hdeep => exact absurd (hwritable'.symm.trans hdeep) (by decide)
      | conflict _ hbroken => exact absurd (hmerged ▸ hsound.valid) hbroken
      | refused _ _ hreason => exact absurd (hreplace.symm.trans hreason) (by simp)
      | written => exact ⟨_, _, rfl⟩

/-- Once a run has committed what it has reserved, a run on what the file holds by then releases
it, and the file is written with the reservations that it had at first. -/
theorem Filled.undone [DepthLimits]
    (h : Filled inv v w l)
    (hwalked : v.IsWalked ∧ (ReservedKind.vmid.fill l v).IsWalked)
    (hfresh : Fresh inv v)
    (hchanges : l.hasChanges = true)
    (hread : site.read file = .ok text)
    (hdocument : Inventory.documentOfText file text = .ok document)
    (hinv : Inventory.ofValue document = .ok inv)
    (hcommit : outcome (l.commit file) site = (.ok next, after)) :
    ∃ text₁ inv₁ l' next' after', after.read file = .ok text₁ ∧
      Inventory.ofText file text₁ = .ok inv₁ ∧
      outcome (fillReservations .release v) (start inv₁) = (.ok w, l') ∧ Released inv₁ v w l' ∧
      outcome (l'.commit file) after = (.ok next', after') ∧
      Rewritten file document inv.reserved.reread after' := by
  have hvalid := Inventory.valid_of_ofValue hinv
  obtain ⟨calls, -, hcalls⟩ := h.calls
  have hplain : l.Plain := hcalls ▸ (plain_start inv).afterAll calls
  have hmerged : l.mergedInto inv = l.inventory := by
    have hknown := h.releasesKnown
    rw [hcalls] at hknown ⊢
    exact mergedInto_loaded hvalid hknown
  obtain ⟨hreplace, text₁, document₁, inv₁, hread₁, hdocument₁, hinv₁, hreserved₁, hwritable₁, -,
    hrest₁⟩ := rewritten_of_commit hplain hchanges hread hdocument hinv hcommit
  rw [hmerged] at hreserved₁
  have hvalid₁ := Inventory.valid_of_ofValue hinv₁
  have hload₁ : Inventory.ofText file text₁ = .ok inv₁ := by
    rw [Inventory.ofText, hdocument₁]
    exact hinv₁
  have hsame : ∀ k : ReservedKind, pairs (k.entries inv₁.reserved) = pairs (k.book l).live := by
    intro k
    rw [hreserved₁, k.entries_reread, k.live_book]
    simp [pairs, reread]
  obtain ⟨l', hrun', hreleased⟩ := h.release hwalked hvalid₁ hsame
  obtain ⟨next', after', hcommit'⟩ :=
    hreleased.commit_ok hread₁ hdocument₁ hinv₁ hwritable₁ hreplace
  have hplain' : l'.Plain := by
    obtain ⟨calls', -, rfl⟩ := hreleased.calls
    exact (plain_start inv₁).afterAll calls'
  have hrewritten := rewritten_of_commit hplain'
    ((hreleased.hasChanges_eq h hfresh).trans hchanges) hread₁ hdocument₁ hinv₁ hcommit'
  have hextra : l.inventory.reserved.extra = inv.reserved.extra := by
    rw [← hmerged]
    rfl
  rw [hreleased.reserved_mergedInto h hfresh hvalid₁ hreserved₁ hextra] at hrewritten
  refine ⟨text₁, inv₁, l', next', after', hread₁, hload₁, hrun', hreleased, hcommit',
    hrewritten.of_rest (Json.fits_of_read (read_of_documentOfText hdocument)) hrest₁⟩

/-- A run that has no changes is followed by one that has none either. -/
theorem Filled.undone_unchanged [DepthLimits]
    (file : String) (site : Site)
    (h : Filled inv v w l)
    (hwalked : v.IsWalked ∧ (ReservedKind.vmid.fill l v).IsWalked)
    (hfresh : Fresh inv v)
    (hvalid : inv.Valid)
    (hchanges : l.hasChanges = false) :
    ∃ l', outcome (fillReservations .release v) (start inv) = (.ok w, l') ∧ Released inv v w l' ∧
      outcome (l'.commit file) site = (.ok l', site) := by
  have hsame : ∀ k : ReservedKind, pairs (k.entries inv.reserved) = pairs (k.book l).live := by
    intro k
    obtain ⟨new, hbook, -⟩ := h.made k
    have hnone : new = [] := by
      have hadded := (hasChanges_eq_false_iff.mp hchanges k).1
      rwa [hbook] at hadded
    rw [hbook, hnone, List.append_nil]
  obtain ⟨l', hrun, hreleased⟩ := h.release hwalked hvalid hsame
  have hchanges' := (hreleased.hasChanges_eq h hfresh).trans hchanges
  exact ⟨l', hrun, hreleased, by simp [commit, hchanges']⟩

/-- A run that reserves the tokens of a document, none of which was reserved before, is undone by
a run on the file that it has committed.  The second run fills the same document in the same way
and releases each of its tokens once, it can commit, and then the file has the reservations again
that it had at first, in the form in which they are written, and all else as it was. -/
theorem release_undoes_reserve [DepthLimits]
    (hread : site.read file = .ok text)
    (hdocument : Inventory.documentOfText file text = .ok document)
    (hinv : Inventory.ofValue document = .ok inv)
    (hfresh : Fresh inv v)
    (hrun : outcome (fillReservations .reserve v) (start inv) = (.ok w, l))
    (hcommit : outcome (l.commit file) site = (.ok next, after)) :
    ∃ text₁ inv₁ l' next' after', after.read file = .ok text₁ ∧
      Inventory.ofText file text₁ = .ok inv₁ ∧
      outcome (fillReservations .release v) (start inv₁) = (.ok w, l') ∧
      (∀ k : ReservedKind, tokens (k.book l').removed = (k.tokensOf v).map Reference.text ∧
        (tokens (k.book l').removed).Nodup) ∧
      outcome (l'.commit file) after = (.ok next', after') ∧
      ∃ text₂ stored inv₂, after'.read file = .ok text₂ ∧
        Inventory.documentOfText file text₂ = .ok stored ∧ Inventory.ofValue stored = .ok inv₂ ∧
        (l.hasChanges = false → text₂ = text) ∧
        (l.hasChanges = true → inv₂.reserved = inv.reserved.reread ∧
          stored.get? "reserved" = some inv.reserved.normal.toValue.sorted ∧
          ∀ key, key ≠ "reserved" → stored.get? key = (document.get? key).map Value.sorted) := by
  obtain ⟨hfilled, hwalked⟩ := filled_of_outcome hrun
  have honce : ∀ {inv₁ : Inventory} {l' : Ledger}, Released inv₁ v w l' → ∀ k : ReservedKind,
      tokens (k.book l').removed = (k.tokensOf v).map Reference.text ∧
        (tokens (k.book l').removed).Nodup := by
    intro inv₁ l' hreleased k
    rw [hreleased.removed]
    exact ⟨rfl, Pass.nodup_tokensOf _ v⟩
  cases hchanges : l.hasChanges with
  | false =>
      have hload : Inventory.ofText file text = .ok inv := by
        rw [Inventory.ofText, hdocument]
        exact hinv
      have hnothing : outcome (l.commit file) site = (.ok l, site) := by
        simp [commit, hchanges]
      obtain ⟨-, rfl⟩ := Prod.mk.inj (hnothing.symm.trans hcommit)
      obtain ⟨l', hrun', hreleased, hcommit'⟩ := hfilled.undone_unchanged file site hwalked hfresh
        (Inventory.valid_of_ofValue hinv) hchanges
      exact ⟨text, inv, l', l', site, hread, hload, hrun', honce hreleased, hcommit', text, document,
        inv, hread, hdocument, hinv, fun _ => rfl, by simp⟩
  | true =>
      obtain ⟨text₁, inv₁, l', next', after', hread₁, hload₁, hrun', hreleased, hcommit', -, text₂,
        stored, inv₂, hread₂, hdocument₂, hinv₂, hreserved, -, hstored, hrest⟩ :=
        hfilled.undone hwalked hfresh hchanges hread hdocument hinv hcommit
      obtain ⟨depth, hlimit⟩ := DepthLimits.exists_add_eq_reading (show 4 < 260 by omega)
      have hfits := Json.fits_of_read (read_of_documentOfText hdocument)
      rw [← hlimit] at hfits
      have hkept : inv.reserved.Fits depth := Inventory.reserved_fits hfits hinv
      have hform := (Inventory.wellFormed_of_ofValue hinv).reserved
      rw [hkept.reread_reread] at hreserved
      rw [Reserved.sorted_toValue_reread hform hkept] at hstored
      exact ⟨text₁, inv₁, l', next', after', hread₁, hload₁, hrun', honce hreleased, hcommit', text₂,
        stored, inv₂, hread₂, hdocument₂, hinv₂, by simp, fun _ => ⟨hreserved, hstored, hrest⟩⟩

end Release

/-- A machine number is reserved for a document and committed, and then released. -/
theorem release_undoes_reserve_sample :
    ∃ text after text₁ inv₁ l' next' after', (sampleSite text).read "inventory.json" = .ok text ∧
      outcome ((sampleLedger (.int 1)).commit "inventory.json") (sampleSite text) =
        (.ok (sampleLedger (.int 1)).settled, after) ∧
      after.read "inventory.json" = .ok text₁ ∧
      Inventory.ofText "inventory.json" text₁ = .ok inv₁ ∧
      outcome (fillReservations .release (.str "vm:id:web")) (start inv₁) = (.ok (.int 100), l') ∧
      outcome (l'.commit "inventory.json") after = (.ok next', after') := by
  obtain ⟨text, hread, hdocument⟩ := exists_sampleText fits_one
    (DepthLimits.lt_reading (by omega)) (by simp [Value.sorted])
  have hwritable : (sampleInventory (.int 1)).isWritable = true := by
    rw [isWritable_sampleInventory]
    decide
  have hfresh : Fresh (sampleInventory (.int 1)) (.str "vm:id:web") := by
    intro k r _
    cases k <;> simp [ReservedKind.entries, sampleInventory, Reserved.empty, tokens]
  obtain ⟨text', hcommit, -⟩ := (usedIn_sampleLedger (.int 1)).commit_eq (hasChanges_sampleLedger _)
    hread hdocument (ofValue_sampleDocument _) (not_collides_sampleLedger _ _) hwritable rfl
  obtain ⟨text₁, inv₁, l', next', after', hread₁, hload₁, hrun', -, hcommit', -⟩ :=
    release_undoes_reserve hread hdocument (ofValue_sampleDocument _) hfresh
      (outcome_fillSample (.int 1)) hcommit
  exact ⟨text, _, text₁, inv₁, l', next', after', hread, hcommit, hread₁, hload₁, hrun', hcommit'⟩

/-- A document with a reservation that keeps an empty note. -/
def notedDocument : Value :=
  .object
    [("proxmox", .object
      [("api_token", .str "secret"), ("api_user", .str "root@pam!run"),
       ("endpoint", .str "https://pve:8006"), ("node", .str "pve")]),
     ("reserved", .object
      [("vmids", .list
        [.object [("note", .null), ("refId", .str "vm:id:old"), ("vmid", .int 150)]])]),
     ("terraform", .object
      [("backend", .object [("config", .object []), ("type", .str "local")])])]

/-- The inventory of this document. -/
def notedInventory : Inventory where
  cluster := ⟨"https://pve:8006", "root@pam!run", some "secret", "pve", none, none, []⟩
  modules := ⟨⟨"local", [], []⟩, []⟩
  networks := []
  hosts := []
  templates := []
  reserved := ⟨[⟨150, "vm:id:old", [("note", .null)]⟩], [], []⟩
  extra := []

theorem ofValue_notedDocument :
    Inventory.ofValue notedDocument = .ok notedInventory := rfl

theorem fits_notedDocument [DepthLimits] :
    notedDocument.Fits DepthLimits.reading := by
  have hstr : ∀ (d : Nat) (s : String), (Value.str s).Fits d := fun d s => .scalar trivial
  have hobject : ∀ {d : Nat} {fs : List (String × Value)}, (fs.map Prod.fst).Nodup →
      (∀ f ∈ fs, f.2.Fits d) → (Value.object fs).Fits (d + 1) := Value.fits_object
  refine Value.Fits.mono (d := 4) ?_ (Nat.le_of_lt (DepthLimits.lt_reading (by omega)))
  refine hobject (by decide) ?_
  simp only [List.forall_mem_cons]
  refine ⟨hobject (by decide) ?_, hobject (by decide) ?_, hobject (by decide) ?_, by simp⟩
  · simp only [List.forall_mem_cons]
    exact ⟨hstr _ _, hstr _ _, hstr _ _, hstr _ _, by simp⟩
  · simp only [List.forall_mem_cons]
    refine ⟨.list ?_, by simp⟩
    simp only [List.forall_mem_cons]
    refine ⟨hobject (by decide) ?_, by simp⟩
    simp only [List.forall_mem_cons]
    have hnumber : (150 : Int).natAbs < 10 ^ Json.digitLimit :=
      Nat.lt_of_lt_of_le (show 150 < 10 ^ 3 by decide) (Nat.pow_le_pow_right (by omega) (by decide))
    exact ⟨.scalar trivial, hstr _ _, .scalar hnumber, by simp⟩
  · simp only [List.forall_mem_cons]
    refine ⟨hobject (by decide) ?_, by simp⟩
    simp only [List.forall_mem_cons]
    exact ⟨hobject (by decide) (by simp), hstr _ _, by simp⟩

theorem sorted_notedInventory :
    notedInventory.sorted = notedInventory := by
  simp [notedInventory, Inventory.sorted, ClusterConfig.sorted, ModuleSettings.sorted,
    StateBackend.sorted, Reserved.sorted, Reservation.sorted, Extra.sorted, Entries.sorted,
    Value.sortedEntries, Entries.sortByKey, Value.sorted, Scalar.keyText]

theorem nextVmid_notedInventory :
    notedInventory.nextVmid "vm" = .ok 100 :=
  Inventory.nextVmid_eq (r := .vm) (k := 100) rfl (by decide) (by decide)
    (by simp [Inventory.usedVmids, Inventory.committedVmids, notedInventory])
    fun j hfirst hj => absurd (show 100 ≤ j from hfirst) (by omega)

theorem fresh_notedInventory :
    Fresh notedInventory (.str "vm:id:web") := by
  intro k r hr
  cases k with
  | vmid =>
      have htokens : ReservedKind.vmid.tokensOf (.str "vm:id:web") =
          [⟨"vm:id:web", .machine .vm "web"⟩] := by decide
      rw [htokens, List.mem_singleton] at hr
      simp [hr, ReservedKind.entries, notedInventory, tokens]
  | ip => simp [ReservedKind.entries, notedInventory, tokens]

/-- A reservation in the file keeps an empty note.  After a run that reserves a machine number
and a run that releases it, the reservation is there without the note. -/
theorem empty_note_is_lost :
    ∃ text l next after text₁ inv₁ l' next' after' text₂ inv₂,
      (sampleSite text).read "inventory.json" = .ok text ∧
      Inventory.ofText "inventory.json" text = .ok notedInventory ∧
      Fresh notedInventory (.str "vm:id:web") ∧
      outcome (fillReservations .reserve (.str "vm:id:web")) (start notedInventory) =
        (.ok (.int 100), l) ∧
      outcome (l.commit "inventory.json") (sampleSite text) = (.ok next, after) ∧
      after.read "inventory.json" = .ok text₁ ∧
      Inventory.ofText "inventory.json" text₁ = .ok inv₁ ∧
      outcome (fillReservations .release (.str "vm:id:web")) (start inv₁) = (.ok (.int 100), l') ∧
      outcome (l'.commit "inventory.json") after = (.ok next', after') ∧
      after'.read "inventory.json" = .ok text₂ ∧
      Inventory.ofText "inventory.json" text₂ = .ok inv₂ ∧
      notedInventory.reserved.vmids = [⟨150, "vm:id:old", [("note", .null)]⟩] ∧
      inv₂.reserved.vmids = [⟨150, "vm:id:old", []⟩] := by
  obtain ⟨text, htext, hjson⟩ := Json.read_fileText fits_notedDocument
  have hread := read_sampleSite (Json.content_fileText fits_notedDocument htext)
  have hdocument : Inventory.documentOfText "inventory.json" text = .ok notedDocument.sorted := by
    rw [Inventory.documentOfText, hjson, Inventory.documentOf]
  have hinv := Inventory.ofValue_sorted fits_notedDocument ofValue_notedDocument
  rw [sorted_notedInventory] at hinv
  have hrun := outcome_fillFirst rfl nextVmid_notedInventory
  have hused : UsedIn .reserve ((start notedInventory).after ⟨.vmid, .reserve, "vm", "vm:id:web"⟩) :=
    .call (.start hinv) rfl
  have hledger : (start notedInventory).after ⟨.vmid, .reserve, "vm", "vm:id:web"⟩ = _ :=
    after_reserveVmid rfl nextVmid_notedInventory
  generalize (start notedInventory).after ⟨.vmid, .reserve, "vm", "vm:id:web"⟩ = l at *
  have hadded : l.added = ⟨[⟨100, "vm:id:web", []⟩], [], []⟩ := by
    rw [hledger]
    rfl
  have hchanges : l.hasChanges = true := by
    rw [hasChanges, hadded]
    rfl
  have hfree : ¬ l.Collides notedInventory := by
    simp [Collides, hadded, Inventory.committedVmids, notedInventory, mem_untouched]
  have hwritable : notedInventory.isWritable = true := by
    simp [Inventory.isWritable, Inventory.extras, notedInventory, Value.levels,
      Inventory.levelLimit]
  obtain ⟨_, hcommit, -⟩ := hused.commit_eq hchanges hread hdocument hinv hfree hwritable rfl
  obtain ⟨hfilled, hwalked⟩ := filled_of_outcome hrun
  obtain ⟨text₁, inv₁, l', next', after', hread₁, hload₁, hrun', -, hcommit', -, text₂, stored, inv₂,
    hread₂, hdocument₂, hinv₂, hreserved, -⟩ :=
    hfilled.undone hwalked fresh_notedInventory hchanges hread hdocument hinv hcommit
  refine ⟨text, l, _, _, text₁, inv₁, l', next', after', text₂, inv₂, hread, ?_,
    fresh_notedInventory, hrun, hcommit, hread₁, hload₁, hrun', hcommit', hread₂, ?_, rfl, ?_⟩
  · rw [Inventory.ofText, hdocument]
    exact hinv
  · rw [Inventory.ofText, hdocument₂]
    exact hinv₂
  · rw [hreserved]
    simp [notedInventory, Reserved.reread, reread, Extra.reread, Extra.normal, Extra.sorted,
      Entries.sorted, Entries.sortByKey, Value.sortedEntries, Value.isNull]

end Ledger
end Homelab
