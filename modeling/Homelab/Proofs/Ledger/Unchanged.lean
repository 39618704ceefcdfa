import Homelab.Proofs.Ledger.Commit

/-!
# Committing to the file that was loaded

As long as a run releases only tokens that the file knows, its books tell how the live
entries came from those of the file, in whatever order it reserves, releases and reserves
again.  Then a commit to the unchanged file writes the live entries.  A token that the run
has made and released is still among those that it has made: the commit brings it back,
or fails if it was made twice.
-/

namespace Homelab

open Reservation

namespace Book

variable {α β : Type} {read : α → Option β} {given : α → Prop} {taken : List β}
  {base : List (Reservation α)} {b b' : Book α} {mode : Ledger.Mode}

/-- The run has released only entries whose tokens were there at its beginning. -/
def ReleasesKnown (base : List (Reservation α)) (b : Book α) : Prop :=
  ∀ t ∈ tokens b.removed, t ∈ tokens base

/-- How the entries of a book come from those at the beginning.  If only known tokens were
released, what holds is what is left of the beginning and then what was made; otherwise a
stray token was released that is still among those that were made. -/
structure Tracks (base : List (Reservation α)) (b : Book α) : Prop where
  tokens_nodup : (tokens b.live).Nodup
  known : ∀ t ∈ tokens b.live, t ∈ tokens base ∨ t ∈ tokens b.added
  live : b.ReleasesKnown base →
    b.live = base.filter (fun e => e.token ∉ tokens b.removed) ++ b.added
  again : b.ReleasesKnown base →
    ∀ t ∈ tokens b.added, t ∈ tokens base → t ∈ tokens b.removed
  stray : ∀ t ∈ tokens b.removed, t ∉ tokens base →
    t ∈ tokens b.added ∧ (t ∈ tokens b.live → ¬ (tokens b.added).Nodup)

theorem tracks_start
    (h : (tokens base).Nodup) :
    Tracks base ⟨base, [], []⟩ := by
  refine ⟨h, fun t ht => .inl ht, fun _ => ?_, ?_, ?_⟩ <;> simp [tokens]

theorem Tracks.reserved
    {e : Reservation α}
    (h : Tracks base b)
    (hnew : e.token ∉ tokens b.live) :
    Tracks base ⟨b.live ++ [e], b.added ++ [e], b.removed⟩ := by
  have hone : tokens [e] = [e.token] := rfl
  refine ⟨?_, ?_, ?_, ?_, ?_⟩
  · rw [tokens_append, hone, List.nodup_append]
    refine ⟨h.tokens_nodup, by simp, ?_⟩
    rintro t ht u hu rfl
    exact hnew (by rwa [← List.mem_singleton.mp hu])
  · intro t ht
    rw [tokens_append, List.mem_append] at ht ⊢
    rcases ht with ht | ht
    · rcases h.known t ht with hbase | hadded
      · exact .inl hbase
      · exact .inr (.inl hadded)
    · exact .inr (.inr ht)
  · intro hknown
    rw [h.live hknown, List.append_assoc]
  · intro hknown t ht hbase
    rw [tokens_append, List.mem_append] at ht
    rcases ht with ht | ht
    · exact h.again hknown t ht hbase
    · obtain rfl : t = e.token := by simpa [hone] using ht
      -- what is left of the beginning holds, and the token does not
      by_contra hremoved
      obtain ⟨d, hd, hdt⟩ := mem_tokens.mp hbase
      refine hnew (mem_tokens.mpr ⟨d, ?_, hdt⟩)
      rw [h.live hknown, List.mem_append]
      exact .inl (List.mem_filter.mpr ⟨hd, by simpa [hdt] using hremoved⟩)
  · intro t ht hbase
    obtain ⟨hadded, hagain⟩ := h.stray t ht hbase
    refine ⟨by simp [hadded], ?_⟩
    intro hlive hnodup
    rw [tokens_append, List.nodup_append] at hnodup
    rw [tokens_append, List.mem_append] at hlive
    rcases hlive with hlive | hlive
    · exact hagain hlive hnodup.1
    · exact hnodup.2.2 t hadded t hlive rfl

theorem Tracks.released
    {e : Reservation α}
    (h : Tracks base b)
    (hfirst : e.token ∉ tokens b.removed)
    (he : e ∈ b.live) :
    Tracks base ⟨release e.token b.live, b.added, b.removed ++ [e]⟩ := by
  have hone : tokens [e] = [e.token] := rfl
  have hrelease : release e.token b.live = b.live.filter fun f => f.token ≠ e.token :=
    release_eq_filter h.tokens_nodup
  have hsub := tokens_sublist (release_sublist e.token b.live)
  have hgone : e.token ∉ tokens (release e.token b.live) := by
    rw [hrelease]
    simp [tokens]
  refine ⟨h.tokens_nodup.sublist hsub, fun t ht => h.known t (hsub.subset ht), ?_, ?_, ?_⟩
  · intro hknown
    have hbefore : b.ReleasesKnown base := fun t ht => hknown t (by simp [ht])
    have hadded : ∀ f ∈ b.added, f.token ≠ e.token := by
      intro f hf heq
      refine hfirst (h.again hbefore _ ?_ (hknown _ (by simp [hone])))
      exact mem_tokens.mpr ⟨f, hf, heq⟩
    have hkeep : b.added.filter (fun f => f.token ≠ e.token) = b.added := by
      simpa [List.filter_eq_self] using hadded
    simp only at hrelease ⊢
    rw [hrelease, h.live hbefore, List.filter_append, hkeep, List.filter_filter]
    congr 1
    refine List.filter_congr fun f _ => ?_
    simp [hone, and_comm]
  · intro hknown t ht hbase
    have hbefore : b.ReleasesKnown base := fun t ht => hknown t (by simp [ht])
    simp [h.again hbefore t ht hbase]
  · intro t ht hbase
    rw [tokens_append, List.mem_append] at ht
    rcases ht with ht | ht
    · obtain ⟨hadded, hagain⟩ := h.stray t ht hbase
      exact ⟨hadded, fun hlive => hagain (hsub.subset hlive)⟩
    · obtain rfl : t = e.token := by simpa [hone] using ht
      refine ⟨?_, fun hlive => absurd hlive hgone⟩
      exact (h.known _ (mem_tokens.mpr ⟨e, he, rfl⟩)).resolve_left hbase

/-- Every move keeps track of where the entries come from. -/
theorem Move.tracks
    (hmove : Move read given taken b mode b')
    (h : Tracks base b) :
    Tracks base b' := by
  cases hmove with
  | told => exact h
  | reserved hnew hgiven hread htaken hfree => exact h.reserved hnew
  | released hfirst hfind => exact h.released hfirst (mem_of_find?_eq_some hfind).1

/-- As long as only known tokens were released, merging with the beginning gives what
holds. -/
theorem Tracks.merge_eq
    (h : Tracks base b)
    (hknown : b.ReleasesKnown base) :
    Ledger.merge base b.added b.removed = b.live := by
  rw [Ledger.merge_eq, h.live hknown, Ledger.untouched]
  congr 1
  refine List.filter_congr fun e he => ?_
  have hadded := h.again hknown e.token
  have hbase : e.token ∈ tokens base := mem_tokens.mpr ⟨e, he, rfl⟩
  rw [decide_eq_decide]
  exact ⟨fun hboth => hboth.1, fun hremoved => ⟨hremoved, fun hmade => hremoved (hadded hmade hbase)⟩⟩

/-- A stray token that was released comes back with the merge. -/
theorem Tracks.exists_stray
    (h : Tracks base b)
    (hstray : ¬ b.ReleasesKnown base)
    (hnodup : (tokens (Ledger.merge base b.added b.removed)).Nodup) :
    ∃ t ∈ tokens (Ledger.merge base b.added b.removed), t ∉ tokens b.live := by
  simp only [ReleasesKnown, not_forall] at hstray
  obtain ⟨t, ht, hbase⟩ := hstray
  obtain ⟨hadded, hagain⟩ := h.stray t ht hbase
  rw [Ledger.merge_eq, tokens_append] at hnodup ⊢
  exact ⟨t, by simp [hadded], fun hlive => hagain hlive (List.nodup_append.mp hnodup).2.1⟩

/-- If the merge has the pairs of what holds, only known tokens were released. -/
theorem Tracks.releasesKnown
    (h : Tracks base b)
    (hnodup : (tokens (Ledger.merge base b.added b.removed)).Nodup)
    (hsame : ∀ p, p ∈ pairs (Ledger.merge base b.added b.removed) ↔ p ∈ pairs b.live) :
    b.ReleasesKnown base := by
  by_contra hstray
  obtain ⟨t, ht, hlive⟩ := h.exists_stray hstray hnodup
  obtain ⟨e, he, rfl⟩ := mem_tokens.mp ht
  have hmem := (hsame (e.token, e.value)).mp (List.mem_map.mpr ⟨e, he, rfl⟩)
  obtain ⟨f, hf, hfe⟩ := List.mem_map.mp hmem
  exact hlive (mem_tokens.mpr ⟨f, hf, (Prod.mk.inj hfe).1⟩)

end Book

namespace Ledger

/-- The run has released only tokens that had a reservation in the loaded inventory. -/
def ReleasesKnown (l : Ledger) (inv : Inventory) : Prop :=
  l.vmidBook.ReleasesKnown inv.reserved.vmids ∧ l.ipBook.ReleasesKnown inv.reserved.ips

/-- The reservations in a file have the tokens and values of those of the ledger. -/
def InFile [DepthLimits] (l : Ledger) (file : String) (site : Site) : Prop :=
  ∃ text disk, site.read file = .ok text ∧ Inventory.ofText file text = .ok disk ∧
    (∀ p, p ∈ pairs disk.reserved.vmids ↔ p ∈ pairs l.inventory.reserved.vmids) ∧
    ∀ p, p ∈ pairs disk.reserved.ips ↔ p ∈ pairs l.inventory.reserved.ips

theorem tracks_afterAll
    {inv : Inventory}
    (hvalid : inv.Valid)
    (calls : List Call) :
    let l := (start inv).afterAll calls
    l.vmidBook.Tracks inv.reserved.vmids ∧ l.ipBook.Tracks inv.reserved.ips ∧
      l.inventory = inv.withReservations l.vmidBook.live l.ipBook.live := by
  have hall : ∀ (calls : List Call) (l : Ledger),
      l.vmidBook.Tracks inv.reserved.vmids ∧ l.ipBook.Tracks inv.reserved.ips ∧
        l.inventory = inv.withReservations l.vmidBook.live l.ipBook.live →
      (l.afterAll calls).vmidBook.Tracks inv.reserved.vmids ∧
        (l.afterAll calls).ipBook.Tracks inv.reserved.ips ∧
        (l.afterAll calls).inventory =
          inv.withReservations (l.afterAll calls).vmidBook.live (l.afterAll calls).ipBook.live := by
    intro calls
    induction calls with
    | nil => exact fun l h => h
    | cons c rest ih =>
        rintro l ⟨hvmids, hips, hinventory⟩
        have hchange := change_after l c
        refine ih (l.after c) ⟨hchange.vmids.tracks hvmids, hchange.ips.tracks hips, ?_⟩
        rw [hchange.inventory, hinventory]
        rfl
  exact hall calls (start inv) ⟨Book.tracks_start hvalid.vmidTokens_nodup,
    Book.tracks_start hvalid.ipTokens_nodup, rfl⟩

/-- As long as only known tokens were released, the merge with the loaded inventory is the
inventory of the ledger. -/
theorem mergedInto_loaded
    {inv : Inventory} {calls : List Call}
    (hvalid : inv.Valid)
    (hknown : ((start inv).afterAll calls).ReleasesKnown inv) :
    ((start inv).afterAll calls).mergedInto inv = ((start inv).afterAll calls).inventory := by
  obtain ⟨hvmids, hips, hinventory⟩ := tracks_afterAll hvalid calls
  rw [hinventory, mergedInto_eq, ← hvmids.merge_eq hknown.1, ← hips.merge_eq hknown.2]
  rfl

theorem pairs_of_holds [DepthLimits]
    {l : Ledger} {file text text' : String} {document : Value} {disk : Inventory} {site : Site}
    (hread : site.read file = .ok text)
    (hholds : Inventory.Holds document disk (l.mergedInto disk).reserved.normal text') :
    (site.write file (.text text')).read file = .ok text' ∧
      ∃ inv, Inventory.ofText file text' = .ok inv ∧
        pairs inv.reserved.vmids = pairs (merge disk.reserved.vmids l.added.vmids l.removed.vmids) ∧
        pairs inv.reserved.ips = pairs (merge disk.reserved.ips l.added.ips l.removed.ips) := by
  obtain ⟨hread', inv, hinv, hbare⟩ := load_of_holds hread hholds
  have hreserved := congrArg Inventory.reserved hbare
  exact ⟨hread', inv, hinv, pairs_of_bare (congrArg Reserved.vmids hreserved),
    pairs_of_bare (congrArg Reserved.ips hreserved)⟩

theorem removed_of_not_hasChanges
    {l : Ledger}
    (h : l.hasChanges = false) :
    l.vmidBook.added = [] ∧ l.vmidBook.removed = [] ∧ l.ipBook.added = [] ∧
      l.ipBook.removed = [] := by
  simp only [hasChanges, Reserved.isEmpty, Bool.not_eq_false', Bool.and_eq_true,
    List.isEmpty_iff] at h
  exact ⟨h.1.1, h.2.1, h.1.2, h.2.2⟩

theorem releasesKnown_of_not_hasChanges
    {l : Ledger}
    (h : l.hasChanges = false)
    (inv : Inventory) :
    l.ReleasesKnown inv := by
  obtain ⟨-, hvmids, -, hips⟩ := removed_of_not_hasChanges h
  simp [ReleasesKnown, Book.ReleasesKnown, hvmids, hips, tokens]

theorem mergedInto_of_not_hasChanges
    {l : Ledger}
    (h : l.hasChanges = false)
    (disk : Inventory) :
    l.mergedInto disk = disk := by
  obtain ⟨hvmids, hvmids', hips, hips'⟩ := removed_of_not_hasChanges h
  simp only [vmidBook, ipBook] at hvmids hvmids' hips hips'
  simp [mergedInto, merge, hvmids, hvmids', hips, hips']

theorem inFile_of_pairs_eq [DepthLimits]
    {l : Ledger} {file text : String} {site : Site} {disk : Inventory}
    (hread : site.read file = .ok text)
    (hdisk : Inventory.ofText file text = .ok disk)
    (hvmids : pairs disk.reserved.vmids = pairs l.inventory.reserved.vmids)
    (hips : pairs disk.reserved.ips = pairs l.inventory.reserved.ips) :
    l.InFile file site :=
  ⟨text, disk, hread, hdisk, fun p => by rw [hvmids], fun p => by rw [hips]⟩

section Loaded

variable {file text : String} {site : Site} {inv : Inventory} {calls : List Call}

/-- If the run has changed nothing, its inventory is the loaded one. -/
theorem inventory_of_not_hasChanges
    (hvalid : inv.Valid)
    (hchanges : ((start inv).afterAll calls).hasChanges = false) :
    ((start inv).afterAll calls).inventory = inv := by
  rw [← mergedInto_loaded hvalid (releasesKnown_of_not_hasChanges hchanges inv)]
  exact mergedInto_of_not_hasChanges hchanges inv

/-- If the run has released only known tokens, a commit to the loaded file writes the
reservations of the ledger, as soon as it can write at all. -/
theorem commit_of_releasesKnown [DepthLimits]
    (hread : site.read file = .ok text)
    (hload : Inventory.ofText file text = .ok inv)
    (hchanges : ((start inv).afterAll calls).hasChanges = true)
    (hknown : ((start inv).afterAll calls).ReleasesKnown inv) :
    let l := (start inv).afterAll calls
    let (result, after) := outcome (l.commit file) site
    ((∃ next, result = .ok next) ↔
      l.inventory.isWritable = true ∧ site.outside.replaceFault = none) ∧
    ∀ next, result = .ok next →
      ∃ text' disk, after.read file = .ok text' ∧ Inventory.ofText file text' = .ok disk ∧
        pairs disk.reserved.vmids = pairs l.inventory.reserved.vmids ∧
        pairs disk.reserved.ips = pairs l.inventory.reserved.ips := by
  intro l
  obtain ⟨document, hdocument, hinv⟩ := documentOfText_of_ofText hload
  have hsound : l.Sound := (sound_start hinv).afterAll calls
  have hmerged : l.mergedInto inv = l.inventory :=
    mergedInto_loaded (Inventory.valid_of_ofValue hinv) hknown
  have hending := ending_commit ((plain_start inv).afterAll calls) hchanges hread hdocument hinv
  generalize outcome (l.commit file) site = ending at hending ⊢
  cases hending with
  | tooDeep hwritable =>
      rw [hmerged] at hwritable
      simp [hwritable]
  | conflict hwritable hbroken =>
      rw [hmerged] at hbroken
      exact absurd hsound.valid hbroken
  | refused hwritable hkept hreason => simp [hreason]
  | @written text' hwritable hkept hreplace hholds =>
      obtain ⟨hread', disk, hdisk, hvmids, hips⟩ := pairs_of_holds hread hholds
      rw [hmerged] at hwritable
      refine ⟨⟨fun _ => ⟨hwritable, hreplace⟩, fun _ => ⟨_, rfl⟩⟩, fun _ _ => ?_⟩
      refine ⟨text', disk, hread', hdisk, ?_, ?_⟩
      · rw [hvmids, ← hmerged]
        rfl
      · rw [hips, ← hmerged]
        rfl

/-- If the run has released a token that the file does not know, a commit to the loaded file
does not write the reservations of the ledger. -/
theorem not_inFile_of_not_releasesKnown [DepthLimits]
    (hread : site.read file = .ok text)
    (hload : Inventory.ofText file text = .ok inv)
    (hchanges : ((start inv).afterAll calls).hasChanges = true)
    (hstray : ¬ ((start inv).afterAll calls).ReleasesKnown inv) :
    let l := (start inv).afterAll calls
    let (result, after) := outcome (l.commit file) site
    ¬ ((∃ next, result = .ok next) ∧ l.InFile file after) := by
  intro l
  obtain ⟨document, hdocument, hinv⟩ := documentOfText_of_ofText hload
  obtain ⟨hvmids, hips, -⟩ := tracks_afterAll (Inventory.valid_of_ofValue hinv) calls
  have hending := ending_commit ((plain_start inv).afterAll calls) hchanges hread hdocument hinv
  generalize outcome (l.commit file) site = ending at hending ⊢
  rintro ⟨⟨next, hnext⟩, text', disk, hread', hdisk, hsame, hsame'⟩
  cases hending with
  | tooDeep => cases hnext
  | conflict => cases hnext
  | refused => cases hnext
  | @written written hwritable hkept hreplace hholds =>
      obtain ⟨hread'', disk', hdisk', hvmids', hips'⟩ := pairs_of_holds hread hholds
      obtain rfl : written = text' := Except.ok.inj (hread''.symm.trans hread')
      obtain rfl : disk' = disk := Except.ok.inj (hdisk'.symm.trans hdisk)
      rw [hvmids'] at hsame
      rw [hips'] at hsame'
      exact hstray ⟨hvmids.releasesKnown hkept.vmidTokens_nodup hsame,
        hips.releasesKnown hkept.ipTokens_nodup hsame'⟩

end Loaded

/-- Whatever calls a ledger has had, a commit to the file that it was loaded from succeeds
and writes the reservations of the ledger exactly if the run has released only tokens that
the file knows, the inventory of the ledger can be written, and the file can be replaced.
Then the file has them in the order of the ledger. -/
theorem commit_to_loaded_iff [DepthLimits]
    {file text : String} {site : Site} {inv : Inventory}
    (hread : site.read file = .ok text)
    (hload : Inventory.ofText file text = .ok inv)
    (calls : List Call) :
    let l := (start inv).afterAll calls
    let (result, after) := outcome (l.commit file) site
    ((∃ next, result = .ok next) ∧ l.InFile file after ↔
      l.ReleasesKnown inv ∧
        (l.hasChanges = true →
          l.inventory.isWritable = true ∧ site.outside.replaceFault = none)) ∧
    (∀ next, result = .ok next → l.ReleasesKnown inv →
      ∃ text' disk, after.read file = .ok text' ∧ Inventory.ofText file text' = .ok disk ∧
        pairs disk.reserved.vmids = pairs l.inventory.reserved.vmids ∧
        pairs disk.reserved.ips = pairs l.inventory.reserved.ips) := by
  intro l
  cases hchanges : l.hasChanges with
  | false =>
      obtain ⟨document, -, hinv⟩ := documentOfText_of_ofText hload
      have hsame : l.inventory = inv :=
        inventory_of_not_hasChanges (Inventory.valid_of_ofValue hinv) hchanges
      have hcommit : outcome (l.commit file) site = (.ok l, site) := by
        simp [commit, hchanges]
      rw [hcommit]
      have hknown : l.ReleasesKnown inv := releasesKnown_of_not_hasChanges hchanges inv
      have hfile : l.InFile file site :=
        inFile_of_pairs_eq hread hload (by rw [hsame]) (by rw [hsame])
      refine ⟨⟨fun _ => ⟨hknown, by simp⟩, fun _ => ⟨⟨l, rfl⟩, hfile⟩⟩, fun _ _ _ => ?_⟩
      exact ⟨text, inv, hread, hload, by rw [hsame], by rw [hsame]⟩
  | true =>
      by_cases hknown : l.ReleasesKnown inv
      · obtain ⟨hok, hpairs⟩ := commit_of_releasesKnown hread hload hchanges hknown
        refine ⟨⟨fun h => ⟨hknown, fun _ => hok.mp h.1⟩, ?_⟩, fun next hnext _ => hpairs next hnext⟩
        rintro ⟨-, hwrite⟩
        obtain ⟨next, hnext⟩ := hok.mpr (hwrite rfl)
        obtain ⟨text', disk, hread', hdisk, hvmids, hips⟩ := hpairs next hnext
        exact ⟨⟨next, hnext⟩, inFile_of_pairs_eq hread' hdisk hvmids hips⟩
      · have hnot := not_inFile_of_not_releasesKnown hread hload hchanges hknown
        exact ⟨⟨fun h => absurd h hnot, fun h => absurd h.1 hknown⟩, fun _ _ h => absurd h hknown⟩

/-- A machine number is reserved and committed to the file that was loaded. -/
theorem commit_to_loaded_sample :
    ∃ text, (sampleSite text).read "inventory.json" = .ok text ∧
      Inventory.ofText "inventory.json" text = .ok (sampleInventory (.int 1)) ∧
      let (result, after) := outcome ((sampleLedger (.int 1)).commit "inventory.json")
        (sampleSite text)
      (∃ next, result = .ok next) ∧ (sampleLedger (.int 1)).InFile "inventory.json" after := by
  obtain ⟨text, hread, hload⟩ := exists_sampleLoad
  have hspec := commit_to_loaded_iff hread hload [⟨.vmid, .reserve, "vm", "vm:id:web"⟩]
  have hsame : (start (sampleInventory (.int 1))).afterAll
      [⟨.vmid, .reserve, "vm", "vm:id:web"⟩] = sampleLedger (.int 1) := rfl
  simp only [hsame] at hspec
  have hknown : (sampleLedger (.int 1)).ReleasesKnown (sampleInventory (.int 1)) := by
    rw [sampleLedger_eq]
    simp [ReleasesKnown, Book.ReleasesKnown, vmidBook, ipBook, Reserved.empty, tokens]
  have hwritable : (sampleLedger (.int 1)).inventory.isWritable = true := by
    rw [sampleLedger_eq]
    exact isWritable_sampleInventory_plain (by simp) (by simp)
  exact ⟨text, hread, hload, hspec.1.mpr ⟨hknown, fun _ => ⟨hwritable, rfl⟩⟩⟩

/-- A machine number is reserved and released, and the commit binds it in the file. -/
theorem commit_binds_released :
    let l := (start (sampleInventory (.int 1))).afterAll
      [⟨.vmid, .reserve, "vm", "vm:id:web"⟩, ⟨.vmid, .release, "vm", "vm:id:web"⟩]
    ∃ text text' disk, Inventory.ofText "inventory.json" text = .ok (sampleInventory (.int 1)) ∧
      outcome (l.commit "inventory.json") (sampleSite text) =
        (.ok l.settled, (sampleSite text).write "inventory.json" (.text text')) ∧
      Inventory.ofText "inventory.json" text' = .ok disk ∧
      pairs disk.reserved.vmids = [("vm:id:web", 100)] ∧
      pairs l.inventory.reserved.vmids = [] := by
  intro l
  obtain ⟨text, hread, hload⟩ := exists_sampleLoad
  obtain ⟨document, hdocument, hinv⟩ := documentOfText_of_ofText hload
  have hl : l = (sampleLedger (.int 1)).after ⟨.vmid, .release, "vm", "vm:id:web"⟩ := rfl
  rw [sampleLedger_eq] at hl
  have hadded : l.added = ⟨[⟨100, "vm:id:web", []⟩], [], []⟩ := by
    rw [hl]
    rfl
  have hremoved : l.removed = ⟨[⟨100, "vm:id:web", []⟩], [], []⟩ := by
    rw [hl]
    rfl
  have hlive : l.inventory.reserved.vmids = [] := by
    rw [hl]
    rfl
  have hmerged : l.mergedInto (sampleInventory (.int 1)) =
      (sampleInventory (.int 1)).withReservations [⟨100, "vm:id:web", []⟩] [] := by
    rw [mergedInto_eq, hadded, hremoved]
    rfl
  have hvalid : (l.mergedInto (sampleInventory (.int 1))).Valid := by
    rw [hmerged, Inventory.valid_withReservations_iff (Inventory.valid_of_ofValue hinv)]
    exact ⟨⟨by simp [tokens], by simp [things], by simp [things, Inventory.committedVmids,
      sampleInventory]⟩, ⟨by simp [tokens], by simp [things], by simp [things]⟩⟩
  have hwritable : (l.mergedInto (sampleInventory (.int 1))).isWritable = true := by
    rw [hmerged]
    exact isWritable_sampleInventory_plain (by simp) (by simp)
  have hchanges : l.hasChanges = true := by
    rw [hasChanges, hadded]
    rfl
  have hending := ending_commit ((plain_start _).afterAll _) hchanges hread hdocument hinv
  generalize hcommit : outcome (l.commit "inventory.json") (sampleSite text) = ending at hending
  cases hending with
  | tooDeep hdeep => exact absurd (hwritable.symm.trans hdeep) (by decide)
  | conflict _ hbroken => exact absurd hvalid hbroken
  | refused _ _ hreason => cases hreason
  | @written text' _ _ _ hholds =>
      obtain ⟨-, disk, hdisk, hvmids, -⟩ := pairs_of_holds hread hholds
      refine ⟨text, text', disk, hload, hcommit, hdisk, ?_, ?_⟩
      · rw [hvmids, hadded, hremoved]
        rfl
      · rw [hlive]
        rfl

end Ledger
end Homelab
