import Homelab.Proofs.Ledger.Interleaved
import Homelab.Proofs.Resolution.Release

/-!
# Commits in either order

Two runs load the same inventory, reserve, and commit one after the other.  As long as they
have not reserved the same token, the second commit replaces nothing that the first one has
written.  All that can stand in its way is a value that both of them have given, and whether
there is one does not depend on which of them comes first.
-/

namespace Homelab

open Reservation

theorem Reservation.things_of_pairs
    {α β : Type} {read : α → Option β} {es fs : List (Reservation α)}
    (h : pairs es = pairs fs) :
    things read es = things read fs := by
  have hthings : ∀ es : List (Reservation α),
      things read es = (pairs es).filterMap fun p => read p.2 := by
    intro es
    simp [things, pairs, List.filterMap_map]
  rw [hthings es, h, ← hthings fs]

namespace ReservedKind

variable {k : ReservedKind}

theorem taken_of_bare
    {inv inv' : Inventory}
    (h : inv.bare = inv'.bare) :
    k.taken inv = k.taken inv' := by
  cases k with
  | vmid => exact (Inventory.committedVmids_bare inv).symm.trans (h ▸ Inventory.committedVmids_bare inv')
  | ip => exact (Inventory.hostAddresses_bare inv).symm.trans (h ▸ Inventory.hostAddresses_bare inv')

end ReservedKind

namespace Ledger

section

variable {file text : String} {site : Site} {inv disk : Inventory} {l m next : Ledger}

/-! ### Commits that only add -/

/-- None of the tokens that the run has newly reserved has a reservation in an inventory. -/
def NewTo (l : Ledger) (disk : Inventory) : Prop :=
  ∀ k : ReservedKind, ∀ t ∈ tokens (k.entries l.added), t ∉ tokens (k.entries disk.reserved)

/-- None of the values that the run has newly reserved is in use in an inventory. -/
def FreeIn (l : Ledger) (disk : Inventory) : Prop :=
  ∀ k : ReservedKind, ∀ thing ∈ things k.read? (k.entries l.added),
    thing ∉ k.taken disk ∧ thing ∉ things k.read? (k.entries disk.reserved)

/-- Where no token is replaced, a merge keeps all entries of the file. -/
theorem NewTo.untouched_eq
    (h : l.NewTo disk)
    (hused : UsedIn .reserve l)
    (k : ReservedKind) :
    untouched (k.entries disk.reserved) (k.book l).added (k.book l).removed =
      k.entries disk.reserved := by
  rw [untouched, List.filter_eq_self]
  intro e he
  have htoken : e.token ∉ tokens (k.entries l.added) :=
    fun hmem => h k _ hmem (mem_tokens.mpr ⟨e, he, rfl⟩)
  rw [(k.oneWay hused).removed rfl, k.added_book]
  simpa [tokens] using htoken

theorem valid_mergedInto_iff_lawful
    (hdisk : disk.Valid) :
    (l.mergedInto disk).Valid ↔ ∀ k : ReservedKind, Lawful k.read? (k.taken disk)
      (merge (k.entries disk.reserved) (k.book l).added (k.book l).removed) := by
  rw [mergedInto_eq, Inventory.valid_withReservations_iff hdisk]
  constructor
  · rintro ⟨hvmids, hips⟩ k
    cases k with
    | vmid => exact hvmids
    | ip => exact hips
  · exact fun h => ⟨h .vmid, h .ip⟩

theorem NewTo.valid_mergedInto_iff
    (h : l.NewTo disk)
    (hused : UsedIn .reserve l)
    (hdisk : disk.Valid) :
    (l.mergedInto disk).Valid ↔ l.FreeIn disk := by
  rw [valid_mergedInto_iff_lawful hdisk]
  refine forall_congr' fun k => ?_
  have hadded : Lawful k.read? (k.taken l.inventory) (k.book l).added :=
    ((k.live_book l).symm ▸ k.lawful hused.sound.valid).sublist (k.oneWay hused).holds
  rw [lawful_merge_iff (k.lawful hdisk) hadded.tokens_nodup hadded.things_nodup,
    h.untouched_eq hused k, k.added_book]

theorem NewTo.isWritable_mergedInto
    (h : l.NewTo disk)
    (hused : UsedIn .reserve l) :
    (l.mergedInto disk).isWritable = disk.isWritable := by
  have hkept : ∀ k : ReservedKind, ∀ e ∈ k.entries disk.reserved,
      e ∈ merge (k.entries disk.reserved) (k.book l).added (k.book l).removed := by
    intro k e he
    rw [merge_eq, h.untouched_eq hused k]
    exact List.mem_append_left _ he
  rw [Bool.eq_iff_iff]
  refine ⟨fun hmerged => ?_, hused.plain.isWritable_mergedInto⟩
  rw [mergedInto_eq, Inventory.isWritable_withReservations_iff] at hmerged
  rw [← Inventory.withReservations_self disk, Inventory.isWritable_withReservations_iff]
  exact ⟨hmerged.1, fun e he => hmerged.2.1 e (hkept .vmid e he),
    fun e he => hmerged.2.2 e (hkept .ip e he)⟩

/-- The ways in which the commit of newly reserved tokens ends. -/
structure Adds [DepthLimits] (file : String) (l : Ledger) (disk : Inventory) (site : Site) :
    Prop where
  succeeds : (∃ next after, outcome (l.commit file) site = (.ok next, after)) ↔
    (l.hasChanges = true → l.FreeIn disk ∧ disk.isWritable = true ∧ site.outside.replaceFault = none)
  collides : l.hasChanges = true → disk.isWritable = true → ¬ l.FreeIn disk →
    ∃ issues, outcome (l.commit file) site = (.error (.reservationConflict issues), site)
  unwritable : l.hasChanges = true → disk.isWritable = false →
    outcome (l.commit file) site = (.error Inventory.tooManyLevels, site)
  refused : l.hasChanges = true → disk.isWritable = true → l.FreeIn disk →
    ∀ reason, site.outside.replaceFault = some reason →
      outcome (l.commit file) site = (.error (.system reason), site)

theorem NewTo.adds [DepthLimits]
    (h : l.NewTo disk)
    (hused : UsedIn .reserve l)
    (hread : site.read file = .ok text)
    (hdisk : Inventory.ofText file text = .ok disk) :
    Adds file l disk site := by
  cases hchanges : l.hasChanges with
  | false =>
      have hcommit : outcome (l.commit file) site = (.ok l, site) := by
        simp [commit, hchanges]
      exact ⟨by simp [hcommit, hchanges], by simp [hchanges], by simp [hchanges], by simp [hchanges]⟩
  | true =>
      obtain ⟨document, hdocument, hvalue⟩ := documentOfText_of_ofText hdisk
      have hvalid := h.valid_mergedInto_iff hused (Inventory.valid_of_ofValue hvalue)
      have hending := ending_commit hused.plain hchanges hread hdocument hvalue
      generalize hcommit : outcome (l.commit file) site = ending at hending
      cases hending with
      | tooDeep hdeep =>
          rw [h.isWritable_mergedInto hused] at hdeep
          exact ⟨by simp [hcommit, hchanges, hdeep], by simp [hdeep], fun _ _ => hcommit,
            by simp [hdeep]⟩
      | conflict hwritable hbroken =>
          rw [h.isWritable_mergedInto hused] at hwritable
          rw [hvalid] at hbroken
          exact ⟨by simp [hcommit, hchanges, hbroken], fun _ _ _ => ⟨_, hcommit⟩,
            by simp [hwritable], by simp [hbroken]⟩
      | refused hwritable hkept hreason =>
          rw [h.isWritable_mergedInto hused] at hwritable
          rw [hvalid] at hkept
          refine ⟨by simp [hcommit, hchanges, hreason], by simp [hkept], by simp [hwritable], ?_⟩
          intro _ _ _ reason hreason'
          rw [hcommit, Option.some.inj (hreason.symm.trans hreason')]
      | written hwritable hkept hreplace hholds =>
          rw [h.isWritable_mergedInto hused] at hwritable
          rw [hvalid] at hkept
          exact ⟨by simp [hcommit, hkept, hwritable, hreplace], by simp [hkept], by simp [hwritable],
            by simp [hreplace]⟩

/-! ### Ledgers on the same inventory -/

/-- A ledger that has only reserved, since its run loaded an inventory. -/
def ReservedOn (inv : Inventory) (l : Ledger) : Prop :=
  ∃ calls : List Call, (∀ c ∈ calls, c.mode = .reserve) ∧ l = (start inv).afterAll calls

theorem ReservedOn.usedIn
    {v : Value}
    (h : ReservedOn inv l)
    (hinv : Inventory.ofValue v = .ok inv) :
    UsedIn .reserve l := by
  obtain ⟨calls, hreserve, rfl⟩ := h
  have hall : ∀ (calls : List Call) (l : Ledger), (∀ c ∈ calls, c.mode = .reserve) →
      UsedIn .reserve l → UsedIn .reserve (l.afterAll calls) := by
    intro calls
    induction calls with
    | nil => exact fun l _ hused => hused
    | cons c rest ih =>
        intro l hmodes hused
        exact ih (l.after c) (fun d hd => hmodes d (List.mem_cons_of_mem c hd))
          (.call hused (hmodes c List.mem_cons_self))
  exact hall calls _ hreserve (.start hinv)

/-- The reservations of the ledger are those that were loaded, and then the new ones. -/
theorem ReservedOn.live
    {v : Value}
    (h : ReservedOn inv l)
    (hinv : Inventory.ofValue v = .ok inv)
    (k : ReservedKind) :
    k.entries l.inventory.reserved = k.entries inv.reserved ++ k.entries l.added := by
  have hused := h.usedIn hinv
  obtain ⟨calls, -, rfl⟩ := h
  obtain ⟨hvmids, hips, -⟩ := tracks_afterAll (Inventory.valid_of_ofValue hinv) calls
  have htracks : (k.book ((start inv).afterAll calls)).Tracks (k.entries inv.reserved) := by
    cases k with
    | vmid => exact hvmids
    | ip => exact hips
  have hremoved := (k.oneWay hused).removed rfl
  have hlive := htracks.live (by simp [Book.ReleasesKnown, hremoved, tokens])
  simpa [hremoved, tokens, k.live_book, k.added_book] using hlive

theorem ReservedOn.taken
    (h : ReservedOn inv l)
    (hvalid : inv.Valid)
    (k : ReservedKind) :
    k.taken l.inventory = k.taken inv := by
  obtain ⟨calls, -, rfl⟩ := h
  obtain ⟨-, -, hinventory⟩ := tracks_afterAll hvalid calls
  rw [hinventory]
  cases k <;> rfl

theorem ReservedOn.newTo
    {v : Value}
    (h : ReservedOn inv l)
    (hinv : Inventory.ofValue v = .ok inv) :
    l.NewTo inv := by
  intro k t hadded hloaded
  have hlawful := k.lawful (h.usedIn hinv).sound.valid
  rw [h.live hinv k] at hlawful
  have hnodup := hlawful.tokens_nodup
  rw [tokens_append, List.nodup_append] at hnodup
  exact hnodup.2.2 t hloaded t hadded rfl

theorem ReservedOn.freeIn
    {v : Value}
    (h : ReservedOn inv l)
    (hinv : Inventory.ofValue v = .ok inv) :
    l.FreeIn inv := by
  intro k thing hadded
  have hlawful := k.lawful (h.usedIn hinv).sound.valid
  rw [h.live hinv k, h.taken (Inventory.valid_of_ofValue hinv)] at hlawful
  refine ⟨hlawful.free thing (by simp [hadded]), fun hloaded => ?_⟩
  have hnodup := hlawful.things_nodup
  rw [things_append, List.nodup_append] at hnodup
  exact hnodup.2.2 thing hloaded thing hadded rfl

/-! ### What the second commit finds -/

/-- The runs have newly reserved different tokens. -/
def TokensApart (l m : Ledger) : Prop :=
  ∀ k : ReservedKind, ∀ t ∈ tokens (k.entries l.added), t ∉ tokens (k.entries m.added)

/-- The runs have newly reserved different machine numbers, and different addresses. -/
def ValuesApart (l m : Ledger) : Prop :=
  ∀ k : ReservedKind, ∀ thing ∈ things k.read? (k.entries l.added),
    thing ∉ things k.read? (k.entries m.added)

theorem TokensApart.symm
    (h : TokensApart l m) :
    TokensApart m l :=
  fun k t ht ht' => h k t ht' ht

theorem ValuesApart.symm
    (h : ValuesApart l m) :
    ValuesApart m l :=
  fun k thing ht ht' => h k thing ht' ht

theorem valuesApart_of_not_hasChanges
    (h : l.hasChanges = false)
    (m : Ledger) :
    ValuesApart l m := by
  intro k
  simp [k.added_of_not_hasChanges h, things]

/-- What a commit has left in the file that it was loaded from. -/
structure Left [DepthLimits] (file : String) (inv : Inventory) (l : Ledger) (site after : Site)
    (inv' : Inventory) : Prop where
  file : ∃ text, after.read file = .ok text ∧ Inventory.ofText file text = .ok inv'
  bare : inv'.bare = (l.mergedInto inv).bare
  isWritable : inv'.isWritable = inv.isWritable
  replaceFault : after.outside.replaceFault = site.outside.replaceFault

theorem ReservedOn.exists_left [DepthLimits]
    (h : ReservedOn inv l)
    (hread : site.read file = .ok text)
    (hload : Inventory.ofText file text = .ok inv)
    {after : Site}
    (hcommit : outcome (l.commit file) site = (.ok next, after)) :
    ∃ inv', Left file inv l site after inv' := by
  obtain ⟨document, hdocument, hinv⟩ := documentOfText_of_ofText hload
  have hused := h.usedIn hinv
  cases hchanges : l.hasChanges with
  | false =>
      have hends : outcome (l.commit file) site = (.ok l, site) := by simp [commit, hchanges]
      obtain rfl : site = after := (Prod.mk.inj (hends.symm.trans hcommit)).2
      exact ⟨inv, ⟨text, hread, hload⟩, by rw [mergedInto_of_not_hasChanges hchanges], rfl, rfl⟩
  | true =>
      obtain ⟨-, hwritable, -⟩ :=
        ((h.newTo hinv).adds hused hread hload).succeeds.mp ⟨_, _, hcommit⟩ hchanges
      obtain ⟨-, text', stored, inv', hread', hstored, hvalue, -, hwritable', -⟩ :=
        rewritten_of_commit hused.plain hchanges hread hdocument hinv hcommit
      have hending := ending_commit hused.plain hchanges hread hdocument hinv
      rw [hcommit] at hending
      cases hending with
      | @written written _ _ hreplace hholds =>
          obtain ⟨hread'', read, hinv', hbare⟩ := load_of_holds hread hholds
          obtain rfl : written = text' := Except.ok.inj (hread''.symm.trans hread')
          obtain rfl : inv' = read := by
            rw [Inventory.ofText, hstored] at hinv'
            exact Except.ok.inj (hvalue.symm.trans hinv')
          exact ⟨inv', ⟨written, hread', hinv'⟩, hbare, hwritable'.trans hwritable.symm, rfl⟩

section Left

variable {after : Site} {inv' : Inventory} {v : Value}

theorem Left.pairs_eq [DepthLimits]
    (h : Left file inv l site after inv')
    (hl : ReservedOn inv l)
    (hinv : Inventory.ofValue v = .ok inv)
    (k : ReservedKind) :
    pairs (k.entries inv'.reserved) = pairs (k.entries inv.reserved ++ k.entries l.added) := by
  rw [k.pairs_eq_of_bare h.bare, k.entries_mergedInto, merge_eq,
    (hl.newTo hinv).untouched_eq (hl.usedIn hinv) k, k.added_book]

theorem Left.newTo [DepthLimits]
    (h : Left file inv l site after inv')
    (hl : ReservedOn inv l)
    (hm : ReservedOn inv m)
    (hinv : Inventory.ofValue v = .ok inv)
    (htokens : TokensApart l m) :
    m.NewTo inv' := by
  intro k t hadded
  rw [tokens_of_pairs (h.pairs_eq hl hinv k), tokens_append, List.mem_append, not_or]
  exact ⟨hm.newTo hinv k t hadded, htokens.symm k t hadded⟩

/-- Only what the first run has newly reserved can be in the way of the second one. -/
theorem Left.freeIn_iff [DepthLimits]
    (h : Left file inv l site after inv')
    (hl : ReservedOn inv l)
    (hm : ReservedOn inv m)
    (hinv : Inventory.ofValue v = .ok inv) :
    m.FreeIn inv' ↔ ValuesApart m l := by
  refine forall_congr' fun k => forall₂_congr fun thing hadded => ?_
  obtain ⟨htaken, hloaded⟩ := hm.freeIn hinv k thing hadded
  have hcommitted : k.taken inv' = k.taken inv :=
    (k.taken_of_bare h.bare).trans (by cases k <;> rfl)
  rw [things_of_pairs (h.pairs_eq hl hinv k), things_append, List.mem_append, hcommitted]
  simp [htaken, hloaded]

end Left

/-! ### One commit after the other -/

/-- The ledgers commit one after the other, and both succeed. -/
def InTurn [DepthLimits] (file : String) (l m : Ledger) (site after : Site) : Prop :=
  ∃ next mid next', outcome (l.commit file) site = (.ok next, mid) ∧
    outcome (m.commit file) mid = (.ok next', after)

/-- The first ledger commits, and the second one finds a conflict and leaves the site to it. -/
def Rejected [DepthLimits] (file : String) (l m : Ledger) (site : Site) : Prop :=
  ∃ next mid issues, outcome (l.commit file) site = (.ok next, mid) ∧
    outcome (m.commit file) mid = (.error (.reservationConflict issues), mid)

section Turns

variable {after after' : Site} {v : Value}

theorem inTurn_iff [DepthLimits]
    (hread : site.read file = .ok text)
    (hload : Inventory.ofText file text = .ok inv)
    (hl : ReservedOn inv l)
    (hm : ReservedOn inv m)
    (htokens : TokensApart l m) :
    (∃ after, InTurn file l m site after) ↔
      ValuesApart l m ∧ (l.hasChanges = true ∨ m.hasChanges = true →
        inv.isWritable = true ∧ site.outside.replaceFault = none) := by
  obtain ⟨document, -, hinv⟩ := documentOfText_of_ofText hload
  have hfirst := ((hl.newTo hinv).adds (hl.usedIn hinv) hread hload).succeeds
  have hsecond : ∀ {mid inv'}, Left file inv l site mid inv' →
      ((∃ next after, outcome (m.commit file) mid = (.ok next, after)) ↔
        (m.hasChanges = true → ValuesApart l m ∧ inv.isWritable = true ∧
          site.outside.replaceFault = none)) := by
    intro mid inv' hleft
    obtain ⟨text', hread', hload'⟩ := hleft.file
    rw [((hleft.newTo hl hm hinv htokens).adds (hm.usedIn hinv) hread' hload').succeeds,
      hleft.freeIn_iff hl hm hinv, hleft.isWritable, hleft.replaceFault]
    exact imp_congr_right fun _ => and_congr_left' ⟨ValuesApart.symm, ValuesApart.symm⟩
  constructor
  · rintro ⟨after, next, mid, next', hcommit, hcommit'⟩
    obtain ⟨inv', hleft⟩ := hl.exists_left hread hload hcommit
    have hl' := hfirst.mp ⟨_, _, hcommit⟩
    have hm' := (hsecond hleft).mp ⟨_, _, hcommit'⟩
    refine ⟨?_, fun hchanges => hchanges.elim (fun h => (hl' h).2) fun h => (hm' h).2⟩
    cases hchanges : m.hasChanges with
    | false => exact (valuesApart_of_not_hasChanges hchanges l).symm
    | true => exact (hm' hchanges).1
  · rintro ⟨hvalues, hwrite⟩
    obtain ⟨next, mid, hcommit⟩ := hfirst.mpr fun h => ⟨hl.freeIn hinv, hwrite (.inl h)⟩
    obtain ⟨inv', hleft⟩ := hl.exists_left hread hload hcommit
    obtain ⟨next', after, hcommit'⟩ := (hsecond hleft).mpr fun h => ⟨hvalues, hwrite (.inr h)⟩
    exact ⟨after, next, mid, next', hcommit, hcommit'⟩

/-- After both commits the file binds what it has bound before, and what either run has
reserved. -/
theorem InTurn.binds_iff [DepthLimits]
    (h : InTurn file l m site after)
    (hread : site.read file = .ok text)
    (hload : Inventory.ofText file text = .ok inv)
    (hl : ReservedOn inv l)
    (hm : ReservedOn inv m)
    (htokens : TokensApart l m)
    {k : ReservedKind} {token : String} {value : k.Bound} :
    k.Binds file after token value ↔ k.Binds file site token value ∨
      (token, value) ∈ pairs (k.entries l.added) ∨ (token, value) ∈ pairs (k.entries m.added) := by
  obtain ⟨next, mid, next', hcommit, hcommit'⟩ := h
  obtain ⟨document, -, hinv⟩ := documentOfText_of_ofText hload
  have hnew : ∀ {l : Ledger}, ReservedOn inv l → k.Binds file site token value →
      token ∉ tokens (k.entries l.added) := by
    intro l hl hbound hadded
    rw [k.binds_iff hread hload] at hbound
    exact hl.newTo hinv k token hadded (mem_tokens_iff.mpr ⟨value, hbound⟩)
  have happart : (token, value) ∈ pairs (k.entries l.added) → token ∉ tokens (k.entries m.added) :=
    fun hadded => htokens k token (mem_tokens_iff.mpr ⟨value, hadded⟩)
  rw [binds_after_commit_iff (hm.usedIn hinv) hcommit',
    binds_after_commit_iff (hl.usedIn hinv) hcommit]
  constructor
  · rintro (⟨⟨hbound, -⟩ | hadded, -⟩ | hadded)
    · exact .inl hbound
    · exact .inr (.inl hadded)
    · exact .inr (.inr hadded)
  · rintro (hbound | hadded | hadded)
    · exact .inl ⟨.inl ⟨hbound, hnew hl hbound⟩, hnew hm hbound⟩
    · exact .inl ⟨.inr hadded, happart hadded⟩
    · exact .inr hadded

theorem rejected_of_not_valuesApart [DepthLimits]
    (hread : site.read file = .ok text)
    (hload : Inventory.ofText file text = .ok inv)
    (hl : ReservedOn inv l)
    (hm : ReservedOn inv m)
    (htokens : TokensApart l m)
    (hvalues : ¬ ValuesApart l m)
    (hwritable : inv.isWritable = true)
    (hreplace : site.outside.replaceFault = none) :
    Rejected file l m site := by
  obtain ⟨document, -, hinv⟩ := documentOfText_of_ofText hload
  obtain ⟨next, mid, hcommit⟩ := ((hl.newTo hinv).adds (hl.usedIn hinv) hread hload).succeeds.mpr
    fun _ => ⟨hl.freeIn hinv, hwritable, hreplace⟩
  obtain ⟨inv', hleft⟩ := hl.exists_left hread hload hcommit
  obtain ⟨text', hread', hload'⟩ := hleft.file
  have hchanges : m.hasChanges = true := by
    by_contra hnone
    exact hvalues (valuesApart_of_not_hasChanges (by simpa using hnone) l).symm
  have hcollides : ¬ m.FreeIn inv' :=
    fun hfree => hvalues ((hleft.freeIn_iff hl hm hinv).mp hfree).symm
  obtain ⟨issues, hrejected⟩ :=
    ((hleft.newTo hl hm hinv htokens).adds (hm.usedIn hinv) hread' hload').collides hchanges
      (hleft.isWritable.trans hwritable) hcollides
  exact ⟨next, mid, issues, hcommit, hrejected⟩

end Turns

end

/-- The commits of two runs that have newly reserved different tokens on the same inventory.
They both succeed in one order exactly if they do in the other: if the values are different,
too, and the file can be written and replaced, as long as there is anything to write.  The file
then binds the same in either order.  If both have given some value, the second commit fails
with a conflict, whichever it is, and leaves the file to the first one. -/
theorem commits_commute [DepthLimits]
    {file text : String} {site : Site} {inv : Inventory} {l m : Ledger}
    (hread : site.read file = .ok text)
    (hload : Inventory.ofText file text = .ok inv)
    (hl : ReservedOn inv l)
    (hm : ReservedOn inv m)
    (htokens : TokensApart l m) :
    ((∃ after, InTurn file l m site after) ↔ ∃ after, InTurn file m l site after) ∧
    ((∃ after, InTurn file l m site after) ↔
      ValuesApart l m ∧ (l.hasChanges = true ∨ m.hasChanges = true →
        inv.isWritable = true ∧ site.outside.replaceFault = none)) ∧
    (∀ after after', InTurn file l m site after → InTurn file m l site after' →
      ∀ (k : ReservedKind) (token : String) (value : k.Bound),
        k.Binds file after token value ↔ k.Binds file after' token value) ∧
    (inv.isWritable = true → site.outside.replaceFault = none → ¬ ValuesApart l m →
      Rejected file l m site ∧ Rejected file m l site) ∧
    ∀ first : Ledger, first = l ∨ first = m → first.hasChanges = true →
      (inv.isWritable = false →
        outcome (first.commit file) site = (.error Inventory.tooManyLevels, site)) ∧
      (inv.isWritable = true → ∀ reason, site.outside.replaceFault = some reason →
        outcome (first.commit file) site = (.error (.system reason), site)) := by
  have hinTurn := inTurn_iff hread hload hl hm htokens
  have hinTurn' := inTurn_iff hread hload hm hl htokens.symm
  refine ⟨?_, hinTurn, ?_, ?_, ?_⟩
  · rw [hinTurn, hinTurn', or_comm]
    exact and_congr_left' ⟨ValuesApart.symm, ValuesApart.symm⟩
  · intro after after' h h' k token value
    rw [h.binds_iff hread hload hl hm htokens, h'.binds_iff hread hload hm hl htokens.symm,
      or_comm (a := (token, value) ∈ pairs (k.entries l.added))]
  · intro hwritable hreplace hvalues
    exact ⟨rejected_of_not_valuesApart hread hload hl hm htokens hvalues hwritable hreplace,
      rejected_of_not_valuesApart hread hload hm hl htokens.symm
        (fun hapart => hvalues hapart.symm) hwritable hreplace⟩
  · intro first hfirst hchanges
    obtain ⟨document, -, hinv⟩ := documentOfText_of_ofText hload
    have hreserved : ReservedOn inv first := by
      rcases hfirst with rfl | rfl
      · exact hl
      · exact hm
    have hadds := (hreserved.newTo hinv).adds (hreserved.usedIn hinv) hread hload
    exact ⟨hadds.unwritable hchanges,
      fun hwritable reason => hadds.refused hchanges hwritable (hreserved.freeIn hinv) reason⟩

/-! ### Two small ledgers -/

theorem reservedOn_one
    (inv : Inventory) (c : Call)
    (hmode : c.mode = .reserve) :
    ReservedOn inv ((start inv).after c) :=
  ⟨[c], by simpa using hmode, rfl⟩

/-- A ledger on the small inventory that has reserved a number for another token. -/
theorem added_otherLedger
    (kept : Value) :
    ((start (sampleInventory kept)).after ⟨.vmid, .reserve, "vm", "vm:id:db"⟩).added =
      ⟨[⟨100, "vm:id:db", []⟩], [], []⟩ := by
  rw [after_reserveVmid rfl (nextVmid_sampleInventory kept)]
  rfl

/-- Two runs have given the same number to different tokens.  Whichever commits first, the other
one is rejected. -/
theorem commits_commute_sample :
    ∃ text, (sampleSite text).read "inventory.json" = .ok text ∧
      Inventory.ofText "inventory.json" text = .ok (sampleInventory (.int 1)) ∧
      let other := (start (sampleInventory (.int 1))).after ⟨.vmid, .reserve, "vm", "vm:id:db"⟩
      Rejected "inventory.json" (sampleLedger (.int 1)) other (sampleSite text) ∧
        Rejected "inventory.json" other (sampleLedger (.int 1)) (sampleSite text) := by
  obtain ⟨text, hread, hload⟩ := exists_sampleLoad
  have htokens : TokensApart (sampleLedger (.int 1))
      ((start (sampleInventory (.int 1))).after ⟨.vmid, .reserve, "vm", "vm:id:db"⟩) := by
    intro k
    rw [added_sampleLedger, added_otherLedger]
    cases k <;> simp [ReservedKind.entries, tokens]
  have hspec := commits_commute hread hload (reservedOn_one _ _ rfl) (reservedOn_one _ _ rfl) htokens
  refine ⟨text, hread, hload, hspec.2.2.2.1 (by rw [isWritable_sampleInventory]; decide) rfl ?_⟩
  intro hvalues
  refine hvalues .vmid (100 : Int) ?_ ?_
  · rw [show (start (sampleInventory (.int 1))).after ⟨.vmid, .reserve, "vm", "vm:id:web"⟩ =
      sampleLedger (.int 1) from rfl, added_sampleLedger]
    simp [ReservedKind.entries, things, ReservedKind.read?]
  · rw [added_otherLedger]
    simp [ReservedKind.entries, things, ReservedKind.read?]

theorem added_containerLedger
    (kept : Value) :
    ((start (sampleInventory kept)).after ⟨.vmid, .reserve, "lxc", "lxc:id:db"⟩).added =
      ⟨[⟨200, "lxc:id:db", []⟩], [], []⟩ := by
  have hnext : (sampleInventory kept).nextVmid "lxc" = .ok 200 :=
    Inventory.nextVmid_eq (r := .lxc) (k := 200) rfl (by decide) (by decide)
      (by simp [Inventory.usedVmids, Inventory.committedVmids, sampleInventory, Reserved.empty])
      fun j hfirst hj => absurd (show 200 ≤ j from hfirst) (by omega)
  rw [after_reserveVmid rfl hnext]
  rfl

/-- Two runs have given different numbers to different tokens, and still cannot commit one after
the other, in either order, because the file keeps a value of too many levels. -/
theorem apart_but_not_committed :
    ∃ text, (sampleSite text).read "inventory.json" = .ok text ∧
      Inventory.ofText "inventory.json" text = .ok (sampleInventory (nested 300)) ∧
      let l := (start (sampleInventory (nested 300))).afterAll [⟨.vmid, .reserve, "vm", "vm:id:web"⟩]
      let m := (start (sampleInventory (nested 300))).afterAll [⟨.vmid, .reserve, "lxc", "lxc:id:db"⟩]
      TokensApart l m ∧ ValuesApart l m ∧
        (¬ ∃ after, InTurn "inventory.json" l m (sampleSite text) after) ∧
        (¬ ∃ after, InTurn "inventory.json" m l (sampleSite text) after) ∧
        outcome (l.commit "inventory.json") (sampleSite text) =
          (.error Inventory.tooManyLevels, sampleSite text) := by
  obtain ⟨text, hread, hdocument⟩ :=
    exists_sampleText (fits_nested 300) (by decide) (sorted_nested 300)
  have hvalue := ofValue_sampleDocument (nested 300)
  have hload : Inventory.ofText "inventory.json" text = .ok (sampleInventory (nested 300)) := by
    rw [Inventory.ofText, hdocument]
    exact hvalue
  have hdeep : (sampleInventory (nested 300)).isWritable = false := by
    rw [isWritable_sampleInventory, levels_nested]
    decide
  refine ⟨text, hread, hload, ?_⟩
  intro l m
  have hl : ReservedOn (sampleInventory (nested 300)) l := reservedOn_one _ _ rfl
  have hm : ReservedOn (sampleInventory (nested 300)) m := reservedOn_one _ _ rfl
  have hladded : l.added = ⟨[⟨100, "vm:id:web", []⟩], [], []⟩ := added_sampleLedger _
  have hmadded : m.added = ⟨[⟨200, "lxc:id:db", []⟩], [], []⟩ := added_containerLedger _
  have hchanges : l.hasChanges = true := hasChanges_sampleLedger _
  have htokens : TokensApart l m := by
    intro k
    rw [hladded, hmadded]
    cases k <;> simp [ReservedKind.entries, tokens]
  have hvalues : ValuesApart l m := by
    intro k
    rw [hladded, hmadded]
    cases k <;> simp [ReservedKind.entries, things, ReservedKind.read?]
  refine ⟨htokens, hvalues, ?_, ?_, ?_⟩
  · rw [inTurn_iff hread hload hl hm htokens]
    simp [hchanges, hdeep]
  · rw [inTurn_iff hread hload hm hl htokens.symm]
    simp [hchanges, hdeep]
  · exact ((hl.newTo hvalue).adds (hl.usedIn hvalue) hread hload).unwritable hchanges hdeep

end Ledger
end Homelab
