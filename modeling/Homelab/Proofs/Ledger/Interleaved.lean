import Homelab.Proofs.Ledger.Commit

/-!
# Runs side by side

Any number of runs share an inventory file.  Each loads it, reserves, and commits once, and
the runs take their turns in any order.

A commit puts what the run has reserved in the place of whatever the file has under the same
tokens.  As long as the runs that reserve a token agree on its value, no value is given twice
and nothing that a commit has bound is changed.  Otherwise the later commit takes the value
of the token away, and that value may then be had by another token.
-/

namespace Homelab

open Reservation

/-! ### The two kinds of reservations -/

namespace ReservedKind

/-- What a token is bound to. -/
abbrev Bound : ReservedKind → Type
  | .vmid => Int
  | .ip => String

/-- What the values stand for. -/
abbrev Thing : ReservedKind → Type
  | .vmid => Int
  | .ip => Address

/-- The thing that a value stands for. -/
def read? : (k : ReservedKind) → k.Bound → Option k.Thing
  | .vmid => some
  | .ip => addressOf?

/-- The values that a run can be given. -/
def Given : (k : ReservedKind) → k.Bound → Prop
  | .vmid => Ledger.GivenVmid
  | .ip => IsInterface

/-- The things that are in use beside the reservations. -/
def taken : (k : ReservedKind) → Inventory → List k.Thing
  | .vmid => Inventory.committedVmids
  | .ip => Inventory.hostAddresses

/-- The reservations of a kind. -/
def entries : (k : ReservedKind) → Reserved → List (Reservation k.Bound)
  | .vmid => Reserved.vmids
  | .ip => Reserved.ips

/-- The book of a kind. -/
def book : (k : ReservedKind) → Ledger → Book k.Bound
  | .vmid => Ledger.vmidBook
  | .ip => Ledger.ipBook

variable {k : ReservedKind}

theorem live_book
    (l : Ledger) :
    (k.book l).live = k.entries l.inventory.reserved := by
  cases k <;> rfl

theorem added_book
    (l : Ledger) :
    (k.book l).added = k.entries l.added := by
  cases k <;> rfl

theorem move
    {mode : Ledger.Mode} {l next : Ledger}
    (h : Ledger.Change mode l next) :
    Book.Move k.read? k.Given (k.taken l.inventory) (k.book l) mode (k.book next) := by
  cases k with
  | vmid => exact h.vmids
  | ip => exact h.ips

theorem lawful
    {inv : Inventory}
    (h : inv.Valid) :
    Lawful k.read? (k.taken inv) (k.entries inv.reserved) := by
  cases k with
  | vmid => exact h.lawfulVmids
  | ip => exact h.lawfulIps

theorem oneWay
    {mode : Ledger.Mode} {l : Ledger}
    (h : Ledger.UsedIn mode l) :
    (k.book l).OneWay mode := by
  cases k with
  | vmid => exact h.oneWay.1
  | ip => exact h.oneWay.2

theorem pairs_eq_of_bare
    {inv inv' : Inventory}
    (h : inv.bare = inv'.bare) :
    pairs (k.entries inv.reserved) = pairs (k.entries inv'.reserved) := by
  have hreserved := congrArg Inventory.reserved h
  cases k with
  | vmid => exact pairs_of_bare (congrArg Reserved.vmids hreserved)
  | ip => exact pairs_of_bare (congrArg Reserved.ips hreserved)

theorem entries_mergedInto
    (l : Ledger) (disk : Inventory) :
    k.entries (l.mergedInto disk).reserved =
      Ledger.merge (k.entries disk.reserved) (k.book l).added (k.book l).removed := by
  cases k <;> rfl

theorem added_of_not_hasChanges
    {l : Ledger}
    (h : l.hasChanges = false) :
    k.entries l.added = [] := by
  simp only [Ledger.hasChanges, Reserved.isEmpty, Bool.not_eq_false', Bool.and_eq_true,
    List.isEmpty_iff] at h
  cases k with
  | vmid => exact h.1.1
  | ip => exact h.1.2

/-- An inventory file binds a token to a value. -/
def Binds [DepthLimits] (k : ReservedKind) (file : String) (site : Site) (token : String)
    (value : k.Bound) : Prop :=
  ∃ text inv, site.read file = .ok text ∧ Inventory.ofText file text = .ok inv ∧
    (token, value) ∈ pairs (k.entries inv.reserved)

variable {file : String} {site : Site} {t t' : String} {v v' : k.Bound}

theorem binds_iff [DepthLimits]
    {text : String} {inv : Inventory}
    (hread : site.read file = .ok text)
    (hinv : Inventory.ofText file text = .ok inv) :
    k.Binds file site t v ↔ (t, v) ∈ pairs (k.entries inv.reserved) := by
  constructor
  · rintro ⟨text', inv', hread', hinv', hmem⟩
    obtain rfl := Except.ok.inj (hread.symm.trans hread')
    obtain rfl := Except.ok.inj (hinv.symm.trans hinv')
    exact hmem
  · exact fun hmem => ⟨text, inv, hread, hinv, hmem⟩

/-- A file binds a token to one value only. -/
theorem Binds.value_eq [DepthLimits]
    (h : k.Binds file site t v)
    (h' : k.Binds file site t v') :
    v = v' := by
  obtain ⟨text, inv, hread, hinv, hmem⟩ := h
  rw [binds_iff hread hinv] at h'
  obtain ⟨document, -, hvalue⟩ := Ledger.documentOfText_of_ofText hinv
  have hnodup := (k.lawful (Inventory.valid_of_ofValue hvalue)).tokens_nodup
  obtain ⟨e, he, rfl, rfl⟩ := mem_pairs.mp hmem
  obtain ⟨e', he', htoken, rfl⟩ := mem_pairs.mp h'
  rw [List.inj_on_of_nodup_map hnodup he' he htoken]

/-- A file binds one token only to a thing. -/
theorem Binds.token_eq [DepthLimits]
    {thing : k.Thing}
    (h : k.Binds file site t v)
    (h' : k.Binds file site t' v')
    (hread : k.read? v = some thing)
    (hread' : k.read? v' = some thing) :
    t = t' := by
  obtain ⟨text, inv, htext, hinv, hmem⟩ := h
  rw [binds_iff htext hinv] at h'
  obtain ⟨document, -, hvalue⟩ := Ledger.documentOfText_of_ofText hinv
  have hnodup := (k.lawful (Inventory.valid_of_ofValue hvalue)).things_nodup
  obtain ⟨e, he, rfl, rfl⟩ := mem_pairs.mp hmem
  obtain ⟨e', he', rfl, rfl⟩ := mem_pairs.mp h'
  rw [eq_of_things_nodup hnodup he he' hread hread']

end ReservedKind

/-! ### What a commit does to the bindings -/

namespace Ledger

/-- A commit leaves the site as it was, or it writes the merged inventory. -/
theorem commit_cases [DepthLimits]
    {l : Ledger}
    (hplain : l.Plain)
    (file : String) (site : Site) :
    (∃ e, outcome (l.commit file) site = (.error e, site)) ∨
    (l.hasChanges = false ∧ outcome (l.commit file) site = (.ok l, site)) ∨
    ∃ text text' disk inv, site.read file = .ok text ∧ Inventory.ofText file text = .ok disk ∧
      outcome (l.commit file) site = (.ok l.settled, site.write file (.text text')) ∧
      (site.write file (.text text')).read file = .ok text' ∧
      Inventory.ofText file text' = .ok inv ∧ inv.bare = (l.mergedInto disk).bare := by
  cases hchanges : l.hasChanges with
  | false => exact .inr (.inl ⟨rfl, by simp [commit, hchanges]⟩)
  | true =>
      cases hread : site.read file with
      | error e => exact .inl ⟨e, by simp [commit, hchanges, Inventory.load, hread]⟩
      | ok text =>
          cases hload : Inventory.ofText file text with
          | error e => exact .inl ⟨e, by simp [commit, hchanges, Inventory.load, hread, hload]⟩
          | ok disk =>
              obtain ⟨document, hdocument, hdisk⟩ := documentOfText_of_ofText hload
              have hending := ending_commit hplain hchanges hread hdocument hdisk
              generalize outcome (l.commit file) site = ending at hending ⊢
              cases hending with
              | tooDeep => exact .inl ⟨_, rfl⟩
              | conflict => exact .inl ⟨_, rfl⟩
              | refused => exact .inl ⟨_, rfl⟩
              | @written text' _ _ _ hholds =>
                  obtain ⟨hread', inv, hinv, hbare⟩ := load_of_holds hread hholds
                  exact .inr (.inr ⟨text, text', disk, inv, rfl, hload, rfl, hread', hinv, hbare⟩)

section Committed

variable {k : ReservedKind} {l next : Ledger} {file : String} {site after : Site}

theorem site_of_failed_commit [DepthLimits]
    {e : Failure}
    (hplain : l.Plain)
    (h : outcome (l.commit file) site = (.error e, after)) :
    after = site := by
  rcases commit_cases hplain file site with ⟨e', hcommit⟩ | ⟨-, hcommit⟩ |
    ⟨text, text', disk, inv, -, -, hcommit, -⟩
  · rw [hcommit] at h
    exact (Prod.mk.inj h).2.symm
  · simp [hcommit] at h
  · simp [hcommit] at h

/-- After the commit of a ledger that has only reserved, the file binds what it has bound to
tokens that the run has not reserved, and what the run has reserved. -/
theorem binds_after_commit_iff [DepthLimits]
    (hused : UsedIn .reserve l)
    (h : outcome (l.commit file) site = (.ok next, after))
    {token : String} {value : k.Bound} :
    k.Binds file after token value ↔
      k.Binds file site token value ∧ token ∉ tokens (k.entries l.added) ∨
        (token, value) ∈ pairs (k.entries l.added) := by
  rcases commit_cases hused.plain file site with ⟨e, hcommit⟩ | ⟨hchanges, hcommit⟩ |
    ⟨text, text', disk, inv, hread, hdisk, hcommit, hread', hinv, hbare⟩
  · simp [hcommit] at h
  · rw [hcommit] at h
    obtain rfl := (Prod.mk.inj h).2
    simp [k.added_of_not_hasChanges hchanges, tokens, pairs]
  · rw [hcommit] at h
    obtain rfl := (Prod.mk.inj h).2
    have hremoved : (k.book l).removed = [] := (k.oneWay hused).removed rfl
    rw [ReservedKind.binds_iff hread hdisk, ReservedKind.binds_iff hread' hinv,
      ReservedKind.pairs_eq_of_bare hbare, ReservedKind.entries_mergedInto, merge_eq,
      pairs_append, List.mem_append, hremoved, k.added_book]
    refine or_congr_left ?_
    simp only [mem_pairs, mem_untouched]
    constructor
    · rintro ⟨e, ⟨he, -, hadded⟩, rfl, rfl⟩
      exact ⟨⟨e, he, rfl, rfl⟩, hadded⟩
    · rintro ⟨⟨e, he, rfl, rfl⟩, hadded⟩
      exact ⟨e, ⟨he, by simp [tokens], hadded⟩, rfl, rfl⟩

end Committed

/-! ### Runs that take turns -/

/-- How far a run has come. -/
inductive Stage where
  | waiting
  | working (l : Ledger)
  | ended

/-- A commit that has succeeded: its ledger, and the site before it and after it. -/
structure Commit where
  ledger : Ledger
  before : Site
  after : Site

/-- Runs that share a site, and the commits that have succeeded so far. -/
structure Runs where
  site : Site
  stage : Nat → Stage
  commits : List Commit

/-- What a run can do in its turn. -/
inductive Turn where
  | load (run : Nat)
  | reserve (run : Nat) (kind : ReservedKind) (name token : String)
  | commit (run : Nat)

/-- The run of a commit has newly reserved a value for a token. -/
def Commit.Reserves (k : ReservedKind) (c : Commit) (token : String) (value : k.Bound) : Prop :=
  (token, value) ∈ pairs (k.entries c.ledger.added)

namespace Runs

/-- The runs before their first turn. -/
def start (site : Site) : Runs := ⟨site, fun _ => .waiting, []⟩

/-- One of the runs comes to another stage. -/
def move (rs : Runs) (run : Nat) (stage : Stage) : Runs :=
  { rs with stage := Function.update rs.stage run stage }

/-- One of the runs has committed its ledger. -/
def committed (rs : Runs) (run : Nat) (l : Ledger) (site : Site) : Runs :=
  ⟨site, Function.update rs.stage run .ended, rs.commits ++ [⟨l, rs.site, site⟩]⟩

/-- A run takes a turn.  Nothing happens in a turn that the run has not come to, or that
it has already taken. -/
def turn [DepthLimits] (file : String) (rs : Runs) : Turn → Runs
  | .load run =>
      match rs.stage run with
      | .waiting =>
          match outcome (Inventory.load file) rs.site with
          | (.ok inv, site) => { rs with site := site }.move run (.working (Ledger.start inv))
          | (.error _, site) => { rs with site := site }.move run .ended
      | _ => rs
  | .reserve run kind name token =>
      match rs.stage run with
      | .working l => rs.move run (.working (l.after ⟨kind, .reserve, name, token⟩))
      | _ => rs
  | .commit run =>
      match rs.stage run with
      | .working l =>
          match outcome (l.commit file) rs.site with
          | (.ok _, site) => rs.committed run l site
          | (.error _, site) => { rs with site := site }.move run .ended
      | _ => rs

/-- The runs after some turns. -/
def turns [DepthLimits] (file : String) (rs : Runs) (ts : List Turn) : Runs :=
  ts.foldl (turn file) rs

/-- All commits that have newly reserved a token gave it the same value. -/
def Agree (k : ReservedKind) (rs : Runs) : Prop :=
  ∀ c ∈ rs.commits, ∀ d ∈ rs.commits, ∀ token v w,
    c.Reserves k token v → d.Reserves k token w → v = w

/-- No thing was newly reserved for two tokens. -/
def NoneTwice (k : ReservedKind) (rs : Runs) : Prop :=
  ∀ c ∈ rs.commits, ∀ d ∈ rs.commits, ∀ t u v w thing,
    c.Reserves k t v → d.Reserves k u w → k.read? v = some thing → k.read? w = some thing →
      t = u

/-- Where a commit has reserved a value for a token and the file binds it, every other
commit leaves it so. -/
def KeepBound [DepthLimits] (file : String) (k : ReservedKind) (rs : Runs) : Prop :=
  ∀ c ∈ rs.commits, ∀ d ∈ rs.commits, ∀ token value, c.Reserves k token value →
    k.Binds file d.before token value → k.Binds file d.after token value

/-- What a turn can do. -/
inductive Progress [DepthLimits] (file : String) (rs : Runs) : Runs → Prop where
  | idle : Progress file rs rs
  | loaded {run : Nat} {text : String} {inv : Inventory}
      (hread : rs.site.read file = .ok text)
      (hinv : Inventory.ofText file text = .ok inv) :
      Progress file rs (rs.move run (.working (Ledger.start inv)))
  | reserved {run : Nat} {l : Ledger} {c : Call}
      (hrun : rs.stage run = .working l) (hmode : c.mode = .reserve) :
      Progress file rs (rs.move run (.working (l.after c)))
  | ended {run : Nat} : Progress file rs (rs.move run .ended)
  | committed {run : Nat} {l next : Ledger} {site : Site}
      (hrun : rs.stage run = .working l)
      (hcommit : outcome (l.commit file) rs.site = (.ok next, site)) :
      Progress file rs (rs.committed run l site)

theorem progress_turn [DepthLimits]
    {rs : Runs}
    (hplain : ∀ run l, rs.stage run = .working l → l.Plain)
    (file : String) (t : Turn) :
    Progress file rs (rs.turn file t) := by
  cases t with
  | load run =>
      cases hrun : rs.stage run with
      | waiting =>
          cases hread : rs.site.read file with
          | error e =>
              simp only [turn, hrun, Inventory.load, outcome_bind, outcome_readFile, hread]
              exact .ended
          | ok text =>
              cases hinv : Inventory.ofText file text with
              | error e =>
                  simp only [turn, hrun, Inventory.load, outcome_bind, outcome_readFile, hread,
                    outcome_ofExcept, hinv]
                  exact .ended
              | ok inv =>
                  simp only [turn, hrun, Inventory.load, outcome_bind, outcome_readFile, hread,
                    outcome_ofExcept, hinv]
                  exact .loaded hread hinv
      | working l =>
          simp only [turn, hrun]
          exact .idle
      | ended =>
          simp only [turn, hrun]
          exact .idle
  | reserve run kind name token =>
      cases hrun : rs.stage run with
      | working l =>
          simp only [turn, hrun]
          exact .reserved hrun rfl
      | waiting =>
          simp only [turn, hrun]
          exact .idle
      | ended =>
          simp only [turn, hrun]
          exact .idle
  | commit run =>
      cases hrun : rs.stage run with
      | working l =>
          rcases hcommit : outcome (l.commit file) rs.site with ⟨e | next, site⟩
          · obtain rfl := site_of_failed_commit (hplain run l hrun) hcommit
            simp only [turn, hrun, hcommit]
            exact .ended
          · simp only [turn, hrun, hcommit]
            exact .committed hrun hcommit
      | waiting =>
          simp only [turn, hrun]
          exact .idle
      | ended =>
          simp only [turn, hrun]
          exact .idle

/-! ### What every turn keeps -/

/-- Some commit has newly reserved a value for a token. -/
def Reserved (k : ReservedKind) (rs : Runs) (token : String) (value : k.Bound) : Prop :=
  ∃ c ∈ rs.commits, c.Reserves k token value

/-- What holds of the runs after every turn.  A run that is at work has seen whatever the
file binds, and leaves it alone, unless a commit has reserved it.  So a commit replaces only
what another one has reserved, and as long as none of that is changed the file binds all
that was reserved. -/
structure Orderly [DepthLimits] (file : String) (k : ReservedKind) (rs : Runs) : Prop where
  used : ∀ {run l}, rs.stage run = .working l → UsedIn .reserve l
  seen : ∀ {run l}, rs.stage run = .working l → ∀ {token value},
    k.Binds file rs.site token value →
      token ∈ tokens (k.entries l.inventory.reserved) ∧ token ∉ tokens (k.entries l.added) ∨
        rs.Reserved k token value
  succeeded : ∀ c ∈ rs.commits, UsedIn .reserve c.ledger ∧
    ∃ next, outcome (c.ledger.commit file) c.before = (.ok next, c.after)
  replaced : ∀ c ∈ rs.commits, ∀ {token value}, k.Binds file c.before token value →
    token ∈ tokens (k.entries c.ledger.added) → rs.Reserved k token value
  held : rs.KeepBound file k → ∀ c ∈ rs.commits, ∀ {token value},
    c.Reserves k token value → k.Binds file rs.site token value

variable {file : String} {k : ReservedKind} {rs next : Runs}

theorem orderly_start [DepthLimits]
    (site : Site) :
    Orderly file k (start site) where
  used h := by cases h
  seen h := by cases h
  succeeded _ hc := absurd hc List.not_mem_nil
  replaced _ hc := absurd hc List.not_mem_nil
  held _ _ hc := absurd hc List.not_mem_nil

theorem Orderly.move [DepthLimits]
    {run : Nat} {stage : Stage}
    (h : Orderly file k rs)
    (hused : ∀ l, stage = .working l → UsedIn .reserve l)
    (hseen : ∀ l, stage = .working l → ∀ {token value}, k.Binds file rs.site token value →
      token ∈ tokens (k.entries l.inventory.reserved) ∧ token ∉ tokens (k.entries l.added) ∨
        rs.Reserved k token value) :
    Orderly file k (rs.move run stage) where
  used {other l} hstage := by
    by_cases hrun : other = run
    · subst hrun
      exact hused l (by simpa [Runs.move] using hstage)
    · have hother : rs.stage other = .working l := by simpa [Runs.move, hrun] using hstage
      exact h.used hother
  seen {other l} hstage := by
    by_cases hrun : other = run
    · subst hrun
      exact hseen l (by simpa [Runs.move] using hstage)
    · have hother : rs.stage other = .working l := by simpa [Runs.move, hrun] using hstage
      exact h.seen hother
  succeeded := h.succeeded
  replaced := h.replaced
  held := h.held

/-- A call reserves only tokens that the ledger does not know. -/
theorem seen_after
    {l : Ledger} {c : Call} {token : String}
    (h : token ∈ tokens (k.entries l.inventory.reserved) ∧ token ∉ tokens (k.entries l.added))
    (hmode : c.mode = .reserve) :
    token ∈ tokens (k.entries (l.after c).inventory.reserved) ∧
      token ∉ tokens (k.entries (l.after c).added) := by
  have hmove := k.move (change_after l c)
  rw [hmode] at hmove
  rw [← k.live_book, ← k.added_book] at h ⊢
  generalize k.book (l.after c) = b at hmove ⊢
  cases hmove with
  | told => exact h
  | reserved hnew =>
      simp only [tokens_append, List.mem_append, not_or]
      refine ⟨.inl h.1, h.2, fun hmem => hnew ?_⟩
      rw [List.mem_singleton.mp (show _ ∈ [_] from hmem)] at h
      exact h.1

theorem Orderly.committed [DepthLimits]
    {run : Nat} {l after : Ledger} {site : Site}
    (h : Orderly file k rs)
    (hrun : rs.stage run = .working l)
    (hcommit : outcome (l.commit file) rs.site = (.ok after, site)) :
    Orderly file k (rs.committed run l site) := by
  have hbinds : ∀ {token value}, k.Binds file site token value ↔
      k.Binds file rs.site token value ∧ token ∉ tokens (k.entries l.added) ∨
        (token, value) ∈ pairs (k.entries l.added) :=
    binds_after_commit_iff (h.used hrun) hcommit
  have hmore : ∀ {token value}, rs.Reserved k token value →
      (rs.committed run l site).Reserved k token value := by
    rintro token value ⟨c, hc, hreserves⟩
    exact ⟨c, List.mem_append_left _ hc, hreserves⟩
  have hlast : (⟨l, rs.site, site⟩ : Commit) ∈ (rs.committed run l site).commits :=
    List.mem_append_right _ (List.mem_singleton_self _)
  constructor
  case used =>
    intro other m hstage
    by_cases hother : other = run
    · simp [Runs.committed, hother] at hstage
    · have hbefore : rs.stage other = .working m := by
        simpa [Runs.committed, hother] using hstage
      exact h.used hbefore
  case seen =>
    intro other m hstage token value hbound
    by_cases hother : other = run
    · simp [Runs.committed, hother] at hstage
    · have hbefore : rs.stage other = .working m := by
        simpa [Runs.committed, hother] using hstage
      rcases hbinds.mp hbound with ⟨hfile, -⟩ | hadded
      · exact (h.seen hbefore hfile).imp_right hmore
      · exact .inr ⟨_, hlast, hadded⟩
  case succeeded =>
    intro c hc
    rcases List.mem_append.mp hc with hc | hc
    · exact h.succeeded c hc
    · rw [List.mem_singleton.mp hc]
      exact ⟨h.used hrun, after, hcommit⟩
  case replaced =>
    intro c hc token value hbound hadded
    rcases List.mem_append.mp hc with hc | hc
    · exact hmore (h.replaced c hc hbound hadded)
    · rw [List.mem_singleton.mp hc] at hbound hadded
      rcases h.seen hrun hbound with ⟨-, hnew⟩ | hreserved
      · exact absurd hadded hnew
      · exact hmore hreserved
  case held =>
    intro hkeep c hc token value hreserves
    rcases List.mem_append.mp hc with hc' | hc'
    · have hearlier : rs.KeepBound file k := fun c hc d hd =>
        hkeep c (List.mem_append_left _ hc) d (List.mem_append_left _ hd)
      exact hkeep c hc _ hlast token value hreserves (h.held hearlier c hc' hreserves)
    · rw [List.mem_singleton.mp hc'] at hreserves
      exact hbinds.mpr (.inr hreserves)

theorem Orderly.progress [DepthLimits]
    (h : Orderly file k rs)
    (hprogress : Progress file rs next) :
    Orderly file k next := by
  cases hprogress with
  | idle => exact h
  | ended => exact h.move (by simp) (by simp)
  | @loaded run text inv hread hinv =>
      obtain ⟨document, -, hvalue⟩ := documentOfText_of_ofText hinv
      refine h.move ?_ ?_
      · rintro l ⟨⟩
        exact .start hvalue
      · rintro l ⟨⟩ token value hbound
        rw [ReservedKind.binds_iff hread hinv] at hbound
        refine .inl ⟨mem_tokens_iff.mpr ⟨value, hbound⟩, ?_⟩
        cases k <;> simp [Ledger.start, Reserved.empty, ReservedKind.entries, tokens]
  | @reserved run l c hrun hmode =>
      refine h.move ?_ ?_
      · rintro l ⟨⟩
        exact .call (h.used hrun) hmode
      · rintro l ⟨⟩ token value hbound
        exact (h.seen hrun hbound).imp_left fun hseen => seen_after hseen hmode
  | committed hrun hcommit => exact h.committed hrun hcommit

theorem orderly_turns [DepthLimits]
    (file : String) (k : ReservedKind) (site : Site) (ts : List Turn) :
    Orderly file k ((start site).turns file ts) := by
  have hall : ∀ (ts : List Turn) (rs : Runs), Orderly file k rs → Orderly file k (rs.turns file ts) := by
    intro ts
    induction ts with
    | nil => exact fun rs h => h
    | cons t rest ih =>
        exact fun rs h => ih _ (h.progress (progress_turn (fun run l hrun => (h.used hrun).plain) file t))
  exact hall ts _ (orderly_start site)

/-! ### When nothing that is bound is changed -/

/-- What the file binds before a commit it binds after it, unless another commit has
reserved it and this one has reserved the token with a different value. -/
theorem Orderly.kept_or_replaced [DepthLimits]
    {d : Commit} {token : String} {value : k.Bound}
    (h : Orderly file k rs)
    (hd : d ∈ rs.commits)
    (hbound : k.Binds file d.before token value) :
    k.Binds file d.after token value ∨
      rs.Reserved k token value ∧ ∃ other, other ≠ value ∧ d.Reserves k token other := by
  obtain ⟨hused, after, hcommit⟩ := h.succeeded d hd
  rw [binds_after_commit_iff hused hcommit]
  by_cases hadded : token ∈ tokens (k.entries d.ledger.added)
  · obtain ⟨other, hother⟩ := mem_tokens_iff.mp hadded
    by_cases hsame : other = value
    · subst hsame
      exact .inl (.inr hother)
    · exact .inr ⟨h.replaced d hd hbound hadded, other, hsame, hother⟩
  · exact .inl (.inl ⟨hbound, hadded⟩)

theorem Orderly.keepBound [DepthLimits]
    (h : Orderly file k rs)
    (hagree : rs.Agree k) :
    rs.KeepBound file k := by
  intro c hc d hd token value hreserves hbound
  rcases h.kept_or_replaced hd hbound with hkept | ⟨-, other, hne, hother⟩
  · exact hkept
  · exact absurd (hagree d hd c hc token other value hother hreserves) hne

theorem Orderly.agree [DepthLimits]
    (h : Orderly file k rs)
    (hkeep : rs.KeepBound file k) :
    rs.Agree k :=
  fun c hc d hd _ _ _ hv hw => (h.held hkeep c hc hv).value_eq (h.held hkeep d hd hw)

theorem Orderly.noneTwice [DepthLimits]
    (h : Orderly file k rs)
    (hkeep : rs.KeepBound file k) :
    rs.NoneTwice k :=
  fun c hc d hd _ _ _ _ _ ht hu hv hw =>
    (h.held hkeep c hc ht).token_eq (h.held hkeep d hd hu) hv hw

end Runs

/-- However the runs take their turns, no thing is newly reserved for two tokens and nothing
that a commit has bound is changed exactly if the commits that have newly reserved the same
token gave it the same value. -/
theorem kept_iff_agree [DepthLimits]
    (file : String) (site : Site) (ts : List Turn) (k : ReservedKind) :
    let rs := (Runs.start site).turns file ts
    rs.NoneTwice k ∧ rs.KeepBound file k ↔ rs.Agree k := by
  intro rs
  have h : rs.Orderly file k := Runs.orderly_turns file k site ts
  constructor
  · rintro ⟨-, hkeep⟩
    exact h.agree hkeep
  · intro hagree
    have hkeep := h.keepBound hagree
    exact ⟨h.noneTwice hkeep, hkeep⟩

/-! ### Two runs that give a token different values -/

/-- Two runs load the file.  One reserves a number for a token and commits; the other gives
that number to another token, reserves the next number for the first one, and commits. -/
def sampleTurns : List Turn :=
  [.load 0, .load 1, .reserve 1 .vmid "vm" "vm:id:web", .commit 1,
   .reserve 0 .vmid "vm" "vm:id:db", .reserve 0 .vmid "vm" "vm:id:web", .commit 0]

/-- The ledger of the run that commits last. -/
def sampleRival : Ledger :=
  ((start (sampleInventory (.int 1))).after ⟨.vmid, .reserve, "vm", "vm:id:db"⟩).after
    ⟨.vmid, .reserve, "vm", "vm:id:web"⟩

theorem usedIn_sampleRival :
    UsedIn .reserve sampleRival :=
  .call (.call (.start (ofValue_sampleDocument (.int 1))) rfl) rfl

theorem added_sampleRival :
    sampleRival.added = ⟨[⟨100, "vm:id:db", []⟩, ⟨101, "vm:id:web", []⟩], [], []⟩ := by
  have hdb : (start (sampleInventory (.int 1))).after ⟨.vmid, .reserve, "vm", "vm:id:db"⟩ =
      { inventory := (sampleInventory (.int 1)).withReservations [⟨100, "vm:id:db", []⟩] []
        added := ⟨[⟨100, "vm:id:db", []⟩], [], []⟩
        removed := .empty
        handedOut := [("vm:id:db", .vmid 100)] } :=
    after_reserveVmid rfl (nextVmid_sampleInventory (.int 1))
  have hnext : ((sampleInventory (.int 1)).withReservations [⟨100, "vm:id:db", []⟩] []).nextVmid
      "vm" = .ok 101 :=
    Inventory.nextVmid_eq (r := .vm) (k := 101) rfl (by decide) (by decide)
      (by simp [Inventory.usedVmids, Inventory.committedVmids, Inventory.withReservations,
        sampleInventory])
      fun j hfirst hj => by
        obtain rfl : j = 100 := Nat.le_antisymm (by omega) hfirst
        simp [Inventory.usedVmids, Inventory.withReservations]
  rw [sampleRival, hdb, after_reserveVmid rfl hnext]
  rfl

/-- The runs after their sample turns, if both commits succeed. -/
theorem turns_sampleTurns [DepthLimits]
    {file : String} {site site' site'' : Site} {l l' : Ledger}
    (hload : outcome (Inventory.load file) site = (.ok (sampleInventory (.int 1)), site))
    (hfirst : outcome ((sampleLedger (.int 1)).commit file) site = (.ok l, site'))
    (hlast : outcome (sampleRival.commit file) site' = (.ok l', site'')) :
    ((Runs.start site).turns file sampleTurns).commits =
        [⟨sampleLedger (.int 1), site, site'⟩, ⟨sampleRival, site', site''⟩] ∧
      ((Runs.start site).turns file sampleTurns).site = site'' := by
  rw [sampleLedger] at hfirst
  rw [sampleRival] at hlast
  simp [Runs.turns, sampleTurns, Runs.turn, Runs.start, Runs.move, Runs.committed, hload, hfirst,
    hlast, sampleLedger, sampleRival]

theorem mergedInto_sampleLedger :
    (sampleLedger (.int 1)).mergedInto (sampleInventory (.int 1)) =
      (sampleInventory (.int 1)).withReservations [⟨100, "vm:id:web", []⟩] [] := by
  rw [mergedInto_eq, sampleLedger_eq]
  rfl

/-- Where only the token of the first commit is bound, the second one does not collide. -/
theorem not_collides_sampleRival
    {inv : Inventory}
    (h : inv.bare = ((sampleLedger (.int 1)).mergedInto (sampleInventory (.int 1))).bare) :
    ¬ sampleRival.Collides inv := by
  rw [mergedInto_sampleLedger] at h
  have hfree : inv.committedVmids = [] := by
    rw [← Inventory.committedVmids_bare, h]
    rfl
  have hpairs : pairs inv.reserved.vmids = [("vm:id:web", 100)] :=
    ReservedKind.pairs_eq_of_bare (k := .vmid) h
  have hnone : ∀ d ∈ inv.reserved.vmids, d.token = "vm:id:web" := by
    intro d hd
    have hmem : (d.token, d.value) ∈ pairs inv.reserved.vmids := mem_pairs.mpr ⟨d, hd, rfl, rfl⟩
    rw [hpairs, List.mem_singleton] at hmem
    exact (Prod.mk.inj hmem).1
  simp only [Collides, added_sampleRival, hfree, mem_untouched]
  rintro (⟨e, -, hvalue | ⟨d, ⟨hd, -, hadded⟩, -⟩⟩ | ⟨e, he, -⟩)
  · cases hvalue
  · exact hadded (by simp [hnone d hd, tokens])
  · cases he

/-- Both commits of the sample turns succeed. -/
theorem exists_sampleCommits [DepthLimits] :
    ∃ text site' site'', (sampleSite text).read "inventory.json" = .ok text ∧
      Inventory.ofText "inventory.json" text = .ok (sampleInventory (.int 1)) ∧
      outcome ((sampleLedger (.int 1)).commit "inventory.json") (sampleSite text) =
        (.ok (sampleLedger (.int 1)).settled, site') ∧
      outcome (sampleRival.commit "inventory.json") site' = (.ok sampleRival.settled, site'') := by
  have hinventory := ofValue_sampleDocument (.int 1)
  obtain ⟨text, hread, hdocument⟩ := exists_sampleText fits_one
    (DepthLimits.lt_reading (by omega)) (by simp [Value.sorted])
  have hsmall : (sampleDocument (.int 1)).Fits (1 + 4) := fits_sampleDocument (fits_one.mono (by omega))
  obtain ⟨text', hfirst, hholds⟩ := (usedIn_sampleLedger (.int 1)).commit_eq
    (hasChanges_sampleLedger _) hread hdocument hinventory (not_collides_sampleLedger _ _)
    (by rw [isWritable_sampleInventory]; decide) rfl
  -- what the first commit has written can be written again
  obtain ⟨hread', inv, hinv, hbare⟩ := load_of_holds hread hholds
  obtain ⟨stored, hstored, hvalue⟩ := documentOfText_of_ofText hinv
  have hfits : ((sampleLedger (.int 1)).mergedInto (sampleInventory (.int 1))).reserved.Fits 1 :=
    (usedIn_sampleLedger (.int 1)).plain.fits_mergedInto
      (Inventory.reserved_fits hsmall hinventory)
  have hwritable : inv.isWritable = true :=
    Inventory.isWritable_of_fits (by decide)
      (hholds.fits 1 stored (read_of_documentOfText hstored) hsmall hfits.normal) hvalue
  have hchanges : sampleRival.hasChanges = true := by
    rw [hasChanges, added_sampleRival]
    rfl
  obtain ⟨text'', hlast, -⟩ := usedIn_sampleRival.commit_eq hchanges hread' hstored hvalue
    (not_collides_sampleRival hbare) hwritable rfl
  refine ⟨text, _, _, hread, ?_, hfirst, hlast⟩
  rw [Inventory.ofText, hdocument]
  exact hinventory

/-- A run commits a number under a token that another run has committed before with a
different one.  The token changes its number, and the number that it had is the newly
reserved number of two tokens. -/
theorem changed_by_other_run :
    ∃ text, Inventory.ofText "inventory.json" text = .ok (sampleInventory (.int 1)) ∧
      let rs := (Runs.start (sampleSite text)).turns "inventory.json" sampleTurns
      ReservedKind.vmid.Binds "inventory.json" rs.site "vm:id:web" (101 : Int) ∧
        ReservedKind.vmid.Binds "inventory.json" rs.site "vm:id:db" (100 : Int) ∧
        ¬ rs.NoneTwice .vmid ∧ ¬ rs.KeepBound "inventory.json" .vmid := by
  obtain ⟨text, site', site'', hread, hinv, hfirst, hlast⟩ := exists_sampleCommits
  have hload : outcome (Inventory.load "inventory.json") (sampleSite text) =
      (.ok (sampleInventory (.int 1)), sampleSite text) := by
    simp [Inventory.load, hread, hinv]
  obtain ⟨hcommits, hsite⟩ := turns_sampleTurns hload hfirst hlast
  have hbefore : ReservedKind.vmid.Binds "inventory.json" site' "vm:id:web" (100 : Int) :=
    (binds_after_commit_iff (usedIn_sampleLedger _) hfirst).mpr
      (.inr (by simp [added_sampleLedger, ReservedKind.entries, pairs]))
  have hadded : pairs (ReservedKind.vmid.entries sampleRival.added) =
      [("vm:id:db", (100 : Int)), ("vm:id:web", (101 : Int))] := by
    rw [added_sampleRival]
    rfl
  have hweb : ReservedKind.vmid.Binds "inventory.json" site'' "vm:id:web" (101 : Int) :=
    (binds_after_commit_iff usedIn_sampleRival hlast).mpr (.inr (by rw [hadded]; simp))
  have hdb : ReservedKind.vmid.Binds "inventory.json" site'' "vm:id:db" (100 : Int) :=
    (binds_after_commit_iff usedIn_sampleRival hlast).mpr (.inr (by rw [hadded]; simp))
  have hmade : Commit.Reserves .vmid ⟨sampleLedger (.int 1), sampleSite text, site'⟩ "vm:id:web"
      (100 : Int) := by
    simp [Commit.Reserves, added_sampleLedger, ReservedKind.entries, pairs]
  have hgiven : Commit.Reserves .vmid ⟨sampleRival, site', site''⟩ "vm:id:db" (100 : Int) := by
    rw [Commit.Reserves, hadded]
    simp
  have hone : (⟨sampleLedger (.int 1), sampleSite text, site'⟩ : Commit) ∈
      ((Runs.start (sampleSite text)).turns "inventory.json" sampleTurns).commits := by
    simp [hcommits]
  have hother : (⟨sampleRival, site', site''⟩ : Commit) ∈
      ((Runs.start (sampleSite text)).turns "inventory.json" sampleTurns).commits := by
    simp [hcommits]
  refine ⟨text, hinv, hsite ▸ hweb, hsite ▸ hdb, ?_, ?_⟩
  · intro hnone
    have htokens := hnone _ hone _ hother _ _ _ _ (100 : Int) hmade hgiven rfl rfl
    exact absurd htokens (by decide)
  · intro hkeep
    have hafter := hkeep _ hone _ hother _ _ hmade hbefore
    exact absurd (hafter.value_eq hweb) (by decide)

end Ledger
end Homelab
