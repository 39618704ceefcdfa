import Homelab.Ledger
import Mathlib.Data.List.Nodup
import Mathlib.Data.List.Pairwise

/-!
# The books of a run

A ledger has two books, one of machine numbers and one of addresses.  A book has the
entries that hold, those that the run has made and those that it has released.  The
value of an entry stands for a thing that is in use, if it can be read: a number for
itself, a text for its address.

Entries are lawful if no token and no thing stands in them twice and none of the things
is taken otherwise.  Every move of a book keeps them so.
-/

namespace Homelab

/-! ### Entries -/

namespace Reservation

variable {α β : Type}

/-- The tokens of some entries. -/
def tokens (entries : List (Reservation α)) : List String := entries.map token

/-- The things that the values of some entries stand for. -/
def things (read : α → Option β) (entries : List (Reservation α)) : List β :=
  entries.filterMap fun e => read e.value

/-- Tokens with their values. -/
def pairs (entries : List (Reservation α)) : List (String × α) :=
  entries.map fun e => (e.token, e.value)

@[simp] theorem pairs_append
    (es fs : List (Reservation α)) :
    pairs (es ++ fs) = pairs es ++ pairs fs := by
  simp [pairs]

@[simp] theorem tokens_append
    (es fs : List (Reservation α)) :
    tokens (es ++ fs) = tokens es ++ tokens fs := by
  simp [tokens]

@[simp] theorem things_append
    (read : α → Option β) (es fs : List (Reservation α)) :
    things read (es ++ fs) = things read es ++ things read fs := by
  simp [things]

theorem mem_tokens
    {token : String} {es : List (Reservation α)} :
    token ∈ tokens es ↔ ∃ e ∈ es, e.token = token := by
  simp [tokens]

theorem mem_things
    {read : α → Option β} {b : β} {es : List (Reservation α)} :
    b ∈ things read es ↔ ∃ e ∈ es, read e.value = some b := by
  simp [things]

theorem mem_pairs
    {token : String} {value : α} {es : List (Reservation α)} :
    (token, value) ∈ pairs es ↔ ∃ e ∈ es, e.token = token ∧ e.value = value := by
  simp [pairs]

theorem mem_tokens_iff
    {token : String} {es : List (Reservation α)} :
    token ∈ tokens es ↔ ∃ value, (token, value) ∈ pairs es := by
  simp only [tokens, List.mem_map, mem_pairs]
  constructor
  · rintro ⟨e, he, rfl⟩
    exact ⟨e.value, e, he, rfl, rfl⟩
  · rintro ⟨value, e, he, htoken, -⟩
    exact ⟨e, he, htoken⟩

/-- If no thing stands twice, an entry is known from its thing. -/
theorem eq_of_things_nodup
    {read : α → Option β} {es : List (Reservation α)} {e f : Reservation α} {b : β}
    (h : (things read es).Nodup)
    (he : e ∈ es)
    (hf : f ∈ es)
    (heb : read e.value = some b)
    (hfb : read f.value = some b) :
    e = f := by
  by_contra hne
  rw [things, List.Nodup, List.pairwise_filterMap] at h
  have hsymm : Std.Symm fun e f : Reservation α =>
      ∀ b, read e.value = some b → ∀ c, read f.value = some c → b ≠ c :=
    ⟨fun e f hef c hc b hb => (hef b hb c hc).symm⟩
  exact h.forall he hf hne b heb b hfb rfl

theorem find?_eq_none_iff
    {token : String} {es : List (Reservation α)} :
    find? token es = none ↔ token ∉ tokens es := by
  simp [find?, tokens, List.find?_eq_none]

theorem mem_of_find?_eq_some
    {token : String} {es : List (Reservation α)} {e : Reservation α}
    (h : find? token es = some e) :
    e ∈ es ∧ e.token = token :=
  ⟨List.mem_of_find?_eq_some h, by simpa using List.find?_some h⟩

theorem tokens_sublist
    {es fs : List (Reservation α)}
    (h : es.Sublist fs) :
    (tokens es).Sublist (tokens fs) := h.map _

theorem things_sublist
    {read : α → Option β} {es fs : List (Reservation α)}
    (h : es.Sublist fs) :
    (things read es).Sublist (things read fs) := h.filterMap _

theorem release_sublist
    (token : String) (es : List (Reservation α)) :
    (release token es).Sublist es := List.eraseP_sublist

/-- Where no token stands twice, a release removes all entries of the token. -/
theorem release_eq_filter
    {token : String} {es : List (Reservation α)}
    (h : (tokens es).Nodup) :
    release token es = es.filter fun e => e.token ≠ token := by
  induction es with
  | nil => rfl
  | cons e rest ih =>
      obtain ⟨hnot, hrest⟩ := List.nodup_cons.mp h
      by_cases he : e.token = token
      · have hall : ∀ f ∈ rest, f.token ≠ token := by
          rintro f hf rfl
          exact hnot (mem_tokens.mpr ⟨f, hf, he.symm⟩)
        have hkeep : rest.filter (fun f => f.token ≠ token) = rest := by
          simpa [List.filter_eq_self] using hall
        rw [release, List.eraseP_cons_of_pos (by simpa using he),
          List.filter_cons_of_neg (by simpa using he), hkeep]
      · rw [release, List.eraseP_cons_of_neg (by simpa using he),
          List.filter_cons_of_pos (by simpa using he)]
        exact congrArg _ (ih hrest)

/-- Entries in which no token and no thing stands twice and no thing is taken. -/
structure Lawful (read : α → Option β) (taken : List β) (entries : List (Reservation α)) :
    Prop where
  tokens_nodup : (tokens entries).Nodup
  things_nodup : (things read entries).Nodup
  free : ∀ b ∈ things read entries, b ∉ taken

variable {read : α → Option β} {taken : List β}

theorem Lawful.sublist
    {es fs : List (Reservation α)}
    (h : Lawful read taken fs)
    (hsub : es.Sublist fs) :
    Lawful read taken es :=
  ⟨h.tokens_nodup.sublist (tokens_sublist hsub), h.things_nodup.sublist (things_sublist hsub),
    fun b hb => h.free b ((things_sublist hsub).subset hb)⟩

/-- Lawful entries stay so with an entry of a new token and a free thing. -/
theorem Lawful.append_new
    {es : List (Reservation α)} {e : Reservation α} {b : β}
    (h : Lawful read taken es)
    (htoken : e.token ∉ tokens es)
    (hread : read e.value = some b)
    (htaken : b ∉ taken)
    (hfree : b ∉ things read es) :
    Lawful read taken (es ++ [e]) := by
  have hthing : things read [e] = [b] := by
    simp [things, hread]
  refine ⟨?_, ?_, ?_⟩
  · rw [tokens_append, List.nodup_append]
    refine ⟨h.tokens_nodup, by simp [tokens], ?_⟩
    rintro t ht u hu rfl
    exact htoken (by simpa [tokens, ← List.mem_singleton.mp hu] using ht)
  · rw [things_append, hthing, List.nodup_append]
    refine ⟨h.things_nodup, by simp, ?_⟩
    rintro c hc d hd rfl
    exact hfree (by rwa [← List.mem_singleton.mp hd])
  · intro c hc
    rw [things_append, hthing, List.mem_append, List.mem_singleton] at hc
    rcases hc with hc | rfl
    · exact h.free c hc
    · exact htaken

end Reservation

/-! ### Books -/

/-- The entries of one kind in a run: those that hold, those that the run has made, and
those that it has released. -/
structure Book (α : Type) where
  live : List (Reservation α)
  added : List (Reservation α)
  removed : List (Reservation α)

namespace Book

open Reservation

variable {α β : Type} {read : α → Option β} {given : α → Prop} {taken : List β}

/-- The moves of a book: nothing happens, a token without an entry gets a free thing of
the values that are given, or the entry of a token is released that the run has not
released before. -/
inductive Move (read : α → Option β) (given : α → Prop) (taken : List β) (b : Book α) :
    Ledger.Mode → Book α → Prop where
  | told {mode : Ledger.Mode} : Move read given taken b mode b
  | reserved {token : String} {value : α} {thing : β}
      (hnew : token ∉ tokens b.live) (hgiven : given value) (hread : read value = some thing)
      (htaken : thing ∉ taken) (hfree : thing ∉ things read b.live) :
      Move read given taken b .reserve
        ⟨b.live ++ [⟨value, token, []⟩], b.added ++ [⟨value, token, []⟩], b.removed⟩
  | released {e : Reservation α}
      (hfirst : e.token ∉ tokens b.removed) (hfind : find? e.token b.live = some e) :
      Move read given taken b .release ⟨release e.token b.live, b.added, b.removed ++ [e]⟩

variable {b b' : Book α} {mode : Ledger.Mode}

/-- Lawful entries stay so. -/
theorem Move.lawful
    (hmove : Move read given taken b mode b')
    (h : Lawful read taken b.live) :
    Lawful read taken b'.live := by
  cases hmove with
  | told => exact h
  | reserved hnew hgiven hread htaken hfree => exact h.append_new hnew hread htaken hfree
  | released hfirst hfind => exact h.sublist (release_sublist _ _)

/-- What holds of every entry goes on to do so, if it holds of entries with no more than
a token and a value that is given. -/
theorem Move.forall_live
    {P : Reservation α → Prop}
    (hmove : Move read given taken b mode b')
    (hplain : ∀ value token, given value → P ⟨value, token, []⟩)
    (h : ∀ e ∈ b.live, P e) :
    ∀ e ∈ b'.live, P e := by
  cases hmove with
  | told => exact h
  | reserved hnew hgiven hread htaken hfree =>
      intro e he
      rcases List.mem_append.mp he with he | he
      · exact h e he
      · rw [List.mem_singleton.mp he]
        exact hplain _ _ hgiven
  | released hfirst hfind =>
      exact fun e he => h e ((release_sublist _ _).subset he)

/-- The run has made only entries with no more than a token and a value that is given. -/
def Plain (given : α → Prop) (b : Book α) : Prop :=
  ∀ e ∈ b.added, e.extra = [] ∧ given e.value

theorem Move.plain
    (hmove : Move read given taken b mode b')
    (h : b.Plain given) :
    b'.Plain given := by
  cases hmove with
  | told => exact h
  | released hfirst hfind => exact h
  | reserved hnew hgiven hread htaken hfree =>
      intro e he
      rcases List.mem_append.mp he with he | he
      · exact h e he
      · rw [List.mem_singleton.mp he]
        exact ⟨rfl, hgiven⟩

/-- The book has been used in one way only, so that what the run has made still holds. -/
structure OneWay (mode : Ledger.Mode) (b : Book α) : Prop where
  removed : mode = .reserve → b.removed = []
  added : mode = .release → b.added = []
  holds : b.added.Sublist b.live

theorem Move.oneWay
    (hmove : Move read given taken b mode b')
    (h : b.OneWay mode) :
    b'.OneWay mode := by
  cases hmove with
  | told => exact h
  | reserved hnew hgiven hread htaken hfree =>
      exact ⟨h.removed, by simp, h.holds.append (List.Sublist.refl _)⟩
  | released hfirst hfind =>
      refine ⟨by simp, h.added, ?_⟩
      rw [h.added rfl]
      exact List.nil_sublist _

end Book

/-! ### Merging -/

namespace Ledger

open Reservation

variable {α β : Type} {read : α → Option β} {taken : List β}
  {onDisk added removed : List (Reservation α)}

/-- The entries of the file whose tokens the run has not touched. -/
def untouched (onDisk added removed : List (Reservation α)) : List (Reservation α) :=
  onDisk.filter fun e => e.token ∉ tokens removed ∧ e.token ∉ tokens added

theorem merge_eq
    (onDisk added removed : List (Reservation α)) :
    merge onDisk added removed = untouched onDisk added removed ++ added := by
  rw [merge, untouched]
  congr 1
  refine List.filter_congr fun e _ => ?_
  rw [Bool.eq_iff_iff]
  simp [tokens]

theorem mem_untouched
    {e : Reservation α} :
    e ∈ untouched onDisk added removed ↔
      e ∈ onDisk ∧ e.token ∉ tokens removed ∧ e.token ∉ tokens added := by
  simp [untouched]

/-- The merged entries are lawful exactly if nothing that the run has made is taken or is
the thing of an entry of the file with an untouched token. -/
theorem lawful_merge_iff
    (hdisk : Lawful read taken onDisk)
    (htokens : (tokens added).Nodup)
    (hthings : (things read added).Nodup) :
    Lawful read taken (merge onDisk added removed) ↔
      ∀ b ∈ things read added, b ∉ taken ∧ b ∉ things read (untouched onDisk added removed) := by
  have hkept : Lawful read taken (untouched onDisk added removed) :=
    hdisk.sublist List.filter_sublist
  rw [merge_eq]
  constructor
  · intro h b hb
    refine ⟨h.free b (by simp [hb]), ?_⟩
    have hnodup := h.things_nodup
    rw [things_append, List.nodup_append] at hnodup
    exact fun hmem => hnodup.2.2 b hmem b hb rfl
  · intro h
    refine ⟨?_, ?_, ?_⟩
    · rw [tokens_append, List.nodup_append]
      refine ⟨hkept.tokens_nodup, htokens, ?_⟩
      rintro t ht u hu rfl
      obtain ⟨e, he, rfl⟩ := mem_tokens.mp ht
      exact (mem_untouched.mp he).2.2 hu
    · rw [things_append, List.nodup_append]
      refine ⟨hkept.things_nodup, hthings, ?_⟩
      rintro b hb c hc rfl
      exact (h b hc).2 hb
    · intro b hb
      rw [things_append, List.mem_append] at hb
      rcases hb with hb | hb
      · exact hkept.free b hb
      · exact (h b hb).1

end Ledger
end Homelab
