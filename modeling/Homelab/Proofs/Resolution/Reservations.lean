import Homelab.Proofs.Ledger.Answers
import Homelab.Proofs.Resolution.Passes

/-!
# Filling a document with reservations

The passes for machine numbers and for addresses ask a ledger.  When one has succeeded in a run
that reserves, every token of its kind is bound, and the document has the values that they are
bound to; asked again, the tokens are only told.  In a run that releases, each token is
released once, however often it occurs.
-/

namespace Homelab

open Reservation

/-! ### The passes for reservations -/

theorem Meaning.plain_eq_ok_iff
    {σ α : Type} {x : ExceptT Failure (StateM σ) α} {s s' : σ} {a : α} :
    Meaning.plain.ending x s = .ok (a, s') ↔ outcome x s = (.ok a, s') := by
  simp only [Meaning.plain]
  rcases outcome x s with ⟨_ | b, next⟩ <;> simp

theorem Meaning.plain_eq_error_iff
    {σ α : Type} {x : ExceptT Failure (StateM σ) α} {s s' : σ} {e : Failure} :
    Meaning.plain.ending x s = .error (e, s') ↔ outcome x s = (.error e, s') := by
  simp only [Meaning.plain]
  rcases outcome x s with ⟨_ | b, next⟩ <;> simp

namespace ReservedKind

/-- The pass that fills in the values of a kind. -/
def pass : ReservedKind → Ledger.Mode → Pass Ledger.Run
  | .vmid, mode => Pass.vmid (Ledger.registry mode)
  | .ip, mode => Pass.ip (Ledger.registry mode)

/-- The tokens of a kind. -/
def serves : ReservedKind → Target → Bool
  | .vmid, .machine _ _ => true
  | .ip, .address _ _ => true
  | _, _ => false

/-- The tokens of a kind in a document, each once, in the order of their first places. -/
def tokensOf (k : ReservedKind) (v : Value) : List Reference :=
  (k.pass .reserve).tokensOf v

/-- The values that are bound to tokens in a ledger. -/
def table (k : ReservedKind) (l : Ledger) : TokenTable :=
  fun token => (find? token (k.book l).live).map fun e => (k.allocated e.value).value

/-- A document with the values that its tokens are bound to. -/
def fill (k : ReservedKind) (l : Ledger) (v : Value) : Value :=
  TokenTable.rewrite ((k.table l).text k.serves true) v

@[simp] theorem serves_pass
    (k : ReservedKind) (mode : Ledger.Mode) :
    (k.pass mode).serves = k.serves := by
  funext t
  cases k <;> cases t <;> rfl

theorem tokensOf_pass
    (k : ReservedKind) (mode : Ledger.Mode) (v : Value) :
    (k.pass mode).tokensOf v = k.tokensOf v := by
  cases k <;> rfl

theorem serves_of_mem_tokensOf
    {k : ReservedKind} {v : Value} {r : Reference}
    (h : r ∈ k.tokensOf v) :
    k.serves r.target = true := by
  simpa using (Pass.mem_tokensOf.mp h).2

theorem not_serves
    (k : ReservedKind) (t : Target)
    (h : t = .hostAddress ∨ (∃ path, t = .inventory path) ∨ ∃ path, t = .config path) :
    k.serves t = false := by
  rcases h with rfl | ⟨path, rfl⟩ | ⟨path, rfl⟩ <;> cases k <;> rfl

theorem thorough_pass
    (k : ReservedKind) (mode : Ledger.Mode) :
    (k.pass mode).Thorough := by
  refine Pass.thorough_of_serves fun t ht => ?_
  rw [serves_pass]
  exact k.not_serves t ht

/-- A lookup is a call for the token. -/
theorem ending_lookup
    {k : ReservedKind} {r : Reference}
    (h : k.serves r.target = true)
    (mode : Ledger.Mode) :
    ∃ name, ∀ l, Meaning.plain.ending ((k.pass mode).lookup r) l =
      (Meaning.plain.ending (Call.perform ⟨k, mode, name, r.text⟩) l).map fun a =>
        (some a.1.value, a.2) := by
  cases k with
  | vmid =>
      cases ht : r.target with
      | machine kind label =>
          refine ⟨kind.name, fun l => ?_⟩
          simp only [pass, Pass.vmid, ht, Call.perform, Meaning.ending_bind, Meaning.ending_map,
            Meaning.ending_pure]
          cases Meaning.plain.ending ((Ledger.registry mode).vmid kind.name r.text) l <;> rfl
      | _ => simp [serves, ht] at h
  | ip =>
      cases ht : r.target with
      | address network label =>
          refine ⟨network, fun l => ?_⟩
          simp only [pass, Pass.ip, ht, Call.perform, Meaning.ending_bind, Meaning.ending_map,
            Meaning.ending_pure]
          cases Meaning.plain.ending ((Ledger.registry mode).ip network r.text) l <;> rfl
      | _ => simp [serves, ht] at h

/-! ### Tokens that are asked for -/

variable {k : ReservedKind} {memo memo' : Memo} {l l' : Ledger} {rs : List Reference}

/-- The answers for some tokens, by a table. -/
def answers (table : TokenTable) (rs : List Reference) : Memo :=
  (rs.map fun r => (r.text, table r.text)).reverse

theorem answers_cons
    (table : TokenTable) (r : Reference) (rs : List Reference) :
    answers table (r :: rs) = answers table rs ++ [(r.text, table r.text)] := by
  simp [answers]

theorem answers_congr
    {table table' : TokenTable}
    (h : ∀ r ∈ rs, table r.text = table' r.text) :
    answers table rs = answers table' rs := by
  rw [answers, answers, List.map_congr_left fun r hr => by rw [h r hr]]

theorem table_answers
    {table : TokenTable} {r : Reference}
    (h : r ∈ rs) :
    Memo.table (answers table rs) r.text = table r.text := by
  have hall : ∀ memo : Memo, (∀ entry ∈ memo, entry.2 = table entry.1) →
      r.text ∈ memo.map Prod.fst → List.lookup r.text memo = some (table r.text) := by
    intro memo hentries hmem
    obtain ⟨found, hfound⟩ := Option.isSome_iff_exists.mp (Pass.isSome_lookup_iff.mpr hmem)
    obtain ⟨l₁, l₂, rfl, -⟩ := List.lookup_eq_some_iff.mp hfound
    rw [hfound]
    exact congrArg some (hentries (r.text, found) (by simp))
  rw [Memo.table, hall]
  · rfl
  · intro entry hentry
    obtain ⟨q, -, rfl⟩ := List.mem_map.mp (List.mem_reverse.mp hentry)
    rfl
  · rw [answers, List.map_reverse, List.mem_reverse, List.map_map]
    exact List.mem_map.mpr ⟨r, h, rfl⟩

theorem find?_append_of_some
    {α : Type} {token : String} {es : List (Reservation α)} {e : Reservation α}
    (h : find? token es = some e)
    (new : List (Reservation α)) :
    find? token (es ++ new) = some e := by
  rw [find?, List.find?_append]
  rw [find?] at h
  rw [h, Option.some_or]

theorem exists_find?
    {token : String} {es : List (Reservation k.Bound)}
    (h : token ∈ tokens es) :
    ∃ e, find? token es = some e := by
  cases hfind : find? token es with
  | none => exact absurd h (find?_eq_none_iff.mp hfind)
  | some e => exact ⟨e, rfl⟩

/-- The values that tokens are bound to in a ledger, as they are handed out. -/
def given (k : ReservedKind) (l : Ledger) (ts : List String) : List (String × Allocated) :=
  ts.filterMap fun t => (find? t (k.book l).live).map fun e => (t, k.allocated e.value)

@[simp] theorem given_append
    (l : Ledger) (ts more : List String) :
    k.given l (ts ++ more) = k.given l ts ++ k.given l more :=
  List.filterMap_append

theorem given_congr
    {ts : List String}
    (h : ∀ t ∈ ts, find? t (k.book l).live = find? t (k.book l').live) :
    k.given l ts = k.given l' ts :=
  List.filterMap_congr fun t ht => by rw [h t ht]

theorem given_of_find?
    {token : String} {e : Reservation k.Bound}
    (h : find? token (k.book l).live = some e) :
    k.given l [token] = [(token, k.allocated e.value)] := by
  simp [given, h]

/-- Tokens that are bound are all handed out. -/
theorem keys_given
    {ts : List String}
    (h : ∀ t ∈ ts, t ∈ tokens (k.book l).live) :
    (k.given l ts).map Prod.fst = ts := by
  induction ts with
  | nil => rfl
  | cons t rest ih =>
      obtain ⟨e, he⟩ := exists_find? (h t (by simp))
      rw [← List.singleton_append, given_append, given_of_find? he, List.map_append,
        ih fun t ht => h t (by simp [ht])]
      rfl

/-- What becomes of a ledger when the values of some tokens are asked for in a run that
reserves. -/
structure Reserves (k : ReservedKind) (ts : List String) (l l' : Ledger) : Prop where
  calls : ∃ calls : List Call, (∀ c ∈ calls, c.mode = .reserve) ∧ l' = l.afterAll calls
  bound : ∀ t ∈ ts, t ∈ tokens (k.book l').live
  handed : (l.handedOut.map Prod.fst ++ ts).Nodup → l'.handedOut = l.handedOut ++ k.given l' ts
  made : ∃ new, k.book l' =
      ⟨(k.book l).live ++ new, (k.book l).added ++ new, (k.book l).removed⟩ ∧
    tokens new = ts.filter fun t => t ∉ tokens (k.book l).live
  others : ∀ k', k' ≠ k → k'.book l' = k'.book l

theorem Reserves.refl
    (k : ReservedKind) (l : Ledger) :
    Reserves k [] l l :=
  ⟨⟨[], by simp, rfl⟩, by simp, by simp [given], ⟨[], by simp [tokens]⟩, fun _ _ => rfl⟩

/-- A token that is bound keeps its reservation. -/
theorem Reserves.find?_eq
    {ts : List String} {token : String}
    (h : Reserves k ts l l')
    (hbound : token ∈ tokens (k.book l).live) :
    find? token (k.book l').live = find? token (k.book l).live := by
  obtain ⟨new, hmade, -⟩ := h.made
  obtain ⟨e, hfind⟩ := exists_find? hbound
  rw [hmade, find?_append_of_some hfind, hfind]

theorem Reserves.table_eq
    {ts : List String} {token : String}
    (h : Reserves k ts l l')
    (hbound : token ∈ tokens (k.book l).live) :
    k.table l' token = k.table l token := by
  rw [table, table, h.find?_eq hbound]

theorem Reserves.trans
    {ts more : List String} {mid : Ledger}
    (h : Reserves k ts l mid)
    (h' : Reserves k more mid l')
    (hdisjoint : ∀ t ∈ more, t ∉ ts) :
    Reserves k (ts ++ more) l l' := by
  obtain ⟨calls, hcalls, rfl⟩ := h.calls
  obtain ⟨calls', hcalls', rfl⟩ := h'.calls
  obtain ⟨new, hmade, htokens⟩ := h.made
  obtain ⟨new', hmade', htokens'⟩ := h'.made
  refine ⟨⟨calls ++ calls', ?_, ?_⟩, ?_, fun hnodup => ?_, ⟨new ++ new', ?_, ?_⟩,
    fun k' hk' => ?_⟩
  · intro c hc
    rcases List.mem_append.mp hc with hc | hc
    · exact hcalls c hc
    · exact hcalls' c hc
  · rw [Ledger.afterAll_append]
  · intro t ht
    rcases List.mem_append.mp ht with ht | ht
    · rw [hmade', tokens_append, List.mem_append]
      exact .inl (h.bound t ht)
    · exact h'.bound t ht
  · rw [← List.append_assoc] at hnodup
    have hfirst := h.handed (List.nodup_append.mp hnodup).1
    have hkeys : (l.afterAll calls).handedOut.map Prod.fst = l.handedOut.map Prod.fst ++ ts := by
      rw [hfirst, List.map_append, keys_given h.bound]
    rw [h'.handed (hkeys ▸ hnodup), hfirst, given_append, List.append_assoc,
      given_congr fun t ht => h'.find?_eq (h.bound t ht)]
  · rw [hmade', hmade, List.append_assoc, List.append_assoc]
  · rw [tokens_append, htokens, htokens', List.filter_append, hmade]
    congr 1
    refine List.filter_congr fun t ht => ?_
    have hnew : t ∉ tokens new := by
      rw [htokens]
      exact fun hmem => hdisjoint t ht (List.mem_filter.mp hmem).1
    simp [hnew]
  · rw [h'.others k' hk', h.others k' hk']

theorem reserves_one
    {name token : String} {a : Allocated}
    (h : outcome (Call.perform ⟨k, .reserve, name, token⟩) l = (.ok a, l')) :
    Reserves k [token] l l' ∧ k.table l' token = some a.value := by
  have hafter : l' = l.afterAll [⟨k, .reserve, name, token⟩] := by
    rw [Ledger.afterAll, List.foldl_cons, List.foldl_nil, Ledger.after, h]
  have hcalls : ∃ calls : List Call, (∀ c ∈ calls, c.mode = .reserve) ∧ l' = l.afterAll calls :=
    ⟨_, by simp, hafter⟩
  cases Call.served h with
  | @told e _ hfound =>
      obtain ⟨hmem, htoken⟩ := mem_of_find?_eq_some hfound
      have hbound : token ∈ tokens (k.book l).live := mem_tokens.mpr ⟨e, hmem, htoken⟩
      refine ⟨⟨hcalls, ?_, fun hnodup => ?_, ⟨[], ?_, ?_⟩, fun k' _ => book_note ..⟩, ?_⟩
      · simpa using hbound
      · rw [Ledger.handedOut_note hnodup, given_of_find? ((congrArg _ (by rw [book_note])).trans hfound)]
      · simp
      · rw [List.filter_cons_of_neg (by simpa using hbound)]
        rfl
      · simp only at hfound
        simp [table, hfound]
  | @reserved value _ hisNew =>
      have hfresh : token ∉ tokens (k.book l).live := find?_eq_none_iff.mp hisNew
      have hfind : find? token ((k.book l).live ++ [⟨value, token, []⟩]) =
          some ⟨value, token, []⟩ := by
        simp only [find?] at hisNew ⊢
        rw [List.find?_append, hisNew]
        simp
      refine ⟨⟨hcalls, ?_, fun hnodup => ?_, ⟨[⟨value, token, []⟩], ?_, ?_⟩, fun k' hk' => ?_⟩, ?_⟩
      · simp [tokens]
      · rw [Ledger.handedOut_note (by simpa using hnodup), handedOut_withBook,
          given_of_find? (e := ⟨value, token, []⟩) (by simpa using hfind)]
      · simp
      · rw [List.filter_cons_of_pos (by simpa using hfresh)]
        rfl
      · rw [book_note, book_withBook_of_ne hk']
      · simp [table, hfind]
  | released hmode => cases hmode
  | again hmode => cases hmode

/-- Tokens that are asked for in a run that reserves are bound by then, and the answers are the
values that they are bound to. -/
theorem asked_reserve
    (hserves : ∀ r ∈ rs, k.serves r.target = true)
    (hnodup : (rs.map Reference.text).Nodup)
    (h : (k.pass .reserve).askEach Meaning.plain (memo, l) rs = .ok (memo', l')) :
    Reserves k (rs.map Reference.text) l l' ∧ memo' = answers (k.table l') rs ++ memo := by
  induction rs generalizing memo l with
  | nil =>
      obtain ⟨rfl, rfl⟩ := Prod.mk.inj (Except.ok.inj h)
      exact ⟨.refl k _, rfl⟩
  | cons r rest ih =>
      obtain ⟨hnew, hrest⟩ := List.nodup_cons.mp hnodup
      obtain ⟨name, hlookup⟩ := ending_lookup (hserves r (by simp)) .reserve
      rw [← List.singleton_append, Pass.askEach_append, Pass.askEach_singleton, Pass.askNew,
        hlookup] at h
      cases hcall : Meaning.plain.ending (Call.perform ⟨k, .reserve, name, r.text⟩) l with
      | error e =>
          rw [hcall] at h
          cases h
      | ok found =>
          obtain ⟨a, next⟩ := found
          rw [hcall] at h
          obtain ⟨hone, hvalue⟩ := reserves_one (Meaning.plain_eq_ok_iff.mp hcall)
          obtain ⟨hmore, hmemo⟩ := ih (fun q hq => hserves q (by simp [hq])) hrest h
          refine ⟨hone.trans hmore ?_, ?_⟩
          · rintro t ht hmem
            rw [List.mem_singleton.mp hmem] at ht
            exact hnew ht
          · rw [hmemo, answers_cons, hmore.table_eq (hone.bound _ (by simp)), hvalue,
              List.append_assoc]
            rfl

/-- Tokens that are bound are told their values, and no more is done. -/
theorem asked_told
    (hserves : ∀ r ∈ rs, k.serves r.target = true)
    (hbound : ∀ r ∈ rs, r.text ∈ tokens (k.book l).live) :
    ∃ handedOut, (k.pass .reserve).askEach Meaning.plain (memo, l) rs =
      .ok (answers (k.table l) rs ++ memo, { l with handedOut := handedOut }) := by
  induction rs generalizing memo l with
  | nil => exact ⟨l.handedOut, rfl⟩
  | cons r rest ih =>
      obtain ⟨name, hlookup⟩ := ending_lookup (hserves r (by simp)) .reserve
      obtain ⟨e, hfind⟩ := exists_find? (hbound r (by simp))
      have htold : outcome (Call.perform ⟨k, .reserve, name, r.text⟩) l =
          (.ok (k.allocated e.value), l.note r.text (k.allocated e.value)) := Call.outcome_told hfind
      obtain ⟨handedOut, hrest⟩ := @ih ((r.text, some (k.allocated e.value).value) :: memo)
        (l.note r.text (k.allocated e.value)) (fun q hq => hserves q (by simp [hq]))
        (fun q hq => by simpa using hbound q (by simp [hq]))
      have htable : k.table (l.note r.text (k.allocated e.value)) = k.table l := by
        funext t
        rw [table, book_note, table]
      have hvalue : k.table l r.text = some (k.allocated e.value).value := by
        rw [table, hfind, Option.map_some]
      refine ⟨handedOut, ?_⟩
      rw [← List.singleton_append, Pass.askEach_append, Pass.askEach_singleton, Pass.askNew,
        hlookup, Meaning.plain_eq_ok_iff.mpr htold, List.singleton_append, answers_cons, hvalue,
        List.append_assoc]
      rw [htable] at hrest
      exact hrest

/-- What becomes of a ledger when some tokens are released. -/
structure Releases (k : ReservedKind) (ts : List String) (l l' : Ledger) : Prop where
  calls : ∃ calls : List Call, (∀ c ∈ calls, c.mode = .release) ∧ l' = l.afterAll calls
  bound : ∀ t ∈ ts, t ∈ tokens (k.book l).live
  handed : (l.handedOut.map Prod.fst ++ ts).Nodup → l'.handedOut = l.handedOut ++ k.given l ts
  live : (k.book l').live = (k.book l).live.filter fun e => e.token ∉ ts
  added : (k.book l').added = (k.book l).added
  removed : tokens (k.book l').removed = tokens (k.book l).removed ++ ts
  others : ∀ k', k' ≠ k → k'.book l' = k'.book l

theorem find?_filter
    {ts : List String} {token : String} {es : List (Reservation k.Bound)}
    (h : token ∉ ts) :
    find? token (es.filter fun e => e.token ∉ ts) = find? token es := by
  rw [find?, find?, List.find?_filter]
  congr 1
  funext e
  by_cases he : e.token = token
  · simp [he, h]
  · simp [he]

theorem mem_tokens_of_find?
    {token : String} {es fs : List (Reservation k.Bound)}
    (hsame : find? token fs = find? token es)
    (h : token ∈ tokens es) :
    token ∈ tokens fs := by
  obtain ⟨e, he⟩ := exists_find? h
  obtain ⟨hmem, htoken⟩ := mem_of_find?_eq_some (hsame.trans he)
  exact mem_tokens.mpr ⟨e, hmem, htoken⟩

theorem Releases.nodup_live
    {ts : List String}
    (h : Releases k ts l l')
    (hlive : (tokens (k.book l).live).Nodup) :
    (tokens (k.book l').live).Nodup := by
  rw [h.live]
  exact hlive.sublist (tokens_sublist List.filter_sublist)

/-- A token that is not released keeps its reservation. -/
theorem Releases.find?_eq
    {ts : List String} {token : String}
    (h : Releases k ts l l')
    (hother : token ∉ ts) :
    find? token (k.book l').live = find? token (k.book l).live := by
  rw [h.live, find?_filter hother]

theorem Releases.not_mem_removed
    {ts : List String} {token : String}
    (h : Releases k ts l l')
    (hother : token ∉ ts)
    (hfirst : token ∉ tokens (k.book l).removed) :
    token ∉ tokens (k.book l').removed := by
  rw [h.removed, List.mem_append, not_or]
  exact ⟨hfirst, hother⟩

theorem Releases.trans
    {ts more : List String} {mid : Ledger}
    (h : Releases k ts l mid)
    (h' : Releases k more mid l')
    (hdisjoint : ∀ t ∈ more, t ∉ ts) :
    Releases k (ts ++ more) l l' := by
  obtain ⟨calls, hcalls, rfl⟩ := h.calls
  obtain ⟨calls', hcalls', rfl⟩ := h'.calls
  have hsame : ∀ t ∈ more,
      find? t (k.book (l.afterAll calls)).live = find? t (k.book l).live :=
    fun t ht => h.find?_eq (hdisjoint t ht)
  refine ⟨⟨calls ++ calls', ?_, ?_⟩, ?_, fun hnodup => ?_, ?_, ?_, ?_, fun k' hk' => ?_⟩
  · intro c hc
    rcases List.mem_append.mp hc with hc | hc
    · exact hcalls c hc
    · exact hcalls' c hc
  · rw [Ledger.afterAll_append]
  · intro t ht
    rcases List.mem_append.mp ht with ht | ht
    · exact h.bound t ht
    · exact mem_tokens_of_find? (hsame t ht).symm (h'.bound t ht)
  · rw [← List.append_assoc] at hnodup
    have hfirst := h.handed (List.nodup_append.mp hnodup).1
    have hkeys : (l.afterAll calls).handedOut.map Prod.fst = l.handedOut.map Prod.fst ++ ts := by
      rw [hfirst, List.map_append, keys_given h.bound]
    rw [h'.handed (hkeys ▸ hnodup), hfirst, given_append, List.append_assoc, given_congr hsame]
  · rw [h'.live, h.live, List.filter_filter]
    refine List.filter_congr fun e _ => ?_
    rw [Bool.eq_iff_iff]
    simp [and_comm]
  · rw [h'.added, h.added]
  · rw [h'.removed, h.removed, List.append_assoc]
  · rw [h'.others k' hk', h.others k' hk']

/-- A token that is bound is told its value and released. -/
theorem releases_one
    {token : String}
    (hlive : (tokens (k.book l).live).Nodup)
    (hbound : token ∈ tokens (k.book l).live)
    (hfirst : token ∉ tokens (k.book l).removed)
    (name : String) :
    ∃ a l', outcome (Call.perform ⟨k, .release, name, token⟩) l = (.ok a, l') ∧
      k.table l token = some a.value ∧ Releases k [token] l l' := by
  obtain ⟨e, hfind⟩ := exists_find? hbound
  obtain ⟨hmem, htoken⟩ := mem_of_find?_eq_some hfind
  have houtcome : outcome (Call.perform ⟨k, .release, name, token⟩) l = (.ok (k.allocated e.value),
      (k.withBook l ⟨release token (k.book l).live, (k.book l).added,
        (k.book l).removed ++ [e]⟩).note token (k.allocated e.value)) :=
    Call.outcome_released (find?_eq_none_iff.mpr hfirst) hfind
  refine ⟨_, _, houtcome, ?_, ⟨[⟨k, .release, name, token⟩], ?_, ?_⟩, ?_, fun hnodup => ?_, ?_, ?_,
    ?_, fun k' hk' => ?_⟩
  · rw [table, hfind, Option.map_some]
  · simp
  · rw [Ledger.afterAll, List.foldl_cons, List.foldl_nil, Ledger.after, houtcome]
  · simpa using hbound
  · rw [Ledger.handedOut_note (by simpa using hnodup), handedOut_withBook, given_of_find? hfind]
  · rw [book_note, book_withBook, release_eq_filter hlive]
    simp
  · rw [book_note, book_withBook]
  · rw [book_note, book_withBook, tokens_append]
    simp [tokens, htoken]
  · rw [book_note, book_withBook_of_ne hk']

theorem not_mem_of_nodup_map
    {r : Reference}
    (h : r.text ∉ rs.map Reference.text) :
    ∀ q ∈ rs, q.text ∉ [r.text] := by
  rintro q hq hmem
  rw [← List.mem_singleton.mp hmem] at h
  exact h (List.mem_map_of_mem hq)

/-- Tokens that are bound are told their values and released, each of them once. -/
theorem asked_release
    (hserves : ∀ r ∈ rs, k.serves r.target = true)
    (hnodup : (rs.map Reference.text).Nodup)
    (hlive : (tokens (k.book l).live).Nodup)
    (hbound : ∀ r ∈ rs, r.text ∈ tokens (k.book l).live)
    (hfirst : ∀ r ∈ rs, r.text ∉ tokens (k.book l).removed) :
    ∃ l', (k.pass .release).askEach Meaning.plain (memo, l) rs =
        .ok (answers (k.table l) rs ++ memo, l') ∧
      Releases k (rs.map Reference.text) l l' := by
  induction rs generalizing memo l with
  | nil =>
      exact ⟨l, rfl, ⟨[], by simp, rfl⟩, by simp, by simp [given], by simp, rfl, by simp,
        fun _ _ => rfl⟩
  | cons r rest ih =>
      obtain ⟨hnew, hrest⟩ := List.nodup_cons.mp hnodup
      obtain ⟨name, hlookup⟩ := ending_lookup (hserves r (by simp)) .release
      obtain ⟨a, next, houtcome, hvalue, hone⟩ :=
        releases_one hlive (hbound r (by simp)) (hfirst r (by simp)) name
      have hother := not_mem_of_nodup_map hnew
      have hbound' : ∀ q ∈ rest, q.text ∈ tokens (k.book next).live := fun q hq =>
        mem_tokens_of_find? (hone.find?_eq (hother q hq)) (hbound q (by simp [hq]))
      obtain ⟨l', hasked, hmore⟩ := @ih ((r.text, some a.value) :: memo) next
        (fun q hq => hserves q (by simp [hq])) hrest (hone.nodup_live hlive) hbound'
        fun q hq => hone.not_mem_removed (hother q hq) (hfirst q (by simp [hq]))
      have htable : ∀ q ∈ rest, k.table next q.text = k.table l q.text := by
        intro q hq
        rw [table, hone.find?_eq (hother q hq), table]
      have hdisjoint : ∀ t ∈ rest.map Reference.text, t ∉ [r.text] := by
        intro t ht
        obtain ⟨q, hq, rfl⟩ := List.mem_map.mp ht
        exact hother q hq
      refine ⟨l', ?_, hone.trans hmore hdisjoint⟩
      rw [← List.singleton_append, Pass.askEach_append, Pass.askEach_singleton, Pass.askNew,
        hlookup, Meaning.plain_eq_ok_iff.mpr houtcome, List.singleton_append, answers_cons,
        hvalue, List.append_assoc, ← answers_congr htable]
      exact hasked

/-- Only a token that is bound is released. -/
theorem bound_of_release
    {name token : String} {a : Allocated}
    (h : outcome (Call.perform ⟨k, .release, name, token⟩) l = (.ok a, l'))
    (hfirst : token ∉ tokens (k.book l).removed) :
    token ∈ tokens (k.book l).live := by
  cases Call.served h with
  | told hmode => cases hmode
  | reserved hmode => cases hmode
  | @released e _ _ hfound =>
      obtain ⟨hmem, htoken⟩ := mem_of_find?_eq_some hfound
      exact mem_tokens.mpr ⟨e, hmem, htoken⟩
  | again _ hfound => exact absurd (hfound.symm.trans (find?_eq_none_iff.mpr hfirst)) (by simp)

/-- Where tokens were asked for in a run that releases, each of them was bound. -/
theorem bound_of_asked
    (hserves : ∀ r ∈ rs, k.serves r.target = true)
    (hnodup : (rs.map Reference.text).Nodup)
    (hlive : (tokens (k.book l).live).Nodup)
    (hfirst : ∀ r ∈ rs, r.text ∉ tokens (k.book l).removed)
    (h : (k.pass .release).askEach Meaning.plain (memo, l) rs = .ok (memo', l')) :
    ∀ r ∈ rs, r.text ∈ tokens (k.book l).live := by
  induction rs generalizing memo l with
  | nil => simp
  | cons r rest ih =>
      obtain ⟨hnew, hrest⟩ := List.nodup_cons.mp hnodup
      obtain ⟨name, hlookup⟩ := ending_lookup (hserves r (by simp)) .release
      rw [← List.singleton_append, Pass.askEach_append, Pass.askEach_singleton, Pass.askNew,
        hlookup] at h
      cases hcall : Meaning.plain.ending (Call.perform ⟨k, .release, name, r.text⟩) l with
      | error e =>
          rw [hcall] at h
          cases h
      | ok found =>
          rw [hcall] at h
          have hbound := bound_of_release (Meaning.plain_eq_ok_iff.mp hcall) (hfirst r (by simp))
          obtain ⟨a, next, houtcome, -, hone⟩ :=
            releases_one hlive hbound (hfirst r (by simp)) name
          obtain rfl := Except.ok.inj (hcall.symm.trans (Meaning.plain_eq_ok_iff.mpr houtcome))
          have hother := not_mem_of_nodup_map hnew
          have hmore := ih (fun q hq => hserves q (by simp [hq])) hrest (hone.nodup_live hlive)
            (fun q hq => hone.not_mem_removed (hother q hq) (hfirst q (by simp [hq]))) h
          intro q hq
          rcases List.mem_cons.mp hq with rfl | hq
          · exact hbound
          · exact mem_tokens_of_find? (hone.find?_eq (hother q hq)).symm (hmore q hq)

/-! ### Documents that are filled -/

variable {v w : Value}

/-- What tokens are bound to depends only on tokens and values. -/
theorem table_eq_of_pairs
    (h : pairs (k.book l).live = pairs (k.book l').live) :
    k.table l = k.table l' := by
  have hlookup : ∀ (l : Ledger) (token : String), k.table l token =
      ((pairs (k.book l).live).lookup token).map fun value => (k.allocated value).value := by
    intro l token
    rw [table, find?, pairs]
    induction (k.book l).live with
    | nil => rfl
    | cons e rest ih =>
        rw [List.find?_cons, List.map_cons, List.lookup_cons]
        by_cases he : e.token = token
        · simp [he]
        · have hne : (token == e.token) = false := beq_eq_false_iff_ne.mpr (Ne.symm he)
          simp only [he, decide_false, hne]
          exact ih
  funext token
  rw [hlookup l, hlookup l', h]

theorem fill_eq_of_pairs
    (h : pairs (k.book l).live = pairs (k.book l').live)
    (v : Value) :
    k.fill l v = k.fill l' v := by
  rw [fill, table_eq_of_pairs h, fill]

theorem formed_pass
    (k : ReservedKind) (mode : Ledger.Mode) (v : Value) (l : Ledger) :
    (k.pass mode).Formed Meaning.plain v l := by
  intro before st _ _ place hplace _
  obtain ⟨s, -, hs⟩ := List.mem_flatMap.mp hplace
  obtain ⟨hfound, hserves⟩ := List.mem_filter.mp hs
  rw [serves_pass] at hserves
  cases hparse : Reference.parse? s with
  | some r =>
      simp only [Pass.Place.findAll, hparse, List.mem_singleton] at hfound
      rw [hfound]
      rfl
  | none =>
      simp only [Pass.Place.findAll, hparse, List.mem_map] at hfound
      obtain ⟨r, hr, rfl⟩ := hfound
      obtain ⟨c, -, hc⟩ := Reference.mem_embeddedIn.mp hr
      rw [not_serves k _ (Pass.embedded_target hc)] at hserves
      cases hserves

theorem rewrite_answers
    (table : TokenTable) (v : Value) :
    TokenTable.rewrite ((Memo.table (answers table (k.tokensOf v))).text k.serves true) v =
      TokenTable.rewrite (table.text k.serves true) v := by
  refine TokenTable.rewrite_congr fun s hs => TokenTable.text_congr fun r hr hserves => ?_
  refine table_answers (Pass.mem_tokensOf.mpr ⟨?_, by simpa using hserves⟩)
  rw [Value.references_eq, List.mem_flatMap]
  exact ⟨s, hs, hr⟩

/-- A pass over a document that comes to its end has asked for each of its tokens once. -/
theorem asked_of_run
    {mode : Ledger.Mode}
    (h : outcome ((k.pass mode).run v) l = (.ok w, l')) :
    ∃ memo, (k.pass mode).askEach Meaning.plain ([], l) (k.tokensOf v) = .ok (memo, l') ∧
      w = TokenTable.rewrite ((Memo.table memo).text k.serves true) v := by
  obtain ⟨memo, hasked, hw⟩ :=
    Pass.asked_of_run (k.thorough_pass mode) (Meaning.plain_eq_ok_iff.mpr h)
  rw [tokensOf_pass] at hasked
  rw [serves_pass] at hw
  exact ⟨memo, hasked, hw⟩

/-- A document that is filled in a run that reserves has the values that its tokens are bound
to by then. -/
theorem run_reserve
    (h : outcome ((k.pass .reserve).run v) l = (.ok w, l')) :
    Reserves k ((k.tokensOf v).map Reference.text) l l' ∧ w = k.fill l' v := by
  obtain ⟨memo, hasked, hw⟩ := asked_of_run h
  obtain ⟨hreserves, rfl⟩ := asked_reserve (fun r hr => serves_of_mem_tokensOf hr)
    (Pass.nodup_tokensOf _ v) hasked
  refine ⟨hreserves, hw.trans ?_⟩
  rw [List.append_nil]
  exact rewrite_answers _ v

/-- A document that is filled in a run that releases has the values that its tokens were bound
to, and each of the tokens is released. -/
theorem run_release
    (hlive : (tokens (k.book l).live).Nodup)
    (hfirst : (k.book l).removed = [])
    (h : outcome ((k.pass .release).run v) l = (.ok w, l')) :
    Releases k ((k.tokensOf v).map Reference.text) l l' ∧ w = k.fill l v := by
  obtain ⟨memo, hasked, hw⟩ := asked_of_run h
  have hserves : ∀ r ∈ k.tokensOf v, k.serves r.target = true :=
    fun r hr => serves_of_mem_tokensOf hr
  have hnone : ∀ r ∈ k.tokensOf v, r.text ∉ tokens (k.book l).removed := by
    simp [hfirst, tokens]
  have hbound := bound_of_asked hserves (Pass.nodup_tokensOf _ v) hlive hnone hasked
  obtain ⟨next, hasked', hreleases⟩ :=
    @asked_release k [] l _ hserves (Pass.nodup_tokensOf _ v) hlive hbound hnone
  rw [hasked', List.append_nil] at hasked
  obtain ⟨rfl, rfl⟩ := Prod.mk.inj (Except.ok.inj hasked)
  exact ⟨hreleases, hw.trans (rewrite_answers _ v)⟩

/-- A document that is walked to its end and filled in a run that reserves. -/
theorem filled_reserve [DepthLimits]
    (h : outcome (v.walkedBy (k.pass .reserve).run) l = (.ok w, l')) :
    v.IsWalked ∧ Reserves k ((k.tokensOf v).map Reference.text) l l' ∧ w = k.fill l' v := by
  by_cases hwalked : v.IsWalked
  · rw [Value.walkedBy_of_isWalked hwalked] at h
    exact ⟨hwalked, run_reserve h⟩
  · have hending := Pass.ending_walkedBy (M := Meaning.plain) (k.thorough_pass .reserve) v l
    rw [Meaning.plain_eq_ok_iff.mpr h] at hending
    generalize hresult : Except.ok (w, l') = result at hending
    cases hending with
    | filled walked => exact absurd walked hwalked
    | refused => cases hresult
    | formless => cases hresult
    | tooDeep => cases hresult

theorem outcome_walkedBy [DepthLimits]
    {mode : Ledger.Mode}
    (hwalked : v.IsWalked)
    (h : (k.pass mode).askEach Meaning.plain ([], l) (k.tokensOf v) =
      .ok (answers (k.table l) (k.tokensOf v), l')) :
    outcome (v.walkedBy (k.pass mode).run) l = (.ok (k.fill l v), l') := by
  have hending := (Pass.ending_walkedBy (M := Meaning.plain) (k.thorough_pass mode) v l).eq_askEach
    hwalked (formed_pass k mode v l)
  rw [tokensOf_pass, h, serves_pass] at hending
  rw [← Meaning.plain_eq_ok_iff, hending, fill, ← rewrite_answers]
  rfl

/-- A document whose tokens are bound is filled with their values, and no more is done. -/
theorem filled_told [DepthLimits]
    (hwalked : v.IsWalked)
    (hbound : ∀ r ∈ k.tokensOf v, r.text ∈ tokens (k.book l).live) :
    ∃ handedOut, outcome (v.walkedBy (k.pass .reserve).run) l =
      (.ok (k.fill l v), { l with handedOut := handedOut }) := by
  obtain ⟨handedOut, hasked⟩ :=
    @asked_told k [] l _ (fun r hr => serves_of_mem_tokensOf hr) hbound
  rw [List.append_nil] at hasked
  exact ⟨handedOut, outcome_walkedBy hwalked hasked⟩

/-- A document whose tokens are bound is filled with their values in a run that releases, and
each of the tokens is released once. -/
theorem filled_release [DepthLimits]
    (hwalked : v.IsWalked)
    (hlive : (tokens (k.book l).live).Nodup)
    (hbound : ∀ r ∈ k.tokensOf v, r.text ∈ tokens (k.book l).live)
    (hfirst : ∀ r ∈ k.tokensOf v, r.text ∉ tokens (k.book l).removed) :
    ∃ l', outcome (v.walkedBy (k.pass .release).run) l = (.ok (k.fill l v), l') ∧
      Releases k ((k.tokensOf v).map Reference.text) l l' := by
  obtain ⟨l', hasked, hreleases⟩ := @asked_release k [] l _
    (fun r hr => serves_of_mem_tokensOf hr) (Pass.nodup_tokensOf _ v) hlive hbound hfirst
  rw [List.append_nil] at hasked
  exact ⟨l', outcome_walkedBy hwalked hasked, hreleases⟩

/-- Filling in machine numbers leaves all tokens for addresses. -/
theorem tokensOf_fill
    (l : Ledger) (v : Value) :
    ReservedKind.ip.tokensOf (ReservedKind.vmid.fill l v) = ReservedKind.ip.tokensOf v := by
  have hboth : ∀ t, ReservedKind.vmid.serves t = true → ReservedKind.ip.serves t = false := by
    intro t ht
    cases t <;> first | rfl | cases ht
  have htext : ∀ s : String,
      ((ReservedKind.vmid.table l).text ReservedKind.vmid.serves true s).references.filter
          (fun r => ReservedKind.ip.serves r.target) =
        (Reference.findAll s).filter fun r => ReservedKind.ip.serves r.target := by
    intro s
    cases hs : Reference.parse? s with
    | none =>
        have hkeep : (ReservedKind.vmid.table l).text ReservedKind.vmid.serves true s = .str s := by
          refine TokenTable.text_eq_self fun r hr => ?_
          simp only [Reference.findAll, hs] at hr
          obtain ⟨c, -, hc⟩ := Reference.mem_embeddedIn.mp hr
          exact not_serves .vmid _ (Pass.embedded_target hc)
        rw [hkeep]
        rfl
    | some r =>
        cases hserves : ReservedKind.vmid.serves r.target with
        | false =>
            have hkeep : (ReservedKind.vmid.table l).text ReservedKind.vmid.serves true s =
                .str s := by
              simp [TokenTable.text, hs, hserves]
            rw [hkeep]
            rfl
        | true =>
            -- a number has no tokens, and the token that it replaces is not for an address
            have hother : ReservedKind.ip.serves r.target = false := hboth _ hserves
            simp only [TokenTable.text, hs, hserves, if_true, table, Reference.findAll]
            cases find? r.text (ReservedKind.vmid.book l).live with
            | none => simp [Value.references, Reference.findAll, hs]
            | some e => simp [allocated, Allocated.value, Value.references, hother]
  have hserves : (ReservedKind.ip.pass .reserve).serves = ReservedKind.ip.serves :=
    serves_pass .ip .reserve
  rw [tokensOf, tokensOf, Pass.tokensOf_eq, Pass.tokensOf_eq, hserves, fill,
    TokenTable.references_rewrite htext]

end ReservedKind
end Homelab
