import Homelab.Proofs.Resolution.Walk
import Mathlib.Data.List.Induction

/-!
# What a pass over a document comes to

A pass looks each of its tokens up once, in the order in which they are listed as unresolved,
until a lookup fails.  If none fails, the document is rewritten by the answers, text by text.
Two things stand in the way of that: a document with more levels than are walked, and a value
inside a longer text that has no text.  Then the pass fails, too, and has asked for the first of
its tokens by then.
-/

namespace Homelab
namespace Pass

variable {m : Type → Type} [Monad m] [MonadExceptOf Failure m] {σ ε : Type}
  {p : Pass m} {M : Meaning m σ ε} {st st' : Memo × σ}

/-! ### Each token once -/

theorem askEach_append
    (rs more : List Reference) :
    p.askEach M st (rs ++ more) = (p.askEach M st rs).bind fun st => p.askEach M st more := by
  rw [askEach, List.foldlM_append]
  rfl

theorem askEach_singleton
    (r : Reference) :
    p.askEach M st [r] = p.askNew M st r := by
  rw [askEach, List.foldlM_cons]
  cases p.askNew M st r <;> rfl

/-- What is known are the answers for the tokens that have been asked for. -/
theorem known_of_askEach
    {rs : List Reference} :
    ∀ {st : Memo × σ}, p.askEach M st rs = .ok st' →
      st'.1.map Prod.fst = (rs.map Reference.text).reverse ++ st.1.map Prod.fst := by
  induction rs with
  | nil =>
      intro st h
      obtain rfl := Except.ok.inj h
      rfl
  | cons r rest ih =>
      intro st h
      rw [← List.singleton_append, askEach_append, askEach_singleton, askNew] at h
      cases hlookup : M.ending (p.lookup r) st.2 with
      | error e =>
          rw [hlookup] at h
          cases h
      | ok found =>
          rw [hlookup] at h
          rw [ih h]
          simp

/-- What every lookup keeps, and gives, holds when all tokens have been asked for. -/
theorem forall_of_askEach
    {P : σ → Prop} {Q : Option Value → Prop} {rs : List Reference}
    (hlookup : ∀ r ∈ rs, ∀ s found s', P s → M.ending (p.lookup r) s = .ok (found, s') →
      P s' ∧ Q found) :
    ∀ {st st' : Memo × σ}, p.askEach M st rs = .ok st' →
      P st.2 → (∀ entry ∈ st.1, Q entry.2) → P st'.2 ∧ ∀ entry ∈ st'.1, Q entry.2 := by
  induction rs with
  | nil =>
      intro st st' h hP hQ
      obtain rfl := Except.ok.inj h
      exact ⟨hP, hQ⟩
  | cons r rest ih =>
      intro st st' h hP hQ
      rw [← List.singleton_append, askEach_append, askEach_singleton, askNew] at h
      cases hr : M.ending (p.lookup r) st.2 with
      | error e =>
          rw [hr] at h
          cases h
      | ok answer =>
          obtain ⟨found, next⟩ := answer
          rw [hr] at h
          obtain ⟨hnext, hfound⟩ := hlookup r List.mem_cons_self _ _ _ hP hr
          refine ih (fun q hq => hlookup q (List.mem_cons_of_mem _ hq)) h hnext fun entry he => ?_
          rcases List.mem_cons.mp he with rfl | he
          · exact hfound
          · exact hQ entry he

theorem isSome_lookup_iff
    {memo : Memo} {text : String} :
    (List.lookup text memo).isSome ↔ text ∈ memo.map Prod.fst := by
  induction memo with
  | nil => simp
  | cons entry rest ih =>
      rw [List.lookup_cons, List.map_cons, List.mem_cons]
      by_cases heq : text = entry.1
      · simp [heq]
      · have hne : (text == entry.1) = false := beq_eq_false_iff_ne.mpr heq
        simp [hne, heq, ih]

/-- What visiting places comes to: each of their tokens is asked for once, in the order of
their first places, until a lookup fails or a value has no text where it has to have one. -/
inductive Course (p : Pass m) (M : Meaning m σ ε) (s : σ) (places : List Place) :
    Except ε (Memo × σ) → Prop
  | through {st : Memo × σ}
      (asked : p.askEach M ([], s) (places.map Place.token).eraseDups = .ok st)
      (formed : ∀ place ∈ places, place.formless? st.1 = none) :
      Course p M s places (.ok st)
  | refused {before after : List Reference} {r : Reference} {st : Memo × σ} {e : ε}
      (split : (places.map Place.token).eraseDups = before ++ r :: after)
      (asked : p.askEach M ([], s) before = .ok st)
      (fails : M.ending (p.lookup r) st.2 = .error e) :
      Course p M s places (.error e)
  | formless {before : List Reference} {place : Place} {st : Memo × σ} {v : Value}
      (begins : before <+: (places.map Place.token).eraseDups)
      (asked : p.askEach M ([], s) before = .ok st)
      (stands : place ∈ places)
      (known : place.token ∈ before)
      (noText : place.formless? st.1 = some v) :
      Course p M s places (.error (M.raised (.unwritten v) st.2))

/-- A walk that has ended is not changed by further places. -/
theorem Course.error_append
    {s : σ} {places more : List Place} {e : ε}
    (h : p.Course M s places (.error e)) :
    p.Course M s (places ++ more) (.error e) := by
  have hprefix : (places.map Place.token).eraseDups <+:
      ((places ++ more).map Place.token).eraseDups := by
    rw [List.map_append]
    exact eraseDups_prefix (List.prefix_append _ _)
  cases h with
  | @refused before after r st _ split asked fails =>
      obtain ⟨rest, hrest⟩ := hprefix
      have hsplit : ((places ++ more).map Place.token).eraseDups =
          before ++ r :: (after ++ rest) := by
        rw [← hrest, split, List.append_assoc, List.cons_append]
      exact .refused hsplit asked fails
  | formless begins asked stands known noText =>
      exact .formless (begins.trans hprefix) asked (List.mem_append_left _ stands) known noText

/-- One more place of a walk that has come through so far. -/
theorem Course.visit
    {s : σ} {places : List Place} {place : Place}
    (hread : ∀ q ∈ places ++ [place], Reference.parse? q.token.text = some q.token)
    (hvisited : p.visitAll M ([], s) places = .ok st)
    (h : p.Course M s places (.ok st)) :
    p.Course M s (places ++ [place]) (p.visit M st place) := by
  cases h with
  | through asked formed =>
      have hknown : (List.lookup place.token.text st.1).isSome ↔
          place.token ∈ places.map Place.token := by
        rw [isSome_lookup_iff, known_of_askEach asked, List.map_nil, List.append_nil,
          List.mem_reverse]
        simp only [List.mem_map, List.mem_eraseDups]
        refine ⟨?_, fun ⟨q, hq, heq⟩ => ⟨_, ⟨q, hq, rfl⟩, by rw [heq]⟩⟩
        rintro ⟨_, ⟨q, hq, rfl⟩, htext⟩
        have hq' := hread q (List.mem_append_left _ hq)
        rw [htext, hread place (by simp)] at hq'
        exact ⟨q, hq, (Option.some.inj hq').symm⟩
      have hstep : ∀ st', p.askOnce M st place.token = .ok st' →
          p.askEach M ([], s) ((places ++ [place]).map Place.token).eraseDups = .ok st' := by
        intro st' hask
        rw [List.map_append, List.map_singleton, eraseDups_concat]
        by_cases hmem : place.token ∈ places.map Place.token
        · rw [askOnce, if_pos (hknown.mpr hmem)] at hask
          rw [if_pos hmem, asked, hask]
        · rw [askOnce, if_neg (mt hknown.mp hmem)] at hask
          rw [if_neg hmem, askEach_append, asked, Except.bind, askEach_singleton, hask]
      cases hask : p.askOnce M st place.token with
      | error e =>
          have hnew : place.token ∉ places.map Place.token := by
            intro hmem
            rw [askOnce, if_pos (hknown.mpr hmem)] at hask
            cases hask
          have hsplit : ((places ++ [place]).map Place.token).eraseDups =
              (places.map Place.token).eraseDups ++ place.token :: [] := by
            rw [List.map_append, List.map_singleton, eraseDups_concat, if_neg hnew]
          rw [askOnce, if_neg (mt hknown.mp hnew), askNew] at hask
          rw [Pass.visit, askOnce, if_neg (mt hknown.mp hnew), askNew, hask]
          cases hlookup : M.ending (p.lookup place.token) st.2 with
          | error e' =>
              rw [hlookup] at hask
              obtain rfl := Except.error.inj hask
              exact .refused hsplit asked hlookup
          | ok found =>
              rw [hlookup] at hask
              cases hask
      | ok st' =>
          cases hformless : place.formless? st'.1 with
          | some v =>
              simp only [Pass.visit, hask, Except.bind, hformless]
              exact .formless List.prefix_rfl (hstep st' hask) (by simp) (by simp) hformless
          | none =>
              have hvisit : p.visit M st place = .ok st' := by
                simp only [Pass.visit, hask, Except.bind, hformless]
              rw [hvisit]
              refine .through (hstep st' hask) fun q hq => ?_
              rcases List.mem_append.mp hq with hq | hq
              · have hsame :=
                  table_eq_of_visited hvisited ((visitAll_singleton place).trans hvisit) hq
                rw [Place.formless?, ← hsame, ← Place.formless?]
                exact formed q hq
              · rw [List.mem_singleton.mp hq]
                exact hformless

theorem course_visitAll
    (s : σ) (places : List Place)
    (hread : ∀ q ∈ places, Reference.parse? q.token.text = some q.token) :
    p.Course M s places (p.visitAll M ([], s) places) := by
  induction places using List.reverseRecOn with
  | nil => exact .through rfl (by simp)
  | append_singleton places place ih =>
      have hbefore := ih fun q hq => hread q (List.mem_append_left _ hq)
      rw [visitAll_append]
      cases hvisited : p.visitAll M ([], s) places with
      | error e =>
          rw [hvisited] at hbefore
          exact hbefore.error_append
      | ok st =>
          rw [hvisited] at hbefore
          rw [Except.bind, visitAll_singleton]
          exact hbefore.visit hread hvisited

end Pass

/-! ### How far a document is walked -/

namespace Value

/-- The walk comes to the end of the document. -/
def IsWalked [DepthLimits] (v : Value) : Prop :=
  (v.front (DepthLimits.walking - 1)).2 = true

mutual

/-- What is walked are the first texts of a document, and all of them if the walk comes to its
end. -/
theorem texts_front :
    ∀ (v : Value) (limit : Nat), (v.front limit).1.texts <+: v.texts ∧
      ((v.front limit).2 = true → (v.front limit).1.texts = v.texts)
  | .scalar s, limit => by
      rw [front]
      exact ⟨List.prefix_rfl, fun _ => rfl⟩
  | .set members, limit => by
      rw [front]
      exact ⟨List.prefix_rfl, fun _ => rfl⟩
  | .list items, 0 => by
      rw [front, if_pos rfl]
      exact ⟨List.nil_prefix, fun h => by cases h⟩
  | .list items, limit + 1 => by
      rw [front, if_neg (Nat.succ_ne_zero limit)]
      exact itemTexts_front items limit
  | .map entries, 0 => by
      rw [front, if_pos rfl]
      exact ⟨List.nil_prefix, fun h => by cases h⟩
  | .map entries, limit + 1 => by
      rw [front, if_neg (Nat.succ_ne_zero limit)]
      exact entryTexts_front entries limit

theorem itemTexts_front :
    ∀ (items : List Value) (limit : Nat), itemTexts (frontItems limit items).1 <+: itemTexts items ∧
      ((frontItems limit items).2 = true → itemTexts (frontItems limit items).1 = itemTexts items)
  | [], limit => by
      rw [frontItems]
      exact ⟨List.prefix_rfl, fun _ => rfl⟩
  | v :: rest, limit => by
      obtain ⟨hfirst, hwhole⟩ := texts_front v limit
      obtain ⟨hmore, hrest⟩ := itemTexts_front rest limit
      rw [frontItems]
      rcases hfront : v.front limit with ⟨walked, _ | _⟩
      · simp only [hfront] at hfirst
        simp only [itemTexts, List.append_nil]
        exact ⟨hfirst.trans (List.prefix_append _ _), fun h => by cases h⟩
      · simp only [hfront] at hwhole
        simp only [itemTexts, hwhole trivial]
        exact ⟨(List.prefix_append_right_inj _).mpr hmore, fun h => by rw [hrest h]⟩

theorem entryTexts_front :
    ∀ (entries : List (Scalar × Value)) (limit : Nat),
      entryTexts (frontEntries limit entries).1 <+: entryTexts entries ∧
        ((frontEntries limit entries).2 = true →
          entryTexts (frontEntries limit entries).1 = entryTexts entries)
  | [], limit => by
      rw [frontEntries]
      exact ⟨List.prefix_rfl, fun _ => rfl⟩
  | (k, v) :: rest, limit => by
      obtain ⟨hfirst, hwhole⟩ := texts_front v limit
      obtain ⟨hmore, hrest⟩ := entryTexts_front rest limit
      rw [frontEntries]
      rcases hfront : v.front limit with ⟨walked, _ | _⟩
      · simp only [hfront] at hfirst
        simp only [entryTexts, List.append_nil]
        exact ⟨hfirst.trans (List.prefix_append _ _), fun h => by cases h⟩
      · simp only [hfront] at hwhole
        simp only [entryTexts, hwhole trivial]
        exact ⟨(List.prefix_append_right_inj _).mpr hmore, fun h => by rw [hrest h]⟩

end

mutual

theorem isWalked_front :
    ∀ (v : Value) (limit : Nat), v.levels ≤ limit → (v.front limit).2 = true
  | .scalar _, _, _ | .set _, _, _ => rfl
  | .list items, 0, h => by
      simp [levels] at h
  | .list items, limit + 1, h => by
      rw [front, if_neg (Nat.succ_ne_zero limit)]
      exact areWalked_front items limit (by simpa [levels] using h)
  | .map entries, 0, h => by
      simp [levels] at h
  | .map entries, limit + 1, h => by
      rw [front, if_neg (Nat.succ_ne_zero limit)]
      exact entriesWalked_front entries limit (by simpa [levels] using h)

theorem areWalked_front :
    ∀ (items : List Value) (limit : Nat), itemLevels items ≤ limit →
      (frontItems limit items).2 = true
  | [], _, _ => rfl
  | v :: rest, limit, h => by
      rw [itemLevels, Nat.max_le] at h
      have hfirst := isWalked_front v limit h.1
      rw [frontItems]
      rcases hfront : v.front limit with ⟨walked, _ | _⟩
      · simp [hfront] at hfirst
      · exact areWalked_front rest limit h.2

theorem entriesWalked_front :
    ∀ (entries : List (Scalar × Value)) (limit : Nat), entryLevels entries ≤ limit →
      (frontEntries limit entries).2 = true
  | [], _, _ => rfl
  | (k, v) :: rest, limit, h => by
      rw [entryLevels, Nat.max_le] at h
      have hfirst := isWalked_front v limit h.1
      rw [frontEntries]
      rcases hfront : v.front limit with ⟨walked, _ | _⟩
      · simp [hfront] at hfirst
      · exact entriesWalked_front rest limit h.2

end

theorem isWalked_of_levels [DepthLimits]
    {v : Value}
    (h : v.levels < DepthLimits.walking) :
    v.IsWalked :=
  isWalked_front v (DepthLimits.walking - 1) (Nat.le_pred_of_lt h)

theorem walkedBy_of_isWalked [DepthLimits]
    {m : Type → Type} [Monad m] [MonadExceptOf Failure m] {v : Value} {pass : Value → m Value}
    (h : v.IsWalked) :
    v.walkedBy pass = pass v := by
  rcases hfront : v.front (DepthLimits.walking - 1) with ⟨walked, _ | _⟩
  · simp [IsWalked, hfront] at h
  · simp only [walkedBy, hfront]

end Value

/-! ### How a pass over a document ends -/

namespace Pass

variable {m : Type → Type} [Monad m] [MonadExceptOf Failure m] {σ ε : Type}
  (p : Pass m) (M : Meaning m σ ε) (v : Value) (s : σ)

/-- The ways in which a pass over a document ends. -/
inductive Ending [DepthLimits] : Except ε (Value × σ) → Prop
  | filled {st : Memo × σ}
      (walked : v.IsWalked)
      (asked : p.askEach M ([], s) (p.tokensOf v) = .ok st)
      (formed : ∀ place ∈ p.places v, place.formless? st.1 = none) :
      Ending (.ok (TokenTable.rewrite ((Memo.table st.1).text p.serves true) v, st.2))
  | refused {before after : List Reference} {r : Reference} {st : Memo × σ} {e : ε}
      (split : p.tokensOf v = before ++ r :: after)
      (asked : p.askEach M ([], s) before = .ok st)
      (fails : M.ending (p.lookup r) st.2 = .error e) :
      Ending (.error e)
  | formless {before : List Reference} {place : Place} {st : Memo × σ} {w : Value}
      (begins : before <+: p.tokensOf v)
      (asked : p.askEach M ([], s) before = .ok st)
      (stands : place ∈ p.places v)
      (known : place.token ∈ before)
      (noText : place.formless? st.1 = some w) :
      Ending (.error (M.raised (.unwritten w) st.2))
  | tooDeep {before : List Reference} {st : Memo × σ}
      (deep : ¬ v.IsWalked)
      (begins : before <+: p.tokensOf v)
      (asked : p.askEach M ([], s) before = .ok st) :
      Ending (.error (M.raised .depthExceeded st.2))

/-- Every value that is found for a token inside a longer text has a text. -/
def Formed : Prop :=
  ∀ before st, before <+: p.tokensOf v → p.askEach M ([], s) before = .ok st →
    ∀ place ∈ p.places v, place.token ∈ before → place.formless? st.1 = none

variable {p M v s}

section

omit [Monad m] [MonadExceptOf Failure m]

theorem eraseDups_places
    (v : Value) :
    ((p.places v).map Place.token).eraseDups = p.tokensOf v := by
  rw [token_places, tokensOf_eq]

theorem parse?_of_mem_places
    {place : Place}
    (h : place ∈ p.places v) :
    Reference.parse? place.token.text = some place.token := by
  have hmem : place.token ∈ (p.places v).map Place.token := List.mem_map_of_mem h
  rw [token_places] at hmem
  exact Value.parse?_of_mem_references (List.mem_filter.mp hmem).1

theorem places_front
    (v : Value) (limit : Nat) :
    p.places (v.front limit).1 <+: p.places v := by
  obtain ⟨more, hmore⟩ := (v.texts_front limit).1
  rw [places, places, ← hmore, List.flatMap_append]
  exact List.prefix_append _ _

end

theorem ending_run
    (hp : p.Thorough) (v : Value) (s : σ) :
    M.ending (p.run v) s = (p.visitAll M ([], s) (p.places v)).map fun st =>
      (TokenTable.rewrite ((Memo.table st.1).text p.serves true) v, st.2) := by
  rw [run, Meaning.ending_run', ending_mapTextsM hp, places]
  cases p.visitAll M ([], s) _ <;> rfl

/-- A pass that comes to its end has asked for each of its tokens once, and has rewritten the
document by the answers. -/
theorem asked_of_run
    {w : Value} {s' : σ}
    (hp : p.Thorough)
    (h : M.ending (p.run v) s = .ok (w, s')) :
    ∃ memo, p.askEach M ([], s) (p.tokensOf v) = .ok (memo, s') ∧
      w = TokenTable.rewrite ((Memo.table memo).text p.serves true) v := by
  have hcourse : p.Course M s (p.places v) (p.visitAll M ([], s) (p.places v)) :=
    course_visitAll s _ fun q hq => parse?_of_mem_places hq
  rw [ending_run hp] at h
  cases hvisited : p.visitAll M ([], s) (p.places v) with
  | error e =>
      rw [hvisited] at h
      cases h
  | ok st =>
      rw [hvisited] at h hcourse
      obtain ⟨rfl, rfl⟩ := Prod.mk.inj (Except.ok.inj h)
      cases hcourse with
      | through asked formed =>
          rw [eraseDups_places] at asked
          exact ⟨st.1, asked, rfl⟩

theorem Ending.of_course [DepthLimits]
    {e : ε}
    (h : p.Course M s (p.places v) (.error e)) :
    p.Ending M v s (.error e) := by
  cases h with
  | refused split asked fails =>
      rw [eraseDups_places] at split
      exact .refused split asked fails
  | formless begins asked stands known noText =>
      rw [eraseDups_places] at begins
      exact .formless begins asked stands known noText

/-- A pass over a document ends in one of these ways. -/
theorem ending_walkedBy [DepthLimits]
    (hp : p.Thorough) (v : Value) (s : σ) :
    p.Ending M v s (M.ending (v.walkedBy p.run) s) := by
  have hcourse : ∀ w : Value, p.Course M s (p.places w) (p.visitAll M ([], s) (p.places w)) :=
    fun w => course_visitAll s _ fun q hq => parse?_of_mem_places hq
  rcases hfront : v.front (DepthLimits.walking - 1) with ⟨walked, _ | _⟩
  · have hdeep : ¬ v.IsWalked := by simp [Value.IsWalked, hfront]
    have hplaces : p.places walked <+: p.places v := by
      simpa [hfront] using p.places_front v (DepthLimits.walking - 1)
    simp only [Value.walkedBy, hfront, Meaning.ending_bind, ending_run hp]
    cases hvisited : p.visitAll M ([], s) (p.places walked) with
    | error e =>
        have hstopped := hcourse walked
        obtain ⟨more, hmore⟩ := hplaces
        rw [hvisited] at hstopped
        refine .of_course ?_
        rw [← hmore]
        exact hstopped.error_append
    | ok st =>
        have hthrough := hcourse walked
        rw [hvisited] at hthrough
        cases hthrough with
        | through asked formed =>
            have hbegins := eraseDups_prefix (hplaces.map Place.token)
            rw [eraseDups_places v] at hbegins
            have hthrow : M.ending (throw .depthExceeded : m Value) st.2 =
                .error (M.raised .depthExceeded st.2) := M.ending_throw _ _
            simp only [Except.map, Except.bind, hthrow]
            exact .tooDeep hdeep hbegins asked
  · have hwalked : v.IsWalked := by simp [Value.IsWalked, hfront]
    simp only [Value.walkedBy, hfront, ending_run hp]
    cases hvisited : p.visitAll M ([], s) (p.places v) with
    | error e =>
        have hstopped := hcourse v
        rw [hvisited] at hstopped
        exact .of_course hstopped
    | ok st =>
        have hthrough := hcourse v
        rw [hvisited] at hthrough
        cases hthrough with
        | through asked formed =>
            rw [eraseDups_places] at asked
            exact .filled hwalked asked formed

/-- Where the walk comes to the end of the document and no value lacks a text, a pass looks
each of its tokens up once and rewrites the document by the answers. -/
theorem Ending.eq_askEach [DepthLimits]
    {r : Except ε (Value × σ)}
    (h : p.Ending M v s r)
    (hwalked : v.IsWalked)
    (hformed : p.Formed M v s) :
    r = (p.askEach M ([], s) (p.tokensOf v)).map fun st =>
      (TokenTable.rewrite ((Memo.table st.1).text p.serves true) v, st.2) := by
  cases h with
  | filled walked asked formed => rw [asked, Except.map]
  | refused split asked fails =>
      rw [split, ← List.singleton_append, askEach_append, asked, Except.bind, askEach_append,
        askEach_singleton, askNew, fails]
      rfl
  | formless begins asked stands known noText =>
      rw [hformed _ _ begins asked _ stands known] at noText
      cases noText
  | tooDeep deep begins asked => exact absurd hwalked deep

theorem embedded_target
    {c : Reference.Piece} {r : Reference}
    (h : c.reference? = some r) :
    r.target = .hostAddress ∨ (∃ path, r.target = .inventory path) ∨
      ∃ path, r.target = .config path := by
  cases c with
  | char c => cases h
  | token inner =>
      obtain ⟨t, ht, rfl⟩ := Option.map_eq_some_iff.mp h
      unfold Reference.embeddedTarget? at ht
      split at ht
      · exact .inl (Option.some.inj ht).symm
      · unfold Reference.pathTarget? at ht
        split at ht
        · split at ht
          · cases ht
          · exact .inr (.inl ⟨_, (Option.some.inj ht).symm⟩)
        · split at ht
          · split at ht
            · cases ht
            · exact .inr (.inr ⟨_, (Option.some.inj ht).symm⟩)
          · cases ht

omit [Monad m] [MonadExceptOf Failure m] in
theorem thorough_of_inLongerTexts
    {p : Pass m}
    (h : p.inLongerTexts = true) :
    p.Thorough :=
  fun hnot => by simp [h] at hnot

omit [Monad m] [MonadExceptOf Failure m] in
theorem thorough_of_serves
    {p : Pass m}
    (h : ∀ t, t = .hostAddress ∨ (∃ path, t = .inventory path) ∨ (∃ path, t = .config path) →
      p.serves t = false) :
    p.Thorough :=
  fun _ _ _ hr => h _ (embedded_target hr)

/-- A longer text with a token of the document in braces. -/
def sampleText : String := " \x7bconfig:a\x7d"

/-- A document with a value, and with a longer text that asks for it. -/
def sampleDocument (asked : Value) : Value :=
  .map [(.str "a", asked), (.str "b", .str sampleText)]

end Pass
end Homelab
