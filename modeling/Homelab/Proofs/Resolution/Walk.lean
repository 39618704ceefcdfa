import Homelab.Proofs.Outcome
import Homelab.Proofs.Resolution.Rewritten
import Homelab.Resolution

/-!
# The walk of a pass

A pass meets the tokens of a document in the order of writing.  What a walk does is said in two
steps: the places are visited one after another, which asks for values and remembers them, and
then each text is rewritten by what is known at the end.  That the second step can wait until
the end is what the memory is for: an answer that is known is never changed.
-/

namespace Homelab

/-- What the computations of a monad come to: from a state, a value and the next state, or
what a failure leaves. -/
structure Meaning (m : Type → Type) [Monad m] [MonadExceptOf Failure m] (σ ε : Type) where
  ending : {α : Type} → m α → σ → Except ε (α × σ)
  raised : Failure → σ → ε
  ending_pure : ∀ {α : Type} (a : α) (s : σ), ending (pure a) s = .ok (a, s)
  ending_bind : ∀ {α β : Type} (x : m α) (f : α → m β) (s : σ),
    ending (x >>= f) s = (ending x s).bind fun r => ending (f r.1) r.2
  ending_map : ∀ {α β : Type} (f : α → β) (x : m α) (s : σ),
    ending (f <$> x) s = (ending x s).map fun r => (f r.1, r.2)
  ending_throw : ∀ {α : Type} (e : Failure) (s : σ),
    ending (throwThe Failure e : m α) s = .error (raised e s)

namespace Meaning

variable {m : Type → Type} [Monad m] [MonadExceptOf Failure m] {σ ε τ : Type}

attribute [simp] ending_pure ending_bind ending_map ending_throw

/-- A computation on a state that may fail. -/
def plain : Meaning (ExceptT Failure (StateM σ)) σ (Failure × σ) where
  ending x s :=
    match outcome x s with
    | (.ok a, next) => .ok (a, next)
    | (.error e, next) => .error (e, next)
  raised e s := (e, s)
  ending_pure _ _ := rfl
  ending_bind x f s := by
    rw [outcome_bind]
    rcases outcome x s with ⟨_ | a, next⟩ <;> rfl
  ending_map f x s := by
    rw [outcome_map]
    rcases outcome x s with ⟨_ | a, next⟩ <;> rfl
  ending_throw _ _ := rfl

/-- A computation with a state of its own beside that of the others. -/
def withState (M : Meaning m σ ε) : Meaning (StateT τ m) (τ × σ) ε where
  ending x st := (M.ending (x st.1) st.2).map fun r => (r.1.1, (r.1.2, r.2))
  raised e st := M.raised e st.2
  ending_pure a st := by
    have hpure : (pure a : StateT τ m _) st.1 = pure (a, st.1) := rfl
    rw [hpure, M.ending_pure]
    rfl
  ending_bind x f st := by
    have hbind : (x >>= f) st.1 = x st.1 >>= fun r => f r.1 r.2 := rfl
    rw [hbind, M.ending_bind]
    cases M.ending (x st.1) st.2 <;> rfl
  ending_map f x st := by
    have hmap : (f <$> x) st.1 = x st.1 >>= fun r => pure (f r.1, r.2) := rfl
    rw [hmap, M.ending_bind]
    cases M.ending (x st.1) st.2 with
    | error _ => rfl
    | ok r => simp [Except.bind, Except.map]
  ending_throw {α} e st := by
    have hthrow : (throwThe Failure e : StateT τ m α) st.1 =
        (throwThe Failure e : m α) >>= fun a => pure (a, st.1) := rfl
    rw [hthrow, M.ending_bind, M.ending_throw]
    rfl

section

variable (M : Meaning m σ ε) (st : τ × σ)

@[simp] theorem withState_get :
    M.withState.ending (get : StateT τ m τ) st = .ok (st.1, st) := by
  have hget : (get : StateT τ m τ) st.1 = pure (st.1, st.1) := rfl
  simp [withState, hget, Except.map]

@[simp] theorem withState_modify
    (f : τ → τ) :
    M.withState.ending (modify f : StateT τ m PUnit) st = .ok (⟨⟩, (f st.1, st.2)) := by
  have hmodify : (modify f : StateT τ m PUnit) st.1 = pure (⟨⟩, f st.1) := rfl
  simp [withState, hmodify, Except.map]

@[simp] theorem withState_set
    (t : τ) :
    M.withState.ending (StateT.set t : StateT τ m PUnit) st = .ok (⟨⟩, (t, st.2)) := by
  have hset : (StateT.set t : StateT τ m PUnit) st.1 = pure (⟨⟩, t) := rfl
  simp [withState, hset, Except.map]

@[simp] theorem withState_lift
    {α : Type} (x : m α) :
    M.withState.ending (liftM x : StateT τ m α) st =
      (M.ending x st.2).map fun r => (r.1, (st.1, r.2)) := by
  have hlift : (liftM x : StateT τ m α) st.1 = x >>= fun a => pure (a, st.1) := rfl
  have hend : M.withState.ending (liftM x : StateT τ m α) st =
      (M.ending ((liftM x : StateT τ m α) st.1) st.2).map fun r => (r.1.1, (r.1.2, r.2)) := rfl
  rw [hend, hlift, M.ending_bind]
  cases M.ending x st.2 with
  | error _ => rfl
  | ok r => simp [Except.bind, Except.map]

theorem ending_run'
    {α : Type} (x : StateT τ m α) (t : τ) (s : σ) :
    M.ending (x.run' t) s = (M.withState.ending x (t, s)).map fun r => (r.1, r.2.2) := by
  have hrun : x.run' t = (·.1) <$> x t := rfl
  have hend : M.withState.ending x (t, s) =
      (M.ending (x t) s).map fun r => (r.1.1, (r.1.2, r.2)) := rfl
  rw [hrun, hend, M.ending_map]
  cases M.ending (x t) s <;> rfl

end

end Meaning

/-! ### Asking for tokens -/

/-- The values that are known so far. -/
def Memo.table (memo : Memo) : TokenTable :=
  fun text => (List.lookup text memo).join

namespace Pass

/-- A token where it stands: as a whole text, or inside a longer one. -/
structure Place where
  token : Reference
  inLonger : Bool
deriving DecidableEq

/-- The value of the token of a place that has to have a text and has none. -/
def Place.formless? (place : Place) (memo : Memo) : Option Value :=
  if place.inLonger then
    (Memo.table memo place.token.text).filter fun v => v.inlineText?.isNone
  else none

/-- The tokens of a text, where they stand. -/
def Place.findAll (s : String) : List Place :=
  match Reference.parse? s with
  | some r => [⟨r, false⟩]
  | none => (Reference.embeddedIn s).map (⟨·, true⟩)

theorem Place.token_findAll
    (s : String) :
    (findAll s).map token = Reference.findAll s := by
  cases hs : Reference.parse? s with
  | some r => simp [findAll, Reference.findAll, hs]
  | none => simp [findAll, Reference.findAll, hs, Function.comp_def]

variable {m : Type → Type} [Monad m] [MonadExceptOf Failure m] {σ ε : Type}
  (p : Pass m) (M : Meaning m σ ε)

/-- The tokens of a text that a pass serves, where they stand. -/
def placesIn (s : String) : List Place :=
  (Place.findAll s).filter fun place => p.serves place.token.target

/-- A token is looked up, and the answer is kept. -/
def askNew (st : Memo × σ) (r : Reference) : Except ε (Memo × σ) :=
  (M.ending (p.lookup r) st.2).map fun found => ((r.text, found.1) :: st.1, found.2)

/-- Tokens are looked up one after another, until a lookup fails. -/
def askEach (st : Memo × σ) (rs : List Reference) : Except ε (Memo × σ) :=
  rs.foldlM (p.askNew M) st

/-- A token is looked up unless its answer is known. -/
def askOnce (st : Memo × σ) (r : Reference) : Except ε (Memo × σ) :=
  if (List.lookup r.text st.1).isSome then .ok st else p.askNew M st r

/-- What the token of a place comes to. -/
def visit (st : Memo × σ) (place : Place) : Except ε (Memo × σ) :=
  (p.askOnce M st place.token).bind fun st =>
    match place.formless? st.1 with
    | some v => .error (M.raised (.unwritten v) st.2)
    | none => .ok st

/-- What the tokens of some places come to, one after another. -/
def visitAll (st : Memo × σ) (places : List Place) : Except ε (Memo × σ) :=
  places.foldlM (p.visit M) st

variable {p M} {st st' st'' : Memo × σ}

@[simp] theorem visitAll_nil :
    p.visitAll M st [] = .ok st := rfl

theorem visitAll_append
    (places more : List Place) :
    p.visitAll M st (places ++ more) =
      (p.visitAll M st places).bind fun st => p.visitAll M st more := by
  rw [visitAll, List.foldlM_append]
  rfl

theorem visitAll_singleton
    (place : Place) :
    p.visitAll M st [place] = p.visit M st place := by
  rw [visitAll, List.foldlM_cons]
  cases p.visit M st place <;> rfl

/-- What is known stays known. -/
def Extends (st st' : Memo × σ) : Prop :=
  ∀ text found, List.lookup text st.1 = some found → List.lookup text st'.1 = some found

theorem askOnce_spec
    {r : Reference}
    (h : p.askOnce M st r = .ok st') :
    Extends st st' ∧ (List.lookup r.text st'.1).isSome := by
  unfold askOnce at h
  split at h
  · rename_i hknown
    obtain rfl := Except.ok.inj h
    exact ⟨fun _ _ hfound => hfound, hknown⟩
  · rename_i hnew
    unfold askNew at h
    cases hlookup : M.ending (p.lookup r) st.2 with
    | error e =>
        rw [hlookup] at h
        cases h
    | ok found =>
        rw [hlookup] at h
        obtain rfl := Except.ok.inj h
        refine ⟨fun text answer hanswer => ?_, by simp⟩
        have hne : (text == r.text) = false := by
          rw [beq_eq_false_iff_ne]
          rintro rfl
          simp [hanswer] at hnew
        simpa [List.lookup_cons, hne] using hanswer

theorem visit_spec
    {place : Place}
    (h : p.visit M st place = .ok st') :
    Extends st st' ∧ (List.lookup place.token.text st'.1).isSome := by
  unfold visit at h
  cases hask : p.askOnce M st place.token with
  | error e =>
      rw [hask] at h
      cases h
  | ok known =>
      simp only [hask, Except.bind] at h
      split at h
      · cases h
      · obtain rfl := Except.ok.inj h
        exact askOnce_spec hask

theorem visitAll_spec
    {places : List Place} :
    ∀ {st : Memo × σ}, p.visitAll M st places = .ok st' →
      Extends st st' ∧ ∀ place ∈ places, (List.lookup place.token.text st'.1).isSome := by
  induction places with
  | nil =>
      intro st h
      obtain rfl := Except.ok.inj h
      exact ⟨fun _ _ hfound => hfound, by simp⟩
  | cons place rest ih =>
      intro st h
      rw [← List.singleton_append, visitAll_append, visitAll_singleton] at h
      cases hvisit : p.visit M st place with
      | error e =>
          rw [hvisit] at h
          cases h
      | ok next =>
          rw [hvisit] at h
          obtain ⟨hextends, hknown⟩ := visit_spec hvisit
          obtain ⟨hmore, hrest⟩ := ih h
          refine ⟨fun text found hfound => hmore _ _ (hextends _ _ hfound), fun q hq => ?_⟩
          rcases List.mem_cons.mp hq with rfl | hq
          · obtain ⟨found, hfound⟩ := Option.isSome_iff_exists.mp hknown
            exact Option.isSome_iff_exists.mpr ⟨found, hmore _ _ hfound⟩
          · exact hrest q hq

/-- The value of a token is not changed by what comes later. -/
theorem table_eq_of_visited
    {places more : List Place} {place : Place}
    (hplaces : p.visitAll M st places = .ok st')
    (hmore : p.visitAll M st' more = .ok st'')
    (hmem : place ∈ places) :
    Memo.table st'.1 place.token.text = Memo.table st''.1 place.token.text := by
  obtain ⟨found, hfound⟩ := Option.isSome_iff_exists.mp ((visitAll_spec hplaces).2 place hmem)
  rw [Memo.table, Memo.table, hfound, (visitAll_spec hmore).1 _ _ hfound]

/-! ### A walk -/

theorem ending_ask
    (r : Reference) :
    M.withState.ending (p.ask r) st =
      (p.askOnce M st r).map fun st => (Memo.table st.1 r.text, st) := by
  simp only [ask, Meaning.ending_bind, Meaning.withState_get, Except.bind]
  cases hlookup : List.lookup r.text st.1 with
  | some found => simp [askOnce, hlookup, Except.map, Memo.table]
  | none =>
      simp only [askOnce, hlookup, askNew, Meaning.ending_bind, Meaning.withState_lift]
      cases M.ending (p.lookup r) st.2 with
      | error e => rfl
      | ok found => simp [Except.map, Except.bind, Memo.table]

theorem ending_inline
    (v : Value) :
    M.withState.ending (inline v : StateT Memo m (List Char)) st =
      match v.inlineText? with
      | some s => .ok (s.toList, st)
      | none => .error (M.raised (.unwritten v) st.2) := by
  unfold inline
  cases v.inlineText? with
  | some s => simp
  | none => exact M.withState.ending_throw _ _

/-- The places of a piece of a longer text. -/
def piecePlaces (p : Pass m) (c : Reference.Piece) : List Place :=
  (c.reference?.toList.map (⟨·, true⟩)).filter fun place => p.serves place.token.target

theorem ending_piece
    (c : Reference.Piece) :
    M.withState.ending (p.piece c) st =
      (p.visitAll M st (p.piecePlaces c)).map fun st =>
        ((Memo.table st.1).piece p.serves c, st) := by
  cases hc : c.reference? with
  | none => simp [piece, piecePlaces, hc, Except.map, TokenTable.piece]
  | some r =>
      cases hserves : p.serves r.target with
      | false => simp [piece, piecePlaces, hc, hserves, Except.map, TokenTable.piece]
      | true =>
          have hplaces : p.piecePlaces c = [⟨r, true⟩] := by simp [piecePlaces, hc, hserves]
          simp only [piece, hc, hserves, if_true, Meaning.ending_bind, ending_ask, hplaces,
            visitAll_singleton, visit, TokenTable.piece]
          cases p.askOnce M st r with
          | error e => rfl
          | ok next =>
              simp only [Except.map, Except.bind, Place.formless?, if_true]
              cases hvalue : Memo.table next.1 r.text with
              | none => simp [hvalue]
              | some v =>
                  simp only [ending_inline]
                  cases htext : v.inlineText? <;> simp [hvalue, htext, Option.filter]

theorem ending_spliced
    (cs : List Reference.Piece) :
    ∀ st, M.withState.ending (p.spliced cs) st =
      (p.visitAll M st (cs.flatMap p.piecePlaces)).map fun st =>
        (cs.flatMap ((Memo.table st.1).piece p.serves), st) := by
  induction cs with
  | nil => simp [spliced, Except.map]
  | cons c rest ih =>
      intro st
      rw [List.flatMap_cons, visitAll_append, spliced, Meaning.ending_bind, ending_piece]
      cases hfirst : p.visitAll M st (p.piecePlaces c) with
      | error e => rfl
      | ok next =>
          simp only [Except.map, Except.bind, Meaning.ending_bind, ih]
          cases hmore : p.visitAll M next (rest.flatMap p.piecePlaces) with
          | error e => rfl
          | ok last =>
              have hsame : (Memo.table next.1).piece p.serves c =
                  (Memo.table last.1).piece p.serves c := by
                refine TokenTable.piece_congr fun r hr hserves => ?_
                have hplace : (⟨r, true⟩ : Place) ∈ p.piecePlaces c := by
                  simp [piecePlaces, hr, hserves]
                exact table_eq_of_visited hfirst hmore hplace
              simp [hsame]

/-- Inside longer texts a pass finds none of its tokens, or it puts values there. -/
def Thorough (p : Pass m) : Prop :=
  p.inLongerTexts = false →
    ∀ c r, Reference.Piece.reference? c = some r → p.serves r.target = false

theorem ending_onText
    (hp : p.Thorough) (s : String) :
    M.withState.ending (p.onText s) st =
      (p.visitAll M st (p.placesIn s)).map fun st =>
        ((Memo.table st.1).text p.serves true s, st) := by
  cases hs : Reference.parse? s with
  | some r =>
      cases hserves : p.serves r.target with
      | false =>
          simp [onText, placesIn, Place.findAll, TokenTable.text, hs, hserves, Except.map]
      | true =>
          have hplaces : p.placesIn s = [⟨r, false⟩] := by
            simp [placesIn, Place.findAll, hs, hserves]
          simp only [onText, hs, hserves, if_true, Meaning.ending_bind, ending_ask, hplaces,
            visitAll_singleton, visit, TokenTable.text]
          cases p.askOnce M st r with
          | error e => rfl
          | ok next =>
              simp only [Except.map, Except.bind, Place.formless?]
              cases hvalue : Memo.table next.1 r.text <;> simp [hvalue]
  | none =>
      have hplaces : p.placesIn s = (Reference.pieces s.toList).flatMap p.piecePlaces := by
        simp only [placesIn, Place.findAll, hs, Reference.embeddedIn]
        induction Reference.pieces s.toList with
        | nil => rfl
        | cons c rest ih =>
            rw [List.flatMap_cons, ← ih, piecePlaces, ← List.filter_append, ← List.map_append]
            cases hc : c.reference? <;> simp [hc]
      cases hlonger : p.inLongerTexts with
      | true =>
          simp only [onText, hs, hlonger, if_true, Meaning.ending_bind, ending_spliced, hplaces,
            TokenTable.text]
          cases p.visitAll M st _ <;> simp [Except.map, Except.bind]
      | false =>
          have hnone : ∀ c ∈ Reference.pieces s.toList, p.piecePlaces c = [] := by
            intro c _
            cases hc : c.reference? with
            | none => simp [piecePlaces, hc]
            | some r => simp [piecePlaces, hc, hp hlonger c r hc]
          have hkeep : (Memo.table st.1).text p.serves true s = .str s := by
            refine TokenTable.text_eq_self fun r hr => ?_
            simp only [Reference.findAll, hs] at hr
            obtain ⟨c, -, hc⟩ := Reference.mem_embeddedIn.mp hr
            exact hp hlonger c r hc
          have hempty : p.placesIn s = [] := by
            rw [hplaces, List.flatMap_eq_nil_iff]
            exact hnone
          simp [onText, hs, hlonger, hempty, Except.map, hkeep]

/-- The tokens of a document that a pass serves, where they stand. -/
def places (p : Pass m) (v : Value) : List Place :=
  v.texts.flatMap p.placesIn

omit [Monad m] [MonadExceptOf Failure m] in
theorem token_places
    (v : Value) :
    (p.places v).map Place.token = v.references.filter fun r => p.serves r.target := by
  rw [places, Value.references_eq, List.map_flatMap, List.filter_flatMap]
  congr 1
  funext s
  rw [placesIn, ← Place.token_findAll, List.filter_map]
  rfl

/-- A text has the same rewriting by what is known later. -/
theorem text_eq_of_visited
    {texts : List String} {more : List Place} {s : String}
    (htexts : p.visitAll M st (texts.flatMap p.placesIn) = .ok st')
    (hmore : p.visitAll M st' more = .ok st'')
    (hs : s ∈ texts) :
    (Memo.table st'.1).text p.serves true s = (Memo.table st''.1).text p.serves true s := by
  refine TokenTable.text_congr fun r hr hserves => ?_
  rw [← Place.token_findAll, List.mem_map] at hr
  obtain ⟨place, hplace, rfl⟩ := hr
  exact table_eq_of_visited htexts hmore
    (List.mem_flatMap.mpr ⟨s, hs, List.mem_filter.mpr ⟨hplace, hserves⟩⟩)

mutual

/-- A walk visits the places of a document in the order of writing, and rewrites the document
by what is known at the end. -/
theorem ending_mapTextsM
    (hp : p.Thorough) :
    ∀ (v : Value) (st : Memo × σ), M.withState.ending (v.mapTextsM p.onText) st =
      (p.visitAll M st (v.texts.flatMap p.placesIn)).map fun st =>
        (TokenTable.rewrite ((Memo.table st.1).text p.serves true) v, st)
  | .scalar (.str s), st => by
      simp only [Value.mapTextsM, ending_onText hp, Value.texts, List.flatMap_singleton,
        TokenTable.rewrite]
  | .scalar .null, _ | .scalar (.bool _), _ | .scalar (.int _), _ | .scalar (.float _), _
  | .scalar (.bytes _), _ | .scalar (.date _), _ | .scalar (.moment _), _ | .set _, _ => by
      simp [Value.mapTextsM, Value.texts, TokenTable.rewrite, Except.map]
  | .list items, st => by
      simp only [Value.mapTextsM, Meaning.ending_bind, ending_mapItemsM hp items, Value.texts,
        TokenTable.rewrite]
      cases p.visitAll M st _ <;> simp [Except.map, Except.bind]
  | .map entries, st => by
      simp only [Value.mapTextsM, Meaning.ending_bind, ending_mapEntriesM hp entries, Value.texts,
        TokenTable.rewrite]
      cases p.visitAll M st _ <;> simp [Except.map, Except.bind]

theorem ending_mapItemsM
    (hp : p.Thorough) :
    ∀ (items : List Value) (st : Memo × σ),
      M.withState.ending (Value.mapItemsM p.onText items) st =
        (p.visitAll M st ((Value.itemTexts items).flatMap p.placesIn)).map fun st =>
          (TokenTable.rewriteItems ((Memo.table st.1).text p.serves true) items, st)
  | [], _ => by simp [Value.mapItemsM, Value.itemTexts, TokenTable.rewriteItems, Except.map]
  | v :: rest, st => by
      rw [Value.mapItemsM, Value.itemTexts, List.flatMap_append, visitAll_append,
        Meaning.ending_bind, ending_mapTextsM hp v]
      cases hfirst : p.visitAll M st (v.texts.flatMap p.placesIn) with
      | error e => rfl
      | ok next =>
          simp only [Except.map, Except.bind, Meaning.ending_bind, ending_mapItemsM hp rest]
          cases hmore : p.visitAll M next ((Value.itemTexts rest).flatMap p.placesIn) with
          | error e => rfl
          | ok last =>
              simp [TokenTable.rewriteItems,
                TokenTable.rewrite_congr fun s hs => text_eq_of_visited hfirst hmore hs]

theorem ending_mapEntriesM
    (hp : p.Thorough) :
    ∀ (entries : List (Scalar × Value)) (st : Memo × σ),
      M.withState.ending (Value.mapEntriesM p.onText entries) st =
        (p.visitAll M st ((Value.entryTexts entries).flatMap p.placesIn)).map fun st =>
          (TokenTable.rewriteEntries ((Memo.table st.1).text p.serves true) entries, st)
  | [], _ => by simp [Value.mapEntriesM, Value.entryTexts, TokenTable.rewriteEntries, Except.map]
  | (k, v) :: rest, st => by
      rw [Value.mapEntriesM, Value.entryTexts, List.flatMap_append, visitAll_append,
        Meaning.ending_bind, ending_mapTextsM hp v]
      cases hfirst : p.visitAll M st (v.texts.flatMap p.placesIn) with
      | error e => rfl
      | ok next =>
          simp only [Except.map, Except.bind, Meaning.ending_bind, ending_mapEntriesM hp rest]
          cases hmore : p.visitAll M next ((Value.entryTexts rest).flatMap p.placesIn) with
          | error e => rfl
          | ok last =>
              simp [TokenTable.rewriteEntries,
                TokenTable.rewrite_congr fun s hs => text_eq_of_visited hfirst hmore hs]

end

end Pass
end Homelab
