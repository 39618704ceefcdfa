import Homelab.Proofs.Resolution.Passes

/-!
# Passes that only look up

The passes of the vault, of the inventory and of the document itself need nothing but a token to
find its value.  They leave every state alone, and what becomes of a document is what becomes of
its texts, each on its own.  So such a pass, or several of them, leave a document alone exactly if
they leave each of its texts alone.
-/

namespace Homelab

/-! ### Computations without a state -/

namespace Meaning

variable {m : Type → Type} [Monad m] [MonadExceptOf Failure m] {σ ε α β : Type}

/-- What a computation without a state comes to beside a state, which it leaves alone. -/
def still (M : Meaning m σ ε) (x : Except Failure α) (s : σ) : Except ε (α × σ) :=
  match x with
  | .ok a => .ok (a, s)
  | .error e => .error (M.raised e s)

/-- A computation without a state. -/
def stateless : Meaning (Except Failure) Unit Failure where
  ending x _ := x.map fun a => (a, ())
  raised e _ := e
  ending_pure _ _ := rfl
  ending_bind x _ _ := by cases x <;> rfl
  ending_map _ x _ := by cases x <;> rfl
  ending_throw _ _ := rfl

variable {M : Meaning m σ ε} {x y : Except Failure α} {s s' : σ} {a : α}

theorem still_eq_ok_iff :
    M.still x s = .ok (a, s') ↔ x = .ok a ∧ s' = s := by
  cases x <;> simp [still, eq_comm]

theorem still_bind
    (f : α → Except Failure β) :
    M.still (x >>= f) s = (M.still x s).bind fun r => M.still (f r.1) r.2 := by
  cases x <;> rfl

theorem bind_ne_error
    {f : α → Except Failure β} {e : Failure}
    (hx : x ≠ .error e)
    (hf : ∀ a, f a ≠ .error e) :
    (x >>= f) ≠ .error e := by
  cases x with
  | error e' => exact fun h => hx (congrArg Except.error (Except.error.inj h))
  | ok a => exact hf a

theorem eq_of_stateless
    (h : stateless.ending x () = stateless.still y ()) :
    x = y := by
  cases x <;> cases y
  · exact congrArg Except.error (Except.error.inj h)
  · cases h
  · cases h
  · rw [(Prod.mk.inj (Except.ok.inj h)).1]

end Meaning

/-! ### Lookups that need the token only -/

/-- The values that are found for tokens, by the texts of the tokens. -/
def TokenTable.found (find : Reference → Option Value) : TokenTable :=
  fun text => (Reference.parse? text).bind find

namespace Pass

section

variable {m : Type → Type} [Monad m] [MonadExceptOf Failure m] {σ ε : Type}
  {p : Pass m} {M : Meaning m σ ε} {find : Reference → Option Value}

/-- The lookups of a pass need nothing but the token. -/
def FindsBy (p : Pass m) (find : Reference → Option Value) : Prop :=
  ∀ r, p.lookup r = pure (find r)

/-- As long as the state is of some sort, which it stays, the lookups of a pass need nothing but
the token. -/
def FindsWhile (p : Pass m) (M : Meaning m σ ε) (I : σ → Prop) (find : Reference → Option Value) :
    Prop :=
  ∀ r s, I s → ∃ s', I s' ∧ M.ending (p.lookup r) s = .ok (find r, s')

/-- The value of the token of a place that has to have a text and has none, by a table. -/
def Place.formlessBy? (table : TokenTable) (place : Place) : Option Value :=
  if place.inLonger then (table place.token.text).filter fun v => v.inlineText?.isNone else none

/-- All that is known is what the table says. -/
def Agrees (memo : Memo) (table : TokenTable) : Prop :=
  ∀ text found, List.lookup text memo = some found → found = table text

variable {I : σ → Prop} {s : σ}

theorem FindsBy.findsWhile
    (hf : p.FindsBy find)
    (s : σ) :
    p.FindsWhile M (· = s) find := by
  rintro r s rfl
  exact ⟨s, rfl, by rw [hf r, Meaning.ending_pure]⟩

theorem table_of_agrees
    {memo : Memo} {table : TokenTable} {text : String}
    (h : Agrees memo table)
    (hknown : (List.lookup text memo).isSome) :
    Memo.table memo text = table text := by
  obtain ⟨found, hfound⟩ := Option.isSome_iff_exists.mp hknown
  rw [Memo.table, hfound, Option.join_some, h text found hfound]

theorem askOnce_findsWhile
    (hf : p.FindsWhile M I find)
    {r : Reference} {memo : Memo}
    (hread : Reference.parse? r.text = some r)
    (hmemo : Agrees memo (.found find))
    (hs : I s) :
    ∃ memo' s', Agrees memo' (.found find) ∧ I s' ∧ p.askOnce M (memo, s) r = .ok (memo', s') := by
  by_cases hknown : (List.lookup r.text memo).isSome
  · exact ⟨memo, s, hmemo, hs, by rw [askOnce, if_pos hknown]⟩
  · obtain ⟨s', hs', hlookup⟩ := hf r s hs
    refine ⟨(r.text, find r) :: memo, s', fun text found h => ?_, hs', ?_⟩
    · rw [List.lookup_cons] at h
      by_cases htext : text = r.text
      · subst htext
        rw [beq_self_eq_true] at h
        rw [TokenTable.found, hread]
        exact (Option.some.inj h).symm
      · rw [beq_eq_false_iff_ne.mpr htext] at h
        exact hmemo text found h
    · rw [askOnce, if_neg hknown, askNew, hlookup]
      rfl

theorem visit_findsWhile
    (hf : p.FindsWhile M I find)
    {place : Place} {memo : Memo}
    (hread : Reference.parse? place.token.text = some place.token)
    (hmemo : Agrees memo (.found find))
    (hs : I s) :
    ∃ memo' s', Agrees memo' (.found find) ∧ I s' ∧ p.visit M (memo, s) place =
      match place.formlessBy? (.found find) with
      | some v => .error (M.raised (.unwritten v) s')
      | none => .ok (memo', s') := by
  obtain ⟨memo', s', hmemo', hs', hask⟩ := askOnce_findsWhile hf hread hmemo hs
  have hformless : place.formless? memo' = place.formlessBy? (.found find) := by
    rw [Place.formless?, table_of_agrees hmemo' (askOnce_spec hask).2, Place.formlessBy?]
  refine ⟨memo', s', hmemo', hs', ?_⟩
  cases hvalue : place.formlessBy? (.found find) <;>
    simp only [visit, hask, Except.bind, hformless, hvalue]

theorem visitAll_findsWhile
    (hf : p.FindsWhile M I find) :
    ∀ {places : List Place} {memo : Memo} {s : σ},
      (∀ place ∈ places, Reference.parse? place.token.text = some place.token) →
      Agrees memo (.found find) → I s →
      ∃ memo' s', Agrees memo' (.found find) ∧ I s' ∧ p.visitAll M (memo, s) places =
        match places.findSome? (Place.formlessBy? (.found find)) with
        | some v => .error (M.raised (.unwritten v) s')
        | none => .ok (memo', s')
  | [], memo, s, _, hmemo, hs => ⟨memo, s, hmemo, hs, rfl⟩
  | place :: rest, memo, s, hread, hmemo, hs => by
      obtain ⟨next, mid, hnext, hmid, hvisit⟩ :=
        visit_findsWhile hf (hread place (by simp)) hmemo hs
      rw [← List.singleton_append, visitAll_append, visitAll_singleton, hvisit,
        List.singleton_append, List.findSome?_cons]
      cases place.formlessBy? (.found find) with
      | some v => exact ⟨next, mid, hnext, hmid, rfl⟩
      | none =>
          exact visitAll_findsWhile hf (fun q hq => hread q (List.mem_cons_of_mem _ hq)) hnext hmid

/-- What such a pass comes to: the document is rewritten by what is found for its tokens, unless a
value without a text is found for a token inside of a longer text. -/
theorem ending_run_findsWhile
    (hp : p.Thorough)
    (hf : p.FindsWhile M I find)
    (hs : I s)
    (v : Value) :
    ∃ s', I s' ∧ M.ending (p.run v) s =
      match (p.places v).findSome? (Place.formlessBy? (.found find)) with
      | some w => .error (M.raised (.unwritten w) s')
      | none => .ok (TokenTable.rewrite ((TokenTable.found find).text p.serves true) v, s') := by
  have hread : ∀ place ∈ p.places v, Reference.parse? place.token.text = some place.token :=
    fun place hplace => parse?_of_mem_places hplace
  have hempty : Agrees [] (.found find) := fun text found h => by cases h
  obtain ⟨memo, s', hmemo, hs', hvisited⟩ := visitAll_findsWhile hf hread hempty hs
  refine ⟨s', hs', ?_⟩
  rw [ending_run hp, hvisited]
  cases hformless : (p.places v).findSome? (Place.formlessBy? (.found find)) with
  | some w => rfl
  | none =>
      rw [hformless] at hvisited
      have hsame : TokenTable.rewrite ((Memo.table memo).text p.serves true) v =
          TokenTable.rewrite ((TokenTable.found find).text p.serves true) v := by
        refine TokenTable.rewrite_congr fun text htext =>
          TokenTable.text_congr fun r hr hserves => ?_
        rw [← Place.token_findAll, List.mem_map] at hr
        obtain ⟨place, hplace, rfl⟩ := hr
        exact table_of_agrees hmemo ((visitAll_spec hvisited).2 place
          (List.mem_flatMap.mpr ⟨text, htext, List.mem_filter.mpr ⟨hplace, hserves⟩⟩))
      simp only [Except.map, hsame]

theorem ending_run_findsBy
    (hp : p.Thorough)
    (hf : p.FindsBy find)
    (v : Value) (s : σ) :
    M.ending (p.run v) s =
      match (p.places v).findSome? (Place.formlessBy? (.found find)) with
      | some w => .error (M.raised (.unwritten w) s)
      | none => .ok (TokenTable.rewrite ((TokenTable.found find).text p.serves true) v, s) := by
  obtain ⟨s', rfl, hrun⟩ := ending_run_findsWhile hp (hf.findsWhile (M := M) s) rfl v
  exact hrun

end

/-- The same pass without a state. -/
theorem run_findsBy
    {p : Pass (Except Failure)} {find : Reference → Option Value}
    (hp : p.Thorough)
    (hf : p.FindsBy find)
    (v : Value) :
    p.run v =
      match (p.places v).findSome? (Place.formlessBy? (.found find)) with
      | some w => .error (.unwritten w)
      | none => .ok (TokenTable.rewrite ((TokenTable.found find).text p.serves true) v) := by
  refine Meaning.eq_of_stateless ?_
  rw [ending_run_findsBy hp hf]
  cases (p.places v).findSome? (Place.formlessBy? (.found find)) <;> rfl

theorem ending_run_eq_still
    {m : Type → Type} [Monad m] [MonadExceptOf Failure m] {σ ε : Type} {M : Meaning m σ ε}
    {p : Pass m} {q : Pass (Except Failure)} {find : Reference → Option Value}
    (hserves : p.serves = q.serves)
    (hp : p.Thorough)
    (hq : q.Thorough)
    (hf : p.FindsBy find)
    (hg : q.FindsBy find)
    (v : Value) (s : σ) :
    M.ending (p.run v) s = M.still (q.run v) s := by
  have hplaces : p.places v = q.places v := by
    unfold places placesIn
    rw [hserves]
  rw [ending_run_findsBy hp hf, run_findsBy hq hg, hplaces, hserves]
  cases (q.places v).findSome? (Place.formlessBy? (.found find)) <;> rfl

end Pass

/-! ### One text after another -/

namespace Value

/-- What becomes of a document is what becomes of its texts, each on its own. -/
def Textwise (f : Value → Except Failure Value) : Prop :=
  ∀ v w, f v = .ok w ↔
    ∃ x : String → Value, (∀ s ∈ v.texts, f (.str s) = .ok (x s)) ∧ w = TokenTable.rewrite x v

namespace Textwise

variable {f g : Value → Except Failure Value} {v w : Value}

theorem pure : Textwise Pure.pure := by
  intro v w
  constructor
  · intro h
    exact ⟨.str, fun s _ => rfl, by rw [TokenTable.rewrite_str, Except.ok.inj h]⟩
  · rintro ⟨x, hx, rfl⟩
    rw [TokenTable.rewrite_eq_self_iff.mpr fun s hs => (Except.ok.inj (hx s hs)).symm]
    rfl

/-- A document is left alone exactly if each of its texts is. -/
theorem eq_self_iff
    (hf : Textwise f) :
    f v = .ok v ↔ ∀ s ∈ v.texts, f (.str s) = .ok (.str s) := by
  rw [hf]
  constructor
  · rintro ⟨x, hx, hv⟩ s hs
    rw [hx s hs, TokenTable.rewrite_eq_self_iff.mp hv.symm s hs]
  · intro h
    exact ⟨.str, h, (TokenTable.rewrite_str v).symm⟩

/-- One step on each text, and then the next on what has become of it. -/
theorem bind
    (hf : Textwise f)
    (hg : Textwise g) :
    Textwise fun v => f v >>= g := by
  intro v w
  simp only [bind_eq_ok]
  constructor
  · rintro ⟨u, hu, hw⟩
    obtain ⟨x, hx, rfl⟩ := (hf v u).mp hu
    obtain ⟨y, hy, rfl⟩ := (hg _ w).mp hw
    refine ⟨fun s => TokenTable.rewrite y (x s), fun s hs => ⟨x s, hx s hs, ?_⟩,
      TokenTable.rewrite_rewrite v⟩
    refine (hg _ _).mpr ⟨y, fun t ht => hy t ?_, rfl⟩
    rw [TokenTable.texts_rewrite]
    exact List.mem_flatMap.mpr ⟨s, hs, ht⟩
  · rintro ⟨z, hz, rfl⟩
    choose! x hx using hz
    have hy : ∀ s ∈ v.texts, ∃ y : String → Value,
        (∀ t ∈ (x s).texts, g (.str t) = .ok (y t)) ∧ z s = TokenTable.rewrite y (x s) :=
      fun s hs => (hg _ _).mp (hx s hs).2
    -- The texts that come of all texts have one table, which says what becomes of each of them.
    let y : String → Value := fun t => (g (.str t)).toOption.getD (.str t)
    have hsame : ∀ s ∈ v.texts, (∀ t ∈ (x s).texts, g (.str t) = .ok (y t)) ∧
        z s = TokenTable.rewrite y (x s) := by
      intro s hs
      obtain ⟨ys, hys, hzs⟩ := hy s hs
      have heq : ∀ t ∈ (x s).texts, ys t = y t := by
        intro t ht
        simp only [y, hys t ht]
        rfl
      exact ⟨fun t ht => by rw [hys t ht, heq t ht], by rw [hzs, TokenTable.rewrite_congr heq]⟩
    refine ⟨_, (hf v _).mpr ⟨x, fun s hs => (hx s hs).1, rfl⟩, (hg _ _).mpr ⟨y, ?_, ?_⟩⟩
    · intro t ht
      rw [TokenTable.texts_rewrite, List.mem_flatMap] at ht
      obtain ⟨s, hs, ht⟩ := ht
      exact (hsame s hs).1 t ht
    · rw [TokenTable.rewrite_rewrite]
      exact TokenTable.rewrite_congr fun s hs => (hsame s hs).2

end Textwise
end Value

namespace Pass

/-- What such a pass makes of one text. -/
theorem run_str_eq_ok_iff
    {p : Pass (Except Failure)} {find : Reference → Option Value}
    (hp : p.Thorough)
    (hf : p.FindsBy find)
    {s : String} {x : Value} :
    p.run (.str s) = .ok x ↔
      (∀ place ∈ p.placesIn s, place.formlessBy? (.found find) = none) ∧
        x = (TokenTable.found find).text p.serves true s := by
  have hplaces : p.places (.str s) = p.placesIn s := List.flatMap_singleton ..
  rw [run_findsBy hp hf, hplaces, ← List.findSome?_eq_none_iff]
  cases (p.placesIn s).findSome? (Place.formlessBy? (.found find)) with
  | some w => simp
  | none => simp [TokenTable.rewrite, eq_comm]

theorem textwise_run
    {p : Pass (Except Failure)} {find : Reference → Option Value}
    (hp : p.Thorough)
    (hf : p.FindsBy find) :
    Value.Textwise p.run := by
  have hall : ∀ v, (p.places v).findSome? (Place.formlessBy? (.found find)) = none ↔
      ∀ s ∈ v.texts, ∀ place ∈ p.placesIn s, place.formlessBy? (.found find) = none := by
    intro v
    rw [List.findSome?_eq_none_iff]
    simp only [places, List.mem_flatMap]
    grind
  intro v w
  simp only [run_str_eq_ok_iff hp hf]
  rw [run_findsBy hp hf]
  constructor
  · intro h
    cases hformless : (p.places v).findSome? (Place.formlessBy? (.found find)) with
    | some w =>
        rw [hformless] at h
        cases h
    | none =>
        rw [hformless] at h
        exact ⟨_, fun s hs => ⟨(hall v).mp hformless s hs, rfl⟩, (Except.ok.inj h).symm⟩
  · rintro ⟨x, hx, rfl⟩
    rw [(hall v).mpr fun s hs => (hx s hs).1, TokenTable.rewrite_congr fun s hs => (hx s hs).2]

end Pass

/-! ### The passes that look up -/

namespace Pass

section

variable {m : Type → Type} [Monad m]

theorem findsBy_vault
    (secrets : List Value) :
    (vault secrets : Pass m).FindsBy fun r => match r.target with
      | .secret item path => secretAt? secrets item path
      | _ => none :=
  fun _ => rfl

theorem findsBy_inventory
    (root : Value) :
    (inventory root : Pass m).FindsBy fun r => match r.target with
      | .inventory path => found? (root.lookup path)
      | _ => none :=
  fun _ => rfl

theorem findsBy_config
    (root : Value) :
    (config root : Pass m).FindsBy fun r => match r.target with
      | .config path => found? (root.lookup path)
      | _ => none :=
  fun _ => rfl

theorem thorough_vault
    (secrets : List Value) :
    (vault secrets : Pass m).Thorough := by
  refine thorough_of_serves ?_
  rintro t (rfl | ⟨path, rfl⟩ | ⟨path, rfl⟩) <;> rfl

theorem thorough_vmid
    (registry : Registry m) :
    (vmid registry).Thorough := by
  refine thorough_of_serves ?_
  rintro t (rfl | ⟨path, rfl⟩ | ⟨path, rfl⟩) <;> rfl

theorem thorough_ip
    (registry : Registry m) :
    (ip registry).Thorough := by
  refine thorough_of_serves ?_
  rintro t (rfl | ⟨path, rfl⟩ | ⟨path, rfl⟩) <;> rfl

end

/-- A pass that does not look into longer texts always comes to its end. -/
theorem exists_run_findsBy
    {p : Pass (Except Failure)} {find : Reference → Option Value}
    (hp : p.Thorough)
    (hf : p.FindsBy find)
    (hshort : p.inLongerTexts = false)
    (v : Value) :
    ∃ w, p.run v = .ok w := by
  have hwhole : ∀ place ∈ p.places v, place.formlessBy? (.found find) = none := by
    intro place hplace
    obtain ⟨s, -, hplace⟩ := List.mem_flatMap.mp hplace
    obtain ⟨hplace, hserves⟩ := List.mem_filter.mp hplace
    unfold Place.findAll at hplace
    split at hplace
    · rw [List.mem_singleton.mp hplace]
      rfl
    · obtain ⟨r, hr, rfl⟩ := List.mem_map.mp hplace
      obtain ⟨c, -, hc⟩ := Reference.mem_embeddedIn.mp hr
      rw [hp hshort c r hc] at hserves
      cases hserves
  exact ⟨_, by rw [run_findsBy hp hf, List.findSome?_eq_none_iff.mpr hwhole]⟩

end Pass

namespace Value

section

variable {m : Type → Type} [Monad m] [MonadExceptOf Failure m] {σ ε : Type} {M : Meaning m σ ε}
  {v w : Value} {s s' : σ}

theorem ending_fillSecrets
    (secrets : List Value) (v : Value) (s : σ) :
    M.ending (fillSecrets secrets v) s = M.still (fillSecrets secrets v) s :=
  Pass.ending_run_eq_still (M := M) rfl (Pass.thorough_vault secrets) (Pass.thorough_vault secrets)
    (Pass.findsBy_vault secrets) (Pass.findsBy_vault secrets) v s

theorem ending_fillInventory
    (root v : Value) (s : σ) :
    M.ending (fillInventory root v) s = M.still (fillInventory root v) s :=
  Pass.ending_run_eq_still (M := M) rfl (Pass.thorough_of_inLongerTexts rfl)
    (Pass.thorough_of_inLongerTexts rfl) (Pass.findsBy_inventory root)
    (Pass.findsBy_inventory root) v s

theorem ending_config
    (root v : Value) (s : σ) :
    M.ending ((Pass.config root).run v) s = M.still ((Pass.config root).run v) s :=
  Pass.ending_run_eq_still (M := M) rfl (Pass.thorough_of_inLongerTexts rfl)
    (Pass.thorough_of_inLongerTexts rfl) (Pass.findsBy_config root) (Pass.findsBy_config root) v s

theorem ending_fillWith
    {α : Type} {source : Option α} {step : α → Value → m Value}
    {step' : α → Value → Except Failure Value}
    (h : ∀ a v s, M.ending (step a v) s = M.still (step' a v) s)
    (v : Value) (s : σ) :
    M.ending (fillWith source step v) s = M.still (fillWith source step' v) s := by
  cases source with
  | none => exact M.ending_pure v s
  | some a => exact h a v s

/-- The document that is searched for values of the inventory, filled with secrets. -/
theorem ending_fillRoot
    (root : Option Value) (secrets : Option (List Value)) (s : σ) :
    M.ending (root.mapM (fillWith secrets fillSecrets)) s =
      M.still (root.mapM (fillWith secrets fillSecrets)) s := by
  cases root with
  | none => exact M.ending_pure none s
  | some root =>
      simp only [Option.mapM_some, Meaning.ending_map, ending_fillWith ending_fillSecrets]
      cases (fillWith secrets fillSecrets root : Except Failure Value) <;> rfl

/-- Secrets can be filled into every document. -/
theorem exists_fillRoot
    (root : Option Value) (secrets : Option (List Value)) :
    ∃ filled : Option Value,
      (root.mapM (fillWith secrets fillSecrets) : Except Failure _) = .ok filled := by
  cases root with
  | none => exact ⟨none, rfl⟩
  | some root =>
      have hfilled : ∃ w, (fillWith secrets fillSecrets root : Except Failure Value) = .ok w := by
        cases secrets with
        | none => exact ⟨root, rfl⟩
        | some items =>
            exact Pass.exists_run_findsBy (Pass.thorough_vault items) (Pass.findsBy_vault items) rfl
              root
      obtain ⟨w, hw⟩ := hfilled
      exact ⟨some w, by rw [Option.mapM_some, hw]; rfl⟩

/-- The passes that look up are the same with every state beside them, and leave it alone. -/
theorem ending_lookups
    (root : Option Value) (secrets : Option (List Value)) (v : Value) (s : σ) :
    M.ending (resolve ⟨root, secrets, none, none⟩ v) s =
      M.still (resolve ⟨root, secrets, none, none⟩ v) s := by
  have habsent : ∀ {α : Type} (step : α → Value → m Value) (v : Value) (s : σ),
      M.ending (fillWith none step v) s = .ok (v, s) := fun _ v s => M.ending_pure v s
  have hstill : ∀ {α : Type} (step : α → Value → Except Failure Value) (v : Value) (s : σ),
      M.still (fillWith none step v) s = .ok (v, s) := fun _ _ _ => rfl
  simp only [resolve, fillConfig, Meaning.ending_bind, Meaning.still_bind, ending_fillRoot,
    ending_config, ending_fillWith ending_fillSecrets, ending_fillWith ending_fillInventory,
    habsent, hstill]

end

/-! ### One text after another in these passes -/

theorem textwise_fillSecrets
    (secrets : List Value) :
    Textwise (fillSecrets secrets) :=
  Pass.textwise_run (Pass.thorough_vault secrets) (Pass.findsBy_vault secrets)

theorem textwise_fillInventory
    (root : Value) :
    Textwise (fillInventory root) :=
  Pass.textwise_run (Pass.thorough_of_inLongerTexts rfl) (Pass.findsBy_inventory root)

/-- Values are looked up in one document and filled into another one. -/
theorem textwise_config
    (root : Value) :
    Textwise (Pass.config root).run :=
  Pass.textwise_run (Pass.thorough_of_inLongerTexts rfl) (Pass.findsBy_config root)

theorem Textwise.fillWith
    {α : Type} {source : Option α} {step : α → Value → Except Failure Value}
    (h : ∀ a, Textwise (step a)) :
    Textwise (Value.fillWith source step) := by
  cases source with
  | none => exact Textwise.pure
  | some a => exact h a

end Value
end Homelab
