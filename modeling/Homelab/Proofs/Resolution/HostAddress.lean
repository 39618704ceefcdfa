import Homelab.Proofs.Resolution.Walked

/-!
# The address of the build host

The last pass asks for one address and puts it in the place of all its tokens.  Where the answer is
the same whenever it is asked for, the pass needs no state, as the passes that look up, and what
becomes of a document is what becomes of its texts, each on its own.
-/

namespace Homelab

namespace Pass

variable {m : Type → Type} [Monad m] [MonadExceptOf Failure m] {σ ε : Type}
  {p : Pass m} {M : Meaning m σ ε} {v : Value} {s : σ}

/-- A pass whose lookups fail has failed at its first token. -/
theorem ending_run_of_failing
    {x : ε}
    (hp : p.Thorough)
    (hserved : ∃ r ∈ v.references, p.serves r.target = true)
    (hlookup : ∀ r, M.ending (p.lookup r) s = .error x) :
    M.ending (p.run v) s = .error x := by
  obtain ⟨r, hr, hserves⟩ := hserved
  have htoken : r ∈ (p.places v).map Place.token := by
    rw [token_places]
    exact List.mem_filter.mpr ⟨hr, hserves⟩
  rw [ending_run hp]
  cases hplaces : p.places v with
  | nil =>
      rw [hplaces] at htoken
      cases htoken
  | cons place rest =>
      have hvisit : p.visit M ([], s) place = .error x := by
        rw [visit, askOnce, if_neg (by simp), askNew, hlookup]
        rfl
      rw [← List.singleton_append, visitAll_append, visitAll_singleton, hvisit]
      rfl

/-- Where there is a token, what a pass comes to depends on the state only by what its lookups come
to. -/
theorem ending_run_congr
    {s' : σ}
    (hp : p.Thorough)
    (hserved : ∃ r ∈ v.references, p.serves r.target = true)
    (hlookup : ∀ r, M.ending (p.lookup r) s = M.ending (p.lookup r) s') :
    M.ending (p.run v) s = M.ending (p.run v) s' := by
  obtain ⟨r, hr, hserves⟩ := hserved
  have htoken : r ∈ (p.places v).map Place.token := by
    rw [token_places]
    exact List.mem_filter.mpr ⟨hr, hserves⟩
  rw [ending_run hp, ending_run hp]
  cases hplaces : p.places v with
  | nil =>
      rw [hplaces] at htoken
      cases htoken
  | cons place rest =>
      have hvisit : p.visit M ([], s) place = p.visit M ([], s') place := by
        rw [visit, visit, askOnce, askOnce, if_neg (by simp), if_neg (by simp), askNew, askNew,
          hlookup]
      rw [← List.singleton_append, visitAll_append, visitAll_append, visitAll_singleton,
        visitAll_singleton, hvisit]

end Pass

namespace Value

/-- What becomes of a text when there is this answer to the question for the build host. -/
def addressed (answer : Except Failure String) (s : String) : Value :=
  (TokenTable.found fun _ => answer.toOption.map .str).text (· matches .hostAddress) true s

/-- An address can be written into a longer text. -/
theorem formlessBy?_address
    (address : String) (place : Pass.Place) :
    place.formlessBy? (.found fun _ => some (.str address)) = none := by
  unfold Pass.Place.formlessBy?
  split
  · cases hread : Reference.parse? place.token.text <;>
      simp [TokenTable.found, hread, inlineText?, Option.filter]
  · rfl

section

variable {m : Type → Type} [Monad m] [MonadExceptOf Failure m] {σ ε : Type} {M : Meaning m σ ε}
  {v : Value} {s : σ}

/-- The address that is remembered is the one that would be given again. -/
theorem findsWhile_hostAddress
    (address : String) (s : σ) :
    (hostAddressPass (pure address : m String)).FindsWhile M.withState
      (fun st => (∀ known ∈ st.1, known = address) ∧ st.2 = s)
      fun _ => some (.str address) := by
  rintro r ⟨_ | known, s⟩ ⟨hknown, rfl⟩
  · refine ⟨(some address, s), ⟨by simp, rfl⟩, ?_⟩
    simp [hostAddressPass, hostAddressOnce, Except.map, Except.bind]
  · obtain rfl := hknown known rfl
    refine ⟨(some known, s), ⟨by simp, rfl⟩, ?_⟩
    simp [hostAddressPass, hostAddressOnce, Except.bind]

/-- An address that is at hand is put in the place of each token. -/
theorem ending_fillHostAddress_pure
    (address : String) (v : Value) (s : σ) :
    M.ending (fillHostAddress (pure address) v) s =
      .ok (TokenTable.rewrite (addressed (.ok address)) v, s) := by
  obtain ⟨⟨known, s'⟩, ⟨-, rfl⟩, hrun⟩ := Pass.ending_run_findsWhile
    (Pass.thorough_of_inLongerTexts rfl) (findsWhile_hostAddress (M := M) address s)
    (s := (none, s)) ⟨by simp, rfl⟩ v
  rw [List.findSome?_eq_none_iff.mpr fun place _ => formlessBy?_address address place] at hrun
  rw [fillHostAddress, Meaning.ending_run', hrun]
  rfl

/-- Where no address can be given the first token has failed. -/
theorem ending_fillHostAddress_error
    {hostAddress : m String} {x : ε}
    (hserved : ∃ r ∈ v.references, r.target = .hostAddress)
    (hanswer : M.ending hostAddress s = .error x) :
    M.ending (fillHostAddress hostAddress v) s = .error x := by
  have hlookup : ∀ r, M.withState.ending ((hostAddressPass hostAddress).lookup r) (none, s) =
      .error x := by
    intro r
    simp [hostAddressPass, hostAddressOnce, hanswer, Except.map, Except.bind]
  obtain ⟨r, hr, htarget⟩ := hserved
  rw [fillHostAddress, Meaning.ending_run', Pass.ending_run_of_failing
    (Pass.thorough_of_inLongerTexts rfl) ⟨r, hr, hostAddressPass_serves_iff.mpr htarget⟩ hlookup]
  rfl

/-- Where there is a token the address is asked for once, and put in the place of each token. -/
theorem ending_fillHostAddress_ok
    {hostAddress : m String} {address : String} {s' : σ}
    (hserved : ∃ r ∈ v.references, r.target = .hostAddress)
    (hanswer : M.ending hostAddress s = .ok (address, s')) :
    M.ending (fillHostAddress hostAddress v) s =
      .ok (TokenTable.rewrite (addressed (.ok address)) v, s') := by
  -- The first lookup comes to what the later ones come to, once the address is known.
  have hfirst : ∀ r, M.withState.ending ((hostAddressPass hostAddress).lookup r) (none, s) =
      M.withState.ending ((hostAddressPass hostAddress).lookup r) (some address, s') := by
    intro r
    simp [hostAddressPass, hostAddressOnce, hanswer, Except.map, Except.bind]
  have hknown : (hostAddressPass hostAddress).FindsWhile M.withState (· = (some address, s'))
      fun _ => some (.str address) := by
    rintro r _ rfl
    exact ⟨_, rfl, by simp [hostAddressPass, hostAddressOnce, Except.bind]⟩
  obtain ⟨r, hr, htarget⟩ := hserved
  obtain ⟨_, rfl, hrun⟩ := Pass.ending_run_findsWhile
    (Pass.thorough_of_inLongerTexts rfl) hknown rfl v
  rw [List.findSome?_eq_none_iff.mpr fun place _ => formlessBy?_address address place] at hrun
  rw [fillHostAddress, Meaning.ending_run', Pass.ending_run_congr
    (Pass.thorough_of_inLongerTexts rfl) ⟨r, hr, hostAddressPass_serves_iff.mpr htarget⟩ hfirst,
    hrun]
  rfl

end

section

variable {answer : Except Failure String} {v w : Value}

/-! ### One answer -/

theorem fillHostAddress_ok
    (address : String) (v : Value) :
    fillHostAddress (.ok address) v =
      (.ok (TokenTable.rewrite (addressed (.ok address)) v) : Except Failure Value) :=
  Meaning.eq_of_stateless (ending_fillHostAddress_pure (M := Meaning.stateless) address v ())

theorem fillHostAddress_of_unserved
    (hnone : ∀ r ∈ v.references, r.target ≠ .hostAddress) :
    fillHostAddress answer v = .ok v :=
  Meaning.eq_of_stateless (y := .ok v)
    (ending_fillHostAddress_of_unserved (M := Meaning.stateless) hnone ())

theorem fillHostAddress_error
    {e : Failure}
    (hserved : ∃ r ∈ v.references, r.target = .hostAddress) :
    fillHostAddress (.error e) v = (.error e : Except Failure Value) :=
  Meaning.eq_of_stateless (y := .error e)
    (ending_fillHostAddress_error (M := Meaning.stateless) hserved (Meaning.ending_throw _ e ()))

/-- A document comes to its end if an address is given or none is asked for. -/
theorem fillHostAddress_eq_ok_iff :
    fillHostAddress answer v = .ok w ↔
      ((∀ r ∈ v.references, r.target ≠ .hostAddress) ∨ ∃ address, answer = .ok address) ∧
        w = TokenTable.rewrite (addressed answer) v := by
  by_cases hnone : ∀ r ∈ v.references, r.target ≠ .hostAddress
  · have hkept : TokenTable.rewrite (addressed answer) v = v := by
      refine TokenTable.rewrite_eq_self_iff.mpr fun s hs => TokenTable.text_eq_self fun r hr => ?_
      have htarget : r.target ≠ .hostAddress := by
        refine hnone r ?_
        rw [references_eq, List.mem_flatMap]
        exact ⟨s, hs, hr⟩
      grind
    rw [fillHostAddress_of_unserved hnone, hkept, Except.ok.injEq, eq_comm]
    exact (and_iff_right (.inl hnone)).symm
  · cases answer with
    | ok address =>
        rw [fillHostAddress_ok, Except.ok.injEq, eq_comm]
        exact (and_iff_right (.inr ⟨address, rfl⟩)).symm
    | error e =>
        rw [fillHostAddress_error (by simpa using hnone)]
        simp [hnone]

theorem textwise_fillHostAddress
    (answer : Except Failure String) :
    Textwise (fillHostAddress answer) := by
  have htexts : ∀ {v : Value}, (∀ r ∈ v.references, r.target ≠ .hostAddress) ↔
      ∀ s ∈ v.texts, ∀ r ∈ (Value.str s).references, r.target ≠ .hostAddress := by
    intro v
    simp only [references_eq, List.mem_flatMap]
    grind [texts]
  intro v w
  simp only [fillHostAddress_eq_ok_iff]
  constructor
  · rintro ⟨hgiven, rfl⟩
    exact ⟨addressed answer,
      fun s hs => ⟨hgiven.imp_left fun hnone => htexts.mp hnone s hs, rfl⟩, rfl⟩
  · rintro ⟨x, hx, rfl⟩
    refine ⟨?_, TokenTable.rewrite_congr fun s hs => (hx s hs).2⟩
    by_cases hgiven : ∃ address, answer = .ok address
    · exact .inr hgiven
    · exact .inl (htexts.mpr fun s hs => (hx s hs).1.resolve_right hgiven)

end

section

variable {m : Type → Type} [Monad m] [MonadExceptOf Failure m] {σ ε : Type} {M : Meaning m σ ε}

/-- With one answer the pass is the same with every state beside it, and leaves it alone. -/
theorem ending_fillHostAddress
    (answer : Except Failure String) (v : Value) (s : σ) :
    M.ending (fillHostAddress (MonadExcept.ofExcept answer) v) s =
      M.still (fillHostAddress answer v) s := by
  by_cases hnone : ∀ r ∈ v.references, r.target ≠ .hostAddress
  · rw [fillHostAddress_of_unserved hnone]
    exact ending_fillHostAddress_of_unserved hnone s
  · cases answer with
    | ok address =>
        rw [fillHostAddress_ok]
        exact ending_fillHostAddress_pure address v s
    | error e =>
        have hserved : ∃ r ∈ v.references, r.target = .hostAddress := by simpa using hnone
        rw [fillHostAddress_error hserved]
        exact ending_fillHostAddress_error hserved (M.ending_throw e s)

theorem ending_walkedWith_hostAddress [DepthLimits]
    (answer : Option (Except Failure String)) (v : Value) (s : σ) :
    M.ending (walkedWith (answer.map MonadExcept.ofExcept) fillHostAddress v) s =
      M.still (walkedWith answer fillHostAddress v) s := by
  cases answer with
  | none => exact M.ending_pure v s
  | some answer => exact ending_walkedBy_eq_still (ending_fillHostAddress answer) v s

/-- Without a registry the lookups come first, and then the address of the build host. -/
theorem ending_resolve_hostAddress
    (root : Option Value) (secrets : Option (List Value)) (hostAddress : m String) (v : Value)
    (s : σ) :
    M.ending (resolve ⟨root, secrets, none, some hostAddress⟩ v) s =
      (M.still (resolve ⟨root, secrets, none, none⟩ v) s).bind fun r =>
        M.ending (fillHostAddress hostAddress r.1) r.2 := by
  have habsent : ∀ {α : Type} (step : α → Value → m Value) (v : Value) (s : σ),
      M.ending (fillWith none step v) s = .ok (v, s) := fun _ v s => M.ending_pure v s
  have hassoc : ∀ {α β γ : Type} (x : Except ε α) (f : α → Except ε β) (g : β → Except ε γ),
      (x.bind f).bind g = x.bind fun a => (f a).bind g := fun x f g => by cases x <;> rfl
  rw [← ending_lookups]
  simp only [resolve, Meaning.ending_bind, habsent, hassoc]
  rfl
end
end Value
end Homelab
