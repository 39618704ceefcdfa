import Homelab.Proofs.Resolution.HandedOut

/-!
# What passes leave alone

A pass leaves a document alone that has none of its tokens.  So a document comes as it is to the
passes that ask the ledger if it has no other tokens than theirs; and if it has no tokens at all,
nothing is asked, and the ledger stays as it is, too.
-/

namespace Homelab

/-- A token stands for a number or an address that is handed out. -/
def Target.isAllocated : Target → Bool
  | .machine _ _ => true
  | .address _ _ => true
  | _ => false

namespace Pass

variable {m : Type → Type} [Monad m] [MonadExceptOf Failure m] {σ ε : Type}
  {p : Pass m} {M : Meaning m σ ε} {v : Value}

/-- A pass leaves a document alone that has none of its tokens. -/
theorem ending_run_of_unserved
    (hp : p.Thorough)
    (hnone : ∀ r ∈ v.references, p.serves r.target = false)
    (s : σ) :
    M.ending (p.run v) s = .ok (v, s) := by
  have hplaces : p.places v = [] := by
    rw [← List.map_eq_nil_iff (f := Place.token), token_places, List.filter_eq_nil_iff]
    exact fun r hr => by simp [hnone r hr]
  have hkept : TokenTable.rewrite ((Memo.table []).text p.serves true) v = v := by
    rw [TokenTable.rewrite_congr (g := Value.str) fun text htext => ?_, TokenTable.rewrite_str]
    refine TokenTable.text_eq_self fun r hr => hnone r ?_
    rw [Value.references_eq, List.mem_flatMap]
    exact ⟨text, htext, hr⟩
  rw [ending_run hp, hplaces]
  simp only [visitAll, List.foldlM_nil, Except.map, pure, Except.pure, hkept]

omit [MonadExceptOf Failure m] in
/-- The first passes have no tokens of this sort. -/
theorem first_not_serves
    {t : Target}
    (h : t.isAllocated = true)
    (secrets : List Value) (root : Value) :
    (vault secrets : Pass m).serves t = false ∧ (inventory root : Pass m).serves t = false ∧
      (config root : Pass m).serves t = false := by
  cases t with
  | machine kind label => exact ⟨rfl, rfl, rfl⟩
  | address network label => exact ⟨rfl, rfl, rfl⟩
  | secret | inventory | config | hostAddress => cases h

end Pass
namespace Value

variable {v w : Value}

theorem ensureResolved_of_no_references
    (h : v.references = []) :
    v.ensureResolved = .ok () := by
  simp [ensureResolved, unresolved, h, Reference.texts]

/-- A document that is resolved has no tokens. -/
theorem references_of_ensureResolved
    (h : v.ensureResolved = .ok ()) :
    v.references = [] := by
  unfold ensureResolved at h
  split at h
  · rename_i hnone
    rw [unresolved, Reference.texts] at hnone
    by_contra hsome
    obtain ⟨r, hr⟩ := List.exists_mem_of_ne_nil _ hsome
    have hmem : r.text ∈ (v.references.map Reference.text).eraseDups :=
      List.mem_eraseDups.mpr (List.mem_map_of_mem hr)
    rw [hnone] at hmem
    cases hmem
  · cases h

section

variable {σ α : Type} {s s' : σ}

theorem outcome_fillWith
    {source : Option α} {step : α → Value → ExceptT Failure (StateM σ) Value}
    (h : ∀ a, outcome (step a v) s = (.ok v, s)) :
    outcome (fillWith source step v) s = (.ok v, s) := by
  cases source with
  | none => rfl
  | some a => exact h a

theorem state_of_fillInventory
    {root filled : Option Value} {secrets : Option (List Value)}
    (h : outcome (root.mapM (fillWith secrets fillSecrets) : ExceptT Failure (StateM σ) _) s =
      (.ok filled, s')) :
    s' = s := by
  rw [← Meaning.plain_eq_ok_iff, ending_fillRoot] at h
  exact (Meaning.still_eq_ok_iff.mp h).2

/-- Where the first passes find none of their tokens, the document comes to the last ones as it
is. -/
theorem outcome_resolve_of_allocated
    {root filled : Option Value} {secrets : Option (List Value)}
    {registry : Option (Registry (ExceptT Failure (StateM σ)))}
    (hall : ∀ r ∈ v.references, r.target.isAllocated = true)
    (hroot : outcome (root.mapM (fillWith secrets fillSecrets) : ExceptT Failure (StateM σ) _) s =
      (.ok filled, s)) :
    outcome (resolve ⟨root, secrets, registry, none⟩ v) s =
      outcome (fillWith registry fillVmids v >>= fillWith registry fillIps) s := by
  have hleft : ∀ p : Pass (ExceptT Failure (StateM σ)), p.Thorough →
      (∀ t : Target, t.isAllocated = true → p.serves t = false) →
      outcome (p.run v) s = (.ok v, s) := by
    intro p hp hserves
    rw [← Meaning.plain_eq_ok_iff]
    exact Pass.ending_run_of_unserved hp (fun r hr => hserves r.target (hall r hr)) s
  have hvault : outcome (fillWith secrets fillSecrets v : ExceptT Failure (StateM σ) _) s =
      (.ok v, s) := by
    refine outcome_fillWith fun items => hleft _ (Pass.thorough_of_serves ?_)
      fun t ht => (Pass.first_not_serves ht items v).1
    rintro t (rfl | ⟨path, rfl⟩ | ⟨path, rfl⟩) <;> rfl
  have hinventory : outcome (fillWith filled fillInventory v : ExceptT Failure (StateM σ) _) s =
      (.ok v, s) :=
    outcome_fillWith fun root => hleft _ (Pass.thorough_of_inLongerTexts rfl)
      fun t ht => (Pass.first_not_serves ht [] root).2.1
  have hconfig : outcome (fillConfig v : ExceptT Failure (StateM σ) _) s = (.ok v, s) :=
    hleft _ (Pass.thorough_of_inLongerTexts rfl) fun t ht =>
      (Pass.first_not_serves ht [] v).2.2
  simp only [resolve, outcome_bind, hvault, hroot, hinventory, hconfig]
  rcases outcome (fillWith registry fillVmids v) s with ⟨_ | w, s'⟩
  · rfl
  · simp only
    rcases outcome (fillWith registry fillIps w) s' with ⟨_ | w', s''⟩ <;> rfl

end

theorem hostAddressPass_serves_iff
    {m : Type → Type} [Monad m] {hostAddress : m String} {t : Target} :
    (hostAddressPass hostAddress).serves t = true ↔ t = .hostAddress := by
  cases t <;> simp [hostAddressPass]

/-- The address of the build host is not asked for if there is no token for it. -/
theorem ending_fillHostAddress_of_unserved
    {m : Type → Type} [Monad m] [MonadExceptOf Failure m] {σ ε : Type} {M : Meaning m σ ε}
    {hostAddress : m String}
    (hnone : ∀ r ∈ v.references, r.target ≠ .hostAddress)
    (s : σ) :
    M.ending (fillHostAddress hostAddress v) s = .ok (v, s) := by
  have hunserved : ∀ r ∈ v.references, (hostAddressPass hostAddress).serves r.target = false :=
    fun r hr => Bool.eq_false_iff.mpr fun h => hnone r hr (hostAddressPass_serves_iff.mp h)
  rw [fillHostAddress, Meaning.ending_run',
    Pass.ending_run_of_unserved (Pass.thorough_of_inLongerTexts rfl) hunserved]
  rfl

/-- A document without tokens stays as it is, whatever its sources are, and nothing is asked. -/
theorem ending_resolve_of_no_references
    {m : Type → Type} [Monad m] [MonadExceptOf Failure m] {σ ε : Type} {M : Meaning m σ ε}
    {root : Option Value} {secrets : Option (List Value)} {registry : Option (Registry m)}
    {hostAddress : Option (m String)}
    (hnone : v.references = [])
    (s : σ) :
    M.ending (resolve ⟨root, secrets, registry, hostAddress⟩ v) s = .ok (v, s) := by
  have hleft : ∀ p : Pass m, p.Thorough → M.ending (p.run v) s = .ok (v, s) := fun p hp =>
    Pass.ending_run_of_unserved hp (by simp [hnone]) s
  have hsome : ∀ {α : Type} {source : Option α} {step : α → Value → m Value},
      (∀ a, M.ending (step a v) s = .ok (v, s)) →
      M.ending (fillWith source step v) s = .ok (v, s) := by
    intro α source step h
    cases source with
    | none => exact M.ending_pure v s
    | some a => exact h a
  have hvault : M.ending (fillWith secrets fillSecrets v) s = .ok (v, s) :=
    hsome fun items => hleft _ (Pass.thorough_vault items)
  obtain ⟨filled, hfilled⟩ := exists_fillRoot root secrets
  have hinventory : M.ending (fillWith filled fillInventory v) s = .ok (v, s) :=
    hsome fun root => hleft _ (Pass.thorough_of_inLongerTexts rfl)
  have hconfig : M.ending (fillConfig v) s = .ok (v, s) :=
    hleft _ (Pass.thorough_of_inLongerTexts rfl)
  have hvmids : M.ending (fillWith registry fillVmids v) s = .ok (v, s) :=
    hsome fun registry => hleft _ (Pass.thorough_vmid registry)
  have hips : M.ending (fillWith registry fillIps v) s = .ok (v, s) :=
    hsome fun registry => hleft _ (Pass.thorough_ip registry)
  have haddress : M.ending (fillWith hostAddress fillHostAddress v) s = .ok (v, s) :=
    hsome fun hostAddress => ending_fillHostAddress_of_unserved (by simp [hnone]) s
  simp only [resolve, Meaning.ending_bind, ending_fillRoot, hfilled, Meaning.still, hvault,
    hinventory, hconfig, hvmids, hips, haddress, Except.bind]

section

variable {mode : Ledger.Mode} {root filled : Option Value} {secrets : Option (List Value)}
  {l l' : Ledger}

/-- A document without tokens stays as it is, and the ledger is asked for nothing. -/
theorem outcome_resolve_of_no_references
    (hnone : v.references = [])
    (hroot : outcome (root.mapM (fillWith secrets fillSecrets) : Ledger.Run _) l = (.ok filled, l)) :
    outcome (resolve ⟨root, secrets, some (Ledger.registry mode), none⟩ v) l = (.ok v, l) := by
  have hall : ∀ r ∈ v.references, r.target.isAllocated = true := by simp [hnone]
  have hleft : ∀ k : ReservedKind, outcome ((k.pass mode).run v) l = (.ok v, l) := by
    intro k
    rw [← Meaning.plain_eq_ok_iff]
    exact Pass.ending_run_of_unserved (k.thorough_pass mode) (by simp [hnone]) l
  have hvmids : outcome (fillWith (some (Ledger.registry mode)) fillVmids v) l = (.ok v, l) :=
    hleft .vmid
  rw [outcome_resolve_of_allocated hall hroot, outcome_bind, hvmids]
  exact hleft .ip

theorem eq_of_resolve_of_no_references
    (hnone : v.references = [])
    (h : outcome (resolve ⟨root, secrets, some (Ledger.registry mode), none⟩ v) l = (.ok w, l')) :
    w = v ∧ l' = l := by
  have hroot : ∃ filled, outcome (root.mapM (fillWith secrets fillSecrets) : Ledger.Run _) l =
      (.ok filled, l) := by
    rw [resolve] at h
    obtain ⟨_, l₁, hsecrets, h⟩ := outcome_bind_eq_ok.mp h
    obtain ⟨filled, l₂, hfilled, -⟩ := outcome_bind_eq_ok.mp h
    obtain rfl := state_of_fillSecrets hsecrets
    obtain rfl := state_of_fillInventory hfilled
    exact ⟨filled, hfilled⟩
  obtain ⟨filled, hfilled⟩ := hroot
  obtain ⟨hw, rfl⟩ := Prod.mk.inj ((outcome_resolve_of_no_references hnone hfilled).symm.trans h)
  exact ⟨(Except.ok.inj hw).symm, rfl⟩

end

end Value
end Homelab
