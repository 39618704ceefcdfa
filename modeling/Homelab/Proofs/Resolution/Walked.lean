import Homelab.Proofs.Inventory.Levels
import Homelab.Proofs.Resolution.Untouched
import Homelab.Resolution.Against

/-!
# Passes that are walks

A pass comes to its end only if the document can be walked, and then it does what it does anyway.
A document in which texts are replaced by single values can be walked exactly if it could be
walked before.

So the passes that look up are the same with every state beside them when each of them is a walk,
too, and the document that is searched for values of the inventory is there exactly if what the
inventory comes from is usable.
-/

namespace Homelab

/-! ### Documents of the same shape -/

namespace TokenTable

mutual

/-- Single values in the place of texts change nothing about how far a document is walked. -/
theorem front_rewrite
    {f : String → Value} :
    ∀ (v : Value) (limit : Nat), (∀ s ∈ v.texts, ∃ a : Scalar, f s = .scalar a) →
      ((rewrite f v).front limit).2 = (v.front limit).2
  | .scalar (.str s), limit, h => by
      obtain ⟨a, ha⟩ := h s (List.mem_singleton_self s)
      rw [rewrite, ha, Value.front, Value.front]
  | .scalar .null, _, _ | .scalar (.bool _), _, _ | .scalar (.int _), _, _
  | .scalar (.float _), _, _ | .scalar (.bytes _), _, _ | .scalar (.date _), _, _
  | .scalar (.moment _), _, _ | .set _, _, _ => rfl
  | .list _, 0, _ | .map _, 0, _ => rfl
  | .list items, limit + 1, h => by
      rw [rewrite, Value.front, Value.front, if_neg (Nat.succ_ne_zero limit),
        if_neg (Nat.succ_ne_zero limit)]
      exact frontItems_rewrite items limit h
  | .map entries, limit + 1, h => by
      rw [rewrite, Value.front, Value.front, if_neg (Nat.succ_ne_zero limit),
        if_neg (Nat.succ_ne_zero limit)]
      exact frontEntries_rewrite entries limit h

theorem frontItems_rewrite
    {f : String → Value} :
    ∀ (items : List Value) (limit : Nat),
      (∀ s ∈ Value.itemTexts items, ∃ a : Scalar, f s = .scalar a) →
      (Value.frontItems limit (rewriteItems f items)).2 = (Value.frontItems limit items).2
  | [], _, _ => rfl
  | v :: rest, limit, h => by
      have hfirst := front_rewrite v limit fun s hs => h s (List.mem_append_left _ hs)
      have hrest := frontItems_rewrite rest limit fun s hs => h s (List.mem_append_right _ hs)
      rw [rewriteItems, Value.frontItems, Value.frontItems]
      rcases hnew : (rewrite f v).front limit with ⟨walked, whole⟩
      rcases hold : v.front limit with ⟨walked', whole'⟩
      rw [hnew, hold] at hfirst
      obtain rfl : whole = whole' := hfirst
      cases whole with
      | false => rfl
      | true => exact hrest

theorem frontEntries_rewrite
    {f : String → Value} :
    ∀ (entries : List (Scalar × Value)) (limit : Nat),
      (∀ s ∈ Value.entryTexts entries, ∃ a : Scalar, f s = .scalar a) →
      (Value.frontEntries limit (rewriteEntries f entries)).2 =
        (Value.frontEntries limit entries).2
  | [], _, _ => rfl
  | (k, v) :: rest, limit, h => by
      have hfirst := front_rewrite v limit fun s hs => h s (List.mem_append_left _ hs)
      have hrest := frontEntries_rewrite rest limit fun s hs => h s (List.mem_append_right _ hs)
      rw [rewriteEntries, Value.frontEntries, Value.frontEntries]
      rcases hnew : (rewrite f v).front limit with ⟨walked, whole⟩
      rcases hold : v.front limit with ⟨walked', whole'⟩
      rw [hnew, hold] at hfirst
      obtain rfl : whole = whole' := hfirst
      cases whole with
      | false => rfl
      | true => exact hrest

end

theorem isWalked_rewrite [DepthLimits]
    {f : String → Value} {v : Value}
    (h : ∀ s ∈ v.texts, ∃ a : Scalar, f s = .scalar a) :
    (rewrite f v).IsWalked ↔ v.IsWalked := by
  rw [Value.IsWalked, Value.IsWalked, front_rewrite v _ h]

end TokenTable

/-! ### Walks that come to their end -/

namespace Value

variable {v w : Value}

theorem walkedBy_eq_ok_iff [DepthLimits]
    {pass : Value → Except Failure Value} :
    v.walkedBy pass = .ok w ↔ v.IsWalked ∧ pass v = .ok w := by
  by_cases hwalked : v.IsWalked
  · rw [walkedBy_of_isWalked hwalked]
    exact (and_iff_right hwalked).symm
  · rcases hfront : v.front (DepthLimits.walking - 1) with ⟨walked, _ | _⟩
    · simp only [walkedBy, hfront]
      cases pass walked <;> simp [hwalked, Bind.bind, Except.bind, throw, throwThe,
        MonadExceptOf.throw]
    · exact absurd (by rw [IsWalked, hfront]) hwalked

theorem walkedWith_eq_ok_iff [DepthLimits]
    {α : Type} {source : Option α} {pass : α → Value → Except Failure Value} :
    walkedWith source pass v = .ok w ↔
      (source.isSome → v.IsWalked) ∧ fillWith source pass v = .ok w := by
  cases source with
  | none => simp [walkedWith, fillWith]
  | some a => simpa [walkedWith, fillWith] using walkedBy_eq_ok_iff

section

variable {m : Type → Type} [Monad m] [MonadExceptOf Failure m] {σ ε : Type} {M : Meaning m σ ε}

/-- A pass without a state is one as a walk, too. -/
theorem ending_walkedBy_eq_still [DepthLimits]
    {pass : Value → m Value} {pass' : Value → Except Failure Value}
    (h : ∀ v s, M.ending (pass v) s = M.still (pass' v) s)
    (v : Value) (s : σ) :
    M.ending (v.walkedBy pass) s = M.still (v.walkedBy pass') s := by
  rcases hfront : v.front (DepthLimits.walking - 1) with ⟨walked, _ | _⟩
  · simp only [walkedBy, hfront, Meaning.ending_bind, Meaning.still_bind, h]
    congr 1
    funext r
    exact M.ending_throw _ _
  · simp only [walkedBy, hfront, h]

theorem ending_walkedWith_eq_still [DepthLimits]
    {α : Type} {source : Option α} {pass : α → Value → m Value}
    {pass' : α → Value → Except Failure Value}
    (h : ∀ a v s, M.ending (pass a v) s = M.still (pass' a v) s)
    (v : Value) (s : σ) :
    M.ending (walkedWith source pass v) s = M.still (walkedWith source pass' v) s :=
  ending_fillWith (fun a => ending_walkedBy_eq_still (h a)) v s

/-- A walk for tokens that a document does not have leaves it alone. -/
theorem ending_walkedBy_of_unserved [DepthLimits]
    {p : Pass m}
    (hp : p.Thorough)
    (hwalked : v.IsWalked)
    (hnone : ∀ r ∈ v.references, p.serves r.target = false)
    (s : σ) :
    M.ending (v.walkedBy p.run) s = .ok (v, s) := by
  rw [walkedBy_of_isWalked hwalked]
  exact Pass.ending_run_of_unserved hp hnone s

/-- The document that is searched for values of the inventory needs no state. -/
theorem ending_filled [DepthLimits]
    (source : InventorySource) (secrets : Option (List Value)) (s : σ) :
    M.ending (source.filled secrets) s = M.still (source.filled secrets) s := by
  unfold InventorySource.filled
  cases source.root? with
  | error e => exact M.ending_throw e s
  | ok root =>
      cases root with
      | none => exact M.ending_pure none s
      | some root =>
          simp only [Option.mapM_some, Meaning.ending_map,
            ending_walkedWith_eq_still ending_fillSecrets]
          cases (walkedWith secrets fillSecrets root : Except Failure Value) <;> rfl

end
end Value

/-! ### What the inventory comes from -/

/-- An inventory that was read can be written, and a document that was not read can be walked if
there are secrets to be filled in. -/
def InventorySource.Usable [DepthLimits] (secrets : Option (List Value)) : InventorySource → Prop
  | absent => True
  | raw document => secrets.isSome → document.IsWalked
  | read inv => inv.isWritable = true

namespace InventorySource

open Value (walkedWith fillSecrets)

variable {source : InventorySource} {secrets : Option (List Value)}

theorem exists_walkedWith_secrets_iff [DepthLimits]
    {v : Value} :
    (∃ w, (walkedWith secrets fillSecrets v : Except Failure Value) = .ok w) ↔
      (secrets.isSome → v.IsWalked) := by
  simp only [Value.walkedWith_eq_ok_iff, exists_and_left, and_iff_left_iff_imp]
  intro _
  cases secrets with
  | none => exact ⟨v, rfl⟩
  | some items =>
      exact Pass.exists_run_findsBy (Pass.thorough_vault items) (Pass.findsBy_vault items) rfl v

/-- There is a document to be searched, or none is needed, exactly if the inventory can be used. -/
theorem exists_filled_iff [DepthLimits] :
    (∃ inventory, (source.filled secrets : Except Failure _) = .ok inventory) ↔
      source.Usable secrets := by
  have hsome : ∀ {document : Value}, source.root? = .ok (some document) →
      ((∃ inventory, (source.filled secrets : Except Failure _) = .ok inventory) ↔
        (secrets.isSome → document.IsWalked)) := by
    intro document hroot
    rw [← exists_walkedWith_secrets_iff]
    simp only [filled, hroot, Option.mapM_some]
    cases (walkedWith secrets fillSecrets document : Except Failure Value) <;>
      simp [Functor.map, Except.map]
  cases source with
  | absent => exact ⟨fun _ => trivial, fun _ => ⟨none, rfl⟩⟩
  | raw document => exact hsome rfl
  | read inv =>
      cases hdocument : inv.document with
      | ok document =>
          have hwritable : inv.isWritable = true := by
            by_contra hnot
            rw [Inventory.document, if_neg hnot] at hdocument
            cases hdocument
          have hlevels : document.levels < DepthLimits.walking :=
            Nat.lt_of_le_of_lt (Inventory.levels_document_le hdocument) DepthLimits.walkable
          rw [hsome (by rw [root?, hdocument]; rfl)]
          exact ⟨fun _ => hwritable, fun _ _ => Value.isWalked_of_levels hlevels⟩
      | error e =>
          have hdeep : ¬ inv.isWritable = true := by
            intro hwritable
            rw [Inventory.document, if_pos hwritable] at hdocument
            cases hdocument
          refine iff_of_false ?_ hdeep
          rintro ⟨inventory, h⟩
          rw [filled, root?, hdocument] at h
          cases h

end InventorySource
end Homelab
