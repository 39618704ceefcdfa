import Homelab.Failure
import Homelab.Site

/-!
# How a computation ends

A computation on a state gives a value or fails, and leaves the state in either case as
it is by then.
-/

namespace Homelab

section

variable {σ α β : Type}

theorem bind_eq_ok
    {x : Except Failure α} {f : α → Except Failure β} {b : β} :
    (x >>= f) = .ok b ↔ ∃ a, x = .ok a ∧ f a = .ok b := by
  cases x <;> simp [Bind.bind, Except.bind]

/-- How a computation on a state ends, and the state as it leaves it. -/
def outcome (m : ExceptT Failure (StateM σ) α) (s : σ) : Except Failure α × σ := m.run.run s

@[simp] theorem outcome_pure
    (a : α) (s : σ) :
    outcome (pure a) s = (.ok a, s) := rfl

@[simp] theorem outcome_throw
    (e : Failure) (s : σ) :
    outcome (throw e : ExceptT Failure (StateM σ) α) s = (.error e, s) := rfl

@[simp] theorem outcome_get
    (s : σ) :
    outcome get s = (.ok s, s) := rfl

@[simp] theorem outcome_set
    (s next : σ) :
    outcome (set next) s = (.ok ⟨⟩, next) := rfl

@[simp] theorem outcome_modify
    (f : σ → σ) (s : σ) :
    outcome (modify f) s = (.ok ⟨⟩, f s) := rfl

@[simp] theorem outcome_bind
    (m : ExceptT Failure (StateM σ) α) (f : α → ExceptT Failure (StateM σ) β) (s : σ) :
    outcome (m >>= f) s =
      match outcome m s with
      | (.ok a, next) => outcome (f a) next
      | (.error e, next) => (.error e, next) := by
  have hbind : outcome (m >>= f) s = ExceptT.bindCont f (outcome m s).1 (outcome m s).2 := rfl
  rw [hbind]
  rcases outcome m s with ⟨_ | a, next⟩ <;> rfl

/-- A sequence that gives a value is one value after another. -/
theorem outcome_bind_eq_ok
    {m : ExceptT Failure (StateM σ) α} {f : α → ExceptT Failure (StateM σ) β} {s s' : σ} {b : β} :
    outcome (m >>= f) s = (.ok b, s') ↔
      ∃ a mid, outcome m s = (.ok a, mid) ∧ outcome (f a) mid = (.ok b, s') := by
  rw [outcome_bind]
  rcases outcome m s with ⟨_ | a, mid⟩
  · simp
  · constructor
    · exact fun h => ⟨a, mid, rfl, h⟩
    · rintro ⟨_, _, hfirst, h⟩
      obtain ⟨ha, rfl⟩ := Prod.mk.inj hfirst
      rwa [Except.ok.inj ha]

@[simp] theorem outcome_map
    (f : α → β) (m : ExceptT Failure (StateM σ) α) (s : σ) :
    outcome (f <$> m) s = ((outcome m s).1.map f, (outcome m s).2) := by
  rw [map_eq_pure_bind, outcome_bind]
  rcases outcome m s with ⟨_ | a, next⟩ <;> rfl

@[simp] theorem outcome_tryCatch
    (m : ExceptT Failure (StateM σ) α) (f : Failure → ExceptT Failure (StateM σ) α) (s : σ) :
    outcome (tryCatch m f) s =
      match outcome m s with
      | (.ok a, next) => (.ok a, next)
      | (.error e, next) => outcome (f e) next := by
  simp only [outcome, tryCatch, tryCatchThe, MonadExceptOf.tryCatch, ExceptT.tryCatch, ExceptT.run,
    ExceptT.mk, bind, StateT.bind, StateT.run]
  rcases m s with ⟨_ | a, next⟩ <;> rfl

end

/-! ### Acts on a site -/

@[simp] theorem outcome_ofExcept
    {α : Type} (r : Except Failure α) (site : Site) :
    outcome (Act.ofExcept r) site = (r, site) := by
  cases r <;> rfl

@[simp] theorem outcome_readFile
    (file : String) (site : Site) :
    outcome (Act.readFile file) site = (site.read file, site) := by
  simp [Act.readFile]

@[simp] theorem outcome_replaceFile
    (file text : String) (site : Site) :
    outcome (Act.replaceFile file text) site =
      match site.outside.replaceFault with
      | some reason => (.error (.system reason), site)
      | none => (.ok ⟨⟩, site.write file (.text text)) := by
  rw [Act.replaceFile, outcome_bind, outcome_get]
  cases h : site.outside.replaceFault <;> simp [h]

end Homelab
