/-
  Golden.Proofs.World.Steps
  ────────────────────────────────
  **WHAT EACH STEP OF AN OPERATION DOES.**

  Two operations one after the other have the outcome of the second in the
  world that the first leaves; a failure of the first is the failure of both:

      outcome (x >>= f) w  =  outcome (f a) u     where  outcome x w = (ok a, u)

  Only the steps that say so change the world.
-/
import Golden.World

namespace Golden

/-! ## §1. Results. -/

section Results

variable {ε ε' α β : Type}

/-- A calculation after another succeeds just if both do. -/
theorem bind_eq_ok_iff {x : Except ε α} {f : α → Except ε β} {b : β} :
    x >>= f = .ok b ↔ ∃ a, x = .ok a ∧ f a = .ok b := by
  cases x <;> simp [bind, Except.bind]

@[simp] theorem ok_bind (a : α) (f : α → Except ε β) : (Except.ok a >>= f) = f a := rfl

@[simp] theorem mapError_ok (f : ε → ε') (a : α) : (Except.ok a).mapError f = .ok a := rfl

@[simp] theorem mapError_error (f : ε → ε') (e : ε) :
    (Except.error e : Except ε α).mapError f = .error (f e) := rfl

theorem mapError_eq_ok_iff {x : Except ε α} {f : ε → ε'} {a : α} :
    x.mapError f = .ok a ↔ x = .ok a := by
  cases x <;> simp

theorem ite_eq_ok_iff {p : Prop} [Decidable p] {a b : α} {e : ε} :
    (if p then Except.ok a else .error e) = .ok b ↔ p ∧ a = b := by
  by_cases hp : p <;> simp [hp]

end Results

/-! ## §2. Steps. -/

namespace Run

variable {α β : Type} (w : World)

theorem outcome_bind (x : Run α) (f : α → Run β) :
    outcome (x >>= f) w = match outcome x w with
      | (.ok a, u) => outcome (f a) u
      | (.error e, u) => (.error e, u) := by
  unfold outcome
  simp only [ExceptT.run_bind, StateT.run_bind]
  obtain ⟨result, u⟩ := (x.run).run w
  cases result <;> rfl

theorem outcome_bind_of_ok {x : Run α} {w u : World} {a : α} (h : outcome x w = (.ok a, u))
    (f : α → Run β) : outcome (x >>= f) w = outcome (f a) u := by
  rw [outcome_bind, h]

theorem outcome_bind_of_error {x : Run α} {w u : World} {e : Failure}
    (h : outcome x w = (.error e, u)) (f : α → Run β) :
    outcome (x >>= f) w = (.error e, u) := by
  rw [outcome_bind, h]

/-- Two operations that leave the world as it is give what their results give. -/
theorem outcome_bind_still {x : Run α} {f : α → Run β} {r : Except Failure α}
    {g : α → Except Failure β} (hx : outcome x w = (r, w)) (hf : ∀ a, outcome (f a) w = (g a, w)) :
    outcome (x >>= f) w = (r >>= g, w) := by
  rw [outcome_bind, hx]
  cases r with
  | error e => rfl
  | ok a => exact hf a

@[simp] theorem outcome_ofExcept {ε : Type} (cause : ε → Failure) (x : Except ε α) :
    outcome (ofExcept cause x) w = (x.mapError cause, w) := by
  cases x <;> rfl

@[simp] theorem outcome_get : outcome get w = (.ok w, w) := rfl

@[simp] theorem outcome_volume : outcome volume w = (.ok w.volume, w) := rfl

/-- Reading the settings of the environment changes nothing. -/
theorem outcome_settings :
    outcome settings w = ((Settings.ofEnvironment w.environment).mapError .settings, w) := by
  unfold settings environment
  rw [outcome_bind, outcome_bind, outcome_get]
  exact outcome_ofExcept w _ _

@[simp] theorem outcome_setVolume (v : Volume) :
    outcome (setVolume v) w = (.ok (), { w with volume := v }) := rfl

end Run

end Golden
