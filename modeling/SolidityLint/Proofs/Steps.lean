/-!
# Steps that may fail

A step answers with a value or with an error.  These are the answers of two steps in a row and of a
step whose value is changed, each as a statement about the answers of the single steps.  Where only
the kind of error matters, a step fails with one of that kind or it does not (`Fails`).
-/

namespace SolidityLint

variable {ε α β : Type} {x : Except ε α} {f : α → Except ε β} {a : α} {b : β} {e : ε}
  {P : ε → Prop}

/-! ## The answer of a step -/

theorem bind_eq_ok_iff : x >>= f = .ok b ↔ ∃ a, x = .ok a ∧ f a = .ok b := by
  cases x <;> simp [bind, Except.bind]

theorem pure_eq_ok_iff {b : α} : (pure a : Except ε α) = .ok b ↔ a = b := by
  simp [pure, Except.pure]

theorem map_eq_ok_iff {g : α → β} : x.map g = .ok b ↔ ∃ a, x = .ok a ∧ g a = b := by
  cases x <;> simp [Except.map]

theorem bind_eq_error_iff :
    x >>= f = .error e ↔ x = .error e ∨ ∃ a, x = .ok a ∧ f a = .error e := by
  cases x <;> simp [bind, Except.bind]

theorem pure_ne_error : (pure a : Except ε α) ≠ .error e := by
  simp [pure, Except.pure]

theorem map_eq_error_iff {g : α → β} : x.map g = .error e ↔ x = .error e := by
  cases x <;> simp [Except.map]

/-! ## Failing with an error of some kind -/

/-- Does a step fail with a fault of a certain kind? -/
def Fails (x : Except ε α) (P : ε → Prop) : Prop :=
  ∃ fault, x = .error fault ∧ P fault

@[simp] theorem fails_ok (a : α) : ¬Fails (.ok a : Except ε α) P :=
  fun ⟨_, h, _⟩ => nomatch h

@[simp] theorem fails_error {fault : ε} : Fails (.error fault : Except ε α) P ↔ P fault := by
  simp [Fails]

@[simp] theorem fails_pure (a : α) : ¬Fails (pure a : Except ε α) P :=
  fails_ok a

@[simp] theorem fails_throw {fault : ε} : Fails (throw fault : Except ε α) P ↔ P fault :=
  fails_error

theorem fails_bind_iff :
    Fails (x >>= f) P ↔ Fails x P ∨ ∃ a, x = .ok a ∧ Fails (f a) P := by
  cases x <;> simp [bind, Except.bind]

@[simp] theorem fails_map_iff {g : α → β} : Fails (x.map g) P ↔ Fails x P := by
  cases x <;> simp [Except.map]

theorem not_fails_bind (hx : ¬Fails x P) (hf : ∀ a, ¬Fails (f a) P) :
    ¬Fails (x >>= f) P := by
  rw [fails_bind_iff, or_iff_right hx]
  exact fun ⟨a, _, h⟩ => hf a h

end SolidityLint
