import Mathlib.Tactic.Common

/-!
# Steps that may fail

What is known of two steps in a row, and of a step whose value or failure is rewritten, when it is
known how they end.
-/

namespace CloudOps

variable {ε δ α β : Type}

/-- Two steps succeed if the first does, and then the second. -/
theorem bind_eq_ok_iff {x : Except ε α} {f : α → Except ε β} {b : β} :
    (x >>= f) = .ok b ↔ ∃ a, x = .ok a ∧ f a = .ok b := by
  cases x with
  | error e => simp [bind, Except.bind]
  | ok a => simp [bind, Except.bind]

/-- They fail with the first that fails. -/
theorem bind_eq_error_iff {x : Except ε α} {f : α → Except ε β} {e : ε} :
    (x >>= f) = .error e ↔ x = .error e ∨ ∃ a, x = .ok a ∧ f a = .error e := by
  cases x with
  | error e => simp [bind, Except.bind]
  | ok a => simp [bind, Except.bind]

theorem exists_ok_iff {x : Except ε α} : (∃ a, x = .ok a) ↔ ∀ e, x ≠ .error e := by
  cases x with
  | error e => simp
  | ok a => simp

/-- The second step may fail for a cause that has nothing to do with what the first one gave. -/
theorem bind_eq_error_iff_of_forall {x : Except ε α} {f : α → Except ε β} {e : ε} {P : Prop}
    (own : ∀ a, f a = .error e ↔ P) :
    (x >>= f) = .error e ↔ x = .error e ∨ (∀ e, x ≠ .error e) ∧ P := by
  rw [bind_eq_error_iff, ← exists_ok_iff]
  simp only [own, exists_and_right]

theorem mapError_eq_ok_iff {x : Except ε α} {f : ε → δ} {a : α} :
    x.mapError f = .ok a ↔ x = .ok a := by
  cases x <;> simp [Except.mapError]

theorem mapError_eq_error_iff {x : Except ε α} {f : ε → δ} {d : δ} :
    x.mapError f = .error d ↔ ∃ e, x = .error e ∧ d = f e := by
  cases x <;> simp [Except.mapError, eq_comm]

theorem map_eq_ok_iff {x : Except ε α} {f : α → β} {b : β} :
    x.map f = .ok b ↔ ∃ a, x = .ok a ∧ b = f a := by
  cases x <;> simp [Except.map, eq_comm]

theorem map_eq_error_iff {x : Except ε α} {f : α → β} {e : ε} :
    x.map f = .error e ↔ x = .error e := by
  cases x <;> simp [Except.map]

end CloudOps
