/-!
# Results that agree

Two computations agree if they give the same value or fail with the same error.

## Main definitions

* `agree` — whether two results are the same

## Main results

* `agree_eq_true_iff` — agreement is equality
-/

namespace DiceFormula

variable {ε α : Type} [DecidableEq ε] [DecidableEq α]

/-- Whether two results are the same value or the same error. -/
def agree : Except ε α → Except ε α → Bool
  | .ok a, .ok b => a == b
  | .error d, .error e => d == e
  | _, _ => false

@[simp]
theorem agree_eq_true_iff (x y : Except ε α) : agree x y = true ↔ x = y := by
  cases x <;> cases y <;> simp [agree]

end DiceFormula
