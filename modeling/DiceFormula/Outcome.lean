import DiceFormula.Amount

/-!
# Outcomes

Rolling a formula gives a value for each term, and their total.

## Main definitions

* `Outcome` — a total and the values it comes from
* `Outcome.ofValues` — the outcome of given values, unless their sum overflows
* `Outcome.text` — an outcome as text: the total, then the values in brackets

## Main results

* `Outcome.ofValues_eq_ok_iff` — when given values have an outcome
-/

namespace DiceFormula

/-- What a roll of a formula gives. -/
structure Outcome where
  /-- The total of all terms. -/
  total : Amount
  /-- The signed value of each term, in the order in which the terms are written. -/
  values : List Amount
deriving DecidableEq

namespace Outcome

/-- The outcome of given values. -/
def ofValues (values : List Amount) : Except Overflow Outcome :=
  (Amount.sum values).map fun total => ⟨total, values⟩

/-- Values have an outcome exactly if they can be added up. -/
theorem ofValues_eq_ok_iff {values : List Amount} {o : Outcome} :
    ofValues values = .ok o ↔ o.values = values ∧ Amount.sum values = .ok o.total := by
  obtain ⟨total, values'⟩ := o
  rw [ofValues]
  cases Amount.sum values with
  | error overflow => simp [Except.map]
  | ok sum => simp [Except.map, and_comm, eq_comm]

/-- They have none for the same cause as their sum. -/
theorem ofValues_eq_error_iff {values : List Amount} {e : Overflow} :
    ofValues values = .error e ↔ Amount.sum values = .error e := by
  rw [ofValues]
  cases Amount.sum values with
  | error overflow => simp [Except.map]
  | ok sum => simp [Except.map]

/-- An outcome as text. -/
def text (o : Outcome) : String :=
  o.total.text ++ " [" ++ ", ".intercalate (o.values.map Amount.text) ++ "]"

end Outcome

end DiceFormula
