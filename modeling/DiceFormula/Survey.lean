import DiceFormula.Prepared
import DiceFormula.Rolling

/-!
# Surveys of many rolls

Rolling a formula many times shows whether its rolls keep to their bounds, whether their totals
are the sums of their values, and how far apart they lie.

## Main definitions

* `Survey`, `Survey.ofOutcomes` — what some rolls show
* `Survey.ofRolls` — rolling a formula and looking at the outcomes
-/

namespace DiceFormula

/-- What some rolls of a formula show. -/
structure Survey where
  /-- Every total is within the bounds of the formula. -/
  totalInBounds : Bool
  /-- Every roll has a value for each term, within the bounds of the term. -/
  termsInBounds : Bool
  /-- Every total is the sum of the values. -/
  sumsMatch : Bool
  /-- Not all the totals are the same. -/
  varies : Bool
  /-- The least total came up. -/
  hitsLow : Bool
  /-- The greatest total came up. -/
  hitsHigh : Bool
deriving DecidableEq

namespace Survey

/-- Whether an amount lies between two bounds, both of which exist. -/
def within (low high : Except Overflow Amount) (v : Amount) : Bool :=
  match low, high with
  | .ok low, .ok high => low ≤ v && v ≤ high
  | _, _ => false

/-- Whether there is a value for each term, within its bounds. -/
def valuesInBounds : List Term → List Amount → Bool
  | [], [] => true
  | t :: terms, v :: values => within t.low t.high v && valuesInBounds terms values
  | _, _ => false

/-- What some rolls of a formula show. -/
def ofOutcomes (p : Prepared) (outcomes : List Outcome) : Survey where
  totalInBounds := outcomes.all fun o => p.low ≤ o.total && o.total ≤ p.high
  termsInBounds := outcomes.all fun o => valuesInBounds p.formula.terms o.values
  sumsMatch := outcomes.all fun o => Amount.exactSum o.values == o.total.toInt
  varies := outcomes.any fun o => outcomes.head?.any fun first => o.total != first.total
  hitsLow := outcomes.any fun o => o.total == p.low
  hitsHigh := outcomes.any fun o => o.total == p.high

/-- What some rolls from a source show. -/
def ofRolls {σ : Type} [FaceSource σ] (p : Prepared) (rolls : Nat) (source : σ) :
    Except Overflow Survey := do
  let (outcomes, _) ← p.formula.rollMany rolls source
  return ofOutcomes p outcomes

end Survey

end DiceFormula
