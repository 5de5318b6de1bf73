import DiceFormula.Formula.Reading
import DiceFormula.Json

/-!
# Prepared formulas

A formula is prepared for rolling by adding up its bounds. This is where arithmetic could
overflow, so a prepared formula is one whose bounds exist.

## Main definitions

* `Prepared` — a formula with its least and greatest total
* `Formula.prepare` — adding up the bounds
* `BuildError`, `BuildError.message` — why there is no prepared formula
* `Prepared.ofText`, `Prepared.ofText?`, `Prepared.ofJson` — preparing what was passed as input
* `Prepared.sameBuild` — whether two texts give the same formula

## Main results

* `Formula.prepare_eq_ok_iff` — a formula is prepared exactly if it has bounds
* `Prepared.ofText_eq_ok_iff` — so is a text, if it is read as a formula
-/

namespace DiceFormula

/-- A formula with its bounds. -/
structure Prepared where
  /-- The formula. -/
  formula : Formula
  /-- Its least total. -/
  low : Amount
  /-- Its greatest total. -/
  high : Amount
  /-- The least total is the sum of the least values. -/
  low_eq : formula.low = .ok low
  /-- The greatest total is the sum of the greatest values. -/
  high_eq : formula.high = .ok high
deriving DecidableEq

/-- Adds up the bounds of a formula, the least values first. -/
def Formula.prepare (f : Formula) : Except Overflow Prepared :=
  match low_eq : f.low, high_eq : f.high with
  | .ok low, .ok high => .ok ⟨f, low, high, low_eq, high_eq⟩
  | .error overflow, _ => .error overflow
  | _, .error overflow => .error overflow

theorem Formula.prepare_eq_ok_iff {f : Formula} {p : Prepared} :
    f.prepare = .ok p ↔ p.formula = f := by
  obtain ⟨formula, low, high, low_eq, high_eq⟩ := p
  unfold Formula.prepare
  constructor
  · intro h
    split at h <;> cases h
    rfl
  · rintro rfl
    dsimp only
    split <;> grind

/-- Why an input gives no prepared formula. -/
inductive BuildError
  /-- There is no input, or an empty one. -/
  | missingInput
  /-- The input is a value of another kind than a text. -/
  | wrongKind (found : ValueKind)
  /-- The input is not a formula. -/
  | invalidFormula (input : String) (source : SyntaxError)
  /-- The bounds of the formula overflow. -/
  | overflow (operation : Overflow)
deriving DecidableEq

/-- The wording of an error. -/
def BuildError.message : BuildError → String
  | .missingInput => "the input expression has not been passed"
  | .wrongKind found => "the input expression must be a string, found " ++ found.text
  | .invalidFormula input source =>
    "the input expression '" ++ input ++ "' is not valid: " ++ source.message
  | .overflow operation => operation.message

namespace Prepared

/-- Prepares the formula that is written in a text, in which blanks count for nothing. -/
def ofText (input : String) : Except BuildError Prepared :=
  if input.isEmpty then .error .missingInput
  else
    match Formula.ofSpacedText input with
    | .error source => .error (.invalidFormula input source)
    | .ok f =>
      match f.prepare with
      | .error operation => .error (.overflow operation)
      | .ok p => .ok p

/-- A text is prepared exactly if it is read as a formula with bounds. -/
theorem ofText_eq_ok_iff {input : String} {p : Prepared} :
    ofText input = .ok p ↔ Formula.ofSpacedText input = .ok p.formula := by
  unfold ofText
  split
  case isTrue empty =>
    rw [String.isEmpty_iff.1 empty]
    simp [Formula.ofSpacedText, Formula.ofText, Text.strip, Text.stripChars, Token.scan,
      Formula.ofTokens]
  case isFalse =>
    cases Formula.ofSpacedText input with
    | error source => simp
    | ok f =>
      have := Formula.prepare_eq_ok_iff (f := f) (p := p)
      cases prepared : f.prepare with
      | error operation => grind
      | ok q => grind

/-- Prepares the formula in a text that may be absent. -/
def ofText? : Option String → Except BuildError Prepared
  | none => .error .missingInput
  | some input => ofText input

/-- Prepares the formula in a JSON value, which must be a text. -/
def ofJson : Json → Except BuildError Prepared
  | .null => .error .missingInput
  | .text input => ofText input
  | .boolean _ => .error (.wrongKind .boolean)
  | .integer _ => .error (.wrongKind .number)
  | .decimal _ => .error (.wrongKind .number)
  | .array _ => .error (.wrongKind .array)
  | .object _ => .error (.wrongKind .object)

/-- Whether two texts give the same formula, or the same error. -/
def sameBuild (a b : String) : Bool := agree ((ofText a).map formula) ((ofText b).map formula)

end Prepared

end DiceFormula
