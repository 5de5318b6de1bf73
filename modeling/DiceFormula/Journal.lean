import DiceFormula.Prepared
import DiceFormula.Rolling

/-!
# The journal

What happens to a formula can be followed in a journal: what its text was read as, that it was
prepared, the value of each term that is rolled, and the outcome of each roll. Reading a text is
recorded whether or not it is a formula. Where there is no text to be read nothing is recorded.

## Main definitions

* `Event` — an entry of the journal
* `Event.topic`, `Event.severity`, `Event.message` — what it is about, how important it is, and
  its wording
* `Journal.ofInput` — the entries of preparing an input and rolling the formula some times
-/

namespace DiceFormula

/-- An entry of the journal. -/
inductive Event
  /-- A text without blanks was read, as a formula or with an error. -/
  | parsed (text : String) (result : Except SyntaxError Formula)
  /-- A formula was prepared. -/
  | built (input : String) (p : Prepared)
  /-- A term was rolled. -/
  | termRolled (value : Amount) (t : Term)
  /-- A formula was rolled. -/
  | rolled (o : Outcome) (f : Formula)

/-- What an event is about. -/
inductive Topic
  /-- Reading a text. -/
  | reading
  /-- A formula. -/
  | formula
  /-- A term of a formula. -/
  | term
deriving DecidableEq

/-- How important an event is. -/
inductive Severity
  /-- One of many details. -/
  | trace
  /-- Of interest when looking for mistakes. -/
  | debug
deriving DecidableEq

namespace Event

/-- What an event is about. -/
def topic : Event → Topic
  | .parsed _ _ => .reading
  | .built _ _ => .formula
  | .termRolled _ _ => .term
  | .rolled _ _ => .formula

/-- How important an event is. -/
def severity : Event → Severity
  | .parsed _ _ => .trace
  | .built _ _ => .debug
  | .termRolled _ _ => .trace
  | .rolled _ _ => .debug

/-- The wording of an entry. That a text was read is said in one word. What it was read as is kept in
the entry as it is, and is not put into words. -/
def message : Event → String
  | .parsed _ _ => "parsed"
  | .built input p =>
    "built " ++ Text.quoted input ++ " as " ++ p.formula.text ++ " with " ++
      Numeral.intText p.formula.terms.length ++ " terms, bounds " ++ p.low.text ++ "..=" ++
      p.high.text
  | .termRolled value t => "rolled " ++ value.text ++ " for term " ++ t.text
  | .rolled o f => "rolled " ++ o.text ++ " for " ++ f.text

end Event

namespace Journal

/-- The entries of one roll: each term with its value, then the outcome. -/
def ofOutcome (f : Formula) (o : Outcome) : List Event :=
  (o.values.zipWith Event.termRolled f.terms) ++ [.rolled o f]

/-- The entries of preparing an input and rolling the formula some times. -/
def ofInput {σ : Type} [FaceSource σ] (input : String) (rolls : Nat) (source : σ) :
    Except Overflow (List Event) :=
  let parsed := Event.parsed (Text.strip input) (Formula.ofSpacedText input)
  match Prepared.ofText input with
  | .ok p => do
    let (outcomes, _) ← p.formula.rollMany rolls source
    return parsed :: .built input p :: outcomes.flatMap (ofOutcome p.formula)
  | .error (.invalidFormula ..) => .ok [parsed]
  | .error (.overflow operation) => .error operation
  | .error _ => .ok []

end Journal

end DiceFormula
