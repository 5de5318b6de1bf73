import DiceFormula.Prepared
import DiceFormula.Rolling

/-!
# Sessions

A session holds a prepared formula together with the source it is rolled from. Rolls, single
draws from the source and questions about the formula may follow each other in any order; all
draws come from the one source. At the end the source may be released: the formula is then gone,
and only draws are left.

## Main definitions

* `Step`, `Answer` — what can be asked in a session, and what is answered
* `Session` — the formula, while there is one, and the source
* `Session.start`, `Session.ofText` — starting a session
* `StepError` — why a step gives no answer
* `Session.perform`, `Session.performAll` — one step, and one step after the other
-/

namespace DiceFormula

/-- What can be asked in a session. -/
inductive Step
  /-- Roll the formula. -/
  | roll
  /-- Roll the formula and give only the total. -/
  | evaluate
  /-- The least total. -/
  | low
  /-- The greatest total. -/
  | high
  /-- The text of the formula. -/
  | text
  /-- The texts of its terms. -/
  | terms
  /-- Roll one of the terms, which are numbered from zero. -/
  | term (index : Nat)
  /-- Draw the face of a single die. -/
  | face (n : FaceCount)
  /-- Draw the faces of a group of dice. -/
  | faces (d : Dice)
  /-- Draw the first faces of a group of dice. -/
  | leadingFaces (d : Dice) (k : Nat)
  /-- Roll a group of dice. -/
  | dice (d : Dice)
  /-- Release the source. -/
  | release

/-- What is answered in a session. -/
inductive Answer
  /-- A roll of the formula. -/
  | outcome (o : Outcome)
  /-- A total, a bound or the value of a term. -/
  | amount (v : Amount)
  /-- The text of the formula. -/
  | text (s : String)
  /-- The texts of its terms. -/
  | texts (all : List String)
  /-- The face of a single die. -/
  | face (n : UInt32)
  /-- The faces of a group of dice. -/
  | faces (all : List UInt32)
  /-- The source has been released. -/
  | released

/-- A formula and the source it is rolled from. -/
structure Session (σ : Type) where
  /-- The formula, until the source is released. -/
  formula? : Option Prepared
  /-- The source. -/
  source : σ

/-- Why a step gives no answer. -/
inductive StepError
  /-- A roll overflows. -/
  | overflow (operation : Overflow)
  /-- The formula is gone. -/
  | released
  /-- The formula has no term of this number. -/
  | noTerm (index : Nat)
deriving DecidableEq

namespace Session

variable {σ : Type} [FaceSource σ]

/-- Starts a session. -/
def start (p : Prepared) (source : σ) : Session σ := ⟨some p, source⟩

/-- Starts a session with the formula that is written in a text. -/
def ofText (input : String) (source : σ) : Except BuildError (Session σ) :=
  (Prepared.ofText input).map fun p => start p source

omit [FaceSource σ] in
theorem ofText_of_ok {input : String} {p : Prepared} (h : Prepared.ofText input = .ok p)
    (source : σ) : ofText input source = .ok (start p source) := by
  rw [ofText, h]
  rfl

omit [FaceSource σ] in
theorem ofText_of_error {input : String} {e : BuildError} (h : Prepared.ofText input = .error e)
    (source : σ) : ofText input source = .error e := by
  rw [ofText, h]
  rfl

omit [FaceSource σ] in
/-- A session is started on a text exactly if the text is read as a formula with bounds. -/
theorem ofText_eq_ok_iff {input : String} {source : σ} {s : Session σ} :
    ofText input source = .ok s ↔
      ∃ p, s = start p source ∧ Formula.ofSpacedText input = .ok p.formula := by
  simp only [← Prepared.ofText_eq_ok_iff, ofText]
  cases Prepared.ofText input <;> simp [Except.map, eq_comm]

/-- Rolls from the source of a session. -/
def draw {α : Type} (s : Session σ) (rolling : Rolling σ α) (answer : α → Answer) :
    Except StepError (Answer × Session σ) :=
  match rolling s.source with
  | .ok (a, source) => .ok (answer a, { s with source := source })
  | .error operation => .error (.overflow operation)

/-- Performs a step that needs the formula. -/
def withFormula (s : Session σ)
    (perform : Prepared → Except StepError (Answer × Session σ)) :
    Except StepError (Answer × Session σ) :=
  match s.formula? with
  | some p => perform p
  | none => .error .released

/-- Performs one step. -/
def perform (s : Session σ) : Step → Except StepError (Answer × Session σ)
  | .roll => s.withFormula fun p => s.draw p.formula.roll .outcome
  | .evaluate => s.withFormula fun p => s.draw p.formula.roll fun o => .amount o.total
  | .low => s.withFormula fun p => .ok (.amount p.low, s)
  | .high => s.withFormula fun p => .ok (.amount p.high, s)
  | .text => s.withFormula fun p => .ok (.text p.formula.text, s)
  | .terms => s.withFormula fun p => .ok (.texts (p.formula.terms.map Term.text), s)
  | .term index => s.withFormula fun p =>
    match p.formula.terms[index]? with
    | some t => s.draw t.roll .amount
    | none => .error (.noTerm index)
  | .face n =>
    let (face, source) := FaceSource.face n s.source
    .ok (.face face, { s with source := source })
  | .faces d =>
    let (faces, source) := FaceSource.faces d s.source
    .ok (.faces faces, { s with source := source })
  | .leadingFaces d k =>
    let (faces, source) := FaceSource.leadingFaces d k s.source
    .ok (.faces faces, { s with source := source })
  | .dice d => s.draw d.roll .amount
  | .release => s.withFormula fun _ => .ok (.released, { s with formula? := none })

/-- Performs steps one after the other. Each answer comes with the source that the step leaves. -/
def performAll (s : Session σ) : List Step → Except StepError (List (Answer × σ) × Session σ)
  | [] => .ok ([], s)
  | step :: rest => do
    let (answer, next) ← s.perform step
    let (answers, last) ← next.performAll rest
    return ((answer, next.source) :: answers, last)

end Session

end DiceFormula
