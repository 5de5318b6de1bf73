import DiceFormula.Formula
import DiceFormula.Outcome
import DiceFormula.Source.FaceSource

/-!
# Rolling

A group of dice is rolled by drawing its faces from a source and adding them up; a constant draws
nothing. The terms of a formula are rolled in the order in which they are written, all from the
same source. Every sum is checked, so a roll may overflow instead of giving a value.

## Main definitions

* `Rolling` — computations that draw from a source and may overflow
* `Dice.roll`, `Term.roll`, `Formula.roll` — rolling a group of dice, a term and a formula
* `Formula.rollMany` — rolling a formula a number of times

## Main results

* `Rolling.bind_eq_ok_iff`, `Rolling.lift_eq_ok_iff` — when a computation succeeds
-/

namespace DiceFormula

/-- Computations that draw from a source and may overflow. -/
abbrev Rolling (σ α : Type) := StateT σ (Except Overflow) α

namespace Rolling

variable {σ α β : Type}

/-- One computation after another succeeds if both do, the second from what the first leaves. -/
theorem bind_eq_ok_iff {x : Rolling σ α} {f : α → Rolling σ β} {b : β} {s t : σ} :
    (x >>= f) s = .ok (b, t) ↔ ∃ a m, x s = .ok (a, m) ∧ f a m = .ok (b, t) := by
  show Except.bind (x s) (fun p => f p.1 p.2) = _ ↔ _
  cases x s with
  | error e => simp [Except.bind]
  | ok p =>
    show f p.1 p.2 = .ok (b, t) ↔ _
    exact ⟨fun h => ⟨p.1, p.2, rfl, h⟩, fun ⟨_, _, eq, h⟩ => by cases eq; exact h⟩

/-- Checked arithmetic draws nothing. -/
theorem lift_eq_ok_iff {x : Except Overflow α} {a : α} {s t : σ} :
    (liftM x : Rolling σ α) s = .ok (a, t) ↔ x = .ok a ∧ t = s := by
  show Except.bind x (fun a => .ok (a, s)) = .ok (a, t) ↔ _
  cases x with
  | error e => simp [Except.bind]
  | ok b => simp [Except.bind, eq_comm (a := s)]

end Rolling

variable {σ : Type} [FaceSource σ]

/-- Rolls a group of dice and adds up the faces. -/
def Dice.roll (d : Dice) : Rolling σ Amount := fun s =>
  let (faces, next) := FaceSource.faces d s
  (Amount.sum (faces.map Amount.ofCount)).map fun total => (total, next)

/-- Rolls the magnitude of a term. -/
def Atom.roll : Atom → Rolling σ Amount
  | .constant n => pure (Amount.ofCount n)
  | .dice d => d.roll

/-- Rolls a term. -/
def Term.roll (t : Term) : Rolling σ Amount := do
  let magnitude ← t.atom.roll
  t.sign.apply magnitude

/-- Rolls the terms of a formula one after the other. -/
def Formula.roll (f : Formula) : Rolling σ Outcome := do
  let values ← f.terms.mapM Term.roll
  Outcome.ofValues values

/-- Rolls a formula a number of times. -/
def Formula.rollMany (f : Formula) (rolls : Nat) : Rolling σ (List Outcome) :=
  (List.replicate rolls f).mapM Formula.roll

end DiceFormula
