import DiceFormula.Dice
import DiceFormula.Sign

/-!
# Terms

A formula is a sum of terms: constants and groups of dice, each with a sign. A term has a lowest
and a highest value. For a group of dice these come from every die showing one and every die
showing its highest face, and a minus sign exchanges the two.

## Main definitions

* `Atom` — a constant or a group of dice
* `Term` — an atom with its sign
* `Term.text` — a term as text, with its sign in front
* `Term.diceCount`, `Term.faces` — how many dice a term rolls, and their faces
* `Term.low`, `Term.high` — the least and greatest value of a term

The bounds overflow together, exactly when the greatest total of a group of dice is no amount.
-/

namespace DiceFormula

/-- What is added or subtracted in a formula. -/
inductive Atom
  /-- A number. -/
  | constant (n : UInt32)
  /-- A group of dice. -/
  | dice (d : Dice)
deriving DecidableEq

namespace Atom

/-- An atom as it is written, character by character. -/
def chars : Atom → List Char
  | .constant n => Numeral.digits n.toNat
  | .dice d => d.chars

/-- An atom as text. -/
def text (a : Atom) : String := String.ofList a.chars

/-- How many dice are rolled. -/
def diceCount : Atom → UInt32
  | .constant _ => 0
  | .dice d => d.num

/-- The number of faces of each die; for a constant, its value. -/
def faces : Atom → UInt32
  | .constant n => n
  | .dice d => d.sides.count.val

/-- The least and the greatest magnitude. -/
def extremes : Atom → Except Overflow (Amount × Amount)
  | .constant n => .ok (Amount.ofCount n, Amount.ofCount n)
  | .dice d =>
    (Amount.mul (Amount.ofCount d.num) (Amount.ofCount d.sides.count.val)).map fun greatest =>
      (Amount.ofCount d.num, greatest)

end Atom

/-- A constant or a group of dice, added or subtracted. -/
structure Term where
  /-- Whether the term is added or subtracted. -/
  sign : Sign
  /-- What is added or subtracted. -/
  atom : Atom
deriving DecidableEq

namespace Term

/-- A term as it is written, sign first, character by character. -/
def chars (t : Term) : List Char := t.sign.symbol :: t.atom.chars

/-- A term as text, with its sign in front. -/
def text (t : Term) : String := String.ofList t.chars

/-- How many dice the term rolls; none for a constant. -/
def diceCount (t : Term) : UInt32 := t.atom.diceCount

/-- The number of faces of each die; for a constant, its value. -/
def faces (t : Term) : UInt32 := t.atom.faces

/-- The least value of the term. -/
def low (t : Term) : Except Overflow Amount := do
  let (least, greatest) ← t.atom.extremes
  match t.sign with
  | .pos => pure least
  | .neg => greatest.neg

/-- The greatest value of the term. -/
def high (t : Term) : Except Overflow Amount := do
  let (least, greatest) ← t.atom.extremes
  match t.sign with
  | .pos => pure greatest
  | .neg => least.neg

end Term

end DiceFormula
