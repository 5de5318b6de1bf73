import DiceFormula.Term

/-!
# Formulas

A formula is a constant or group of dice followed by any number of terms. What comes first has no
sign of its own: it counts as added, and the text of the formula leaves its sign out.

## Main definitions

* `Formula` — a first atom and the terms after it
* `Formula.terms` — all the terms, of which there is at least one
* `Formula.text` — the formula as text, without blanks
* `Formula.low`, `Formula.high` — the sums of the bounds of its terms

## Main results

* `Formula.ofTerms?_eq_some_iff` — formulas are the lists of terms that start with a positive sign
* `Formula.terms_injective` — a formula is given by its terms
-/

namespace DiceFormula

/-- A sum of constants and groups of dice. -/
structure Formula where
  /-- What comes first. -/
  head : Atom
  /-- The terms after it. -/
  tail : List Term
deriving DecidableEq

namespace Formula

/-- The terms of a formula, in the order in which they are written. -/
def terms (f : Formula) : List Term := ⟨.pos, f.head⟩ :: f.tail

/-- The formula with given terms, if there is a first one and it is positive. -/
def ofTerms? : List Term → Option Formula
  | ⟨.pos, head⟩ :: tail => some ⟨head, tail⟩
  | _ => none

/-- A formula as it is written, character by character. -/
def chars (f : Formula) : List Char := f.head.chars ++ f.tail.flatMap Term.chars

/-- A formula as text. -/
def text (f : Formula) : String := String.ofList f.chars

/-- The sum of the least values of the terms. -/
def low (f : Formula) : Except Overflow Amount := do
  let values ← f.terms.mapM Term.low
  Amount.sum values

/-- The sum of the greatest values of the terms. -/
def high (f : Formula) : Except Overflow Amount := do
  let values ← f.terms.mapM Term.high
  Amount.sum values

theorem ofTerms?_eq_some_iff {ts : List Term} {f : Formula} :
    ofTerms? ts = some f ↔ ts = f.terms := by
  match ts with
  | [] => simp [ofTerms?, terms]
  | ⟨.pos, head⟩ :: tail => cases f; simp [ofTerms?, terms]
  | ⟨.neg, head⟩ :: tail => simp [ofTerms?, terms]

/-- Formulas with the same terms are the same. -/
theorem terms_injective : Function.Injective terms := by
  intro f h hterms
  have hf := ofTerms?_eq_some_iff.mpr hterms
  rw [ofTerms?_eq_some_iff.mpr rfl] at hf
  exact Option.some.inj hf

end Formula

end DiceFormula
