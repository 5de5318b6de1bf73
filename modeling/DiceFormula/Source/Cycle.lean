import DiceFormula.Source.FaceStream

/-!
# A predictable source

A cycle counts upward in equal steps and shows each number on the die at hand, where numbers
beyond the last face start again at one. It serves for examples, since its faces can be
told in advance.

## Main definitions

* `Cycle` — the next number, the step, and how many faces have been drawn
* `Cycle.draw` — one face of a die

## Main results

* `Cycle.onDie_draw` — every face is on the die
-/

namespace DiceFormula

/-- A source that counts upward. -/
structure Cycle where
  /-- The number to be shown next. -/
  next : UInt32
  /-- By how much the number grows from one face to the next. -/
  step : UInt32
  /-- How many faces have been drawn. -/
  drawn : Nat := 0
deriving DecidableEq

namespace Cycle

/-- The face that shows a number on a die. Zero is shown like one. -/
def shown (n : FaceCount) (number : UInt32) : UInt32 :=
  UInt32.ofNat ((number.toNat - 1) % n.toNat + 1)

/-- Draws one face. The number wraps around at `2 ^ 32`, where a counter whose additions are checked
would stop with an overflow. -/
def draw (n : FaceCount) (s : Cycle) : UInt32 × Cycle :=
  (shown n s.next, { s with next := s.next + s.step, drawn := s.drawn + 1 })

instance : FaceStream Cycle where
  draw _ n s := s.draw n
  drawsWholeGroups := true

theorem onDie_shown (n : FaceCount) (number : UInt32) : n.OnDie (shown n number) := by
  have low := Nat.mod_lt (number.toNat - 1) n.toNat_pos
  have high := n.toNat_lt
  have : (shown n number).toNat = (number.toNat - 1) % n.toNat + 1 :=
    UInt32.toNat_ofNat_of_lt' (show _ < UInt32.size by omega)
  unfold FaceCount.OnDie
  omega

instance : LawfulFaceStream Cycle where
  onDie_draw _ n s := onDie_shown n s.next

end Cycle

end DiceFormula
