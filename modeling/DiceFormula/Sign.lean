import DiceFormula.Amount

/-!
# Signs

Every term of a formula is added or subtracted; its sign says which.

## Main definitions

* `Sign`, `Sign.symbol` — the two signs and the characters they are written with
* `Sign.apply` — a signed amount, which overflows only for the least one
-/

namespace DiceFormula

/-- Whether a term is added or subtracted. -/
inductive Sign
  /-- The term is added. -/
  | pos
  /-- The term is subtracted. -/
  | neg
deriving DecidableEq

namespace Sign

/-- The character a sign is written with. -/
def symbol : Sign → Char
  | .pos => '+'
  | .neg => '-'

/-- A sign as text. -/
def text (g : Sign) : String := g.symbol.toString

/-- The amount itself, or its negative. -/
def apply : Sign → Amount → Except Overflow Amount
  | .pos, v => .ok v
  | .neg, v => v.neg

end Sign

end DiceFormula
