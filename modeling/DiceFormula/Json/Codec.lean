import DiceFormula.Json
import DiceFormula.Outcome
import DiceFormula.Term

/-!
# Dice data in JSON

Signs, sides, groups of dice, atoms, terms and outcomes have a form in JSON, so that they can be
stored and sent. A choice is an object with one name, or just the name where nothing else is to be
said. Data with several parts are objects with a name for each part.

Each has one form in which it is written. Reading is more lenient: a choice that is just a name
may also be an object with that name and `null`, data with several parts may be an array of the
parts in order, and unknown parts are passed over. Numbers must be written as integers.

## Main definitions

* `Json.variant?`, `Json.parts?` — the two shapes that data can have
* `Sign.toJson`, `Sign.ofJson?`, and the same for `Sides`, `Dice`, `Atom`, `Term` and `Outcome`

## Main results

* `Json.count?_ofCount`, `Json.amount?_ofAmount` — the numbers that are written are read back
-/

namespace DiceFormula

namespace Json

/-! ### Numbers -/

/-- A 32-bit number. -/
def ofCount (n : UInt32) : Json := .integer n.toNat

/-- An amount. -/
def ofAmount (v : Amount) : Json := .integer v.toInt

/-- Reads a 32-bit number. -/
def count? : Json → Option UInt32
  | .integer n => if 0 ≤ n ∧ n < UInt32.size then some (UInt32.ofNat n.toNat) else none
  | _ => none

/-- Reads an amount. -/
def amount? : Json → Option Amount
  | .integer n => if Amount.InRange n then some (Int64.ofInt n) else none
  | _ => none

/-- Reads a sequence of amounts. -/
def amounts? : Json → Option (List Amount)
  | .array items => items.mapM amount?
  | _ => none

theorem count?_ofCount (n : UInt32) : count? (ofCount n) = some n := by
  have within : 0 ≤ (n.toNat : Int) ∧ (n.toNat : Int) < UInt32.size :=
    ⟨Int.natCast_nonneg _, Int.ofNat_lt.2 n.toNat_lt_size⟩
  rw [ofCount, count?, if_pos within, Int.toNat_natCast, UInt32.ofNat_toNat]

theorem amount?_ofAmount (v : Amount) : amount? (ofAmount v) = some v := by
  rw [ofAmount, amount?, if_pos (Amount.inRange_toInt v), Int64.ofInt_toInt]

theorem amounts?_map_ofAmount (values : List Amount) :
    amounts? (.array (values.map ofAmount)) = some values := by
  rw [amounts?]
  induction values with
  | nil => rfl
  | cons v rest ih => simp [amount?_ofAmount, ih]

/-! ### Choices and parts -/

/-- A choice: its name, and what is said under it if it is an object. -/
def variant? : Json → Option (String × Option Json)
  | .text name => some (name, none)
  | .object [(name, payload)] => some (name, some payload)
  | _ => none

/-- Whether nothing is said under the name of a choice. -/
def isUnit : Option Json → Bool
  | none => true
  | some .null => true
  | _ => false

/-- The value under a name. -/
def entry? (name : String) : List (String × Json) → Option Json
  | [] => none
  | (other, value) :: rest => if other = name then some value else entry? name rest

/-- The two parts of data: the values under their names, or the items of a sequence of two. -/
def parts? (first second : String) : Json → Option (Json × Json)
  | .object entries => do
    let a ← entry? first entries
    let b ← entry? second entries
    return (a, b)
  | .array [a, b] => some (a, b)
  | _ => none

end Json

/-! ### Signs and sides -/

namespace Sign

/-- A sign is written as a name. -/
def toJson : Sign → Json
  | .pos => .text "Pos"
  | .neg => .text "Neg"

/-- Reads a sign. -/
def ofJson? (j : Json) : Option Sign := do
  let (name, payload) ← j.variant?
  if Json.isUnit payload then
    if name = "Pos" then some .pos else if name = "Neg" then some .neg else none
  else none

end Sign

namespace Sides

/-- A number of faces is written under a name, and the percent sign as a name. -/
def toJson : Sides → Json
  | .poly n => .object [("Poly", Json.ofCount n.val)]
  | .percentile => .text "Percentile"

/-- Reads sides, of which there must be at least one. -/
def ofJson? (j : Json) : Option Sides := do
  let (name, payload) ← j.variant?
  if name = "Poly" then
    let n ← (← payload).count?
    (ofNumber n).toOption
  else if name = "Percentile" ∧ Json.isUnit payload then some .percentile
  else none

end Sides

/-! ### Groups of dice, atoms and terms -/

namespace Dice

/-- A group of dice is written with its number and its sides. -/
def toJson (d : Dice) : Json := .object [("num", Json.ofCount d.num), ("sides", d.sides.toJson)]

/-- Reads a group of dice. -/
def ofJson? (j : Json) : Option Dice := do
  let (num, sides) ← j.parts? "num" "sides"
  let n ← num.count?
  let s ← Sides.ofJson? sides
  return ⟨n, s⟩

end Dice

namespace Atom

/-- A constant and a group of dice are written under their names. -/
def toJson : Atom → Json
  | .constant n => .object [("Constant", Json.ofCount n)]
  | .dice d => .object [("Dice", d.toJson)]

/-- Reads an atom. -/
def ofJson? (j : Json) : Option Atom := do
  let (name, payload) ← j.variant?
  let value ← payload
  if name = "Constant" then
    let n ← value.count?
    return .constant n
  else if name = "Dice" then
    let d ← Dice.ofJson? value
    return .dice d
  else none

end Atom

namespace Term

/-- A term is written with its sign and its atom. -/
def toJson (t : Term) : Json := .object [("sign", t.sign.toJson), ("node", t.atom.toJson)]

/-- Reads a term. -/
def ofJson? (j : Json) : Option Term := do
  let (sign, atom) ← j.parts? "sign" "node"
  let g ← Sign.ofJson? sign
  let a ← Atom.ofJson? atom
  return ⟨g, a⟩

end Term

/-! ### Outcomes -/

namespace Outcome

/-- An outcome is written with its total and its values. -/
def toJson (o : Outcome) : Json :=
  .object [("roll", Json.ofAmount o.total), ("dice", .array (o.values.map Json.ofAmount))]

/-- Reads an outcome. The total is not compared with the values. -/
def ofJson? (j : Json) : Option Outcome := do
  let (total, values) ← j.parts? "roll" "dice"
  let v ← total.amount?
  let vs ← values.amounts?
  return ⟨v, vs⟩

end Outcome

end DiceFormula
