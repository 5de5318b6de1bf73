import DiceFormula.Sides
import DiceFormula.Text.Size

/-!
# Groups of dice

A dice literal such as `3d6`, `d20` or `2D%` stands for a group of equal dice: their number, a
marker `d` or `D`, and their sides. One die needs no number in front of the marker, and a group
may have no dice at all. Number and sides of a literal have at most four characters each; the
group itself has no such limit.

## Main definitions

* `Dice` — a number of dice and their sides
* `Dice.text` — the literal, with the number always written
* `DiceError`, `DiceError.message` — what is wrong with a dice literal, and its wording
* `Dice.ofChars`, `Dice.ofText` — reading a literal

## Main results

* `Dice.splitAtMarker_eq_some_iff` — a literal is split at the first marker
* `Dice.ofChars_eq_ok_iff` — when a literal is read
-/

namespace DiceFormula

/-- A group of equal dice. -/
structure Dice where
  /-- How many dice the group has. -/
  num : UInt32
  /-- The sides of each of them. -/
  sides : Sides
deriving DecidableEq

/-- What can be wrong with a dice literal. -/
inductive DiceError
  /-- There is no marker. -/
  | noMarker
  /-- The number of dice has more than four characters. -/
  | numTooLong
  /-- The sides have more than four characters. -/
  | sidesTooLong
  /-- The number of dice is no numeral. -/
  | invalidNum (reason : NumeralError)
  /-- The sides are neither the percent sign nor a positive numeral. -/
  | invalidSides (reason : NumeralError)
deriving DecidableEq

/-- The wording of a dice literal's error. -/
def DiceError.message : DiceError → String
  | .noMarker => "cannot parse string as dice without 'd' delimiter"
  | .numTooLong => "the number of dice cannot have more than four digits"
  | .sidesTooLong => "the number of sides cannot have more than four digits"
  | .invalidNum reason => "invalid number of dice: " ++ reason.message
  | .invalidSides reason => "invalid number of sides: " ++ reason.message

namespace Dice

/-! ### Writing -/

/-- The literal, character by character. -/
def chars (d : Dice) : List Char := Numeral.digits d.num.toNat ++ 'd' :: d.sides.chars

/-- The literal, with the number of dice always written. -/
def text (d : Dice) : String := String.ofList d.chars

/-! ### Reading -/

/-- Whether a character separates the number of dice from their sides. -/
def isMarker (c : Char) : Bool := c == 'd' || c == 'D'

/-- The largest size in bytes of the number of dice and of the sides in a literal. -/
def maxPartSize : Nat := 4

/-- What stands before the first marker and what stands after it. -/
def splitAtMarker : List Char → Option (List Char × List Char)
  | [] => none
  | c :: rest =>
    if isMarker c then some ([], rest)
    else (splitAtMarker rest).map fun parts => (c :: parts.1, parts.2)

/-- The number of dice; it is one where none is written. -/
def readNum (cs : List Char) : Except NumeralError UInt32 :=
  if cs.isEmpty then .ok 1 else Numeral.read cs

/-- Reads a dice literal. The sizes are looked at before the numbers, and the number of dice
before the sides. -/
def ofChars (cs : List Char) : Except DiceError Dice :=
  match splitAtMarker cs with
  | none => .error .noMarker
  | some (num, sides) =>
    if maxPartSize < Text.byteSize num then .error .numTooLong
    else if maxPartSize < Text.byteSize sides then .error .sidesTooLong
    else
      match readNum num with
      | .error reason => .error (.invalidNum reason)
      | .ok n =>
        match Sides.ofChars sides with
        | .error reason => .error (.invalidSides reason)
        | .ok s => .ok ⟨n, s⟩

/-- Reads a dice literal from a text. -/
def ofText (s : String) : Except DiceError Dice := ofChars s.toList

theorem splitAtMarker_eq_some_iff {cs num sides : List Char} :
    splitAtMarker cs = some (num, sides) ↔
      ∃ m, isMarker m = true ∧ cs = num ++ m :: sides ∧ ∀ c ∈ num, isMarker c = false := by
  induction cs generalizing num with
  | nil => simp [splitAtMarker]
  | cons c rest ih =>
    cases num with
    | nil =>
      by_cases hc : isMarker c = true
      · grind [splitAtMarker]
      · grind [splitAtMarker, Option.map_eq_some_iff]
    | cons n num =>
      by_cases hc : isMarker c = true
      · grind [splitAtMarker]
      · simp only [splitAtMarker, hc, Bool.false_eq_true, if_false, Option.map_eq_some_iff]
        constructor
        · rintro ⟨⟨before, after⟩, h, eq⟩
          cases eq
          obtain ⟨m, hm, rfl, none⟩ := ih.1 h
          exact ⟨m, hm, rfl, by grind⟩
        · rintro ⟨m, hm, eq, none⟩
          cases eq
          exact ⟨(num, sides), ih.2 ⟨m, hm, rfl, by grind⟩, rfl⟩

/-- A literal is read if both its parts are short enough and both are read. -/
theorem ofChars_eq_ok_iff {cs num sides : List Char} {d : Dice}
    (h : splitAtMarker cs = some (num, sides)) :
    ofChars cs = .ok d ↔
      Text.byteSize num ≤ maxPartSize ∧ Text.byteSize sides ≤ maxPartSize ∧
        readNum num = .ok d.num ∧ Sides.ofChars sides = .ok d.sides := by
  obtain ⟨n, s⟩ := d
  simp only [ofChars, h]
  split
  case isTrue long => simp [Nat.not_le_of_lt long]
  case isFalse numShort =>
    split
    case isTrue long => simp [Nat.not_le_of_lt long]
    case isFalse sidesShort =>
      cases hnum : readNum num <;> cases hsides : Sides.ofChars sides <;>
        simp [Nat.le_of_not_lt numShort, Nat.le_of_not_lt sidesShort]

end Dice

end DiceFormula
