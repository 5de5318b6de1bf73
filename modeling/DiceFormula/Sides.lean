import DiceFormula.Text.Numeral

/-!
# The sides of a die

A die has a positive number of faces, which show the numbers from one upward. The percent sign
is another notation for a hundred of them; a formula remembers which notation was used.

## Main definitions

* `FaceCount` — a positive 32-bit number
* `Sides`, `Sides.count` — the notation of a die, and how many faces it stands for
* `Sides.text` — the notation as text
* `Sides.ofChars`, `Sides.ofText` — reading it
* `Sides.ofNumber` — the die with a given number of faces

## Main results

* `FaceCount.toNat_pos` — no die is without faces
-/

namespace DiceFormula

/-- The number of faces of a die. -/
structure FaceCount where
  /-- The number itself. -/
  val : UInt32
  /-- A die has at least one face. -/
  pos : 0 < val
deriving DecidableEq

namespace FaceCount

/-- The number of faces as a natural number. -/
def toNat (n : FaceCount) : Nat := n.val.toNat

/-- A number as a number of faces, which must not be zero. -/
def ofNumber (n : UInt32) : Except NumeralError FaceCount :=
  if h : 0 < n then .ok ⟨n, h⟩ else .error .zero

/-- Reads a numeral that must not be zero. -/
def ofChars (cs : List Char) : Except NumeralError FaceCount :=
  match Numeral.read cs with
  | .ok n => ofNumber n
  | .error e => .error e

theorem toNat_pos (n : FaceCount) : 0 < n.toNat := UInt32.lt_iff_toNat_lt.1 n.pos

theorem toNat_lt (n : FaceCount) : n.toNat < UInt32.size := n.val.toNat_lt_size

end FaceCount

/-- How the sides of a die are given. -/
inductive Sides
  /-- A number of faces. -/
  | poly (count : FaceCount)
  /-- The percent sign. -/
  | percentile
deriving DecidableEq

namespace Sides

/-- The number of faces that the notation stands for. -/
def count : Sides → FaceCount
  | .poly n => n
  | .percentile => ⟨100, by decide⟩

/-- The notation, character by character. -/
def chars : Sides → List Char
  | .poly n => Numeral.digits n.toNat
  | .percentile => ['%']

/-- The notation as text. -/
def text (s : Sides) : String := String.ofList s.chars

/-- Reads the percent sign or a positive numeral. -/
def ofChars (cs : List Char) : Except NumeralError Sides :=
  if cs = ['%'] then .ok .percentile else (FaceCount.ofChars cs).map .poly

/-- Reads the sides of a die from a text. -/
def ofText (s : String) : Except NumeralError Sides := ofChars s.toList

/-- The die with a given number of faces, which must not be zero. -/
def ofNumber (n : UInt32) : Except NumeralError Sides := (FaceCount.ofNumber n).map .poly

end Sides

end DiceFormula
