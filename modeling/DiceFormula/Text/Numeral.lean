/-!
# Decimal numerals

Numbers are written with ASCII digits, most significant first and without leading zeros. Reading
is more lenient: leading zeros count for nothing and one plus sign may stand in front. A reader
works from left to right under a limit, and the first thing wrong with a numeral is the error it
reports: a character that is no digit, or a digit that takes the value over the limit, whichever
comes first.

## Main definitions

* `Numeral.digits`, `Numeral.intDigits` — the written form of a natural number and of an integer
* `NumeralError`, `NumeralError.message` — what is wrong with a numeral, and its wording
* `Numeral.readDigits` — reading a run of digits under a limit
* `Numeral.read` — reading a whole numeral as a 32-bit number

## Main results

* `Numeral.readDigits_eq_ok_iff` — a run of digits is read exactly if its value is within the limit
* `Numeral.read_digits` — the written form of a number is read as the number
-/

namespace DiceFormula

/-- What can be wrong with a numeral. -/
inductive NumeralError
  /-- There is nothing to read. -/
  | empty
  /-- Some character is not a decimal digit. -/
  | invalidDigit
  /-- The value exceeds the largest number that is allowed. -/
  | tooLarge
  /-- The value is zero where a positive number is needed. -/
  | zero
deriving DecidableEq

/-- The wording of a numeral's error. -/
def NumeralError.message : NumeralError → String
  | .empty => "cannot parse integer from empty string"
  | .invalidDigit => "invalid digit found in string"
  | .tooLarge => "number too large to fit in target type"
  | .zero => "number would be zero for non-zero type"

namespace Numeral

/-! ### Writing -/

/-- The decimal digits of a natural number. -/
def digits (n : Nat) : List Char := Nat.toDigits 10 n

/-- The decimal digits of an integer, after a minus sign if it is negative. -/
def intDigits : Int → List Char
  | .ofNat n => digits n
  | .negSucc n => '-' :: digits (n + 1)

/-- An integer as text. -/
def intText (n : Int) : String := String.ofList (intDigits n)

/-! ### Reading -/

/-- The largest number that a numeral may denote. -/
def limit : Nat := UInt32.size - 1

/-- The value of a decimal digit. -/
def digitValue (c : Char) : Nat := c.toNat - '0'.toNat

/-- Reads the remaining digits of a numeral whose digits so far have the value `acc`. -/
def readDigits (bound acc : Nat) : List Char → Except NumeralError Nat
  | [] => .ok acc
  | c :: rest =>
    if c.isDigit then
      if 10 * acc + digitValue c ≤ bound then readDigits bound (10 * acc + digitValue c) rest
      else .error .tooLarge
    else .error .invalidDigit

/-- The digits of a numeral, without the plus sign that may stand in front of them. -/
def dropPlus : List Char → List Char
  | '+' :: c :: rest => c :: rest
  | cs => cs

/-- Reads a numeral. A sign on its own counts as a character that is no digit. -/
def read (cs : List Char) : Except NumeralError UInt32 :=
  if cs.isEmpty then .error .empty
  else (readDigits limit 0 (dropPlus cs)).map UInt32.ofNat

/-! ### What is read is what was written -/

private theorem le_ofDigitChars (acc : Nat) (cs : List Char) : acc ≤ Nat.ofDigitChars 10 cs acc := by
  induction cs generalizing acc with
  | nil => exact Nat.le_refl acc
  | cons c rest ih =>
    rw [Nat.ofDigitChars_cons]
    exact Nat.le_trans (by omega) (ih _)

/-- A run of digits is read exactly if its value is within the limit. -/
theorem readDigits_eq_ok_iff {bound acc n : Nat} {cs : List Char} (hacc : acc ≤ bound) :
    readDigits bound acc cs = .ok n ↔
      (∀ c ∈ cs, c.isDigit = true) ∧ Nat.ofDigitChars 10 cs acc = n ∧ n ≤ bound := by
  induction cs generalizing acc with
  | nil =>
    simp only [readDigits, Except.ok.injEq, Nat.ofDigitChars_nil]
    exact ⟨fun h => ⟨nofun, h, h ▸ hacc⟩, fun h => h.2.1⟩
  | cons c rest ih =>
    have value : Nat.ofDigitChars 10 (c :: rest) acc =
        Nat.ofDigitChars 10 rest (10 * acc + digitValue c) := Nat.ofDigitChars_cons
    rw [readDigits, value, List.forall_mem_cons]
    split
    case isTrue digit =>
      split
      case isTrue within => simp [ih within, digit]
      case isFalse beyond =>
        refine ⟨nofun, fun ⟨_, value, le⟩ => ?_⟩
        have := le_ofDigitChars (10 * acc + digitValue c) rest
        omega
    case isFalse digit => simp [digit]

theorem isDigit_of_mem_digits {n : Nat} {c : Char} (h : c ∈ digits n) : c.isDigit = true :=
  Nat.isDigit_of_mem_toDigits (by decide) (by decide) h

theorem digits_ne_nil (n : Nat) : digits n ≠ [] := Nat.toDigits_ne_nil

/-- There is no plus sign to drop in front of digits. -/
theorem dropPlus_of_isDigit {cs : List Char} (h : ∀ c ∈ cs, c.isDigit = true) :
    dropPlus cs = cs := by
  unfold dropPlus
  split
  case h_1 c rest => exact absurd (h '+' List.mem_cons_self) (by decide)
  case h_2 => rfl

/-- The written form of a number is read as the number. -/
theorem read_digits (n : UInt32) : read (digits n.toNat) = .ok n := by
  have nonempty : (digits n.toNat).isEmpty = false := by simp [digits_ne_nil]
  have plain : dropPlus (digits n.toNat) = digits n.toNat :=
    dropPlus_of_isDigit fun _ => isDigit_of_mem_digits
  have value : readDigits limit 0 (digits n.toNat) = .ok n.toNat :=
    (readDigits_eq_ok_iff (Nat.zero_le _)).2
      ⟨fun _ => isDigit_of_mem_digits, Nat.ofDigitChars_ten_toDigits,
        Nat.le_of_lt_succ n.toNat_lt⟩
  rw [read, nonempty, plain, value]
  simp [Except.map]

end Numeral

end DiceFormula
