import DiceFormula.Text.Numeral

/-!
# Amounts

An amount is a signed 64-bit number. All arithmetic on amounts is checked: an operation whose
exact result does not fit gives an overflow instead, named after the operation, so an amount that
was computed is always the exact one. A sum is taken from the left, starting at zero, and
overflows as soon as one partial sum does not fit, even when the whole sum would.

## Main definitions

* `Amount`, `Overflow` — 64-bit numbers, and the operations that can leave their range
* `Amount.fit` — an exact result as an amount, or the overflow of the operation
* `Amount.add`, `Amount.mul`, `Amount.neg`, `Amount.sum` — checked arithmetic
* `Amount.exactSum` — the sum as an integer
* `Amount.ofCount` — a 32-bit number as an amount
* `Amount.text` — an amount in decimal digits

## Main results

* `Amount.fit_eq_ok_iff` — an operation that answers gives the exact result
* `Amount.fit_eq_error_iff` — and it overflows exactly when that result is out of range
* `Amount.toInt_sumFrom` — a sum that is reached is the exact one
* `Amount.toInt_ofCount` — a 32-bit number is an amount of the same value
-/

namespace DiceFormula

/-- A signed 64-bit number. -/
abbrev Amount := Int64

/-- The operation whose exact result did not fit. -/
inductive Overflow
  /-- The sum of two amounts. -/
  | addition
  /-- The product of two amounts. -/
  | multiplication
  /-- The negative of an amount. -/
  | negation
deriving DecidableEq

/-- The wording of an overflow. -/
def Overflow.message : Overflow → String
  | .addition => "attempt to add with overflow"
  | .multiplication => "attempt to multiply with overflow"
  | .negation => "attempt to negate with overflow"

namespace Amount

/-! ### Exact results that fit -/

/-- Whether an integer is the value of some amount. -/
def InRange (n : Int) : Prop := Int64.minValue.toInt ≤ n ∧ n ≤ Int64.maxValue.toInt

instance (n : Int) : Decidable (InRange n) := inferInstanceAs (Decidable (_ ∧ _))

/-- The amount of a given value, or the overflow `cause` if there is none. -/
def fit (cause : Overflow) (n : Int) : Except Overflow Amount :=
  if InRange n then .ok (Int64.ofInt n) else .error cause

theorem inRange_iff {n : Int} :
    InRange n ↔ -9223372036854775808 ≤ n ∧ n < 9223372036854775808 := by
  rw [InRange, Int64.toInt_minValue, Int64.toInt_maxValue]
  omega

theorem inRange_toInt (v : Amount) : InRange v.toInt := ⟨v.minValue_le_toInt, v.toInt_le⟩

theorem toInt_ofInt {n : Int} (h : InRange n) : (Int64.ofInt n).toInt = n :=
  Int64.toInt_ofInt_of_le (inRange_iff.1 h).1 (inRange_iff.1 h).2

theorem fit_eq_ok_iff {cause : Overflow} {n : Int} {v : Amount} :
    fit cause n = .ok v ↔ v.toInt = n := by
  unfold fit
  split
  case isTrue h =>
    rw [Except.ok.injEq, ← Int64.toInt_inj, toInt_ofInt h]
    exact eq_comm
  case isFalse h =>
    exact ⟨nofun, fun eq => absurd (inRange_toInt v) (eq ▸ h)⟩

theorem fit_eq_error_iff {cause e : Overflow} {n : Int} :
    fit cause n = .error e ↔ e = cause ∧ ¬ InRange n := by
  unfold fit
  split
  case isTrue h => exact ⟨nofun, fun eq => absurd h eq.2⟩
  case isFalse h => simp [h, eq_comm]

/-- Within the range there is nothing to overflow. -/
theorem exists_fit {n : Int} (h : InRange n) (cause : Overflow) :
    ∃ v : Amount, fit cause n = .ok v ∧ v.toInt = n :=
  ⟨Int64.ofInt n, by simp [fit, h], toInt_ofInt h⟩

/-! ### Arithmetic -/

/-- The sum of two amounts. -/
def add (v w : Amount) : Except Overflow Amount := fit .addition (v.toInt + w.toInt)

/-- The product of two amounts. -/
def mul (v w : Amount) : Except Overflow Amount := fit .multiplication (v.toInt * w.toInt)

/-- The negative of an amount. -/
def neg (v : Amount) : Except Overflow Amount := fit .negation (-v.toInt)

/-- Adds amounts one after the other to a partial sum. -/
def sumFrom (partialSum : Amount) : List Amount → Except Overflow Amount
  | [] => .ok partialSum
  | v :: rest =>
    match add partialSum v with
    | .ok next => sumFrom next rest
    | .error overflow => .error overflow

/-- The sum of a list of amounts, taken from the left. -/
def sum (values : List Amount) : Except Overflow Amount := sumFrom 0 values

/-- The sum of a list of amounts as an integer, which need not be an amount. -/
def exactSum : List Amount → Int
  | [] => 0
  | v :: rest => v.toInt + exactSum rest

/-- A sum that is reached is the exact one. -/
theorem toInt_sumFrom {partialSum total : Amount} {values : List Amount}
    (h : sumFrom partialSum values = .ok total) :
    total.toInt = partialSum.toInt + exactSum values := by
  induction values generalizing partialSum with
  | nil =>
    cases h
    rw [exactSum, Int.add_zero]
  | cons v rest ih =>
    rw [sumFrom] at h
    split at h
    case h_1 next eq =>
      rw [ih h, fit_eq_ok_iff.1 eq, exactSum, Int.add_assoc]
    case h_2 => cases h

/-! ### Counts and text -/

/-- An amount in decimal digits. -/
def text (v : Amount) : String := Numeral.intText v.toInt

/-- A 32-bit number as an amount of the same value. -/
def ofCount (n : UInt32) : Amount := Int64.ofInt n.toNat

theorem toInt_ofCount (n : UInt32) : (ofCount n).toInt = n.toNat := by
  have := n.toNat_lt
  exact toInt_ofInt (inRange_iff.2 ⟨by omega, by omega⟩)

end Amount

end DiceFormula
