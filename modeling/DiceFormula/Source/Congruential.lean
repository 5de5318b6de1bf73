/-!
# A linear congruential generator

The generator keeps a 64-bit state. A step multiplies it by a constant and adds another, both
modulo `2 ^ 64`; the upper half of the new state is the word that is drawn. The multiplier is one
more than a multiple of four and the increment is odd, so every state leads to every other: the
generator has full period. What is needed here is that every state leads to zero.

## Main definitions

* `Congruential.advance` — one step
* `Congruential.times` — a number of steps

## Main results

* `Congruential.exists_times_advance_eq_zero` — every state leads to zero

## Implementation notes

Without the modulus, `2 ^ m` steps take `y` to `(1 + 4 * 2 ^ m * u) * y + 2 ^ m * (2 * v + 1)` for
some `u` and `v`. So if `y` is an odd multiple of `2 ^ m`, then `2 ^ m` steps further there is a
multiple of `2 ^ (m + 1)`. By induction a multiple of `2 ^ 64` is reached.
-/

namespace DiceFormula.Congruential

/-- The constant that the state is multiplied by. -/
def multiplier : UInt64 := 6364136223846793005

/-- The constant that is added to the state. -/
def increment : UInt64 := 1442695040888963407

/-- One step of the generator. -/
def advance (state : UInt64) : UInt64 := state * multiplier + increment

/-- Repeats a step. -/
def times {α : Type} (step : α → α) : Nat → α → α
  | 0, a => a
  | k + 1, a => times step k (step a)

theorem times_add {α : Type} (step : α → α) (j k : Nat) (a : α) :
    times step (j + k) a = times step j (times step k a) := by
  induction k generalizing a with
  | zero => rfl
  | succ k ih => exact ih _

/-- The word that a state gives. -/
def word (state : UInt64) : UInt32 := (state >>> 32).toUInt32

/-! ### Steps without the modulus -/

/-- A step on natural numbers, without a modulus, for any two constants. -/
private def stepOf (a c y : Nat) : Nat := a * y + c

private theorem times_stepOf_mod (a c n k y : Nat) :
    times (stepOf a c) k (y % n) % n = times (stepOf a c) k y % n := by
  induction k generalizing y with
  | zero => simp [times]
  | succ k ih =>
    rw [times, times, ← ih, ← ih (stepOf a c y)]
    simp [stepOf, Nat.add_mod, Nat.mul_mod]

private theorem toNat_advance (state : UInt64) :
    (advance state).toNat = stepOf multiplier.toNat increment.toNat state.toNat % UInt64.size := by
  rw [advance, UInt64.toNat_add, UInt64.toNat_mul, Nat.mod_add_mod, stepOf,
    Nat.mul_comm multiplier.toNat]

private theorem toNat_times_advance (k : Nat) (state : UInt64) :
    (times advance k state).toNat =
      times (stepOf multiplier.toNat increment.toNat) k state.toNat % UInt64.size := by
  induction k generalizing state with
  | zero => exact (Nat.mod_eq_of_lt state.toNat_lt).symm
  | succ k ih => rw [times, ih, toNat_advance, times_stepOf_mod, times]

private theorem times_two_pow {a c p q : Nat} (ha : a = 1 + 4 * p) (hc : c = 2 * q + 1)
    (m : Nat) :
    ∃ u v, ∀ y, times (stepOf a c) (1 <<< m) y =
      (1 + 4 * 1 <<< m * u) * y + 1 <<< m * (2 * v + 1) := by
  induction m with
  | zero => exact ⟨p, q, fun y => by simp [times, stepOf, ha, hc]⟩
  | succ m ih =>
    obtain ⟨u, v, h⟩ := ih
    refine ⟨u + 2 * 1 <<< m * u * u, v + 1 <<< m * u * (2 * v + 1), fun y => ?_⟩
    have double : 1 <<< (m + 1) = 1 <<< m + 1 <<< m := by rw [Nat.shiftLeft_succ]; omega
    rw [double, times_add, h, h]
    generalize 1 <<< m = power
    grind

private theorem exists_times_eq_mul {a c p q : Nat} (ha : a = 1 + 4 * p) (hc : c = 2 * q + 1)
    (m y : Nat) : ∃ k w, times (stepOf a c) k y = 1 <<< m * w := by
  induction m with
  | zero => exact ⟨0, y, by simp [times]⟩
  | succ m ih =>
    obtain ⟨k, w, h⟩ := ih
    have double : 1 <<< (m + 1) = 2 * 1 <<< m := Nat.shiftLeft_succ 1 m
    obtain ⟨half, even | odd⟩ : ∃ half, w = 2 * half ∨ w = 2 * half + 1 := ⟨w / 2, by omega⟩
    · refine ⟨k, half, ?_⟩
      rw [h, even, double, Nat.mul_left_comm, Nat.mul_assoc]
    · obtain ⟨u, v, step⟩ := times_two_pow ha hc m
      refine ⟨1 <<< m + k, half + v + 1 + 2 * 1 <<< m * u * w, ?_⟩
      rw [times_add, h, step, odd, double]
      generalize 1 <<< m = power
      grind

/-- Every state leads to zero. -/
theorem exists_times_advance_eq_zero (state : UInt64) : ∃ k, times advance k state = 0 := by
  have ha : multiplier.toNat = 1 + 4 * 1591034055961698251 := rfl
  have hc : increment.toNat = 2 * 721347520444481703 + 1 := rfl
  obtain ⟨k, w, h⟩ := exists_times_eq_mul ha hc 64 state.toNat
  refine ⟨k, UInt64.toNat_inj.1 ?_⟩
  rw [toNat_times_advance, h, show 1 <<< 64 = UInt64.size from rfl, Nat.mul_mod_right]
  rfl

end DiceFormula.Congruential
