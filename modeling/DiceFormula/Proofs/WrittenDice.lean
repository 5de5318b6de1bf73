import DiceFormula.Proofs.DiceLiterals
import DiceFormula.Proofs.Writing

/-!
# Dice that are read from what is written for them

A group of dice may have any 32-bit number of dice, and these may have any positive 32-bit number of
faces. What is written for such a group always has the shape of a dice literal, but it is one only
as long as both numbers have at most four digits. Otherwise it is rejected for being too long, and
if both numbers are, the number of dice is looked at first. Sides that are read on their own know no
such limit, so all of them are read from what is written for them.

Both directions of the limit come from one fact: a number has at most `k` digits exactly if it is
below the `k`-th power of ten.

## Main results

* `Numeral.byteSize_digits_le_iff` — the size of a written number
* `Sides.ofChars_chars` — sides are read from what is written for them
* `Dice.literals_round_trip` — so are dice with short numbers, and no others
-/

namespace DiceFormula

/-- A number is written with at most `k` bytes exactly if it is below the `k`-th power of ten. -/
theorem Numeral.byteSize_digits_le_iff {n k : Nat} (hk : 0 < k) :
    Text.byteSize (digits n) ≤ k ↔ n < 10 ^ k := by
  rw [Text.byteSize_of_isDigit fun _ => isDigit_of_mem_digits]
  exact Nat.length_toDigits_le_iff (by decide) hk

/-! ### Sides -/

namespace Sides

theorem writable_iff {s : Sides} : s.Writable ↔ s = .percentile ∨ s.count.toNat ≤ 9999 := by
  cases s with
  | poly n => simp [Writable, count]
  | percentile => simp [Writable]

theorem not_writable_iff {s : Sides} :
    ¬ s.Writable ↔ ∃ n, s = .poly n ∧ 10000 ≤ n.toNat := by
  cases s with
  | poly n => simp only [Writable, Nat.not_le, poly.injEq, exists_eq_left', Nat.succ_le_iff]
  | percentile => simp [Writable]

/-- What is written for sides is short exactly if their number has at most four digits. -/
theorem byteSize_chars_le_iff {s : Sides} : Text.byteSize s.chars ≤ 4 ↔ s.Writable := by
  cases s with
  | poly n => exact (Numeral.byteSize_digits_le_iff (by decide)).trans Nat.lt_succ_iff
  | percentile => exact iff_of_true (by decide) trivial

/-- A written number is never the percent sign. -/
theorem digits_ne_percent (n : Nat) : Numeral.digits n ≠ ['%'] := by
  intro heq
  have hdigit : '%'.isDigit = true :=
    Numeral.isDigit_of_mem_digits (heq ▸ List.mem_singleton_self '%')
  exact absurd hdigit (by decide)

/-- **Sides are read from what is written for them**, however many faces there are. -/
theorem ofChars_chars (s : Sides) : ofChars s.chars = .ok s := by
  cases s with
  | poly n =>
    exact (ofChars_eq_ok_iff_of_ne (digits_ne_percent n.toNat)).mpr
      ⟨n, Numeral.read_digits n.val, rfl⟩
  | percentile => rfl

end Sides

/-! ### Dice -/

namespace Dice

/-- What is written for dice is cut between the two numbers. -/
theorem cutAt_chars (d : Dice) : CutAt d.chars (Numeral.digits d.num.toNat) d.sides.chars where
  marker := ⟨'d', .inl rfl, rfl⟩
  first := by
    intro c hc hmarker
    have hdigit := isMarker_of_isDigit (Numeral.isDigit_of_mem_digits hc)
    rw [isMarker_iff.mpr hmarker] at hdigit
    cases hdigit

theorem byteSize_digits_num_le_iff {d : Dice} :
    Text.byteSize (Numeral.digits d.num.toNat) ≤ maxPartSize ↔ d.num.toNat ≤ 9999 :=
  (Numeral.byteSize_digits_le_iff (by decide)).trans Nat.lt_succ_iff

/-- Too many dice are reported before anything is known about their sides. -/
theorem ofChars_chars_of_num {d : Dice} (hnum : 10000 ≤ d.num.toNat) :
    ofChars d.chars = .error .numTooLong := by
  have hlong : ¬ Text.byteSize (Numeral.digits d.num.toNat) ≤ maxPartSize := by
    rw [byteSize_digits_num_le_iff]
    omega
  exact (ReadAs.numTooLong d.cutAt_chars (Nat.not_le.mp hlong)).ofChars_eq

theorem ofChars_chars_of_sides {d : Dice} (hnum : d.num.toNat ≤ 9999)
    (hsides : ¬ d.sides.Writable) : ofChars d.chars = .error .sidesTooLong := by
  have hshort := byteSize_digits_num_le_iff.mpr hnum
  rw [← Sides.byteSize_chars_le_iff] at hsides
  exact (ReadAs.sidesTooLong d.cutAt_chars hshort (Nat.not_le.mp hsides)).ofChars_eq

theorem ofChars_chars_of_writable {d : Dice} (hnum : d.num.toNat ≤ 9999)
    (hsides : d.sides.Writable) : ofChars d.chars = .ok d :=
  ofChars_of_spelledBy (Atom.spelledBy_chars (a := .dice d) ⟨hnum, hsides⟩)

/-- **Dice are read from what is written for them exactly if both numbers are short enough for a
literal.** Otherwise the first number that is too long is the error. Sides on their own are always
read. -/
theorem literals_round_trip :
    (∀ s : Sides, Sides.ofText s.text = .ok s) ∧
      ∀ d : Dice,
        (ofText d.text = .ok d ↔
          d.num.toNat ≤ 9999 ∧ (d.sides = .percentile ∨ d.sides.count.toNat ≤ 9999)) ∧
        (ofText d.text = .error .numTooLong ↔ 10000 ≤ d.num.toNat) ∧
        (ofText d.text = .error .sidesTooLong ↔
          d.num.toNat ≤ 9999 ∧ ∃ n, d.sides = .poly n ∧ 10000 ≤ n.toNat) := by
  refine ⟨fun s => ?_, fun d => ?_⟩
  · rw [Sides.ofText, Sides.text, String.toList_ofList]
    exact s.ofChars_chars
  · rw [ofText, text, String.toList_ofList, ← Sides.writable_iff, ← Sides.not_writable_iff]
    rcases Nat.lt_or_ge 9999 d.num.toNat with hnum | hnum
    · rw [ofChars_chars_of_num hnum]
      simp [Nat.not_le.mpr hnum, Nat.succ_le_of_lt hnum]
    · have hnot : ¬ 10000 ≤ d.num.toNat := Nat.not_le.mpr (Nat.lt_succ_of_le hnum)
      by_cases hsides : d.sides.Writable
      · rw [ofChars_chars_of_writable hnum hsides]
        simp [hnum, hnot, hsides]
      · rw [ofChars_chars_of_sides hnum hsides]
        simp [hnum, hnot, hsides]

end Dice

end DiceFormula
