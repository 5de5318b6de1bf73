import DiceFormula.Proofs.ExactBounds
import DiceFormula.Source.Cycle

/-!
# When a single term overflows

The literals of a text are too short for any overflow in a single term. Terms that are stored
elsewhere know no such limit. Their dice and the faces of these may be any 32-bit numbers, and then
the bounds of a term and its rolls overflow under different conditions. The bounds multiply the two
numbers, whatever the sign. A roll adds up the faces that are drawn, and these may be so low that
their sum is an amount although the product is not. It goes the other way round only if a source
hands out faces that are not on the dice. Neither of the two overflows when a minus sign is applied,
since a magnitude is not negative.

## Main definitions

* `Term.TooLarge` — terms whose greatest magnitude is no amount

## Main results

* `Term.roll_of_lt_faceSum` — a roll overflows if the sum of its faces is no amount
* `Term.overflows_exactly` — when the bounds of a term overflow, and when its rolls do
-/

namespace DiceFormula

/-- A number is an amount if it is less than half of all amounts. -/
theorem Amount.inRange_natCast_iff {n : Nat} : InRange n ↔ n ≤ 2 ^ 63 - 1 := by
  rw [inRange_iff]
  omega

/-! ### Bounds -/

namespace Term

/-- The number of dice times the number of their faces is more than the greatest amount. -/
def TooLarge (t : Term) : Prop :=
  ∃ d, t.atom = .dice d ∧ 2 ^ 63 - 1 < d.num.toNat * d.sides.count.toNat

theorem tooLarge_iff {t : Term} : t.TooLarge ↔ ¬ Amount.InRange t.atom.greatest := by
  obtain ⟨sign, atom⟩ := t
  rw [Amount.inRange_natCast_iff, Nat.not_le]
  cases atom with
  | constant n =>
    have hn : n.toNat < 2 ^ 32 := n.toNat_lt
    refine ⟨nofun, fun h => ?_⟩
    rw [Atom.greatest] at h
    omega
  | dice d =>
    constructor
    · rintro ⟨_, ⟨⟩, h⟩
      exact h
    · intro h
      exact ⟨d, rfl, h⟩

/-- The bounds of a term that is too large overflow, both in the product. -/
theorem TooLarge.bounds {t : Term} (h : t.TooLarge) :
    t.low = .error .multiplication ∧ t.high = .error .multiplication :=
  bounds_of_not_inRange (tooLarge_iff.mp h)

/-- All other terms have bounds, and these are in order. -/
theorem exists_bounds_of_not_tooLarge {t : Term} (h : ¬ t.TooLarge) :
    ∃ low high, t.low = .ok low ∧ t.high = .ok high ∧ low ≤ high := by
  rw [tooLarge_iff, not_not] at h
  obtain ⟨low, high, hlow, hhigh, hleast, hgreatest⟩ := exists_bounds_of_inRange h
  refine ⟨low, high, hlow, hhigh, ?_⟩
  rw [Int64.le_iff_toInt_le, hleast, hgreatest]
  exact t.least_le_greatest

end Term

/-! ### Rolls -/

/-- Some faces at the start of a list have a sum beyond a limit exactly if all of them do. -/
theorem exists_lt_faceSum_take_iff {faces : List UInt32} {limit : Nat} :
    (∃ k, limit < faceSum (faces.take k)) ↔ limit < faceSum faces := by
  constructor
  · rintro ⟨k, hk⟩
    exact Nat.lt_of_lt_of_le hk (faceSum_take_le k faces)
  · intro h
    refine ⟨faces.length, ?_⟩
    rwa [List.take_length]

section Source

variable {σ : Type} [FaceSource σ]

/-- The faces of an atom overflow if their sum is no amount. -/
theorem Atom.roll_of_lt_faceSum {a : Atom} {s : σ} (h : 2 ^ 63 - 1 < faceSum (a.draw s).1) :
    a.roll s = .error .addition := by
  cases a with
  | constant n => cases h
  | dice d =>
    have hrange : ¬ Amount.InRange (faceSum (FaceSource.faces d s).1) := by
      rw [Amount.inRange_natCast_iff]
      exact Nat.not_le_of_lt h
    rw [Atom.roll, Dice.roll_eq_fit, Amount.fit_eq_error_iff.mpr ⟨rfl, hrange⟩]
    rfl

namespace Term

/-- So do those of a term. -/
theorem roll_of_lt_faceSum {t : Term} {s : σ} (h : 2 ^ 63 - 1 < faceSum (t.draw s).1) :
    t.roll s = .error .addition := by
  show Except.bind (t.atom.roll s) _ = _
  rw [Atom.roll_of_lt_faceSum h]
  rfl

end Term

end Source

namespace Term

/-- **A term overflows where its exact results do, and nowhere else.** Its bounds overflow both if
it is too large, and neither of them otherwise. The bounds that there are enclose every roll with
faces that its dice can show. From any source at all, a roll overflows exactly if some of the
faces that are drawn first add up to more than the greatest amount. Otherwise it gives the exact
value. -/
theorem overflows_exactly (t : Term) :
    (∀ e, t.low = .error e ↔ e = .multiplication ∧ t.TooLarge) ∧
      (∀ e, t.high = .error e ↔ e = .multiplication ∧ t.TooLarge) ∧
      (¬ t.TooLarge → ∃ low high, t.low = .ok low ∧ t.high = .ok high ∧ low ≤ high ∧
        ∀ (σ : Type) [FaceSource σ] (s : σ), t.ShownBy (t.draw s).1 →
          ∃ v, t.roll s = .ok (v, (t.draw s).2) ∧ low ≤ v ∧ v ≤ high) ∧
      ∀ (σ : Type) [FaceSource σ] (s : σ),
        (∀ e, t.roll s = .error e ↔
          e = .addition ∧ ∃ k, 2 ^ 63 - 1 < faceSum ((t.draw s).1.take k)) ∧
        ((∀ k, faceSum ((t.draw s).1.take k) ≤ 2 ^ 63 - 1) →
          ∃ v, t.roll s = .ok (v, (t.draw s).2) ∧ v.toInt = t.value (t.draw s).1) := by
  refine ⟨fun e => ?_, fun e => ?_, fun h => ?_, fun σ _ s => ⟨fun e => ?_, fun h => ?_⟩⟩
  · refine eq_error_iff_of_cause (fun hlarge => hlarge.bounds.1) fun hfits => ?_
    obtain ⟨low, _, hlow, _⟩ := exists_bounds_of_not_tooLarge hfits
    exact ⟨low, hlow⟩
  · refine eq_error_iff_of_cause (fun hlarge => hlarge.bounds.2) fun hfits => ?_
    obtain ⟨_, high, _, hhigh, _⟩ := exists_bounds_of_not_tooLarge hfits
    exact ⟨high, hhigh⟩
  · obtain ⟨low, high, hlow, hhigh, hle⟩ := exists_bounds_of_not_tooLarge h
    refine ⟨low, high, hlow, hhigh, hle, fun σ _ s hshown => ?_⟩
    obtain ⟨v, hroll, hvalue⟩ := exists_roll hlow hhigh hshown
    have hencloses := encloses_of_toInt_eq hlow hhigh hshown hvalue
    exact ⟨v, hroll, Int64.le_iff_toInt_le.mpr (hencloses.low_le_of_eq hlow),
      Int64.le_iff_toInt_le.mpr (hencloses.le_high_of_eq hhigh)⟩
  · rw [exists_lt_faceSum_take_iff]
    refine eq_error_iff_of_cause roll_of_lt_faceSum fun hfits => ?_
    obtain ⟨v, hroll, _⟩ := exists_roll_of_inRange
      (Amount.inRange_natCast_iff.mpr (Nat.le_of_not_lt hfits))
    exact ⟨_, hroll⟩
  · have hall : faceSum (t.draw s).1 ≤ 2 ^ 63 - 1 := by
      simpa only [List.take_length] using h (t.draw s).1.length
    exact exists_roll_of_inRange (Amount.inRange_natCast_iff.mpr hall)

/-- Dice, subtracted: with `2323823089` of them the greatest total is the greatest amount. -/
def subtractedDice (n : UInt32) : Term := ⟨.neg, .dice ⟨n, .poly ⟨3969050863, by decide⟩⟩⟩

/-- The greatest total is just an amount, and with one more die it is none; and two of the dice,
rolled from a cycle. -/
theorem overflows_exactly_at_greatest_amount :
    (∃ low high, (subtractedDice 2323823089).low = .ok low ∧
      (subtractedDice 2323823089).high = .ok high ∧ low ≤ high) ∧
    (subtractedDice 2323823090).low = .error .multiplication ∧
    (subtractedDice 2323823090).high = .error .multiplication ∧
    (∃ low high v, (subtractedDice 2).low = .ok low ∧ (subtractedDice 2).high = .ok high ∧
      (subtractedDice 2).roll (⟨3, 1, 0⟩ : Cycle) = .ok (v, ⟨5, 1, 2⟩) ∧ low ≤ v ∧ v ≤ high) ∧
    ∃ v, (subtractedDice 2).roll (⟨3, 1, 0⟩ : Cycle) = .ok (v, ⟨5, 1, 2⟩) ∧ v.toInt = -7 := by
  have hlarge (n : UInt32) : (subtractedDice n).TooLarge ↔
      2 ^ 63 - 1 < n.toNat * (3969050863 : UInt32).toNat := by
    constructor
    · rintro ⟨_, ⟨⟩, h⟩
      exact h
    · intro h
      exact ⟨_, rfl, h⟩
  obtain ⟨_, _, hfits, _⟩ := overflows_exactly (subtractedDice 2323823089)
  obtain ⟨hlow, hhigh, _⟩ := overflows_exactly (subtractedDice 2323823090)
  obtain ⟨_, _, htwo, hroll⟩ := overflows_exactly (subtractedDice 2)
  refine ⟨?_, (hlow _).mpr ⟨rfl, ?_⟩, (hhigh _).mpr ⟨rfl, ?_⟩, ?_, ?_⟩
  · obtain ⟨low, high, hl, hh, hle, _⟩ := hfits (by rw [hlarge]; decide)
    exact ⟨low, high, hl, hh, hle⟩
  · rw [hlarge]
    decide
  · rw [hlarge]
    decide
  · obtain ⟨low, high, hl, hh, _, hshown⟩ := htwo (by rw [hlarge]; decide)
    obtain ⟨v, hv⟩ := hshown Cycle ⟨3, 1, 0⟩ ((subtractedDice 2).atom.shownBy_draw _)
    exact ⟨low, high, v, hl, hh, hv⟩
  · refine (hroll Cycle ⟨3, 1, 0⟩).2 fun k => ?_
    exact Nat.le_trans (faceSum_take_le k _) (by decide)

end Term

end DiceFormula
