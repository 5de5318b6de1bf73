import DiceFormula.Proofs.Runs

/-!
# Rolling does not overflow

All arithmetic is checked, and adding up the bounds of a formula may fail. Once that has succeeded
nothing fails any more. No limit on the number of terms is needed for this. A roll adds up the
values of its terms in the same order as the bounds were added up, so every sum on the way lies
between two sums that are known to be amounts.

What is said here is more than that rolls succeed. All the sums, magnitudes and values that come
up on the way are listed as integers, computed without regard to any limit, and every one of them
is in the range of amounts.

## Main definitions

* `Formula.FitsFrom` — everything that a roll computes on its way is an amount

## Main results

* `Prepared.fitsFrom` — so it is for a prepared formula and a source whose faces are on the dice
* `Session.rolls_never_overflow` — rolls and evaluations, however many, all give an answer
-/

namespace DiceFormula

variable {σ : Type} [FaceSource σ]

/-- Everything that a roll of `f` from the state `s` computes on its way is in the range of amounts
as an integer, and the roll gives the exact results. -/
structure Formula.FitsFrom (f : Formula) (s : σ) : Prop where
  /-- The faces of a group are added up one by one. -/
  faces : ∀ p ∈ f.terms.zip (Term.drawAll f.terms s).1, ∀ k, Amount.InRange (faceSum (p.2.take k))
  /-- The magnitude of a term may be negated. -/
  value : ∀ p ∈ f.terms.zip (Term.drawAll f.terms s).1,
    Amount.InRange (p.1.atom.magnitude p.2) ∧ Amount.InRange (p.1.value p.2)
  /-- The values of the terms are added up one by one. -/
  sum : ∀ k, Amount.InRange ((f.terms.zipWith Term.value (Term.drawAll f.terms s).1).take k).sum
  /-- The roll gives these values, and their sum. -/
  roll : ∃ o, f.roll s = .ok (o, (Term.drawAll f.terms s).2) ∧
    o.values.map Int64.toInt = f.terms.zipWith Term.value (Term.drawAll f.terms s).1 ∧
    o.total.toInt = (f.terms.zipWith Term.value (Term.drawAll f.terms s).1).sum

/-- The faces, the magnitude and the value of a term with bounds are in the range of amounts. -/
theorem Term.inRange_of_shownBy {t : Term} {low high : Amount} {faces : List UInt32}
    (hlow : t.low = .ok low) (hhigh : t.high = .ok high) (hshown : t.ShownBy faces) :
    (∀ k, Amount.InRange (faceSum (faces.take k))) ∧
      Amount.InRange (t.atom.magnitude faces) ∧ Amount.InRange (t.value faces) := by
  obtain ⟨least, greatest, hextremes, _⟩ := exists_extremes hlow hhigh
  obtain ⟨_, _, hgreatest⟩ := Atom.magnitude_between hextremes hshown
  obtain ⟨hle, hge, _⟩ := value_between hlow hhigh hshown
  -- Zero is an amount as well, and no part of a magnitude is less than zero.
  have hzero : (0 : Amount).toInt = 0 := Int64.toInt_zero
  have hrange {n : Nat} (h : n ≤ greatest.toInt) : Amount.InRange n :=
    Amount.inRange_of_between (hzero.trans_le (Int.natCast_nonneg n)) h
  refine ⟨fun k => hrange ?_, hrange hgreatest, Amount.inRange_of_between hle hge⟩
  have hprefix : faceSum (faces.take k) ≤ faceSum faces := faceSum_take_le k faces
  have hfaces : faceSum faces ≤ t.atom.magnitude faces := hshown.faceSum_le_magnitude
  omega

variable [LawfulFaceSource σ]

/-- **Nothing that a roll of a prepared formula computes on its way overflows.** -/
theorem Prepared.fitsFrom (p : Prepared) (s : σ) : p.formula.FitsFrom s := by
  have hshown := Term.shownBy_drawAll p.formula.terms s
  obtain ⟨o, hroll, hvalues, hexact, _⟩ := Formula.exists_roll_of_shown p hshown
  have hterm : ∀ q ∈ p.formula.terms.zip (Term.drawAll p.formula.terms s).1,
      (∀ k, Amount.InRange (faceSum (q.2.take k))) ∧
        Amount.InRange (q.1.atom.magnitude q.2) ∧ Amount.InRange (q.1.value q.2) := by
    intro q hq
    obtain ⟨low, high, hlow, hhigh⟩ := p.exists_bounds q.1 (List.of_mem_zip hq).1
    exact Term.inRange_of_shownBy hlow hhigh ((List.forall₂_iff_zip.mp hshown).2 hq)
  refine ⟨fun q hq => (hterm q hq).1, fun q hq => (hterm q hq).2, fun k => ?_,
    o, hroll, hvalues, hexact⟩
  -- The sum of the values was reached, so its prefixes are amounts.
  obtain ⟨values, _, _, hsum⟩ := Rolling.bind_eq_ok_iff.mp hroll
  obtain ⟨rfl, htotal⟩ := Outcome.ofValues_eq_ok_iff.mp (Rolling.lift_eq_ok_iff.mp hsum).1
  rw [← hvalues, ← List.map_take, ← Amount.exactSum_eq_sum]
  exact Amount.exists_sum_iff.mp ⟨o.total, htotal⟩ k

/-! ### Runs of rolls -/

namespace Session

/-- As long as the formula is there, any number of rolls and evaluations can be performed. -/
theorem exists_performAll {p : Prepared} {s : Session σ} (hs : s.formula? = some p)
    {calls : List Step} (hcalls : ∀ call ∈ calls, call = .roll ∨ call = .evaluate) :
    ∃ answers last, s.performAll calls = .ok (answers, last) ∧ last.formula? = some p := by
  induction calls generalizing s with
  | nil => exact ⟨[], s, rfl, hs⟩
  | cons call calls ih =>
    obtain ⟨hcall, hrest⟩ := List.forall_mem_cons.mp hcalls
    obtain ⟨o, next, hroll, hevaluate, _⟩ := exists_perform_roll hs
    obtain ⟨a, hperform⟩ : ∃ a, s.perform call = .ok (a, next) := by
      rcases hcall with rfl | rfl
      · exact ⟨_, hroll⟩
      · exact ⟨_, hevaluate⟩
    have hnext : next.formula? = some p := by
      rcases formula?_of_perform hroll with heq | ⟨hrelease, _⟩
      · rw [heq, hs]
      · cases hrelease
    obtain ⟨answers, last, hperformAll, hlast⟩ := ih hnext hrest
    exact ⟨(a, next.source) :: answers, last,
      performAll_cons_eq_ok_iff.mpr ⟨a, next, answers, hperform, hperformAll, rfl⟩, hlast⟩

/-- **Rolls and evaluations never overflow**, however many there are and however long the formula
is, in a session that is started on a text with a source whose faces are on the dice. From no state
of the source does anything overflow on the way either. -/
theorem rolls_never_overflow {input : String} {source : σ} {s : Session σ}
    (hbuild : ofText input source = .ok s) :
    ∃ p, Formula.ofSpacedText input = .ok p.formula ∧ s = start p source ∧
      (∀ state : σ, p.formula.FitsFrom state) ∧
      ∀ calls : List Step, (∀ call ∈ calls, call = .roll ∨ call = .evaluate) →
        ∃ answers last, s.performAll calls = .ok (answers, last) ∧ last.formula? = some p := by
  obtain ⟨p, rfl, hformula⟩ := ofText_eq_ok_iff.mp hbuild
  exact ⟨p, hformula, rfl, p.fitsFrom, fun _ => exists_performAll rfl⟩

omit [FaceSource σ] [LawfulFaceSource σ] in
theorem ofText_twentyMinusTwoDice (source : σ) :
    ofText "20 - 2d6" source = .ok (start twentyMinusTwoDice source) := by
  have hread : Formula.ofSpacedText "20 - 2d6" = .ok twentyMinusTwoDice.formula := by
    decide +kernel
  exact ofText_eq_ok_iff.mpr ⟨twentyMinusTwoDice, rfl, hread⟩

/-- Two subtracted dice, rolled and evaluated with a cycle. -/
theorem rolls_never_overflow_twenty_minus_two_dice :
    ofText "20 - 2d6" (⟨3, 1, 0⟩ : Cycle) = .ok (start twentyMinusTwoDice ⟨3, 1, 0⟩) ∧
      twentyMinusTwoDice.formula.FitsFrom (⟨3, 1, 0⟩ : Cycle) ∧
      ∃ answers last, (start twentyMinusTwoDice (⟨3, 1, 0⟩ : Cycle)).performAll
        [.roll, .evaluate] = .ok (answers, last) ∧ last.formula? = some twentyMinusTwoDice := by
  have hbuild := ofText_twentyMinusTwoDice (⟨3, 1, 0⟩ : Cycle)
  obtain ⟨p, _, hstart, hfits, hperform⟩ := rolls_never_overflow hbuild
  cases hstart
  exact ⟨hbuild, hfits _, hperform [.roll, .evaluate] (by simp)⟩

end Session

end DiceFormula
