import DiceFormula.Prepared
import DiceFormula.Proofs.Faces

/-!
# Rolls stay within the bounds

The bounds of a formula were added up when it was prepared. Every roll then lies between them, and
it cannot overflow on the way: the values of the terms lie between their least and their greatest
values, of which the sums are known to exist.

What a term is worth depends on its faces alone. The faces that its dice can show make it at least
its least value and at most its greatest, and a minus sign exchanges the two. So the value of a
term is an amount and rolling gives it exactly, from any source that hands out such faces.

## Main definitions

* `Term.Encloses` — the values that a term can have
* `Outcome.Within` — what a roll of a prepared formula is like

## Main results

* `Term.value_between` — what a term is worth lies between its bounds
* `Term.exists_roll_of_inRange`, `Term.exists_roll`, `Formula.exists_roll_of_shown` — rolling gives
  the exact values
* `Formula.exists_roll` — a prepared formula rolls within its bounds
-/

namespace DiceFormula

/-! ### Bounds of a term -/

/-- The product of the number of dice and their faces decides whether there are extremes. -/
theorem Atom.extremes_dice (d : Dice) :
    (Atom.dice d).extremes =
      (Amount.fit .multiplication (d.num.toNat * d.sides.count.toNat : Nat)).map fun greatest =>
        (Amount.ofCount d.num, greatest) := by
  have hproduct : (Amount.ofCount d.num).toInt * (Amount.ofCount d.sides.count.val).toInt =
      (d.num.toNat * d.sides.count.toNat : Nat) := by
    rw [Amount.toInt_ofCount, Amount.toInt_ofCount, Int.natCast_mul]
    rfl
  rw [extremes, Amount.mul, hproduct]

/-- The extremes of a group of dice are the sums of all ones and of all highest faces. -/
theorem Atom.extremes_dice_eq_ok_iff {d : Dice} {least greatest : Amount} :
    (Atom.dice d).extremes = .ok (least, greatest) ↔
      least.toInt = d.num.toNat ∧
        greatest.toInt = (d.num.toNat * d.sides.count.toNat : Nat) := by
  have hleast : Amount.ofCount d.num = least ↔ least.toInt = d.num.toNat := by
    rw [← Int64.toInt_inj, Amount.toInt_ofCount, eq_comm]
  rw [extremes_dice, ← hleast, ← @Amount.fit_eq_ok_iff .multiplication]
  cases Amount.fit .multiplication (d.num.toNat * d.sides.count.toNat : Nat) <;>
    simp [Except.map]

/-- What an atom is worth lies between its extremes, of which none is negative. -/
theorem Atom.magnitude_between {a : Atom} {least greatest : Amount} {faces : List UInt32}
    (h : a.extremes = .ok (least, greatest)) (hshown : a.ShownBy faces) :
    0 ≤ least.toInt ∧ least.toInt ≤ a.magnitude faces ∧ a.magnitude faces ≤ greatest.toInt := by
  cases hshown with
  | constant n =>
    cases h
    rw [magnitude, Amount.toInt_ofCount]
    exact ⟨Int.natCast_nonneg _, Int.le_refl _, Int.le_refl _⟩
  | dice hshown =>
    obtain ⟨hleast, hgreatest⟩ := extremes_dice_eq_ok_iff.mp h
    rw [magnitude, hleast, hgreatest]
    exact ⟨Int.natCast_nonneg _, Int.ofNat_le.mpr hshown.num_le_faceSum,
      Int.ofNat_le.mpr hshown.faceSum_le⟩

/-- The values that a term can have: those between its bounds, which have its sign. -/
structure Term.Encloses (t : Term) (v : Amount) : Prop where
  /-- The least value is not greater. -/
  low_le : ∃ low, t.low = .ok low ∧ low ≤ v
  /-- The greatest value is not less. -/
  le_high : ∃ high, t.high = .ok high ∧ v ≤ high
  /-- Something is added. -/
  nonneg : t.sign = .pos → 0 ≤ v
  /-- Or something is subtracted. -/
  nonpos : t.sign = .neg → v ≤ 0

namespace Term

/-- The bounds of a term that is added are the extremes of its atom. -/
theorem low_high_of_pos {a : Atom} {least greatest : Amount}
    (h : a.extremes = .ok (least, greatest)) :
    low ⟨.pos, a⟩ = .ok least ∧ high ⟨.pos, a⟩ = .ok greatest := by
  rw [low, high, h]
  exact ⟨rfl, rfl⟩

/-- Those of a term that is subtracted are their negatives, in exchange. -/
theorem low_high_of_neg {a : Atom} {least greatest : Amount}
    (h : a.extremes = .ok (least, greatest)) :
    low ⟨.neg, a⟩ = greatest.neg ∧ high ⟨.neg, a⟩ = least.neg := by
  rw [low, high, h]
  exact ⟨rfl, rfl⟩

/-- The bounds of a term as integers, from the extremes of its atom. -/
theorem exists_extremes {t : Term} {low high : Amount} (hlow : t.low = .ok low)
    (hhigh : t.high = .ok high) :
    ∃ least greatest, t.atom.extremes = .ok (least, greatest) ∧
      (t.sign = .pos ∧ low.toInt = least.toInt ∧ high.toInt = greatest.toInt ∨
        t.sign = .neg ∧ low.toInt = -greatest.toInt ∧ high.toInt = -least.toInt) := by
  obtain ⟨sign, atom⟩ := t
  cases hextremes : atom.extremes with
  | error overflow =>
    rw [Term.low, hextremes] at hlow
    cases hlow
  | ok p =>
    obtain ⟨least, greatest⟩ := p
    refine ⟨least, greatest, rfl, ?_⟩
    cases sign with
    | pos =>
      obtain ⟨hlow', hhigh'⟩ := low_high_of_pos hextremes
      cases hlow'.symm.trans hlow
      cases hhigh'.symm.trans hhigh
      exact Or.inl ⟨rfl, rfl, rfl⟩
    | neg =>
      obtain ⟨hlow', hhigh'⟩ := low_high_of_neg hextremes
      exact Or.inr ⟨rfl, Amount.fit_eq_ok_iff.mp (hlow'.symm.trans hlow),
        Amount.fit_eq_ok_iff.mp (hhigh'.symm.trans hhigh)⟩

variable {t : Term} {low high : Amount} {faces : List UInt32}

/-- **What a term is worth lies between its bounds**, and it has the sign of the term. -/
theorem value_between (hlow : t.low = .ok low) (hhigh : t.high = .ok high)
    (hshown : t.ShownBy faces) :
    low.toInt ≤ t.value faces ∧ t.value faces ≤ high.toInt ∧
      (t.sign = .pos → 0 ≤ t.value faces) ∧ (t.sign = .neg → t.value faces ≤ 0) := by
  obtain ⟨least, greatest, hextremes, hbounds⟩ := exists_extremes hlow hhigh
  obtain ⟨hnonneg, hleast, hgreatest⟩ := Atom.magnitude_between hextremes hshown
  rcases hbounds with ⟨hsign, hlower, hupper⟩ | ⟨hsign, hlower, hupper⟩
  · rw [value, hsign, Sign.signed]
    exact ⟨by omega, by omega, fun _ => by omega, nofun⟩
  · rw [value, hsign, Sign.signed]
    exact ⟨by omega, by omega, nofun, fun _ => by omega⟩

/-- An amount that the term is worth is enclosed by its bounds. -/
theorem encloses_of_toInt_eq {v : Amount} (hlow : t.low = .ok low) (hhigh : t.high = .ok high)
    (hshown : t.ShownBy faces) (hv : v.toInt = t.value faces) : t.Encloses v := by
  obtain ⟨hle, hge, hpos, hneg⟩ := value_between hlow hhigh hshown
  rw [← hv] at hle hge hpos hneg
  exact ⟨⟨low, hlow, Int64.le_iff_toInt_le.mpr hle⟩, ⟨high, hhigh, Int64.le_iff_toInt_le.mpr hge⟩,
    fun hsign => Int64.le_iff_toInt_le.mpr (hpos hsign),
    fun hsign => Int64.le_iff_toInt_le.mpr (hneg hsign)⟩

end Term

/-! ### Rolling a term -/

/-- No magnitude is so large that its negative would not be an amount. -/
theorem Amount.inRange_neg {n : Nat} (h : InRange n) : InRange (-(n : Int)) := by
  rw [inRange_iff] at h ⊢
  omega

/-- A magnitude can be negated. -/
theorem Sign.exists_apply (g : Sign) {v : Amount} {n : Nat} (h : v.toInt = n) :
    ∃ w, g.apply v = .ok w ∧ w.toInt = g.signed n := by
  cases g with
  | pos => exact ⟨v, rfl, h⟩
  | neg =>
    have hrange : Amount.InRange (-(n : Int)) := Amount.inRange_neg (h ▸ Amount.inRange_toInt v)
    rw [apply, Amount.neg, h]
    exact Amount.exists_fit hrange .negation

section Source

variable {σ : Type} [FaceSource σ]

/-- An atom rolls what its faces are worth, if their sum is an amount. -/
theorem Atom.exists_roll_of_inRange {a : Atom} {s : σ}
    (h : Amount.InRange (faceSum (a.draw s).1)) :
    ∃ v, a.roll s = .ok (v, (a.draw s).2) ∧ v.toInt = a.magnitude (a.draw s).1 := by
  cases a with
  | constant n => exact ⟨Amount.ofCount n, rfl, Amount.toInt_ofCount n⟩
  | dice d =>
    obtain ⟨v, hv, hvalue⟩ := Amount.exists_fit h .addition
    refine ⟨v, ?_, hvalue⟩
    rw [Atom.roll, Dice.roll_eq_fit]
    exact congrArg (Except.map _) hv

/-- So does a term, since its magnitude can be negated. -/
theorem Term.exists_roll_of_inRange {t : Term} {s : σ}
    (h : Amount.InRange (faceSum (t.draw s).1)) :
    ∃ v, t.roll s = .ok (v, (t.draw s).2) ∧ v.toInt = t.value (t.draw s).1 := by
  obtain ⟨magnitude, hroll, hmagnitude⟩ := Atom.exists_roll_of_inRange h
  obtain ⟨v, hv, hvalue⟩ := t.sign.exists_apply hmagnitude
  refine ⟨v, ?_, hvalue⟩
  exact Rolling.bind_eq_ok_iff.mpr ⟨_, _, hroll, Rolling.lift_eq_ok_iff.mpr ⟨hv, rfl⟩⟩

/-- **A term with bounds rolls what its faces are worth**, if its dice can show them. -/
theorem Term.exists_roll {t : Term} {low high : Amount} {s : σ} (hlow : t.low = .ok low)
    (hhigh : t.high = .ok high) (hshown : t.ShownBy (t.draw s).1) :
    ∃ v, t.roll s = .ok (v, (t.draw s).2) ∧ v.toInt = t.value (t.draw s).1 := by
  obtain ⟨least, greatest, hextremes, _⟩ := exists_extremes hlow hhigh
  obtain ⟨_, _, hgreatest⟩ := Atom.magnitude_between hextremes hshown
  have hfaces : faceSum (t.draw s).1 ≤ greatest.toInt :=
    Int.le_trans (Int.ofNat_le.mpr hshown.faceSum_le_magnitude) hgreatest
  have hzero : (0 : Amount).toInt = 0 := Int64.toInt_zero
  exact exists_roll_of_inRange
    (Amount.inRange_of_between (hzero.trans_le (Int.natCast_nonneg _)) hfaces)

/-- Terms with bounds, rolled one after the other, each give what their faces are worth. -/
theorem Term.exists_mapM_roll {ts : List Term} {s : σ}
    (hbounds : ∀ t ∈ ts, ∃ low high, t.low = .ok low ∧ t.high = .ok high)
    (hshown : List.Forall₂ ShownBy ts (drawAll ts s).1) :
    ∃ values, ts.mapM roll s = .ok (values, (drawAll ts s).2) ∧
      values.map Int64.toInt = ts.zipWith value (drawAll ts s).1 ∧
      List.Forall₂ Encloses ts values := by
  induction ts generalizing s with
  | nil => exact ⟨[], rfl, rfl, .nil⟩
  | cons t ts ih =>
    rw [drawAll_cons] at hshown ⊢
    obtain ⟨⟨low, high, hlow, hhigh⟩, hrest⟩ := List.forall_mem_cons.mp hbounds
    cases hshown with
    | cons ht hts =>
      obtain ⟨v, hroll, hv⟩ := Term.exists_roll hlow hhigh ht
      obtain ⟨values, hrolls, hvalues, hencloses⟩ := ih hrest hts
      refine ⟨v :: values, ?_, ?_, .cons (encloses_of_toInt_eq hlow hhigh ht hv) hencloses⟩
      · rw [List.mapM_cons, Rolling.bind_eq_ok_iff]
        refine ⟨v, _, hroll, ?_⟩
        rw [Rolling.bind_eq_ok_iff]
        exact ⟨values, _, hrolls, rfl⟩
      · rw [List.map_cons, List.zipWith_cons_cons, hv, hvalues]

end Source

/-! ### Formulas -/

namespace Formula

/-- A sum over the terms exists if there is an amount for each term and these can be added up. -/
theorem sum_terms_eq_ok_iff {bound : Term → Except Overflow Amount} {ts : List Term}
    {total : Amount} :
    ((ts.mapM bound).bind Amount.sum) = .ok total ↔
      ∃ values, List.Forall₂ (fun t v => bound t = .ok v) ts values ∧
        Amount.sum values = .ok total := by
  simp only [← mapM_eq_ok_iff]
  cases ts.mapM bound <;> simp [Except.bind]

theorem low_eq_ok_iff {f : Formula} {low : Amount} :
    f.low = .ok low ↔ ∃ lows, List.Forall₂ (fun t v => t.low = .ok v) f.terms lows ∧
      Amount.sum lows = .ok low := sum_terms_eq_ok_iff

theorem high_eq_ok_iff {f : Formula} {high : Amount} :
    f.high = .ok high ↔ ∃ highs, List.Forall₂ (fun t v => t.high = .ok v) f.terms highs ∧
      Amount.sum highs = .ok high := sum_terms_eq_ok_iff

end Formula

namespace Term.Encloses

variable {t : Term} {low v high : Amount}

theorem low_le_of_eq (h : t.Encloses v) (hlow : t.low = .ok low) : low.toInt ≤ v.toInt := by
  obtain ⟨low', hlow', hle⟩ := h.low_le
  cases hlow.symm.trans hlow'
  exact Int64.le_iff_toInt_le.mp hle

theorem le_high_of_eq (h : t.Encloses v) (hhigh : t.high = .ok high) : v.toInt ≤ high.toInt := by
  obtain ⟨high', hhigh', hle⟩ := h.le_high
  cases hhigh.symm.trans hhigh'
  exact Int64.le_iff_toInt_le.mp hle

end Term.Encloses

/-- What a roll of a prepared formula is like. -/
structure Outcome.Within (o : Outcome) (p : Prepared) : Prop where
  /-- There is a value for each term. -/
  length_values : o.values.length = p.formula.terms.length
  /-- It is one that the term can have. -/
  encloses : ∀ (i : Nat) (t : Term) (v : Amount), p.formula.terms[i]? = some t →
    o.values[i]? = some v → t.Encloses v
  /-- The total is the exact sum of the values. -/
  toInt_total : o.total.toInt = Amount.exactSum o.values
  /-- The least total is not greater. -/
  low_le : p.low ≤ o.total
  /-- The greatest total is not less. -/
  le_high : o.total ≤ p.high

/-- A prepared formula has bounds for each of its terms. -/
theorem Prepared.exists_bounds (p : Prepared) :
    ∀ t ∈ p.formula.terms, ∃ low high, t.low = .ok low ∧ t.high = .ok high := by
  obtain ⟨lows, hlows, _⟩ := Formula.low_eq_ok_iff.mp p.low_eq
  obtain ⟨highs, hhighs, _⟩ := Formula.high_eq_ok_iff.mp p.high_eq
  intro t ht
  obtain ⟨low, hlow⟩ := exists_of_mem_of_forall₂ hlows t ht
  obtain ⟨high, hhigh⟩ := exists_of_mem_of_forall₂ hhighs t ht
  exact ⟨low, high, hlow, hhigh⟩

section Source

variable {σ : Type} [FaceSource σ]

/-- **A prepared formula rolls the exact values of its terms**, and their sum, if the dice can show
the faces that are drawn for them. The values lie within the bounds, and no sum overflows. -/
theorem Formula.exists_roll_of_shown (p : Prepared) {s : σ}
    (hshown : List.Forall₂ Term.ShownBy p.formula.terms (Term.drawAll p.formula.terms s).1) :
    ∃ o, p.formula.roll s = .ok (o, (Term.drawAll p.formula.terms s).2) ∧
      o.values.map Int64.toInt =
        p.formula.terms.zipWith Term.value (Term.drawAll p.formula.terms s).1 ∧
      o.total.toInt =
        (p.formula.terms.zipWith Term.value (Term.drawAll p.formula.terms s).1).sum ∧
      o.Within p := by
  obtain ⟨lows, hlows, hlow⟩ := low_eq_ok_iff.mp p.low_eq
  obtain ⟨highs, hhighs, hhigh⟩ := high_eq_ok_iff.mp p.high_eq
  obtain ⟨values, hvalues, hexact, hencloses⟩ := Term.exists_mapM_roll p.exists_bounds hshown
  obtain ⟨total, htotal, hle, hge⟩ := Amount.exists_sum_of_forall₂
    (forall₂_of_forall₂ hlows hencloses fun _ _ _ htlow hv => hv.low_le_of_eq htlow)
    (forall₂_of_forall₂ hencloses hhighs fun _ _ _ hv hthigh => hv.le_high_of_eq hthigh)
    hlow hhigh
  refine ⟨⟨total, values⟩, ?_, hexact, ?_, ?_⟩
  · rw [Formula.roll, Rolling.bind_eq_ok_iff]
    exact ⟨values, _, hvalues,
      Rolling.lift_eq_ok_iff.mpr ⟨Outcome.ofValues_eq_ok_iff.mpr ⟨rfl, htotal⟩, rfl⟩⟩
  · rw [Amount.toInt_sum htotal, Amount.exactSum_eq_sum, hexact]
  · refine ⟨hencloses.length_eq.symm, ?_, Amount.toInt_sum htotal,
      Int64.le_iff_toInt_le.mpr hle, Int64.le_iff_toInt_le.mpr hge⟩
    intro i t v ht hv
    obtain ⟨_, rfl⟩ := List.getElem?_eq_some_iff.mp ht
    obtain ⟨_, rfl⟩ := List.getElem?_eq_some_iff.mp hv
    exact hencloses.get _ _

variable [LawfulFaceSource σ]

/-- **A prepared formula rolls within its bounds**, and the roll does not overflow. -/
theorem Formula.exists_roll (p : Prepared) (s : σ) :
    ∃ o next, p.formula.roll s = .ok (o, next) ∧ o.Within p := by
  obtain ⟨o, hroll, _, _, hwithin⟩ := exists_roll_of_shown p (Term.shownBy_drawAll _ s)
  exact ⟨o, _, hroll, hwithin⟩

/-- Whatever a prepared formula rolls is within its bounds. -/
theorem Formula.within_of_roll {p : Prepared} {s next : σ} {o : Outcome}
    (h : p.formula.roll s = .ok (o, next)) : o.Within p := by
  obtain ⟨o', next', hroll, hwithin⟩ := exists_roll p s
  cases hroll.symm.trans h
  exact hwithin

end Source

end DiceFormula
