import DiceFormula.Proofs.Bounds

/-!
# Bounds without a limit

The bounds of a term are computed in the range of amounts, and so are the sums of the bounds of a
formula. As integers they exist for every term, however many dice it has and however many faces
these have. The two agree as long as one product is an amount, which is the greatest total of the
dice. A minus sign plays no part in this: no magnitude is negative, so its negative is an amount
whenever the magnitude itself is one.

So whether a formula can be prepared is decided by integers alone. The greatest magnitude of each of
its terms must be an amount, and every sum on the way to its bounds must be one.

## Main definitions

* `Atom.least`, `Atom.greatest`, `Term.least`, `Term.greatest` — bounds as integers
* `Term.BoundsFit` — terms whose bounds can be added up

## Main results

* `Term.low_eq_ok_iff`, `Term.high_eq_ok_iff` — the bounds of a term are the exact ones, or its
  greatest magnitude is no amount
* `Prepared.toInt_low`, `Prepared.toInt_high` — the bounds of a prepared formula are the exact ones
* `Formula.exists_prepared_iff` — which formulas can be prepared
-/

namespace DiceFormula

/-! ### Magnitudes -/

namespace Atom

/-- The least magnitude of an atom, with every die showing one. -/
def least : Atom → Nat
  | .constant n => n.toNat
  | .dice d => d.num.toNat

/-- The greatest magnitude of an atom, with every die showing its highest face. -/
def greatest : Atom → Nat
  | .constant n => n.toNat
  | .dice d => d.num.toNat * d.sides.count.toNat

theorem least_le_greatest (a : Atom) : a.least ≤ a.greatest := by
  cases a with
  | constant n => exact Nat.le_refl _
  | dice d => exact Nat.le_mul_of_pos_right _ d.sides.count.toNat_pos

/-- The extremes of an atom are the exact ones, if the greatest is an amount. -/
theorem exists_extremes_of_inRange {a : Atom} (h : Amount.InRange a.greatest) :
    ∃ least greatest, a.extremes = .ok (least, greatest) ∧ least.toInt = a.least ∧
      greatest.toInt = a.greatest := by
  cases a with
  | constant n => exact ⟨_, _, rfl, Amount.toInt_ofCount n, Amount.toInt_ofCount n⟩
  | dice d =>
    obtain ⟨greatest, _, hgreatest⟩ := Amount.exists_fit h .multiplication
    have hleast := Amount.toInt_ofCount d.num
    exact ⟨_, greatest, extremes_dice_eq_ok_iff.mpr ⟨hleast, hgreatest⟩, hleast, hgreatest⟩

/-- If it is not, the product of the number of dice and their faces overflows. -/
theorem extremes_of_not_inRange {a : Atom} (h : ¬ Amount.InRange a.greatest) :
    a.extremes = .error .multiplication := by
  cases a with
  | constant n =>
    have hn := Amount.inRange_toInt (Amount.ofCount n)
    rw [Amount.toInt_ofCount] at hn
    exact absurd hn h
  | dice d =>
    have hfit : Amount.fit .multiplication (d.num.toNat * d.sides.count.toNat : Nat) =
        .error .multiplication := Amount.fit_eq_error_iff.mpr ⟨rfl, h⟩
    rw [extremes_dice, hfit]
    rfl

end Atom

/-! ### Terms -/

namespace Term

/-- The least value of a term as an integer. -/
def least (t : Term) : Int :=
  match t.sign with
  | .pos => t.atom.least
  | .neg => -t.atom.greatest

/-- The greatest value of a term as an integer. -/
def greatest (t : Term) : Int :=
  match t.sign with
  | .pos => t.atom.greatest
  | .neg => -t.atom.least

theorem least_le_greatest (t : Term) : t.least ≤ t.greatest := by
  obtain ⟨sign, atom⟩ := t
  have hle := atom.least_le_greatest
  cases sign with
  | pos => exact Int.ofNat_le.mpr hle
  | neg => exact Int.neg_le_neg (Int.ofNat_le.mpr hle)

/-- Neither bound is further from zero than the greatest magnitude. -/
theorem neg_greatest_le_least (t : Term) :
    -(t.atom.greatest : Int) ≤ t.least ∧ t.greatest ≤ t.atom.greatest := by
  obtain ⟨sign, atom⟩ := t
  have hle := atom.least_le_greatest
  cases sign with
  | pos =>
    show -(atom.greatest : Int) ≤ atom.least ∧ (atom.greatest : Int) ≤ atom.greatest
    omega
  | neg =>
    show -(atom.greatest : Int) ≤ -atom.greatest ∧ -(atom.least : Int) ≤ atom.greatest
    omega

/-- The bounds of a term are the exact ones, if its greatest magnitude is an amount. -/
theorem exists_bounds_of_inRange {t : Term} (h : Amount.InRange t.atom.greatest) :
    ∃ low high, t.low = .ok low ∧ t.high = .ok high ∧ low.toInt = t.least ∧
      high.toInt = t.greatest := by
  obtain ⟨sign, atom⟩ := t
  obtain ⟨least, greatest, hextremes, hleast, hgreatest⟩ := Atom.exists_extremes_of_inRange h
  cases sign with
  | pos =>
    obtain ⟨hlow, hhigh⟩ := low_high_of_pos hextremes
    exact ⟨least, greatest, hlow, hhigh, hleast, hgreatest⟩
  | neg =>
    obtain ⟨hlow, hhigh⟩ := low_high_of_neg hextremes
    obtain ⟨low, hneg, hlowValue⟩ := Sign.exists_apply .neg hgreatest
    obtain ⟨high, hneg', hhighValue⟩ := Sign.exists_apply .neg hleast
    exact ⟨low, high, hlow.trans hneg, hhigh.trans hneg', hlowValue, hhighValue⟩

/-- If it is not, both bounds overflow, and a minus sign does not change how. -/
theorem bounds_of_not_inRange {t : Term} (h : ¬ Amount.InRange t.atom.greatest) :
    t.low = .error .multiplication ∧ t.high = .error .multiplication := by
  rw [low, high, Atom.extremes_of_not_inRange h]
  exact ⟨rfl, rfl⟩

theorem low_eq_ok_iff {t : Term} {v : Amount} :
    t.low = .ok v ↔ Amount.InRange t.atom.greatest ∧ v.toInt = t.least := by
  by_cases h : Amount.InRange t.atom.greatest
  · obtain ⟨low, _, hlow, _, hvalue, _⟩ := exists_bounds_of_inRange h
    rw [hlow, Except.ok.injEq, ← Int64.toInt_inj, hvalue, eq_comm]
    exact ⟨fun heq => ⟨h, heq⟩, And.right⟩
  · rw [(bounds_of_not_inRange h).1]
    exact ⟨nofun, fun hv => absurd hv.1 h⟩

theorem high_eq_ok_iff {t : Term} {v : Amount} :
    t.high = .ok v ↔ Amount.InRange t.atom.greatest ∧ v.toInt = t.greatest := by
  by_cases h : Amount.InRange t.atom.greatest
  · obtain ⟨_, high, _, hhigh, _, hvalue⟩ := exists_bounds_of_inRange h
    rw [hhigh, Except.ok.injEq, ← Int64.toInt_inj, hvalue, eq_comm]
    exact ⟨fun heq => ⟨h, heq⟩, And.right⟩
  · rw [(bounds_of_not_inRange h).2]
    exact ⟨nofun, fun hv => absurd hv.1 h⟩

end Term

/-! ### Formulas -/

/-- One bound of each of some terms, added up, where `exact` gives these bounds as integers. -/
private theorem sum_bounds_eq_ok_iff {bound : Term → Except Overflow Amount} {exact : Term → Int}
    (hexact : ∀ {t : Term} {v : Amount},
      bound t = .ok v ↔ Amount.InRange t.atom.greatest ∧ v.toInt = exact t)
    (hexists : ∀ {t : Term}, Amount.InRange t.atom.greatest → ∃ v, bound t = .ok v)
    {ts : List Term} {total : Amount} :
    (∃ values, List.Forall₂ (fun t v => bound t = .ok v) ts values ∧
        Amount.sum values = .ok total) ↔
      (∀ t ∈ ts, Amount.InRange t.atom.greatest) ∧
        (∀ k, Amount.InRange ((ts.take k).map exact).sum) ∧ total.toInt = (ts.map exact).sum := by
  -- As integers, the bounds that are found are the exact ones.
  have hmap {values : List Amount} (h : List.Forall₂ (fun t v => bound t = .ok v) ts values) :
      values.map Int64.toInt = ts.map exact := by
    induction h with
    | nil => rfl
    | cons hv _ ih => rw [List.map_cons, List.map_cons, (hexact.mp hv).2, ih]
  constructor
  · rintro ⟨values, hvalues, htotal⟩
    rw [Amount.sum_eq_ok_iff, hmap hvalues] at htotal
    simp only [List.map_take]
    refine ⟨fun t ht => ?_, htotal⟩
    obtain ⟨v, hv⟩ := exists_of_mem_of_forall₂ hvalues t ht
    exact (hexact.mp hv).1
  · rintro ⟨hgreatest, hsums⟩
    obtain ⟨values, hvalues⟩ := exists_forall₂_of_forall_mem fun t ht => hexists (hgreatest t ht)
    refine ⟨values, hvalues, ?_⟩
    rw [Amount.sum_eq_ok_iff, hmap hvalues]
    simpa only [List.map_take] using hsums

/-- The bounds of some terms can be added up: none of them overflows, and neither does a sum on the
way, of the least values or of the greatest. -/
structure Term.BoundsFit (ts : List Term) : Prop where
  /-- The greatest magnitude of each term is an amount. -/
  greatest : ∀ t ∈ ts, Amount.InRange t.atom.greatest
  /-- The least values are added up from the left. -/
  sum_least : ∀ k, Amount.InRange ((ts.take k).map Term.least).sum
  /-- So are the greatest. -/
  sum_greatest : ∀ k, Amount.InRange ((ts.take k).map Term.greatest).sum

namespace Formula

variable {f : Formula}

theorem low_eq_ok_iff_exact {low : Amount} :
    f.low = .ok low ↔ (∀ t ∈ f.terms, Amount.InRange t.atom.greatest) ∧
      (∀ k, Amount.InRange ((f.terms.take k).map Term.least).sum) ∧
        low.toInt = (f.terms.map Term.least).sum := by
  rw [low_eq_ok_iff]
  refine sum_bounds_eq_ok_iff Term.low_eq_ok_iff fun h => ?_
  obtain ⟨low, _, hlow, _⟩ := Term.exists_bounds_of_inRange h
  exact ⟨low, hlow⟩

theorem high_eq_ok_iff_exact {high : Amount} :
    f.high = .ok high ↔ (∀ t ∈ f.terms, Amount.InRange t.atom.greatest) ∧
      (∀ k, Amount.InRange ((f.terms.take k).map Term.greatest).sum) ∧
        high.toInt = (f.terms.map Term.greatest).sum := by
  rw [high_eq_ok_iff]
  refine sum_bounds_eq_ok_iff Term.high_eq_ok_iff fun h => ?_
  obtain ⟨_, high, _, hhigh, _⟩ := Term.exists_bounds_of_inRange h
  exact ⟨high, hhigh⟩

end Formula

namespace Prepared

/-- The least total of a prepared formula is the exact one. -/
theorem toInt_low (p : Prepared) : p.low.toInt = (p.formula.terms.map Term.least).sum :=
  (Formula.low_eq_ok_iff_exact.mp p.low_eq).2.2

/-- So is the greatest. -/
theorem toInt_high (p : Prepared) : p.high.toInt = (p.formula.terms.map Term.greatest).sum :=
  (Formula.high_eq_ok_iff_exact.mp p.high_eq).2.2

end Prepared

/-- **A formula can be prepared exactly if its bounds can be added up as integers** without any of
the sums on the way leaving the range of amounts. -/
theorem Formula.exists_prepared_iff {f : Formula} :
    (∃ p : Prepared, p.formula = f) ↔ Term.BoundsFit f.terms := by
  constructor
  · rintro ⟨p, rfl⟩
    obtain ⟨hgreatest, hlows, _⟩ := low_eq_ok_iff_exact.mp p.low_eq
    obtain ⟨_, hhighs, _⟩ := high_eq_ok_iff_exact.mp p.high_eq
    exact ⟨hgreatest, hlows, hhighs⟩
  · rintro ⟨hgreatest, hlows, hhighs⟩
    -- The whole sum is one of the sums on the way.
    have hwhole {exact : Term → Int}
        (h : ∀ k, Amount.InRange ((f.terms.take k).map exact).sum) :
        Amount.InRange (f.terms.map exact).sum := by
      simpa only [List.take_length] using h f.terms.length
    obtain ⟨low, _, hlow⟩ := Amount.exists_fit (hwhole hlows) .addition
    obtain ⟨high, _, hhigh⟩ := Amount.exists_fit (hwhole hhighs) .addition
    exact ⟨⟨f, low, high, low_eq_ok_iff_exact.mpr ⟨hgreatest, hlows, hlow⟩,
      high_eq_ok_iff_exact.mpr ⟨hgreatest, hhighs, hhigh⟩⟩, rfl⟩

end DiceFormula
