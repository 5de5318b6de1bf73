import DiceFormula.Proofs.Range
import DiceFormula.Proofs.Runs
import DiceFormula.Source.Clamped
import Mathlib.Tactic.TFAE

/-!
# Formulas that leave nothing to chance

A formula may contain dice and still come to the same total with every roll, for a group may have no
dice, or dice with one face only. These are all the ways. How far the bounds of a formula are apart
is the sum of how far those of its terms are, since a minus sign exchanges the bounds of a term and
does not move them together. So the bounds coincide only if those of every term do.

A formula whose bounds coincide rolls that total from any source. If they do not, there are two
sources which disagree. A script of the right faces rolls the least total, another the greatest; and
with its faces put onto the die, a script is a source like any other.

## Main definitions

* `Term.spread` — how far the bounds of a term are apart
* `Term.Fixed` — a term with a single value
* `Prepared.SourceIndependent` — a formula that comes to the same total from all sources

## Main results

* `Prepared.high_sub_low` — how far the bounds of a formula are apart
* `Prepared.exists_roll_clamped` — every total between the bounds is rolled from a lawful source
* `Prepared.independent_of_source` — a formula comes to one total from all sources exactly if its
  bounds coincide
-/

namespace DiceFormula

/-! ### How far the bounds are apart -/

/-- How far the extremes of an atom are apart: for each die, as far as its last face is from its
first. -/
def Atom.spread : Atom → Nat
  | .constant _ => 0
  | .dice d => d.num.toNat * (d.sides.count.toNat - 1)

/-- How far the bounds of a term are apart, whatever its sign. -/
def Term.spread (t : Term) : Nat := t.atom.spread

/-- A term with a single value: its dice, if it has any, have one face. -/
def Term.Fixed (t : Term) : Prop := ∀ d, t.atom = .dice d → d.num = 0 ∨ d.sides.count.val = 1

theorem Atom.greatest_sub_least {a : Atom} {least greatest : Amount}
    (h : a.extremes = .ok (least, greatest)) : greatest.toInt - least.toInt = a.spread := by
  cases a with
  | constant n =>
    cases h
    exact Int.sub_self _
  | dice d =>
    obtain ⟨hleast, hgreatest⟩ := extremes_dice_eq_ok_iff.mp h
    have hle : d.num.toNat ≤ d.num.toNat * d.sides.count.toNat :=
      Nat.le_mul_of_pos_right _ d.sides.count.toNat_pos
    rw [hleast, hgreatest, spread, Nat.mul_sub_one]
    omega

namespace Term

variable {t : Term} {low v high : Amount}

/-- A minus sign exchanges the bounds and leaves them as far apart. -/
theorem high_sub_low (hlow : t.low = .ok low) (hhigh : t.high = .ok high) :
    high.toInt - low.toInt = t.spread := by
  obtain ⟨least, greatest, hextremes, hbounds⟩ := exists_extremes hlow hhigh
  rw [spread, ← Atom.greatest_sub_least hextremes]
  omega

theorem spread_eq_zero_iff : t.spread = 0 ↔ t.Fixed := by
  obtain ⟨sign, atom⟩ := t
  cases atom with
  | constant n => exact ⟨fun _ => nofun, fun _ => rfl⟩
  | dice d =>
    have hpos := d.sides.count.toNat_pos
    have hnum : d.num.toNat = 0 ↔ d.num = 0 := @UInt32.toNat_inj _ 0
    have hsides : d.sides.count.toNat - 1 = 0 ↔ d.sides.count.val = 1 := by
      rw [← UInt32.toNat_inj]
      show _ ↔ d.sides.count.toNat = 1
      omega
    rw [spread, Atom.spread, Nat.mul_eq_zero, hnum, hsides]
    exact ⟨fun h _ hd => by cases hd; exact h, fun h => h d rfl⟩

/-- What a fixed term rolls is both its bounds. -/
theorem Fixed.eq_of_encloses (hfixed : t.Fixed) (h : t.Encloses v) :
    t.low = .ok v ∧ t.high = .ok v := by
  obtain ⟨low, hlow, hle⟩ := h.low_le
  obtain ⟨high, hhigh, hge⟩ := h.le_high
  have hspread := high_sub_low hlow hhigh
  rw [spread_eq_zero_iff.mpr hfixed] at hspread
  rw [Int64.le_iff_toInt_le] at hle hge
  have hleast : low = v := Int64.toInt_inj.mp (by omega)
  have hgreatest : high = v := Int64.toInt_inj.mp (by omega)
  rw [hlow, hhigh, hleast, hgreatest]
  exact ⟨rfl, rfl⟩

/-- The sums of the bounds of some terms are as far apart as the bounds of all of them together. -/
theorem exactSum_sub_exactSum {ts : List Term} {lows highs : List Amount}
    (hlows : List.Forall₂ (fun t low => t.low = .ok low) ts lows)
    (hhighs : List.Forall₂ (fun t high => t.high = .ok high) ts highs) :
    Amount.exactSum highs - Amount.exactSum lows = (ts.map spread).sum := by
  induction hlows generalizing highs with
  | nil =>
    cases hhighs
    rfl
  | cons hlow _ ih =>
    cases hhighs with
    | cons hhigh hhighs =>
      have hterm := high_sub_low hlow hhigh
      have hrest := ih hhighs
      rw [Amount.exactSum, Amount.exactSum, List.map_cons, List.sum_cons, Int.natCast_add]
      omega

end Term

namespace Prepared

/-- **The bounds of a formula are as far apart as those of its terms**, all of them together. -/
theorem high_sub_low (p : Prepared) :
    p.high.toInt - p.low.toInt = (p.formula.terms.map Term.spread).sum := by
  obtain ⟨lows, hlows, hlow⟩ := Formula.low_eq_ok_iff.mp p.low_eq
  obtain ⟨highs, hhighs, hhigh⟩ := Formula.high_eq_ok_iff.mp p.high_eq
  rw [Amount.toInt_sum hlow, Amount.toInt_sum hhigh]
  exact Term.exactSum_sub_exactSum hlows hhighs

theorem low_eq_high_iff {p : Prepared} :
    p.low = p.high ↔ ∀ t ∈ p.formula.terms, t.Fixed := by
  have hspread := p.high_sub_low
  calc p.low = p.high
      ↔ (p.formula.terms.map Term.spread).sum = 0 := by
        rw [← Int64.toInt_inj]
        omega
    _ ↔ ∀ t ∈ p.formula.terms, t.spread = 0 := by
        rw [List.sum_eq_zero_iff, List.forall_mem_map]
    _ ↔ ∀ t ∈ p.formula.terms, t.Fixed := by
        simp only [Term.spread_eq_zero_iff]

end Prepared

/-! ### Sources that disagree -/

/-- Terms draw the same from a source with its faces put onto the die, if they can show what the
source hands out. -/
theorem Clamped.drawAll_of_shown {σ : Type} [FaceStream σ] {ts : List Term} {s : σ}
    (h : List.Forall₂ Term.ShownBy ts (Term.drawAll ts s).1) :
    Term.drawAll ts (⟨s⟩ : Clamped σ) =
      ((Term.drawAll ts s).1, ⟨(Term.drawAll ts s).2⟩) := by
  induction ts generalizing s with
  | nil => rfl
  | cons t ts ih =>
    rw [Term.drawAll_cons] at h
    cases h with
    | cons ht hts =>
      have hdraw : t.draw (⟨s⟩ : Clamped σ) = ((t.draw s).1, ⟨(t.draw s).2⟩) := by
        obtain ⟨sign, atom⟩ := t
        cases ht with
        | constant n => rfl
        | dice hdice => exact faces_of_onDie hdice.onDie
      rw [Term.drawAll_cons, hdraw, ih hts, Term.drawAll_cons]

namespace Prepared

/-- Every total between the bounds is rolled from a script with its faces put onto the die. -/
theorem exists_roll_clamped (p : Prepared) {v : Int} (hle : p.low.toInt ≤ v)
    (hge : v ≤ p.high.toInt) :
    ∃ (s : Clamped Script) (o : Outcome) (next : Clamped Script),
      p.formula.roll s = .ok (o, next) ∧ o.total.toInt = v := by
  obtain ⟨groups, hcomes⟩ := p.exists_comesTo hle hge
  have hscript := Script.drawAll_flatten_append hcomes.shown []
  have hdraw : (Term.drawAll p.formula.terms (⟨⟨groups.flatten ++ []⟩⟩ : Clamped Script)).1 =
      groups := by
    rw [Clamped.drawAll_of_shown (by rw [hscript]; exact hcomes.shown), hscript]
  obtain ⟨o, hroll, htotal⟩ := hcomes.source (Clamped Script) _ hdraw
  exact ⟨_, o, _, hroll, htotal⟩

/-- A prepared formula comes to the same total from any two sources whose faces are on the dice. -/
def SourceIndependent (p : Prepared) : Prop :=
  ∀ (σ τ : Type) [FaceSource σ] [LawfulFaceSource σ] [FaceSource τ] [LawfulFaceSource τ] (s : σ)
    (t : τ), ∃ v s' t', (Session.start p s).perform .evaluate = .ok (.amount v, s') ∧
      (Session.start p t).perform .evaluate = .ok (.amount v, t')

/-- If no two sources disagree, the bounds coincide: both are rolled from some source. -/
theorem SourceIndependent.low_eq_high {p : Prepared} (h : p.SourceIndependent) :
    p.low = p.high := by
  obtain ⟨s, o, s', hroll, hlow⟩ := p.exists_roll_clamped (Int.le_refl _) p.low_le_high
  obtain ⟨t, q, t', hroll', hhigh⟩ := p.exists_roll_clamped p.low_le_high (Int.le_refl _)
  obtain ⟨v, _, _, hs, ht⟩ := h _ _ s t
  have hlowest : o.total = v := by
    cases (Session.perform_of_roll (s := Session.start p s) rfl hroll).2.symm.trans hs
    rfl
  have hhighest : q.total = v := by
    cases (Session.perform_of_roll (s := Session.start p t) rfl hroll').2.symm.trans ht
    rfl
  rw [← Int64.toInt_inj, ← hlow, ← hhigh, hlowest, hhighest]

/-! ### Bounds that coincide -/

/-- An outcome within bounds that coincide has no choice, and neither have its values. -/
theorem eq_of_within {p : Prepared} {o : Outcome} (h : p.low = p.high) (hwithin : o.Within p) :
    o.total = p.low ∧
      List.Forall₂ (fun t v => t.low = .ok v ∧ t.high = .ok v) p.formula.terms o.values := by
  refine ⟨Int64.le_antisymm (h ▸ hwithin.le_high) hwithin.low_le, ?_⟩
  refine List.forall₂_iff_get.mpr ⟨hwithin.length_values.symm, fun i ht hv => ?_⟩
  have hfixed := low_eq_high_iff.mp h _ (List.getElem_mem ht)
  exact hfixed.eq_of_encloses (hwithin.encloses i _ _ (List.getElem?_eq_getElem ht)
    (List.getElem?_eq_getElem hv))

section Source

variable {σ : Type} [FaceSource σ] [LawfulFaceSource σ]

/-- A formula whose bounds coincide rolls them from any source, and so does each of its terms. -/
theorem exists_perform_of_low_eq_high {p : Prepared} (h : p.low = p.high) (s : σ) :
    ∃ o next, (Session.start p s).perform .roll = .ok (.outcome o, next) ∧
      (Session.start p s).perform .evaluate = .ok (.amount p.low, next) ∧ o.total = p.low ∧
      List.Forall₂ (fun t v => t.low = .ok v ∧ t.high = .ok v) p.formula.terms o.values := by
  obtain ⟨o, next, hroll, hevaluate, hwithin⟩ :=
    Session.exists_perform_roll (s := Session.start p s) rfl
  obtain ⟨htotal, hvalues⟩ := eq_of_within h hwithin
  exact ⟨o, next, hroll, htotal ▸ hevaluate, htotal, hvalues⟩

end Source

/-- **A formula leaves nothing to chance exactly if its bounds coincide**, and this is the case
exactly if no term of it has a die with a choice of faces. From every source it then rolls this
total, and each of its terms the one value that it has. In general, the bounds are as far apart as
those of the groups of dice together, of which some may be subtracted. -/
theorem independent_of_source (p : Prepared) :
    List.TFAE [p.low = p.high, ∀ t ∈ p.formula.terms, t.Fixed, p.SourceIndependent] ∧
      (p.low = p.high → ∀ (σ : Type) [FaceSource σ] [LawfulFaceSource σ] (s : σ),
        ∃ o next, (Session.start p s).perform .roll = .ok (.outcome o, next) ∧ o.total = p.low ∧
          List.Forall₂ (fun t v => t.low = .ok v ∧ t.high = .ok v) p.formula.terms o.values) ∧
      p.high.toInt - p.low.toInt = (p.formula.terms.map Term.spread).sum := by
  refine ⟨?_, fun h σ _ _ s => ?_, p.high_sub_low⟩
  · tfae_have 1 ↔ 2 := low_eq_high_iff
    tfae_have 1 → 3 := by
      intro h σ τ _ _ _ _ s t
      obtain ⟨_, s', _, hs, _⟩ := exists_perform_of_low_eq_high h s
      obtain ⟨_, t', _, ht, _⟩ := exists_perform_of_low_eq_high h t
      exact ⟨p.low, s', t', hs, ht⟩
    tfae_have 3 → 1 := SourceIndependent.low_eq_high
    tfae_finish
  · obtain ⟨o, next, hroll, _, htotal, hvalues⟩ := exists_perform_of_low_eq_high h s
    exact ⟨o, next, hroll, htotal, hvalues⟩

/-- The formula `0d%-3d1+4`, prepared. -/
def noDiceAndThreeOnes : Prepared where
  formula := ⟨.dice ⟨0, .percentile⟩,
    [⟨.neg, .dice ⟨3, .poly ⟨1, by decide⟩⟩⟩, ⟨.pos, .constant 4⟩]⟩
  low := 1
  high := 1
  low_eq := by decide +kernel
  high_eq := by decide +kernel

/-- No dice and dice with a single face, rolled by words; and two dice with a choice of faces. -/
theorem independent_of_source_no_dice_and_three_ones :
    noDiceAndThreeOnes.SourceIndependent ∧
      (∃ o next, (Session.start noDiceAndThreeOnes (Words.ofSeed 7)).perform .roll =
        .ok (.outcome o, next) ∧ o.total = 1 ∧
          List.Forall₂ (fun t v => t.low = .ok v ∧ t.high = .ok v) noDiceAndThreeOnes.formula.terms
            o.values) ∧
      ¬ Session.twentyMinusTwoDice.SourceIndependent := by
  obtain ⟨hequivalent, hrolls, _⟩ := independent_of_source noDiceAndThreeOnes
  obtain ⟨hdifferent, _⟩ := independent_of_source Session.twentyMinusTwoDice
  refine ⟨(hequivalent.out 0 2).mp rfl, hrolls rfl Words (Words.ofSeed 7), fun h => ?_⟩
  have hbounds : (8 : Amount) = 18 := (hdifferent.out 0 2).mpr h
  exact absurd hbounds (by decide)

end Prepared

end DiceFormula
