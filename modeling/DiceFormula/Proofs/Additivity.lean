import DiceFormula.Proofs.Capacity
import DiceFormula.Proofs.Concatenation
import DiceFormula.Proofs.ExactBounds

/-!
# Sums and differences of formulas

The text of two formulas with a plus sign between them is that of their sum. Its terms are those of
the first formula and then those of the second, and so everything about it is the first part
followed by the second: its bounds are added up, its dice are drawn in turn from the same source,
and its total is the sum of the two totals. A minus sign between two texts concerns only the term
behind it. If that is all there is, the whole is the difference of the two formulas. The bounds of
what is subtracted change places, and its value is negated.

That the sum can be prepared does not follow from both formulas being so, since it may be too large.
It is the other way round with the first of them: all sums on the way to its bounds are sums on the
way to the bounds of the whole.

## Main definitions

* `Prepared.IsSum`, `Prepared.IsDifference` — what a formula is worth in terms of two others

## Main results

* `Formula.ofSpacedText_append_eq_ok_iff` — a text with an operator in it is read piece by piece
* `Formula.exists_mapM_roll_of_append` — a formula that starts with another one rolls this first
* `Prepared.concatenation_adds` — what is made of two texts with an operator between them
-/

namespace DiceFormula

/-! ### Reading -/

theorem Sign.text_pos : text .pos = "+" := rfl

theorem Sign.text_neg : text .neg = "-" := rfl

namespace Formula

/-- A text with an operator in it is read if the texts before and after the operator are. -/
theorem ofSpacedText_append_eq_ok_iff {s t : String} {g : Sign} {f : Formula} :
    ofSpacedText (s ++ g.text ++ t) = .ok f ↔
      ∃ f₁ f₂, ofSpacedText s = .ok f₁ ∧ ofSpacedText t = .ok f₂ ∧ join g f₁ f₂ = f := by
  rw [ofSpacedText, strip_append_text, ofText, toList_append_text]
  exact ofTokens_scan_append_eq_ok_iff

end Formula

/-- A text is prepared if it is read as a formula that is not longer than its capacity. -/
theorem Prepared.exists_ofText {s : String} {f : Formula} (h : Formula.ofSpacedText s = .ok f)
    (hfew : f.terms.length ≤ Formula.capacity) : ∃ p, ofText s = .ok p ∧ p.formula = f := by
  obtain ⟨p, rfl⟩ := Formula.exists_prepared (Formula.writable_of_ofSpacedText h) hfew
  exact ⟨p, ofText_eq_ok_iff.mpr h, rfl⟩

/-! ### Bounds -/

/-- The sums on the way to the bounds of some terms are on the way to those of more terms. -/
theorem Term.BoundsFit.of_append {ts us : List Term} (h : BoundsFit (ts ++ us)) : BoundsFit ts := by
  have htake (k : Nat) : ts.take k = (ts ++ us).take (min k ts.length) := by
    rw [List.take_append_of_le_length (Nat.min_le_right k ts.length), ← List.take_take,
      List.take_length]
  refine ⟨fun t ht => h.greatest t (List.mem_append_left us ht), fun k => ?_, fun k => ?_⟩
  · rw [htake]
    exact h.sum_least _
  · rw [htake]
    exact h.sum_greatest _

/-! ### Rolls -/

section Source

variable {σ : Type} [FaceSource σ]

namespace Formula

/-- A formula rolls its terms, and then adds up their values. -/
theorem roll_eq_ok_iff {f : Formula} {s next : σ} {o : Outcome} :
    f.roll s = .ok (o, next) ↔
      f.terms.mapM Term.roll s = .ok (o.values, next) ∧ Amount.sum o.values = .ok o.total := by
  rw [roll, Rolling.bind_eq_ok_iff]
  simp only [Rolling.lift_eq_ok_iff, Outcome.ofValues_eq_ok_iff]
  constructor
  · rintro ⟨values, _, hvalues, ⟨rfl, hsum⟩, rfl⟩
    exact ⟨hvalues, hsum⟩
  · rintro ⟨hvalues, hsum⟩
    exact ⟨o.values, next, hvalues, ⟨rfl, hsum⟩, rfl⟩

/-- **A formula that starts with the terms of another one rolls that one first**, and the terms
that are left from the state behind it. -/
theorem exists_mapM_roll_of_append {f w : Formula} {us : List Term} {s mid next : σ}
    {first o : Outcome} (hterms : w.terms = f.terms ++ us)
    (hfirst : f.roll s = .ok (first, mid)) (hroll : w.roll s = .ok (o, next)) :
    ∃ values, us.mapM Term.roll mid = .ok (values, next) ∧ o.values = first.values ++ values ∧
      o.total.toInt = first.total.toInt + Amount.exactSum values := by
  obtain ⟨hfirstValues, hfirstSum⟩ := roll_eq_ok_iff.mp hfirst
  obtain ⟨hvalues, hsum⟩ := roll_eq_ok_iff.mp hroll
  rw [hterms, List.mapM_append, Rolling.bind_eq_ok_iff] at hvalues
  obtain ⟨firstValues, mid', hfirstValues', hrest⟩ := hvalues
  cases hfirstValues.symm.trans hfirstValues'
  obtain ⟨values, next', hvalues, hpure⟩ := Rolling.bind_eq_ok_iff.mp hrest
  obtain ⟨happend, rfl⟩ := Prod.mk.inj (Except.ok.inj hpure)
  refine ⟨values, hvalues, happend.symm, ?_⟩
  rw [Amount.toInt_sum hsum, Amount.toInt_sum hfirstSum, ← happend, Amount.exactSum_append]

end Formula

/-- A term with a minus sign draws the same faces, and its value is the negated one. -/
theorem Term.roll_neg {a : Atom} {s next next' : σ} {v x : Amount}
    (hpos : roll ⟨.pos, a⟩ s = .ok (v, next)) (hneg : roll ⟨.neg, a⟩ s = .ok (x, next')) :
    next' = next ∧ x.toInt = -v.toInt := by
  obtain ⟨magnitude, mid, hdraw, hlift⟩ := Rolling.bind_eq_ok_iff.mp hpos
  obtain ⟨hv, rfl⟩ := Rolling.lift_eq_ok_iff.mp hlift
  cases hv
  obtain ⟨magnitude', mid', hdraw', hlift'⟩ := Rolling.bind_eq_ok_iff.mp hneg
  cases hdraw.symm.trans hdraw'
  obtain ⟨hx, rfl⟩ := Rolling.lift_eq_ok_iff.mp hlift'
  exact ⟨rfl, Amount.fit_eq_ok_iff.mp hx⟩

/-- A single term is rolled as a formula. -/
theorem Term.mapM_roll_singleton {t : Term} {s next : σ} {values : List Amount} :
    [t].mapM roll s = .ok (values, next) ↔ ∃ v, t.roll s = .ok (v, next) ∧ values = [v] := by
  rw [List.mapM_cons, Rolling.bind_eq_ok_iff]
  constructor
  · rintro ⟨v, mid, hroll, hpure⟩
    cases hpure
    exact ⟨v, hroll, rfl⟩
  · rintro ⟨v, hroll, rfl⟩
    exact ⟨v, next, hroll, rfl⟩

end Source

/-! ### Sums and differences -/

/-- An outcome that consists of two others. -/
structure Outcome.IsSum (o first second : Outcome) : Prop where
  /-- The values of the one come before those of the other. -/
  values : o.values = first.values ++ second.values
  /-- The totals are added up. -/
  total : o.total.toInt = first.total.toInt + second.total.toInt

/-- An outcome that consists of another one and, subtracted from it, the value of a single term. -/
structure Outcome.IsDifference (o first second : Outcome) : Prop where
  /-- There is one value to be subtracted. -/
  single : second.values = [second.total]
  /-- Its negative is the last value. -/
  values : ∃ x : Amount, o.values = first.values ++ [x] ∧ x.toInt = -second.total.toInt
  /-- The one total is subtracted from the other. -/
  total : o.total.toInt = first.total.toInt - second.total.toInt

namespace Prepared

/-- A roll of `w` is a roll of `p` and then one of `q`. What comes out of the two is put together as
`composes` says, and the source is left as the second one leaves it. -/
structure RollsInTurn (composes : Outcome → Outcome → Outcome → Prop) (w p q : Prepared) :
    Prop where
  /-- So it is from any source, if none of the rolls overflows. -/
  of_roll : ∀ (σ : Type) [FaceSource σ] (s mid last next : σ) (first second o : Outcome),
    p.formula.roll s = .ok (first, mid) → q.formula.roll mid = .ok (second, last) →
      w.formula.roll s = .ok (o, next) → next = last ∧ composes o first second
  /-- None does if the faces are on the dice. -/
  exists_roll : ∀ (σ : Type) [FaceSource σ] [LawfulFaceSource σ] (s : σ),
    ∃ first mid second last o, p.formula.roll s = .ok (first, mid) ∧
      q.formula.roll mid = .ok (second, last) ∧ w.formula.roll s = .ok (o, last) ∧
      composes o first second

/-- A prepared formula that is the sum of two others. -/
structure IsSum (w p q : Prepared) : Prop where
  /-- The least totals are added up. -/
  low : w.low.toInt = p.low.toInt + q.low.toInt
  /-- So are the greatest. -/
  high : w.high.toInt = p.high.toInt + q.high.toInt
  /-- One is rolled after the other. -/
  rolls : RollsInTurn Outcome.IsSum w p q

/-- A prepared formula that is the difference of two others, of which the second has one term. -/
structure IsDifference (w p q : Prepared) : Prop where
  /-- The greatest total is subtracted from the least one. -/
  low : w.low.toInt = p.low.toInt - q.high.toInt
  /-- And the least total from the greatest one. -/
  high : w.high.toInt = p.high.toInt - q.low.toInt
  /-- One is rolled after the other. -/
  rolls : RollsInTurn Outcome.IsDifference w p q

variable {w p q : Prepared}

theorem rollsInTurn_of_roll {composes : Outcome → Outcome → Outcome → Prop}
    (h : ∀ {σ : Type} [FaceSource σ] {s mid last next : σ} {first second o : Outcome},
      p.formula.roll s = .ok (first, mid) → q.formula.roll mid = .ok (second, last) →
        w.formula.roll s = .ok (o, next) → next = last ∧ composes o first second) :
    RollsInTurn composes w p q := by
  refine ⟨fun σ _ s mid last next first second o => h, fun σ _ _ s => ?_⟩
  obtain ⟨first, mid, hfirst, _⟩ := Formula.exists_roll p s
  obtain ⟨second, last, hsecond, _⟩ := Formula.exists_roll q mid
  obtain ⟨o, next, hroll, _⟩ := Formula.exists_roll w s
  obtain ⟨rfl, hcomposes⟩ := h hfirst hsecond hroll
  exact ⟨first, mid, second, next, o, hfirst, hsecond, hroll, hcomposes⟩

/-- A formula with the terms of two others is their sum. -/
theorem isSum_of_terms (h : w.formula.terms = p.formula.terms ++ q.formula.terms) :
    w.IsSum p q where
  low := by rw [toInt_low, toInt_low, toInt_low, h, List.map_append, List.sum_append]
  high := by rw [toInt_high, toInt_high, toInt_high, h, List.map_append, List.sum_append]
  rolls := rollsInTurn_of_roll fun hfirst hsecond hroll => by
    obtain ⟨values, hvalues, happend, htotal⟩ :=
      Formula.exists_mapM_roll_of_append h hfirst hroll
    obtain ⟨hsecondValues, hsecondSum⟩ := Formula.roll_eq_ok_iff.mp hsecond
    cases hvalues.symm.trans hsecondValues
    rw [← Amount.toInt_sum hsecondSum] at htotal
    exact ⟨rfl, happend, htotal⟩

/-- A formula with one more term, which has a minus sign, is the difference to that term. -/
theorem isDifference_of_terms {a : Atom} (hq : q.formula = ⟨a, []⟩)
    (h : w.formula.terms = p.formula.terms ++ [⟨.neg, a⟩]) : w.IsDifference p q := by
  have hterms : q.formula.terms = [⟨.pos, a⟩] := by rw [hq, Formula.terms]
  refine ⟨?_, ?_, rollsInTurn_of_roll ?_⟩
  · rw [toInt_low, toInt_low, toInt_high, h, hterms, List.map_append, List.sum_append,
      List.map_singleton, List.map_singleton, List.sum_singleton, List.sum_singleton]
    rfl
  · rw [toInt_high, toInt_high, toInt_low, h, hterms, List.map_append, List.sum_append,
      List.map_singleton, List.map_singleton, List.sum_singleton, List.sum_singleton]
    rfl
  · intro σ _ s mid last next first second o hfirst hsecond hroll
    obtain ⟨values, hvalues, happend, htotal⟩ :=
      Formula.exists_mapM_roll_of_append h hfirst hroll
    obtain ⟨x, hneg, rfl⟩ := Term.mapM_roll_singleton.mp hvalues
    obtain ⟨hsecondValues, hsecondSum⟩ := Formula.roll_eq_ok_iff.mp hsecond
    rw [hterms] at hsecondValues
    obtain ⟨v, hpos, hsingle⟩ := Term.mapM_roll_singleton.mp hsecondValues
    obtain ⟨rfl, hx⟩ := Term.roll_neg hpos hneg
    have hvalue : second.total.toInt = v.toInt := by
      rw [Amount.toInt_sum hsecondSum, hsingle, Amount.exactSum_singleton]
    rw [Amount.exactSum_singleton, hx, ← hvalue] at htotal
    exact ⟨rfl, Int64.toInt_inj.mp hvalue ▸ hsingle, ⟨x, happend, hvalue ▸ hx⟩, htotal⟩

/-- **Two texts with an operator between them are worth what the two are worth.** With a plus sign
it is their sum, and with a minus sign before a single term it is their difference. -/
theorem concatenation_adds (s t : String) :
    (∀ p q w, ofText s = .ok p → ofText t = .ok q → ofText (s ++ "+" ++ t) = .ok w →
      w.IsSum p q) ∧
      ∀ w a, ofText (s ++ "-" ++ t) = .ok w → Formula.ofSpacedText t = .ok ⟨a, []⟩ →
        ∃ p q, ofText s = .ok p ∧ ofText t = .ok q ∧ w.IsDifference p q := by
  constructor
  · intro p q w hp hq hw
    rw [← Sign.text_pos, ofText_eq_ok_iff, Formula.ofSpacedText_append_eq_ok_iff] at hw
    obtain ⟨f, h, hf, hh, hjoin⟩ := hw
    cases hf.symm.trans (ofText_eq_ok_iff.mp hp)
    cases hh.symm.trans (ofText_eq_ok_iff.mp hq)
    refine isSum_of_terms ?_
    rw [← hjoin, Formula.terms_join]
    rfl
  · intro w a hw ht
    rw [← Sign.text_neg, ofText_eq_ok_iff, Formula.ofSpacedText_append_eq_ok_iff] at hw
    obtain ⟨f, h, hf, hh, hjoin⟩ := hw
    cases ht.symm.trans hh
    have hterms : w.formula.terms = f.terms ++ [⟨.neg, a⟩] := by
      rw [← hjoin, Formula.terms_join]
    -- That the first text can be prepared is not assumed: its sums are among those of the whole.
    have hfit : Term.BoundsFit f.terms := by
      have hwhole := Formula.exists_prepared_iff.mp ⟨w, rfl⟩
      rw [hterms] at hwhole
      exact hwhole.of_append
    obtain ⟨p, rfl⟩ := Formula.exists_prepared_iff.mpr hfit
    obtain ⟨q, hq, hqformula⟩ := exists_ofText ht (show 1 ≤ Formula.capacity by decide)
    exact ⟨p, q, ofText_eq_ok_iff.mpr hf, hq, isDifference_of_terms hqformula hterms⟩

/-- A sum in which the second text has more than one term, and the difference to some dice. -/
theorem concatenation_adds_to_twenty_minus_two_dice :
    (∃ p q w, ofText "20 - 2d6" = .ok p ∧ ofText "5 - 3d4" = .ok q ∧
      ofText ("20 - 2d6" ++ "+" ++ "5 - 3d4") = .ok w ∧ w.IsSum p q) ∧
    ∃ p q w, ofText "20 - 2d6" = .ok p ∧ ofText "3d4" = .ok q ∧
      ofText ("20 - 2d6" ++ "-" ++ "3d4") = .ok w ∧ w.IsDifference p q := by
  have hfirst : Formula.ofSpacedText "20 - 2d6" =
      .ok ⟨.constant 20, [⟨.neg, .dice ⟨2, .poly ⟨6, by decide⟩⟩⟩]⟩ := by decide +kernel
  have hsecond : Formula.ofSpacedText "5 - 3d4" =
      .ok ⟨.constant 5, [⟨.neg, .dice ⟨3, .poly ⟨4, by decide⟩⟩⟩]⟩ := by decide +kernel
  have hdice : Formula.ofSpacedText "3d4" = .ok ⟨.dice ⟨3, .poly ⟨4, by decide⟩⟩, []⟩ := by
    decide +kernel
  constructor
  · obtain ⟨p, hp, _⟩ := exists_ofText hfirst (show 2 ≤ Formula.capacity by decide)
    obtain ⟨q, hq, _⟩ := exists_ofText hsecond (show 2 ≤ Formula.capacity by decide)
    obtain ⟨w, hw, _⟩ := exists_ofText
      (Formula.ofSpacedText_append_eq_ok_iff.mpr ⟨_, _, hfirst, hsecond, rfl⟩)
      (show 4 ≤ Formula.capacity by decide)
    rw [Sign.text_pos] at hw
    exact ⟨p, q, w, hp, hq, hw, (concatenation_adds _ _).1 p q w hp hq hw⟩
  · obtain ⟨w, hw, _⟩ := exists_ofText
      (Formula.ofSpacedText_append_eq_ok_iff.mpr ⟨_, _, hfirst, hdice, rfl⟩)
      (show 3 ≤ Formula.capacity by decide)
    rw [Sign.text_neg] at hw
    obtain ⟨p, q, hp, hq, hdifference⟩ := (concatenation_adds _ _).2 w _ hw hdice
    exact ⟨p, q, w, hp, hq, hw, hdifference⟩

end Prepared

end DiceFormula
