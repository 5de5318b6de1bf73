import DiceFormula.Proofs.ExactBounds
import DiceFormula.Proofs.Writing

/-!
# How long a formula may be

The literals of a text are short. A constant has at most eight digits, the number of dice and the
sides have at most four each, and so no bound of a term has more than eight digits either. The sums
of the bounds go up and down with the signs of the terms, and nothing is known about the order in
which these come. Still the sum of so many terms is never larger than their number times the
largest bound, in either direction and at every point on the way. Up to a certain number of terms,
then, no bound of a formula overflows.

The number is exact. It is the number of constants of eight nines that an amount has room for, and
a formula with one more of them has no bounds.

## Main definitions

* `Term.WithinLimits` — a term with short numbers and small bounds
* `Formula.capacity` — how many such terms can be added up
* `Formula.overlong` — a formula with one term more

## Main results

* `Amount.inRange_exactSum_take` — a few small amounts can be added up, whatever their signs
* `Term.withinLimits_of_writable` — short numbers make for small bounds
* `Formula.exists_sums` — the bounds of a formula of at most that many terms do not overflow
* `Formula.fits_within_capacity` — what is read from a text has small numbers and bounds
* `Formula.exists_text_beyond_capacity` — with more terms, they need not exist
-/

namespace DiceFormula

/-! ### Sums of small amounts -/

namespace Amount

variable {limit : Nat} {values : List Amount}

/-- A sum is not larger than the number of its summands allows. -/
theorem natAbs_exactSum_le (h : ∀ v ∈ values, v.toInt.natAbs ≤ limit) :
    (exactSum values).natAbs ≤ values.length * limit := by
  induction values with
  | nil => exact Nat.zero_le _
  | cons v rest ih =>
    obtain ⟨hv, hrest⟩ := List.forall_mem_cons.mp h
    calc (v.toInt + exactSum rest).natAbs
        ≤ v.toInt.natAbs + (exactSum rest).natAbs := Int.natAbs_add_le _ _
      _ ≤ limit + rest.length * limit := Nat.add_le_add hv (ih hrest)
      _ = (v :: rest).length * limit := by rw [List.length_cons, Nat.succ_mul, Nat.add_comm]

/-- Amounts that are small and few can be added up, whatever their signs and their order. -/
theorem inRange_exactSum_take (h : ∀ v ∈ values, v.toInt.natAbs ≤ limit)
    (hfew : values.length * limit < 2 ^ 63) (k : Nat) : InRange (exactSum (values.take k)) := by
  have hsum : (exactSum (values.take k)).natAbs < 2 ^ 63 := by
    calc (exactSum (values.take k)).natAbs
        ≤ (values.take k).length * limit :=
          natAbs_exactSum_le fun v hv => h v (List.mem_of_mem_take hv)
      _ ≤ values.length * limit := Nat.mul_le_mul_right limit (List.length_take_le' k values)
      _ < 2 ^ 63 := hfew
  rw [inRange_iff]
  omega

theorem exactSum_eq_length_mul {c : Int} (h : ∀ v ∈ values, v.toInt = c) :
    exactSum values = values.length * c := by
  have hmap : ∀ n ∈ values.map Int64.toInt, n = c := by
    intro n hn
    obtain ⟨v, hv, rfl⟩ := List.mem_map.mp hn
    exact h v hv
  rw [exactSum_eq_sum, List.sum_eq_card_nsmul _ c hmap, List.length_map, nsmul_eq_mul]

end Amount

/-! ### Terms with short numbers -/

/-- A term with the limits that a literal sets to its numbers, and what these say about its
bounds. -/
structure Term.WithinLimits (t : Term) : Prop where
  /-- A constant has at most eight digits. -/
  constant : ∀ n, t.atom = .constant n → n.toNat ≤ 99999999
  /-- The number of dice and their sides have at most four digits each. -/
  dice : ∀ d, t.atom = .dice d →
    d.num.toNat ≤ 9999 ∧ 1 ≤ d.sides.count.toNat ∧ d.sides.count.toNat ≤ 9999
  /-- The bounds do not overflow, are in order and have at most eight digits. -/
  bounds : ∃ low high, t.low = .ok low ∧ t.high = .ok high ∧ -99999999 ≤ low.toInt ∧
    low.toInt ≤ high.toInt ∧ high.toInt ≤ 99999999

/-- A hundred has no more than four digits either. -/
theorem Sides.Writable.count_le {s : Sides} (h : s.Writable) : s.count.toNat ≤ 9999 := by
  cases s with
  | poly n => exact h
  | percentile => decide

/-- The greatest magnitude of an atom with short numbers has at most eight digits. -/
theorem Atom.Writable.greatest_le {a : Atom} (h : a.Writable) : a.greatest ≤ 99999999 := by
  cases a with
  | constant n => exact h
  | dice d =>
    obtain ⟨hnum, hsides⟩ := h
    calc d.num.toNat * d.sides.count.toNat
        ≤ 9999 * 9999 := Nat.mul_le_mul hnum hsides.count_le
      _ ≤ 99999999 := by decide

/-- A term with short numbers has small bounds. -/
theorem Term.exists_bounds_of_writable {t : Term} (h : t.atom.Writable) :
    ∃ low high, t.low = .ok low ∧ t.high = .ok high ∧ -99999999 ≤ low.toInt ∧
      low.toInt ≤ high.toInt ∧ high.toInt ≤ 99999999 := by
  have hsmall : t.atom.greatest ≤ 99999999 := h.greatest_le
  have hrange : Amount.InRange t.atom.greatest := by
    rw [Amount.inRange_iff]
    omega
  obtain ⟨low, high, hlow, hhigh, hleast, hgreatest⟩ := exists_bounds_of_inRange hrange
  have horder := t.least_le_greatest
  have hfar := t.neg_greatest_le_least
  exact ⟨low, high, hlow, hhigh, by omega, by omega, by omega⟩

theorem Term.withinLimits_of_writable {t : Term} (h : t.atom.Writable) : t.WithinLimits := by
  refine ⟨fun n hn => ?_, fun d hd => ?_, exists_bounds_of_writable h⟩
  · rw [hn] at h
    exact h
  · rw [hd] at h
    exact ⟨h.1, d.sides.count.toNat_pos, h.2.count_le⟩

/-! ### Formulas -/

namespace Formula

/-- How many numbers of at most eight digits can be added up, whatever their signs are. -/
def capacity : Nat := 92233721290

/-- Small bounds, one for each of some terms, can be added up if the terms are few. -/
private theorem exists_bounds_of_terms {bound : Term → Except Overflow Amount} {ts : List Term}
    (h : ∀ t ∈ ts, ∃ v, bound t = .ok v ∧ v.toInt.natAbs ≤ 99999999)
    (hfew : ts.length ≤ capacity) :
    ∃ values, List.Forall₂ (fun t v => bound t = .ok v) ts values ∧
      ∀ k, Amount.InRange (Amount.exactSum (values.take k)) := by
  obtain ⟨values, hvalues⟩ := exists_forall₂_of_forall_mem h
  have hsmall : ∀ v ∈ values, v.toInt.natAbs ≤ 99999999 := by
    intro v hv
    obtain ⟨t, _, hle⟩ := exists_of_mem_of_forall₂ hvalues.flip v hv
    exact hle
  have hsum : values.length * 99999999 < 2 ^ 63 := by
    calc values.length * 99999999
        ≤ capacity * 99999999 := Nat.mul_le_mul_right _ (hvalues.length_eq ▸ hfew)
      _ < 2 ^ 63 := by decide
  exact ⟨values, hvalues.imp fun _ _ hv => hv.1, Amount.inRange_exactSum_take hsmall hsum⟩

/-- **The bounds of a formula with short numbers do not overflow**, at no point while they are
added up, if the formula is not longer than its capacity. -/
theorem exists_sums {f : Formula} (h : f.Writable) (hfew : f.terms.length ≤ capacity) :
    ∃ lows highs, List.Forall₂ (fun t v => t.low = .ok v) f.terms lows ∧
      List.Forall₂ (fun t v => t.high = .ok v) f.terms highs ∧
      ∀ k, Amount.InRange (Amount.exactSum (lows.take k)) ∧
        Amount.InRange (Amount.exactSum (highs.take k)) := by
  have hlow : ∀ t ∈ f.terms, ∃ v, t.low = .ok v ∧ v.toInt.natAbs ≤ 99999999 := by
    intro t ht
    obtain ⟨low, high, hlow, _, hleast, hle, hgreatest⟩ := Term.exists_bounds_of_writable (h t ht)
    exact ⟨low, hlow, by omega⟩
  have hhigh : ∀ t ∈ f.terms, ∃ v, t.high = .ok v ∧ v.toInt.natAbs ≤ 99999999 := by
    intro t ht
    obtain ⟨low, high, _, hhigh, hleast, hle, hgreatest⟩ := Term.exists_bounds_of_writable (h t ht)
    exact ⟨high, hhigh, by omega⟩
  obtain ⟨lows, hlows, hlowRange⟩ := exists_bounds_of_terms hlow hfew
  obtain ⟨highs, hhighs, hhighRange⟩ := exists_bounds_of_terms hhigh hfew
  exact ⟨lows, highs, hlows, hhighs, fun k => ⟨hlowRange k, hhighRange k⟩⟩

/-- So a formula that is not longer than its capacity is prepared. -/
theorem exists_prepared {f : Formula} (h : f.Writable) (hfew : f.terms.length ≤ capacity) :
    ∃ p : Prepared, p.formula = f := by
  obtain ⟨lows, highs, hlows, hhighs, hrange⟩ := exists_sums h hfew
  obtain ⟨low, hlow⟩ := Amount.exists_sum_iff.mpr fun k => (hrange k).1
  obtain ⟨high, hhigh⟩ := Amount.exists_sum_iff.mpr fun k => (hrange k).2
  exact ⟨⟨f, low, high, low_eq_ok_iff.mpr ⟨lows, hlows, hlow⟩,
    high_eq_ok_iff.mpr ⟨highs, hhighs, hhigh⟩⟩, rfl⟩

/-- And if a formula with short numbers is not prepared, then it is longer. -/
theorem capacity_lt_of_prepare_eq_error {f : Formula} {operation : Overflow} (h : f.Writable)
    (hprepare : f.prepare = .error operation) : capacity < f.terms.length := by
  by_contra hfew
  obtain ⟨p, hp⟩ := exists_prepared h (Nat.le_of_not_lt hfew)
  rw [prepare_eq_ok_iff.mpr hp] at hprepare
  cases hprepare

/-- **What is read from a text has small numbers and small bounds**, and a formula that is not
longer than its capacity has bounds that do not overflow at any point while they are added up. A
session can then be started on the text. -/
theorem fits_within_capacity {s : String} {f : Formula} (hread : ofSpacedText s = .ok f) :
    f.terms.head?.map Term.sign = some .pos ∧ (∀ t ∈ f.terms, t.WithinLimits) ∧
      (f.terms.length ≤ capacity →
        (∃ lows highs, List.Forall₂ (fun t v => t.low = .ok v) f.terms lows ∧
          List.Forall₂ (fun t v => t.high = .ok v) f.terms highs ∧
          ∀ k, Amount.InRange (Amount.exactSum (lows.take k)) ∧
            Amount.InRange (Amount.exactSum (highs.take k))) ∧
        ∃ p : Prepared, p.formula = f ∧
          ∀ (σ : Type) (source : σ), Session.ofText s source = .ok (Session.start p source)) := by
  have hwritable := writable_of_ofSpacedText hread
  refine ⟨rfl, fun t ht => Term.withinLimits_of_writable (hwritable t ht), fun hfew => ?_⟩
  obtain ⟨p, hp⟩ := exists_prepared hwritable hfew
  refine ⟨exists_sums hwritable hfew, p, hp, fun σ source => ?_⟩
  exact Session.ofText_eq_ok_iff.mpr ⟨p, rfl, hp ▸ hread⟩

/-- The largest group of dice, and the largest constant subtracted from it. -/
theorem fits_within_capacity_largest_literals :
    ofSpacedText "9999d9999 - 99999999" =
        .ok ⟨.dice ⟨9999, .poly ⟨9999, by decide⟩⟩, [⟨.neg, .constant 99999999⟩]⟩ ∧
      (⟨.neg, .constant 99999999⟩ : Term).WithinLimits ∧
      ∃ p : Prepared, Session.ofText "9999d9999 - 99999999" (⟨3, 1, 0⟩ : Cycle) =
        .ok (Session.start p ⟨3, 1, 0⟩) := by
  have hread : ofSpacedText "9999d9999 - 99999999" =
      .ok ⟨.dice ⟨9999, .poly ⟨9999, by decide⟩⟩, [⟨.neg, .constant 99999999⟩]⟩ := by
    decide +kernel
  obtain ⟨_, hterms, hfew⟩ := fits_within_capacity hread
  obtain ⟨_, p, _, hstart⟩ := hfew (show 2 ≤ capacity by decide)
  exact ⟨hread, hterms _ (by simp [terms]), p, hstart Cycle ⟨3, 1, 0⟩⟩

/-! ### Longer formulas -/

/-- Nothing but constants of eight nines, of which `n` are added to the first. -/
def nines (n : Nat) : Formula :=
  ⟨.constant 99999999, List.replicate n ⟨.pos, .constant 99999999⟩⟩

theorem eq_of_mem_terms_nines {n : Nat} {t : Term} (h : t ∈ (nines n).terms) :
    t = ⟨.pos, .constant 99999999⟩ := by
  rcases List.mem_cons.mp h with rfl | h
  · rfl
  · exact List.eq_of_mem_replicate h

theorem length_terms_nines (n : Nat) : (nines n).terms.length = n + 1 := by
  rw [nines, terms, List.length_cons, List.length_replicate]

theorem writable_nines (n : Nat) : (nines n).Writable := by
  intro t ht
  rw [eq_of_mem_terms_nines ht]
  show (99999999 : UInt32).toNat ≤ 99999999
  decide

/-- From its capacity on a formula may be too long to have a greatest total. -/
theorem high_nines_ne_ok {n : Nat} (h : capacity ≤ n) (high : Amount) :
    (nines n).high ≠ .ok high := by
  intro hhigh
  obtain ⟨highs, hhighs, htotal⟩ := high_eq_ok_iff.mp hhigh
  have hvalue : ∀ v ∈ highs, v.toInt = 99999999 := by
    intro v hv
    have hterms := (List.forall₂_and_left _ _).mpr ⟨fun _ ht => eq_of_mem_terms_nines ht, hhighs⟩
    obtain ⟨t, rfl, hbound⟩ := exists_of_mem_of_forall₂ hterms.flip v hv
    cases hbound
    exact Amount.toInt_ofCount 99999999
  have hlength : highs.length = n + 1 := by
    rw [← hhighs.length_eq, length_terms_nines]
  have hrange := Amount.inRange_iff.mp (Amount.inRange_toInt high)
  rw [Amount.toInt_sum htotal, Amount.exactSum_eq_length_mul hvalue, hlength] at hrange
  rw [capacity] at h
  omega

theorem ofSpacedText_nines (n : Nat) : ofSpacedText (nines n).text = .ok (nines n) :=
  ofSpacedText_text (writable_nines n)

/-- Such a formula can be written down and read, but its bounds overflow. -/
theorem exists_ofText_nines {n : Nat} (h : capacity ≤ n) :
    ∃ operation, Prepared.ofText (nines n).text = .error (.overflow operation) := by
  rw [Prepared.ofText_of_ofSpacedText (ofSpacedText_nines n)]
  cases hprepare : (nines n).prepare with
  | error operation => exact ⟨operation, rfl⟩
  | ok p =>
    have hhigh := p.high_eq
    rw [prepare_eq_ok_iff.mp hprepare] at hhigh
    exact absurd hhigh (high_nines_ne_ok h p.high)

/-- **The capacity is exact.** For every larger number of terms there is a formula whose bounds
overflow, and it can be written down. -/
theorem exists_text_beyond_capacity {n : Nat} (h : capacity < n) :
    ∃ s f, ofSpacedText s = .ok f ∧ f.terms.length = n ∧
      ∀ (σ : Type) (source : σ), ∃ operation,
        Session.ofText s source = .error (.overflow operation) := by
  obtain ⟨k, rfl⟩ : ∃ k, n = k + 1 := ⟨n - 1, by omega⟩
  obtain ⟨operation, hoverflow⟩ := exists_ofText_nines (Nat.le_of_lt_succ h)
  exact ⟨(nines k).text, nines k, ofSpacedText_nines k, length_terms_nines k,
    fun σ source => ⟨operation, Session.ofText_of_error hoverflow source⟩⟩

/-- The formula of nines that is longer than the capacity by one term. -/
def overlong : Formula := nines capacity

theorem ofSpacedText_overlong : ofSpacedText overlong.text = .ok overlong :=
  ofSpacedText_nines capacity

theorem exists_ofText_overlong :
    ∃ operation, Prepared.ofText overlong.text = .error (.overflow operation) :=
  exists_ofText_nines (Nat.le_refl capacity)

end Formula

end DiceFormula
