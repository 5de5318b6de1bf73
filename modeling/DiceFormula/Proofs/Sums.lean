import DiceFormula.Outcome
import Mathlib.Algebra.Ring.Int.Defs
import Mathlib.Data.List.Forall2

/-!
# Sums that do not overflow

A sum of amounts is taken from the left, and it is reached exactly if all of its prefixes are in
the range of amounts. So it is reached if each of its summands lies between those of two other
sums that are reached: a prefix lies between the prefixes of the two.

The sum of the whole list does not matter on its own. If the amounts are added up beyond the range,
it does not help that later ones lead back into it.

The summands come from computations, one for each element of a list. These succeed on the whole
list if they succeed on each element.

## Main definitions

* `Amount.Overruns` — lists of amounts of which some prefix has no amount as its sum

## Main results

* `mapM_eq_ok_iff` — computations for all the elements of a list
* `Amount.exists_sumFrom_iff` — a sum overflows exactly if one of its prefixes is out of range
* `Amount.exists_sum_of_forall₂` — a sum between two sums
* `Amount.sum_eq_error_iff` — the one way in which a sum overflows
* `Outcome.adds_exactly` — values have an outcome with their exact sum, or overrun
-/

namespace DiceFormula

/-! ### One after the other -/

section Forall₂

variable {α β γ : Type} {R : α → β → Prop} {S : α → γ → Prop} {T : β → γ → Prop}
variable {xs : List α} {ys : List β} {zs : List γ}

theorem exists_of_mem_of_forall₂ (h : List.Forall₂ R xs ys) : ∀ x ∈ xs, ∃ y, R x y := by
  induction h with
  | nil => simp
  | cons hR _ ih => exact List.forall_mem_cons.mpr ⟨⟨_, hR⟩, ih⟩

theorem exists_forall₂_of_forall_mem (h : ∀ x ∈ xs, ∃ y, R x y) : ∃ ys, List.Forall₂ R xs ys := by
  induction xs with
  | nil => exact ⟨[], .nil⟩
  | cons x xs ih =>
    obtain ⟨⟨y, hy⟩, hrest⟩ := List.forall_mem_cons.mp h
    obtain ⟨ys, hys⟩ := ih hrest
    exact ⟨y :: ys, .cons hy hys⟩

/-- Two lists are related to each other through a list to which both are related. -/
theorem forall₂_of_forall₂ (hys : List.Forall₂ R xs ys) (hzs : List.Forall₂ S xs zs)
    (h : ∀ x y z, R x y → S x z → T y z) : List.Forall₂ T ys zs := by
  induction hys generalizing zs with
  | nil =>
    cases hzs
    exact .nil
  | cons hR _ ih =>
    cases hzs with
    | cons hS hrest => exact .cons (h _ _ _ hR hS) (ih hrest)

end Forall₂

/-! ### Computations that may fail -/

/-- A computation that fails under one condition only, and for one cause. -/
theorem eq_error_iff_of_cause {ε α : Type} {x : Except ε α} {cause e : ε} {p : Prop}
    (hfails : p → x = .error cause) (hsucceeds : ¬ p → ∃ a, x = .ok a) :
    x = .error e ↔ e = cause ∧ p := by
  by_cases hp : p
  · rw [hfails hp, Except.error.injEq, eq_comm]
    exact ⟨fun heq => ⟨heq, hp⟩, And.left⟩
  · obtain ⟨a, ha⟩ := hsucceeds hp
    rw [ha]
    exact ⟨nofun, fun h => absurd h.2 hp⟩

/-- A computation for each of some things succeeds exactly if it does on each of them. -/
theorem mapM_eq_ok_iff {ε α β : Type} {f : α → Except ε β} {xs : List α} {ys : List β} :
    xs.mapM f = .ok ys ↔ List.Forall₂ (fun x y => f x = .ok y) xs ys := by
  induction xs generalizing ys with
  | nil =>
    rw [List.mapM_nil, List.forall₂_nil_left_iff]
    exact ⟨fun h => by cases h; rfl, fun h => by rw [h]; rfl⟩
  | cons x xs ih =>
    rw [List.mapM_cons, List.forall₂_cons_left_iff]
    cases hx : f x with
    | error e => simp [bind, Except.bind]
    | ok y =>
      cases hxs : xs.mapM f with
      | error e =>
        simp only [hxs, reduceCtorEq, false_iff] at ih
        simp [bind, Except.bind, ih]
      | ok zs =>
        simp only [hxs, Except.ok.injEq] at ih
        simp [bind, Except.bind, pure, Except.pure, ← ih, eq_comm]

/-! ### Sums of amounts -/

namespace Amount

/-- Every integer between two amounts is the value of an amount. -/
theorem inRange_of_between {v w : Amount} {n : Int} (hle : v.toInt ≤ n) (hge : n ≤ w.toInt) :
    InRange n :=
  ⟨Int.le_trans (inRange_toInt v).1 hle, Int.le_trans hge (inRange_toInt w).2⟩

theorem exists_add_iff {v w : Amount} :
    (∃ total, add v w = .ok total) ↔ InRange (v.toInt + w.toInt) := by
  constructor
  · rintro ⟨total, htotal⟩
    rw [← fit_eq_ok_iff.mp htotal]
    exact inRange_toInt total
  · intro hrange
    obtain ⟨total, htotal, _⟩ := exists_fit hrange .addition
    exact ⟨total, htotal⟩

theorem sumFrom_cons_of_ok {v w next : Amount} (h : add v w = .ok next) (rest : List Amount) :
    sumFrom v (w :: rest) = sumFrom next rest := by
  rw [sumFrom, h]

theorem sumFrom_cons_of_error {v w : Amount} {overflow : Overflow} (h : add v w = .error overflow)
    (rest : List Amount) : sumFrom v (w :: rest) = .error overflow := by
  rw [sumFrom, h]

/-- **A sum taken from the left is reached exactly if all of its prefixes are in range.** -/
theorem exists_sumFrom_iff {v : Amount} {values : List Amount} :
    (∃ total, sumFrom v values = .ok total) ↔
      ∀ k, InRange (v.toInt + exactSum (values.take k)) := by
  induction values generalizing v with
  | nil => simpa [sumFrom, exactSum] using inRange_toInt v
  | cons w rest ih =>
    cases hadd : add v w with
    | error overflow =>
      rw [sumFrom_cons_of_error hadd]
      constructor
      · rintro ⟨_, htotal⟩
        cases htotal
      · intro hrange
        have hfirst : InRange (v.toInt + w.toInt) := by simpa [exactSum] using hrange 1
        obtain ⟨next, hnext⟩ := exists_add_iff.mpr hfirst
        rw [hadd] at hnext
        cases hnext
    | ok next =>
      have hnext : next.toInt = v.toInt + w.toInt := fit_eq_ok_iff.mp hadd
      have hprefix (k : Nat) : next.toInt + exactSum (rest.take k) =
          v.toInt + exactSum ((w :: rest).take (k + 1)) := by
        rw [hnext, List.take_succ_cons, exactSum, Int.add_assoc]
      rw [sumFrom_cons_of_ok hadd, ih]
      constructor
      · intro hrange k
        cases k with
        | zero => simpa [exactSum] using inRange_toInt v
        | succ k => exact hprefix k ▸ hrange k
      · intro hrange k
        exact hprefix k ▸ hrange (k + 1)

theorem exists_sum_iff {values : List Amount} :
    (∃ total, sum values = .ok total) ↔ ∀ k, InRange (exactSum (values.take k)) := by
  simp only [sum, exists_sumFrom_iff, Int64.toInt_zero, Int.zero_add]

theorem exactSum_eq_sum (values : List Amount) :
    exactSum values = (values.map Int64.toInt).sum := by
  induction values with
  | nil => rfl
  | cons v rest ih => rw [exactSum, ih, List.map_cons, List.sum_cons]

theorem exactSum_singleton (v : Amount) : exactSum [v] = v.toInt := Int.add_zero _

theorem exactSum_append (values more : List Amount) :
    exactSum (values ++ more) = exactSum values + exactSum more := by
  rw [exactSum_eq_sum, exactSum_eq_sum, exactSum_eq_sum, List.map_append, List.sum_append]

theorem toInt_sum {values : List Amount} {total : Amount} (h : sum values = .ok total) :
    total.toInt = exactSum values := by
  rw [toInt_sumFrom h, Int64.toInt_zero, Int.zero_add]

/-- A sum is the exact one of its summands as integers, if every sum on the way to it is in range. -/
theorem sum_eq_ok_iff {values : List Amount} {total : Amount} :
    sum values = .ok total ↔
      (∀ k, InRange ((values.map Int64.toInt).take k).sum) ∧
        total.toInt = (values.map Int64.toInt).sum := by
  have htake (k : Nat) : ((values.map Int64.toInt).take k).sum = exactSum (values.take k) := by
    rw [exactSum_eq_sum, List.map_take]
  simp only [htake, ← exactSum_eq_sum, ← exists_sum_iff]
  constructor
  · intro h
    exact ⟨⟨total, h⟩, toInt_sum h⟩
  · rintro ⟨⟨total', h⟩, htotal⟩
    rw [h, Int64.toInt_inj.mp (htotal.trans (toInt_sum h).symm)]

theorem exactSum_le {as bs : List Amount}
    (h : List.Forall₂ (fun a b : Amount => a.toInt ≤ b.toInt) as bs) :
    exactSum as ≤ exactSum bs := by
  induction h with
  | nil => exact Int.le_refl _
  | cons hle _ ih => exact Int.add_le_add hle ih

/-- Values that lie between two lists of amounts can be added up if both lists can, and their sum
lies between the sums. -/
theorem exists_sum_of_forall₂ {lows values highs : List Amount} {low high : Amount}
    (hlows : List.Forall₂ (fun low v : Amount => low.toInt ≤ v.toInt) lows values)
    (hhighs : List.Forall₂ (fun v high : Amount => v.toInt ≤ high.toInt) values highs)
    (hlow : sum lows = .ok low) (hhigh : sum highs = .ok high) :
    ∃ total, sum values = .ok total ∧ low.toInt ≤ total.toInt ∧ total.toInt ≤ high.toInt := by
  have hprefix (k : Nat) : InRange (exactSum (values.take k)) := by
    obtain ⟨hleast, _⟩ := exists_sum_iff.mp ⟨low, hlow⟩ k
    obtain ⟨_, hgreatest⟩ := exists_sum_iff.mp ⟨high, hhigh⟩ k
    constructor
    · exact Int.le_trans hleast (exactSum_le (List.forall₂_take k hlows))
    · exact Int.le_trans (exactSum_le (List.forall₂_take k hhighs)) hgreatest
  obtain ⟨total, htotal⟩ := exists_sum_iff.mpr hprefix
  refine ⟨total, htotal, ?_, ?_⟩
  · rw [toInt_sum hlow, toInt_sum htotal]
    exact exactSum_le hlows
  · rw [toInt_sum hhigh, toInt_sum htotal]
    exact exactSum_le hhighs

/-! ### Sums that overflow -/

/-- Some amounts at the start of a list have a sum that is not the value of an amount. -/
def Overruns (values : List Amount) : Prop :=
  ∃ first, first <+: values ∧ ¬ InRange (first.map Int64.toInt).sum

theorem overruns_iff {values : List Amount} :
    Overruns values ↔ ∃ k, ¬ InRange (exactSum (values.take k)) := by
  constructor
  · rintro ⟨first, hprefix, hrange⟩
    refine ⟨first.length, ?_⟩
    rwa [exactSum_eq_sum, ← List.prefix_iff_eq_take.mp hprefix]
  · rintro ⟨k, hrange⟩
    refine ⟨values.take k, List.take_prefix k values, ?_⟩
    rwa [← exactSum_eq_sum]

theorem exists_sum_iff_not_overruns {values : List Amount} :
    (∃ total, sum values = .ok total) ↔ ¬ Overruns values := by
  rw [exists_sum_iff, overruns_iff, not_exists_not]

/-- Nothing but an addition overflows in a sum. -/
theorem eq_addition_of_sumFrom {v : Amount} {values : List Amount} {e : Overflow}
    (h : sumFrom v values = .error e) : e = .addition := by
  induction values generalizing v with
  | nil => cases h
  | cons w rest ih =>
    cases hadd : add v w with
    | error overflow =>
      rw [sumFrom_cons_of_error hadd, Except.error.injEq] at h
      rw [← h]
      exact (fit_eq_error_iff.mp hadd).1
    | ok next =>
      rw [sumFrom_cons_of_ok hadd] at h
      exact ih h

/-- A sum overflows exactly if it does so on the way to the last amount. -/
theorem sum_eq_error_iff {values : List Amount} {e : Overflow} :
    sum values = .error e ↔ e = .addition ∧ Overruns values := by
  refine eq_error_iff_of_cause (fun hover => ?_) exists_sum_iff_not_overruns.mpr
  cases hsum : sum values with
  | ok total => exact absurd hover (exists_sum_iff_not_overruns.mp ⟨total, hsum⟩)
  | error overflow => rw [eq_addition_of_sumFrom hsum]

end Amount

namespace Outcome

/-- **Values are added up exactly, or an addition overflows.** It overflows exactly if some values
at the start of the list have a sum that is no amount, whatever the values behind them are.
Otherwise the outcome has the values as they are given, and their exact sum. -/
theorem adds_exactly (values : List Amount) :
    (∀ e, ofValues values = .error e ↔ e = .addition ∧ Amount.Overruns values) ∧
      ((∃ o, ofValues values = .ok o ∧ o.values = values ∧
        o.total.toInt = (values.map Int64.toInt).sum) ↔ ¬ Amount.Overruns values) := by
  constructor
  · intro e
    rw [ofValues_eq_error_iff]
    exact Amount.sum_eq_error_iff
  · rw [← Amount.exists_sum_iff_not_overruns]
    constructor
    · rintro ⟨o, ho, _⟩
      exact ⟨o.total, (ofValues_eq_ok_iff.mp ho).2⟩
    · rintro ⟨total, htotal⟩
      refine ⟨⟨total, values⟩, ofValues_eq_ok_iff.mpr ⟨rfl, htotal⟩, rfl, ?_⟩
      rw [Amount.toInt_sum htotal, Amount.exactSum_eq_sum]

example : ofValues [9223372036854775807, 1, -1] = .error .addition := by decide

end Outcome

end DiceFormula
