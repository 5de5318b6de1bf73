import DiceFormula.Proofs.ExactBounds
import DiceFormula.Proofs.Requests
import DiceFormula.Proofs.Runs
import DiceFormula.Proofs.Writing

/-!
# Splitting a group of dice

A source hands out one face after the other and is not told where a group of dice ends. It makes no
difference to it if a group is written as two, one directly behind the other. Since both have the
sign of the group, neither do the bounds of a formula change, nor its totals. A roll has one value
more than before, for the value of the group is now the sum of two.

There is also one sum more on the way to each bound, behind the first of the two groups. It cannot
overflow. Both groups add something or both subtract something, so this sum lies between that
before the group and that behind it.

## Main definitions

* `SplitsAt` — lists that differ in one element, which is two elements in the second list
* `Dice.SplitsInto`, `Term.SplitsInto`, `Outcome.SplitsInto` — splitting a group, a term, an outcome
* `Session.RelatedRuns` — two formulas rolled side by side

## Main results

* `Term.BoundsFit.of_splitsAt` — a formula can still be prepared when a group is split
* `Prepared.exists_roll_of_splitsAt` — one roll
* `Session.relatedRuns_of_roll` — runs of rolls which are related one by one
* `Prepared.splitting_changes_values_only` — what splitting a group changes
-/

namespace DiceFormula

/-! ### Lists with one element split -/

/-- The second list is the first one, but for the element behind the first `k`: in its place there
are two elements, to which it is related by `R`. -/
inductive SplitsAt {α : Type} (R : α → α → α → Prop) : Nat → List α → List α → Prop
  /-- The first element is split. -/
  | here {a b c : α} (rest : List α) (split : R a b c) : SplitsAt R 0 (a :: rest) (b :: c :: rest)
  /-- A later one is. -/
  | there {k : Nat} {xs ys : List α} (x : α) (split : SplitsAt R k xs ys) :
    SplitsAt R (k + 1) (x :: xs) (x :: ys)

namespace SplitsAt

variable {α β : Type} {R : α → α → α → Prop} {S : β → β → β → Prop} {f : α → β} {k : Nat}
variable {xs ys : List α}

/-- An element is split wherever it stands. -/
theorem of_append {a b c : α} (before after : List α) (h : R a b c) :
    SplitsAt R before.length (before ++ a :: after) (before ++ b :: c :: after) := by
  induction before with
  | nil => exact .here after h
  | cons x before ih => exact .there x ih

protected theorem map (h : SplitsAt R k xs ys) (hf : ∀ {a b c}, R a b c → S (f a) (f b) (f c)) :
    SplitsAt S k (xs.map f) (ys.map f) := by
  induction h with
  | here rest hsplit => exact .here _ (hf hsplit)
  | there x _ ih => exact .there _ ih

/-- What an injective function maps to lists of this kind are lists of this kind. -/
theorem of_map (hf : Function.Injective f) (h : SplitsAt S k (xs.map f) (ys.map f)) :
    SplitsAt (fun a b c => S (f a) (f b) (f c)) k xs ys := by
  generalize hus : xs.map f = us at h
  generalize hvs : ys.map f = vs at h
  induction h generalizing xs ys with
  | here rest hsplit =>
    obtain ⟨a, xs, rfl, rfl, rfl⟩ := List.map_eq_cons_iff.mp hus
    obtain ⟨b, ys, rfl, rfl, hys⟩ := List.map_eq_cons_iff.mp hvs
    obtain ⟨c, ys, rfl, rfl, hrest⟩ := List.map_eq_cons_iff.mp hys
    cases hf.list_map hrest
    exact .here _ hsplit
  | there x _ ih =>
    obtain ⟨a, xs, rfl, rfl, hxs⟩ := List.map_eq_cons_iff.mp hus
    obtain ⟨b, ys, rfl, hb, hys⟩ := List.map_eq_cons_iff.mp hvs
    cases hf hb
    exact .there _ (ih hxs hys)

/-- A property of all elements that passes on to the two parts of an element. -/
theorem forall_mem {P : α → Prop} (h : SplitsAt R k xs ys)
    (hP : ∀ {a b c}, R a b c → P a → P b ∧ P c) (hxs : ∀ x ∈ xs, P x) : ∀ y ∈ ys, P y := by
  induction h with
  | here rest hsplit =>
    obtain ⟨ha, hrest⟩ := List.forall_mem_cons.mp hxs
    obtain ⟨hb, hc⟩ := hP hsplit ha
    exact List.forall_mem_cons.mpr ⟨hb, List.forall_mem_cons.mpr ⟨hc, hrest⟩⟩
  | there x _ ih =>
    obtain ⟨hx, hrest⟩ := List.forall_mem_cons.mp hxs
    exact List.forall_mem_cons.mpr ⟨hx, ih hrest⟩

theorem flatMap_eq {f : α → List β} (h : SplitsAt R k xs ys)
    (hf : ∀ {a b c}, R a b c → f a = f b ++ f c) : ys.flatMap f = xs.flatMap f := by
  induction h with
  | here rest hsplit =>
    rw [List.flatMap_cons, List.flatMap_cons, List.flatMap_cons, hf hsplit, List.append_assoc]
  | there x _ ih => rw [List.flatMap_cons, List.flatMap_cons, ih]

end SplitsAt

/-! ### Sums -/

/-- A sum of two integers, neither of which is against the other. -/
structure AlignedSum (v w x : Int) : Prop where
  /-- The two are added up. -/
  eq_add : v = w + x
  /-- None is negative, or none is positive. -/
  aligned : 0 ≤ w ∧ 0 ≤ x ∨ w ≤ 0 ∧ x ≤ 0

theorem Sign.alignedSum (g : Sign) {n m k : Nat} (h : n = m + k) :
    AlignedSum (g.signed n) (g.signed m) (g.signed k) := by
  cases g with
  | pos =>
    refine ⟨?_, .inl ⟨Int.natCast_nonneg m, Int.natCast_nonneg k⟩⟩
    show (n : Int) = m + k
    omega
  | neg =>
    refine ⟨?_, .inr ⟨Int.neg_natCast_le_natCast m 0, Int.neg_natCast_le_natCast k 0⟩⟩
    show -(n : Int) = -m + -k
    omega

namespace SplitsAt

variable {k : Nat} {xs ys : List Int}

theorem sum_eq (h : SplitsAt AlignedSum k xs ys) : ys.sum = xs.sum := by
  induction h with
  | here rest hsplit =>
    rw [List.sum_cons, List.sum_cons, List.sum_cons, hsplit.eq_add, Int.add_assoc]
  | there x _ ih => rw [List.sum_cons, List.sum_cons, ih]

/-- If all sums on the way are amounts, so is the one that is new. -/
theorem inRange_add_sum_take (h : SplitsAt AlignedSum k xs ys) {first : Int}
    (hxs : ∀ n, Amount.InRange (first + (xs.take n).sum)) (n : Nat) :
    Amount.InRange (first + (ys.take n).sum) := by
  induction h generalizing first n with
  | @here v w x rest hsplit =>
    match n with
    | 0 => exact hxs 0
    | 1 =>
      -- This is the new sum. It lies between the ones before and behind the element.
      have hbefore := hxs 0
      have hbehind := hxs 1
      have hsum := hsplit.eq_add
      have haligned := hsplit.aligned
      simp only [List.take_zero, List.take_succ_cons, List.sum_cons, List.sum_nil,
        Amount.inRange_iff] at hbefore hbehind ⊢
      omega
    | n + 2 =>
      have hbehind := hxs (n + 1)
      rw [List.take_succ_cons, List.sum_cons, hsplit.eq_add, Int.add_assoc] at hbehind
      exact hbehind
  | @there _ xs ys x _ ih =>
    cases n with
    | zero => exact hxs 0
    | succ n =>
      rw [List.take_succ_cons, List.sum_cons, ← Int.add_assoc]
      refine ih (fun n => ?_) n
      have := hxs (n + 1)
      rwa [List.take_succ_cons, List.sum_cons, ← Int.add_assoc] at this

end SplitsAt

/-! ### Groups and terms -/

/-- A group of dice is split into two: dice with the same sides, as many as before in all. -/
structure Dice.SplitsInto (d d₁ d₂ : Dice) : Prop where
  /-- Every die is in one of the two groups. -/
  num : d.num.toNat = d₁.num.toNat + d₂.num.toNat
  /-- The dice of the first group are unchanged. -/
  sides_left : d₁.sides = d.sides
  /-- So are those of the second. -/
  sides_right : d₂.sides = d.sides

/-- The group of a term is split, and both parts have the sign of the term. -/
inductive Term.SplitsInto : Term → Term → Term → Prop
  /-- Only a group of dice can be split. -/
  | dice (g : Sign) {d d₁ d₂ : Dice} (split : d.SplitsInto d₁ d₂) :
    SplitsInto ⟨g, .dice d⟩ ⟨g, .dice d₁⟩ ⟨g, .dice d₂⟩

/-- One of the values of an outcome is split into two, and the total stays the same. -/
structure Outcome.SplitsInto (k : Nat) (o o' : Outcome) : Prop where
  /-- The total is the same. -/
  total : o'.total = o.total
  /-- The value behind the first `k` is split. -/
  values : SplitsAt (fun v w x : Amount => AlignedSum v.toInt w.toInt x.toInt) k o.values o'.values

namespace Dice.SplitsInto

variable {d d₁ d₂ : Dice}

theorem greatest (h : d.SplitsInto d₁ d₂) :
    d.num.toNat * d.sides.count.toNat =
      d₁.num.toNat * d₁.sides.count.toNat + d₂.num.toNat * d₂.sides.count.toNat := by
  rw [h.num, h.sides_left, h.sides_right, Nat.add_mul]

/-- The dice ask for their faces in the same order. -/
theorem requests (h : d.SplitsInto d₁ d₂) : d.requests = d₁.requests ++ d₂.requests := by
  rw [Dice.requests, Dice.requests, Dice.requests, h.num, h.sides_left, h.sides_right,
    List.replicate_add]

end Dice.SplitsInto

namespace Term.SplitsInto

variable {t t₁ t₂ : Term}

theorem least (h : t.SplitsInto t₁ t₂) : AlignedSum t.least t₁.least t₂.least := by
  obtain ⟨g, hsplit⟩ := h
  cases g with
  | pos => exact Sign.alignedSum .pos hsplit.num
  | neg => exact Sign.alignedSum .neg hsplit.greatest

theorem greatest (h : t.SplitsInto t₁ t₂) : AlignedSum t.greatest t₁.greatest t₂.greatest := by
  obtain ⟨g, hsplit⟩ := h
  cases g with
  | pos => exact Sign.alignedSum .pos hsplit.greatest
  | neg => exact Sign.alignedSum .neg hsplit.num

/-- No part is larger than the whole. -/
theorem inRange_greatest (h : t.SplitsInto t₁ t₂) (hrange : Amount.InRange t.atom.greatest) :
    Amount.InRange t₁.atom.greatest ∧ Amount.InRange t₂.atom.greatest := by
  obtain ⟨g, hsplit⟩ := h
  have hsum := hsplit.greatest
  rw [Amount.inRange_iff, Atom.greatest] at hrange
  constructor
  · rw [Amount.inRange_iff, Atom.greatest]
    omega
  · rw [Amount.inRange_iff, Atom.greatest]
    omega

theorem requests (h : t.SplitsInto t₁ t₂) : t.requests = t₁.requests ++ t₂.requests := by
  obtain ⟨g, hsplit⟩ := h
  exact hsplit.requests

/-- The numbers of the parts have no more digits than those of the whole. -/
theorem writable (h : t.SplitsInto t₁ t₂) (hwritable : t.atom.Writable) :
    t₁.atom.Writable ∧ t₂.atom.Writable := by
  obtain ⟨g, hsplit⟩ := h
  obtain ⟨hnum, hsides⟩ := hwritable
  have hsum := hsplit.num
  refine ⟨⟨by omega, ?_⟩, by omega, ?_⟩
  · rwa [hsplit.sides_left]
  · rwa [hsplit.sides_right]

end Term.SplitsInto

theorem faceSum_append (faces more : List UInt32) :
    faceSum (faces ++ more) = faceSum faces + faceSum more := by
  rw [faceSum, faceSum, faceSum, List.map_append, List.sum_append]

namespace Term

variable {ts us : List Term} {k : Nat}

/-- The bounds of terms can be added up when a group is split. -/
theorem BoundsFit.of_splitsAt (hfit : BoundsFit ts) (h : SplitsAt SplitsInto k ts us) :
    BoundsFit us := by
  have hsums {bound : Term → Int} (hbound : ∀ {t t₁ t₂ : Term}, t.SplitsInto t₁ t₂ →
      AlignedSum (bound t) (bound t₁) (bound t₂))
      (hts : ∀ n, Amount.InRange ((ts.take n).map bound).sum) (n : Nat) :
      Amount.InRange ((us.take n).map bound).sum := by
    have hsplit : SplitsAt AlignedSum k (ts.map bound) (us.map bound) := h.map hbound
    rw [List.map_take, ← Int.zero_add (List.sum _)]
    refine hsplit.inRange_add_sum_take (fun n => ?_) n
    rw [Int.zero_add, ← List.map_take]
    exact hts n
  exact ⟨h.forall_mem SplitsInto.inRange_greatest hfit.greatest,
    hsums SplitsInto.least hfit.sum_least, hsums SplitsInto.greatest hfit.sum_greatest⟩

/-- With given faces, the value of a group is that of its two parts. -/
theorem splitsAt_values (h : SplitsAt SplitsInto k ts us) (faces : List UInt32) :
    SplitsAt AlignedSum k (ts.zipWith value (segments ts faces))
      (us.zipWith value (segments us faces)) := by
  induction h generalizing faces with
  | here rest hsplit =>
    obtain @⟨g, d, d₁, d₂, hsplit⟩ := hsplit
    -- The segment of the group is that of its first part and then that of the second.
    have htake : faces.take d.num.toNat =
        faces.take d₁.num.toNat ++ (faces.drop d₁.num.toNat).take d₂.num.toNat := by
      rw [hsplit.num, List.take_add]
    have hdrop : faces.drop d.num.toNat = (faces.drop d₁.num.toNat).drop d₂.num.toNat := by
      rw [hsplit.num, List.drop_drop]
    have hsum : faceSum (faces.take d.num.toNat) = faceSum (faces.take d₁.num.toNat) +
        faceSum ((faces.drop d₁.num.toNat).take d₂.num.toNat) := by
      rw [htake, faceSum_append]
    rw [segments_cons, segments_cons, segments_cons, List.zipWith_cons_cons,
      List.zipWith_cons_cons, List.zipWith_cons_cons]
    exact hdrop ▸ .here _ (g.alignedSum hsum)
  | there t _ ih =>
    rw [segments_cons, segments_cons, List.zipWith_cons_cons, List.zipWith_cons_cons]
    exact .there _ (ih _)

end Term

/-! ### Formulas -/

/-- The terms of a formula, of which a group is split, are those of a formula. -/
theorem Formula.exists_terms_eq_of_splitsAt {f : Formula} {us : List Term} {k : Nat}
    (h : SplitsAt Term.SplitsInto k f.terms us) : ∃ h : Formula, h.terms = us := by
  obtain ⟨head, tail⟩ := f
  cases h with
  | here rest hsplit =>
    obtain @⟨_, _, d₁, d₂, _⟩ := hsplit
    exact ⟨⟨.dice d₁, ⟨.pos, .dice d₂⟩ :: tail⟩, rfl⟩
  | @there _ _ us _ _ => exact ⟨⟨head, us⟩, rfl⟩

namespace Prepared

variable {p q : Prepared} {k : Nat}

/-- The bounds of a formula stay what they are when a group is split. -/
theorem bounds_eq_of_splitsAt (h : SplitsAt Term.SplitsInto k p.formula.terms q.formula.terms) :
    q.low = p.low ∧ q.high = p.high := by
  constructor
  · rw [← Int64.toInt_inj, toInt_low, toInt_low]
    exact (h.map Term.SplitsInto.least).sum_eq
  · rw [← Int64.toInt_inj, toInt_high, toInt_high]
    exact (h.map Term.SplitsInto.greatest).sum_eq

/-- **A roll stays what it is when a group is split**, but for the value of the group. The source
is asked for the same faces. -/
theorem exists_roll_of_splitsAt {σ : Type} [FaceStream σ] [LawfulFaceStream σ]
    (h : SplitsAt Term.SplitsInto k p.formula.terms q.formula.terms) (s : σ) :
    ∃ o o' next, p.formula.roll s = .ok (o, next) ∧ q.formula.roll s = .ok (o', next) ∧
      o.SplitsInto k o' := by
  have hrequests : q.formula.requests = p.formula.requests := h.flatMap_eq Term.SplitsInto.requests
  obtain ⟨o, hroll, hvalues, htotal⟩ := p.exists_roll_of_requests s
  obtain ⟨o', hroll', hvalues', htotal'⟩ := q.exists_roll_of_requests s
  rw [hrequests] at hroll' hvalues' htotal'
  -- Both rolls are told from the same list of faces.
  have hsplit := Term.splitsAt_values h (FaceStream.serve p.formula.requests s).1
  refine ⟨o, o', _, hroll, hroll', ?_, ?_⟩
  · rw [← Int64.toInt_inj, htotal', htotal]
    exact hsplit.sum_eq
  · refine SplitsAt.of_map (fun _ _ => Int64.toInt_inj.mp) ?_
    rw [hvalues, hvalues']
    exact hsplit

end Prepared

/-! ### Runs -/

namespace Session

variable {σ : Type} {R : Outcome → Outcome → Prop} {p q : Prepared}

/-- The answers to one roll in two runs: outcomes related by `R`, and the same source. -/
def RelatedAnswers (R : Outcome → Outcome → Prop) (a a' : Answer × σ) : Prop :=
  a'.2 = a.2 ∧ ∃ o o', a.1 = .outcome o ∧ a'.1 = .outcome o' ∧ R o o'

variable [FaceSource σ]

/-- Two formulas, rolled a number of times from the same source: no roll overflows, the outcomes are
related by `R`, and the source is in the same state after each roll. -/
def RelatedRuns (R : Outcome → Outcome → Prop) (p q : Prepared) (source : σ) (rolls : Nat) : Prop :=
  ∃ answers answers' last,
    (start p source).performAll (List.replicate rolls .roll) = .ok (answers, start p last) ∧
    (start q source).performAll (List.replicate rolls .roll) = .ok (answers', start q last) ∧
    List.Forall₂ (RelatedAnswers R) answers answers'

/-- Two formulas are rolled in related runs if they are from every state when rolled once. -/
theorem relatedRuns_of_roll
    (h : ∀ s : σ, ∃ o o' next, p.formula.roll s = .ok (o, next) ∧
      q.formula.roll s = .ok (o', next) ∧ R o o') (source : σ) (rolls : Nat) :
    RelatedRuns R p q source rolls := by
  induction rolls generalizing source with
  | zero => exact ⟨[], [], source, rfl, rfl, .nil⟩
  | succ rolls ih =>
    obtain ⟨o, o', next, hroll, hroll', hR⟩ := h source
    obtain ⟨answers, answers', last, hrun, hrun', hanswers⟩ := ih next
    have hstep := (perform_of_roll (s := start p source) rfl hroll).1
    have hstep' := (perform_of_roll (s := start q source) rfl hroll').1
    exact ⟨_, _, last, performAll_cons_eq_ok_iff.mpr ⟨_, _, _, hstep, hrun, rfl⟩,
      performAll_cons_eq_ok_iff.mpr ⟨_, _, _, hstep', hrun', rfl⟩,
      .cons ⟨rfl, o, o', rfl, rfl, hR⟩ hanswers⟩

end Session

namespace Prepared

/-- **Splitting a group of dice changes nothing but the values of a roll.** If the formula `p` is
prepared, so is the one in which a group with `k` terms before it has become two. Every text that
stands for that formula gives it, and its own text does if `p` comes from a text. The bounds are
the same. Rolled from the same source, however many times, the two have the same totals and
leave the source in the same state after each roll; and the value of the group is the sum of the
two values that there are in its place. -/
theorem splitting_changes_values_only {p : Prepared} {k : Nat} {ts : List Term}
    (h : SplitsAt Term.SplitsInto k p.formula.terms ts) :
    ∃ q : Prepared, q.formula.terms = ts ∧ q.low = p.low ∧ q.high = p.high ∧
      (∀ s f, Formula.ofSpacedText s = .ok f → f.terms = ts → ofText s = .ok q) ∧
      ((∃ s, ofText s = .ok p) → ofText q.formula.text = .ok q) ∧
      ∀ (σ : Type) [FaceStream σ] [LawfulFaceStream σ] (source : σ) (rolls : Nat),
        Session.RelatedRuns (Outcome.SplitsInto k) p q source rolls := by
  obtain ⟨f, rfl⟩ := Formula.exists_terms_eq_of_splitsAt h
  have hfit : Term.BoundsFit p.formula.terms := Formula.exists_prepared_iff.mp ⟨p, rfl⟩
  obtain ⟨q, rfl⟩ := Formula.exists_prepared_iff.mpr (hfit.of_splitsAt h)
  obtain ⟨hlow, hhigh⟩ := bounds_eq_of_splitsAt h
  refine ⟨q, rfl, hlow, hhigh, fun s f hs hterms => ?_, fun ⟨s, hs⟩ => ?_,
    fun σ _ _ source rolls => ?_⟩
  · cases Formula.terms_injective hterms
    exact ofText_eq_ok_iff.mpr hs
  · have hwritable := Formula.writable_of_ofSpacedText (ofText_eq_ok_iff.mp hs)
    have hq : q.formula.Writable := h.forall_mem Term.SplitsInto.writable hwritable
    exact ofText_eq_ok_iff.mpr (Formula.ofSpacedText_text hq)
  · exact Session.relatedRuns_of_roll (exists_roll_of_splitsAt h) source rolls

/-- Two dice, subtracted one by one: three rolls from a cycle, and from the words of a seed. -/
theorem splitting_changes_values_only_of_twenty_minus_two_dice :
    ∃ q, ofText "20-1d6-1d6" = .ok q ∧ q.low = 8 ∧ q.high = 18 ∧
      Session.RelatedRuns (Outcome.SplitsInto 1) Session.twentyMinusTwoDice q
        (⟨3, 1, 0⟩ : Cycle) 3 ∧
      Session.RelatedRuns (Outcome.SplitsInto 1) Session.twentyMinusTwoDice q
        (Words.ofSeed 7) 3 := by
  have hread : Formula.ofSpacedText "20-1d6-1d6" =
      .ok ⟨.constant 20, [⟨.neg, .dice ⟨1, .poly ⟨6, by decide⟩⟩⟩,
        ⟨.neg, .dice ⟨1, .poly ⟨6, by decide⟩⟩⟩]⟩ := by decide +kernel
  have hsplit : (⟨2, .poly ⟨6, by decide⟩⟩ : Dice).SplitsInto ⟨1, .poly ⟨6, by decide⟩⟩
      ⟨1, .poly ⟨6, by decide⟩⟩ := ⟨by decide, rfl, rfl⟩
  have hterms : SplitsAt Term.SplitsInto 1 Session.twentyMinusTwoDice.formula.terms
      [⟨.pos, .constant 20⟩, ⟨.neg, .dice ⟨1, .poly ⟨6, by decide⟩⟩⟩,
        ⟨.neg, .dice ⟨1, .poly ⟨6, by decide⟩⟩⟩] :=
    .of_append [(⟨.pos, .constant 20⟩ : Term)] [] (Term.SplitsInto.dice .neg hsplit)
  obtain ⟨q, _, hlow, hhigh, htext, _, hrolls⟩ := splitting_changes_values_only hterms
  exact ⟨q, htext _ _ hread rfl, hlow, hhigh, hrolls Cycle _ 3, hrolls Words _ 3⟩

end Prepared

end DiceFormula
