import DiceFormula.Proofs.Sums
import DiceFormula.Rolling
import Mathlib.Algebra.Order.BigOperators.Group.List
import Mathlib.Algebra.Order.Ring.Nat

/-!
# What the faces of a roll decide

A roll asks its source for faces, one group of dice after the other. The rest is arithmetic: with
given faces every term has a value, which is an integer like any other and knows of no limit. This
file keeps the two apart. What the terms of a formula draw from a source is one thing, what the
terms are worth with given faces is another, and rolling is shown to be the second after the first
wherever the exact results are amounts.

Faces are never negative, so the sum of a group only grows while it is taken. It overflows if the
whole sum is out of range, and never before.

## Main definitions

* `faceSum`, `Atom.magnitude`, `Term.value` — what given faces are worth
* `Term.draw`, `Term.drawAll` — the faces that terms draw from a source, and what is left of it
* `Dice.ShownBy`, `Term.ShownBy` — the faces that a group of dice and a term can show

## Main results

* `Dice.roll_eq_fit` — a group of dice rolls the exact sum of its faces, if that is an amount
* `Term.shownBy_drawAll` — what a lawful source hands out, the dice can show
-/

namespace DiceFormula

/-! ### The sum of some faces -/

/-- The sum of some faces. -/
def faceSum (faces : List UInt32) : Nat := (faces.map UInt32.toNat).sum

@[simp] theorem faceSum_nil : faceSum [] = 0 := rfl

@[simp] theorem faceSum_cons (face : UInt32) (faces : List UInt32) :
    faceSum (face :: faces) = face.toNat + faceSum faces := by
  rw [faceSum, List.map_cons, List.sum_cons, faceSum]

theorem faceSum_take_le (k : Nat) (faces : List UInt32) :
    faceSum (faces.take k) ≤ faceSum faces :=
  ((List.take_sublist k faces).map UInt32.toNat).sum_le_sum fun _ _ => Nat.zero_le _

/-- Faces are added up exactly, behind a sum that is not negative, unless their sum is too large. -/
private theorem sumFrom_map_ofCount {v : Amount} (hv : 0 ≤ v.toInt) (faces : List UInt32) :
    Amount.sumFrom v (faces.map Amount.ofCount) =
      Amount.fit .addition (v.toInt + faceSum faces) := by
  induction faces generalizing v with
  | nil =>
    rw [List.map_nil, Amount.sumFrom, faceSum_nil, Int.natCast_zero, Int.add_zero]
    exact (Amount.fit_eq_ok_iff.mpr rfl).symm
  | cons face faces ih =>
    have hadd : Amount.add v (Amount.ofCount face) =
        Amount.fit .addition (v.toInt + face.toNat) := by
      rw [Amount.add, Amount.toInt_ofCount]
    rw [List.map_cons, faceSum_cons, Int.natCast_add, ← Int.add_assoc]
    by_cases hrange : Amount.InRange (v.toInt + face.toNat)
    · obtain ⟨next, hnext, hvalue⟩ := Amount.exists_fit hrange .addition
      rw [Amount.sumFrom_cons_of_ok (hadd.trans hnext), ih (by omega), hvalue]
    · have hoverflow : Amount.fit .addition (v.toInt + face.toNat) = .error .addition :=
        Amount.fit_eq_error_iff.mpr ⟨rfl, hrange⟩
      rw [Amount.sumFrom_cons_of_error (hadd.trans hoverflow)]
      refine (Amount.fit_eq_error_iff.mpr ⟨rfl, fun hfit => hrange ?_⟩).symm
      rw [Amount.inRange_iff] at hfit ⊢
      omega

/-- **Faces are added up exactly, or their sum is too large.** -/
theorem sum_map_ofCount (faces : List UInt32) :
    Amount.sum (faces.map Amount.ofCount) = Amount.fit .addition (faceSum faces) := by
  have hzero : (0 : Amount).toInt = 0 := Int64.toInt_zero
  rw [Amount.sum, sumFrom_map_ofCount (Int.le_of_eq hzero.symm), hzero, Int.zero_add]

/-! ### Faces that dice can show -/

/-- One face for each die of a group, each of them on the die. -/
structure Dice.ShownBy (d : Dice) (faces : List UInt32) : Prop where
  /-- There is one face for each die. -/
  length_eq : faces.length = d.num.toNat
  /-- Every face is on the die. -/
  onDie : ∀ face ∈ faces, d.sides.count.OnDie face

namespace Dice.ShownBy

variable {d : Dice} {faces : List UInt32}

/-- Every die shows at least one. -/
theorem num_le_faceSum (h : d.ShownBy faces) : d.num.toNat ≤ faceSum faces := by
  rw [← h.length_eq]
  have hfaces := h.onDie
  clear h
  induction faces with
  | nil => exact Nat.le_refl 0
  | cons face faces ih =>
    obtain ⟨hface, hrest⟩ := List.forall_mem_cons.mp hfaces
    have hle := ih hrest
    have hone : 1 ≤ face.toNat := hface.1
    rw [List.length_cons, faceSum_cons]
    omega

/-- No die shows more than its highest face. -/
theorem faceSum_le (h : d.ShownBy faces) : faceSum faces ≤ d.num.toNat * d.sides.count.toNat := by
  rw [← h.length_eq]
  have hfaces := h.onDie
  clear h
  induction faces with
  | nil => simp
  | cons face faces ih =>
    obtain ⟨hface, hrest⟩ := List.forall_mem_cons.mp hfaces
    have hle := ih hrest
    have hhighest : face.toNat ≤ d.sides.count.toNat := hface.2
    rw [List.length_cons, faceSum_cons, Nat.succ_mul]
    omega

end Dice.ShownBy

/-- The faces that an atom can show. A constant shows none. -/
inductive Atom.ShownBy : Atom → List UInt32 → Prop
  /-- There is nothing to show. -/
  | constant (n : UInt32) : ShownBy (.constant n) []
  /-- Every die shows one of its faces. -/
  | dice {d : Dice} {faces : List UInt32} (shown : d.ShownBy faces) : ShownBy (.dice d) faces

/-- The faces that a term can show, whatever its sign. -/
def Term.ShownBy (t : Term) (faces : List UInt32) : Prop := t.atom.ShownBy faces

/-! ### What faces are worth -/

/-- The magnitude of an atom with given faces. -/
def Atom.magnitude : Atom → List UInt32 → Nat
  | .constant n, _ => n.toNat
  | .dice _, faces => faceSum faces

/-- The magnitude of a group of dice is the sum of its faces, and a constant shows none. -/
theorem Atom.ShownBy.faceSum_le_magnitude {a : Atom} {faces : List UInt32} (h : a.ShownBy faces) :
    faceSum faces ≤ a.magnitude faces := by
  cases h with
  | constant n => exact Nat.zero_le _
  | dice _ => exact Nat.le_refl _

/-- An integer with a sign in front of it. -/
def Sign.signed : Sign → Int → Int
  | .pos, n => n
  | .neg, n => -n

/-- The value of a term with given faces. -/
def Term.value (t : Term) (faces : List UInt32) : Int := t.sign.signed (t.atom.magnitude faces)

/-! ### Drawing the faces -/

section Source

variable {σ : Type} [FaceSource σ]

/-- The faces that an atom draws from a source. -/
def Atom.draw : Atom → σ → List UInt32 × σ
  | .constant _, s => ([], s)
  | .dice d, s => FaceSource.faces d s

/-- The faces that a term draws from a source. -/
def Term.draw (t : Term) (s : σ) : List UInt32 × σ := t.atom.draw s

/-- The faces that terms draw from a source one after the other, those of each term apart. -/
def Term.drawAll : List Term → σ → List (List UInt32) × σ
  | [], s => ([], s)
  | t :: ts, s =>
    let (faces, next) := t.draw s
    let (groups, last) := drawAll ts next
    (faces :: groups, last)

@[simp] theorem Term.drawAll_nil (s : σ) : drawAll [] s = ([], s) := rfl

@[simp] theorem Term.drawAll_cons (t : Term) (ts : List Term) (s : σ) :
    drawAll (t :: ts) s = ((t.draw s).1 :: (drawAll ts (t.draw s).2).1,
      (drawAll ts (t.draw s).2).2) := rfl

/-- A group of dice rolls the exact sum of its faces, or that sum is too large. -/
theorem Dice.roll_eq_fit (d : Dice) (s : σ) :
    d.roll s = (Amount.fit .addition (faceSum (FaceSource.faces d s).1)).map fun v =>
      (v, (FaceSource.faces d s).2) := by
  rw [← sum_map_ofCount]
  rfl

theorem Atom.shownBy_draw [LawfulFaceSource σ] (a : Atom) (s : σ) : a.ShownBy (a.draw s).1 := by
  cases a with
  | constant n => exact .constant n
  | dice d =>
    exact .dice ⟨LawfulFaceSource.length_faces d s,
      fun _ hmem => LawfulFaceSource.onDie_of_mem_faces d s hmem⟩

/-- What a lawful source hands out, the terms can show. -/
theorem Term.shownBy_drawAll [LawfulFaceSource σ] (ts : List Term) (s : σ) :
    List.Forall₂ ShownBy ts (drawAll ts s).1 := by
  induction ts generalizing s with
  | nil => exact .nil
  | cons t ts ih => exact .cons (t.atom.shownBy_draw s) (ih _)

end Source

end DiceFormula
