import DiceFormula.Proofs.Bounds
import DiceFormula.Source.Script

/-!
# Every total between the bounds comes up

The bounds of a formula are not merely respected. Every total between them is what the formula
comes to with some faces, and so both bounds are reached.

The faces are found from the inside out. The dice of a group can be turned so that they add up to
any number from all ones to all highest faces: the first die shows as much as the others leave to
it. The values of a term then have no gaps either, whichever its sign is. Of several terms, the
first one takes the least value with which the others can still make up the rest.

## Main definitions

* `Prepared.ComesTo` — the total of a prepared formula with given faces

## Main results

* `Dice.exists_shownBy`, `Term.exists_shownBy` — a group of dice and a term leave out no value
* `Prepared.exists_comesTo_iff` — the totals of a prepared formula are those between its bounds
-/

namespace DiceFormula

/-! ### Groups of dice and terms -/

/-- Some dice can show faces of any sum from all ones to all highest faces. -/
theorem FaceCount.exists_faces (n : FaceCount) {k m : Nat} (hleast : k ≤ m)
    (hgreatest : m ≤ k * n.toNat) :
    ∃ faces : List UInt32, faces.length = k ∧ (∀ face ∈ faces, n.OnDie face) ∧
      faceSum faces = m := by
  induction k generalizing m with
  | zero =>
    refine ⟨[], rfl, nofun, ?_⟩
    rw [faceSum_nil]
    omega
  | succ k ih =>
    rw [Nat.succ_mul] at hgreatest
    have hpos : 1 ≤ n.toNat := n.toNat_pos
    -- The other dice show at least one each, and the first has no more than its highest face.
    obtain ⟨first, hfirst⟩ : ∃ first, first = min n.toNat (m - k) := ⟨_, rfl⟩
    obtain ⟨faces, hlength, honDie, hsum⟩ : ∃ faces : List UInt32, faces.length = k ∧
        (∀ face ∈ faces, n.OnDie face) ∧ faceSum faces = m - first := by
      refine ih (by omega) ?_
      have : k ≤ k * n.toNat := Nat.le_mul_of_pos_right k n.toNat_pos
      omega
    have hface : (UInt32.ofNat first).toNat = first := by
      have hsize := n.toNat_lt
      exact UInt32.toNat_ofNat_of_lt' (show first < UInt32.size by omega)
    refine ⟨UInt32.ofNat first :: faces, by rw [List.length_cons, hlength], ?_, ?_⟩
    · refine List.forall_mem_cons.mpr ⟨?_, honDie⟩
      rw [FaceCount.OnDie, hface]
      omega
    · rw [faceSum_cons, hface, hsum]
      omega

/-- A group of dice can show faces of any sum from all ones to all highest faces. -/
theorem Dice.exists_shownBy {d : Dice} {m : Nat} (hleast : d.num.toNat ≤ m)
    (hgreatest : m ≤ d.num.toNat * d.sides.count.toNat) :
    ∃ faces, d.ShownBy faces ∧ faceSum faces = m := by
  obtain ⟨faces, hlength, honDie, hsum⟩ := d.sides.count.exists_faces hleast hgreatest
  exact ⟨faces, ⟨hlength, honDie⟩, hsum⟩

/-- There are faces that an atom can show. -/
theorem Atom.exists_shown (a : Atom) : ∃ faces, a.ShownBy faces := by
  cases a with
  | constant n => exact ⟨[], .constant n⟩
  | dice d =>
    obtain ⟨faces, hshown, _⟩ := Dice.exists_shownBy (Nat.le_refl d.num.toNat)
      (Nat.le_mul_of_pos_right _ d.sides.count.toNat_pos)
    exact ⟨faces, .dice hshown⟩

/-- Every magnitude between the extremes of an atom comes up. -/
theorem Atom.exists_shownBy {a : Atom} {least greatest : Amount} {m : Int}
    (h : a.extremes = .ok (least, greatest)) (hleast : least.toInt ≤ m)
    (hgreatest : m ≤ greatest.toInt) : ∃ faces, a.ShownBy faces ∧ a.magnitude faces = m := by
  cases a with
  | constant n =>
    cases h
    rw [Amount.toInt_ofCount] at hleast hgreatest
    exact ⟨[], .constant n, Int.le_antisymm hleast hgreatest⟩
  | dice d =>
    obtain ⟨hones, hhighest⟩ := extremes_dice_eq_ok_iff.mp h
    rw [hones] at hleast
    rw [hhighest] at hgreatest
    obtain ⟨k, rfl⟩ : ∃ k : Nat, m = k := ⟨m.toNat, by omega⟩
    obtain ⟨faces, hshown, hsum⟩ :=
      Dice.exists_shownBy (Int.ofNat_le.mp hleast) (Int.ofNat_le.mp hgreatest)
    exact ⟨faces, .dice hshown, by rw [magnitude, hsum]⟩

namespace Term

/-- Every value between the bounds of a term comes up. -/
theorem exists_shownBy {t : Term} {low high : Amount} {v : Int} (hlow : t.low = .ok low)
    (hhigh : t.high = .ok high) (hle : low.toInt ≤ v) (hge : v ≤ high.toInt) :
    ∃ faces, t.ShownBy faces ∧ t.value faces = v := by
  obtain ⟨least, greatest, hextremes, hbounds⟩ := exists_extremes hlow hhigh
  rcases hbounds with ⟨hsign, hlower, hupper⟩ | ⟨hsign, hlower, hupper⟩
  · obtain ⟨faces, hshown, hmagnitude⟩ :=
      Atom.exists_shownBy (m := v) hextremes (by omega) (by omega)
    exact ⟨faces, hshown, by rw [value, hsign, Sign.signed, hmagnitude]⟩
  · obtain ⟨faces, hshown, hmagnitude⟩ :=
      Atom.exists_shownBy (m := -v) hextremes (by omega) (by omega)
    exact ⟨faces, hshown, by rw [value, hsign, Sign.signed, hmagnitude, Int.neg_neg]⟩

/-- The least value of a term is not greater than its greatest. -/
theorem low_le_high {t : Term} {low high : Amount} (hlow : t.low = .ok low)
    (hhigh : t.high = .ok high) : low.toInt ≤ high.toInt := by
  obtain ⟨faces, hshown⟩ := t.atom.exists_shown
  obtain ⟨hle, hge, _⟩ := value_between hlow hhigh hshown
  exact Int.le_trans hle hge

/-- Every total between the sums of the bounds of some terms comes up. -/
theorem exists_forall₂_shownBy {ts : List Term} {lows highs : List Amount} {v : Int}
    (hlows : List.Forall₂ (fun t low => t.low = .ok low) ts lows)
    (hhighs : List.Forall₂ (fun t high => t.high = .ok high) ts highs)
    (hle : Amount.exactSum lows ≤ v) (hge : v ≤ Amount.exactSum highs) :
    ∃ groups, List.Forall₂ ShownBy ts groups ∧ (ts.zipWith value groups).sum = v := by
  induction hlows generalizing highs v with
  | nil =>
    cases hhighs
    exact ⟨[], .nil, Int.le_antisymm hle hge⟩
  | @cons t low ts lows hlow hlows ih =>
    cases hhighs with
    | @cons _ high _ highs hhigh hhighs =>
      rw [Amount.exactSum] at hle hge
      have hterm : low.toInt ≤ high.toInt := low_le_high hlow hhigh
      have hrest : Amount.exactSum lows ≤ Amount.exactSum highs :=
        Amount.exactSum_le (forall₂_of_forall₂ hlows hhighs fun _ _ _ => low_le_high)
      -- As little as possible goes to the first term, so that what is left is not too much.
      obtain ⟨first, hfirst⟩ : ∃ first, first = max low.toInt (v - Amount.exactSum highs) :=
        ⟨_, rfl⟩
      obtain ⟨faces, hshown, hvalue⟩ :=
        exists_shownBy (v := first) hlow hhigh (by omega) (by omega)
      obtain ⟨groups, hgroups, hsum⟩ := ih (v := v - first) hhighs (by omega) (by omega)
      refine ⟨faces :: groups, .cons hshown hgroups, ?_⟩
      rw [List.zipWith_cons_cons, List.sum_cons, hvalue, hsum]
      omega

end Term

/-! ### Formulas -/

/-- The terms of a formula draw from a script what is written for them. -/
theorem Script.drawAll_flatten_append {ts : List Term} {groups : List (List UInt32)}
    (h : List.Forall₂ Term.ShownBy ts groups) (rest : List UInt32) :
    Term.drawAll ts (⟨groups.flatten ++ rest⟩ : Script) = (groups, ⟨rest⟩) := by
  induction h with
  | nil => rfl
  | @cons t faces ts groups hshown _ ih =>
    obtain ⟨sign, atom⟩ := t
    have hdraw : Term.draw ⟨sign, atom⟩ (⟨faces ++ (groups.flatten ++ rest)⟩ : Script) =
        (faces, ⟨groups.flatten ++ rest⟩) := by
      cases hshown with
      | constant n => rfl
      | dice hdice => exact faces_append hdice.length_eq _
    rw [List.flatten_cons, List.append_assoc, Term.drawAll_cons, hdraw, ih]

/-- With the faces in `groups`, those of each term apart, the formula of `p` comes to the total
`v`. -/
structure Prepared.ComesTo (p : Prepared) (groups : List (List UInt32)) (v : Int) : Prop where
  /-- There is one face for each die of each term, and it is on the die. -/
  shown : List.Forall₂ Term.ShownBy p.formula.terms groups
  /-- Rolled from a script of these faces the formula has this total, and the script is used up. -/
  script : ∃ o, p.formula.roll (⟨groups.flatten⟩ : Script) = .ok (o, ⟨[]⟩) ∧ o.total.toInt = v
  /-- The formula has this total from every source that hands out these faces. -/
  source : ∀ (σ : Type) [FaceSource σ] (s : σ), (Term.drawAll p.formula.terms s).1 = groups →
    ∃ o, p.formula.roll s = .ok (o, (Term.drawAll p.formula.terms s).2) ∧ o.total.toInt = v

namespace Prepared

/-- What a prepared formula comes to is the sum of what its terms are worth. -/
theorem exists_roll_of_drawAll_eq {p : Prepared} {groups : List (List UInt32)}
    (hshown : List.Forall₂ Term.ShownBy p.formula.terms groups) {σ : Type} [FaceSource σ]
    {s next : σ} (hdraw : Term.drawAll p.formula.terms s = (groups, next)) :
    ∃ o, p.formula.roll s = .ok (o, next) ∧
      o.total.toInt = (p.formula.terms.zipWith Term.value groups).sum ∧ o.Within p := by
  obtain ⟨o, hroll, _, htotal, hwithin⟩ :=
    Formula.exists_roll_of_shown p (s := s) (by rw [hdraw]; exact hshown)
  rw [hdraw] at hroll htotal
  exact ⟨o, hroll, htotal, hwithin⟩

theorem comesTo_of_shown {p : Prepared} {groups : List (List UInt32)}
    (hshown : List.Forall₂ Term.ShownBy p.formula.terms groups) :
    p.ComesTo groups (p.formula.terms.zipWith Term.value groups).sum where
  shown := hshown
  script := by
    have hdraw := Script.drawAll_flatten_append hshown []
    rw [List.append_nil] at hdraw
    obtain ⟨o, hroll, htotal, _⟩ := exists_roll_of_drawAll_eq hshown hdraw
    exact ⟨o, hroll, htotal⟩
  source := by
    intro σ _ s hdraw
    obtain ⟨o, hroll, htotal, _⟩ :=
      exists_roll_of_drawAll_eq (s := s) hshown (Prod.ext hdraw rfl)
    exact ⟨o, hroll, htotal⟩

/-- A total that comes up is between the bounds. -/
theorem ComesTo.between {p : Prepared} {groups : List (List UInt32)} {v : Int}
    (h : p.ComesTo groups v) : p.low.toInt ≤ v ∧ v ≤ p.high.toInt := by
  have hdraw := Script.drawAll_flatten_append h.shown []
  rw [List.append_nil] at hdraw
  obtain ⟨o, hroll, _, hwithin⟩ := exists_roll_of_drawAll_eq h.shown hdraw
  obtain ⟨o', hroll', hv⟩ := h.script
  cases hroll.symm.trans hroll'
  rw [← hv]
  exact ⟨Int64.le_iff_toInt_le.mp hwithin.low_le, Int64.le_iff_toInt_le.mp hwithin.le_high⟩

/-- The least total is not greater than the greatest. -/
theorem low_le_high (p : Prepared) : p.low.toInt ≤ p.high.toInt := by
  obtain ⟨lows, hlows, hlow⟩ := Formula.low_eq_ok_iff.mp p.low_eq
  obtain ⟨highs, hhighs, hhigh⟩ := Formula.high_eq_ok_iff.mp p.high_eq
  rw [Amount.toInt_sum hlow, Amount.toInt_sum hhigh]
  exact Amount.exactSum_le (forall₂_of_forall₂ hlows hhighs fun _ _ _ => Term.low_le_high)

/-- A total between the bounds comes up. -/
theorem exists_comesTo (p : Prepared) {v : Int} (hle : p.low.toInt ≤ v) (hge : v ≤ p.high.toInt) :
    ∃ groups, p.ComesTo groups v := by
  obtain ⟨lows, hlows, hlow⟩ := Formula.low_eq_ok_iff.mp p.low_eq
  obtain ⟨highs, hhighs, hhigh⟩ := Formula.high_eq_ok_iff.mp p.high_eq
  rw [Amount.toInt_sum hlow] at hle
  rw [Amount.toInt_sum hhigh] at hge
  obtain ⟨groups, hshown, hsum⟩ := Term.exists_forall₂_shownBy hlows hhighs hle hge
  refine ⟨groups, ?_⟩
  rw [← hsum]
  exact comesTo_of_shown hshown

/-- Whatever a prepared formula rolls with faces that its dice can show, it comes to. -/
theorem comesTo_of_roll {p : Prepared} {σ : Type} [FaceSource σ] {s next : σ} {o : Outcome}
    (hshown : List.Forall₂ Term.ShownBy p.formula.terms (Term.drawAll p.formula.terms s).1)
    (hroll : p.formula.roll s = .ok (o, next)) :
    p.ComesTo (Term.drawAll p.formula.terms s).1 o.total.toInt := by
  obtain ⟨o', hroll', htotal, _⟩ := exists_roll_of_drawAll_eq (s := s) hshown rfl
  cases hroll.symm.trans hroll'
  rw [htotal]
  exact comesTo_of_shown hshown

/-- **The totals of a prepared formula are exactly the integers between its bounds.** Both bounds
are among them, whatever is subtracted and however few dice or sides there are. It does not matter
which source the faces come from. -/
theorem exists_comesTo_iff (p : Prepared) :
    (∀ v : Int, p.low.toInt ≤ v ∧ v ≤ p.high.toInt ↔ ∃ groups, p.ComesTo groups v) ∧
      (∃ groups, p.ComesTo groups p.low.toInt) ∧ (∃ groups, p.ComesTo groups p.high.toInt) ∧
      ∀ (σ : Type) [FaceSource σ] (s next : σ) (o : Outcome),
        List.Forall₂ Term.ShownBy p.formula.terms (Term.drawAll p.formula.terms s).1 →
          p.formula.roll s = .ok (o, next) →
            p.ComesTo (Term.drawAll p.formula.terms s).1 o.total.toInt := by
  refine ⟨fun v => ⟨fun ⟨hle, hge⟩ => p.exists_comesTo hle hge, fun ⟨_, h⟩ => h.between⟩, ?_, ?_,
    fun σ _ s next o hshown hroll => comesTo_of_roll hshown hroll⟩
  · exact p.exists_comesTo (Int.le_refl _) p.low_le_high
  · exact p.exists_comesTo p.low_le_high (Int.le_refl _)

/-- Two subtracted dice make for the least total of `20-2d6` if they show six each. -/
example : (⟨.constant 20, [⟨.neg, .dice ⟨2, .poly ⟨6, by decide⟩⟩⟩]⟩ : Formula).roll
    (⟨[6, 6]⟩ : Script) = .ok (⟨8, [20, -12]⟩, ⟨[]⟩) := by rfl

end Prepared

end DiceFormula
