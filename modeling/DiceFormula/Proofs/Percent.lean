import DiceFormula.Proofs.Overflow
import DiceFormula.Proofs.Writing
import DiceFormula.Source.Words
import Mathlib.Data.Finset.Insert

/-!
# The percent sign

The percent sign stands for a hundred faces, and it is nothing but a way to write them. Whatever
rolls a die or bounds it asks for the number of its faces, never for how they are given. So a
formula can have its percent signs replaced by digits, one by one or all at once. Only what shows
the notation tells the difference: the texts of the formula and of its terms.

To compare two formulas, all their sides are put into digits. Formulas that become the same have the
same dice. Each thing that is computed from a formula without regard to notation is shown to be
unchanged by this, and so it is the same for any two formulas with the same dice. No induction on
the places of the percent signs is needed. There is an induction for the steps of a session, of
which each reads the formula only in this way.

## Main definitions

* `Sides.inDigits`, `Term.inDigits`, `Formula.inDigits` — sides with their number in digits
* `Formula.inDigitsAt` — digits at some of the places only
* `Formula.SameDice` — formulas that differ in notation only
* `Prepared.SameButNotation` — what such formulas have in common

## Main results

* `Formula.SameDice.roll_eq` — one roll
* `Session.performAll_exchange` — a run of a session
* `Prepared.percent_sign_is_notation` — what a percent sign changes, and what it does not
-/

namespace DiceFormula

/-! ### Sides in digits -/

/-- The sides with the number of their faces in digits. -/
def Sides.inDigits (s : Sides) : Sides := .poly s.count

/-- The sides of a group of dice, if it is one, with their number in digits. -/
def Atom.inDigits : Atom → Atom
  | .constant n => .constant n
  | .dice d => .dice { d with sides := d.sides.inDigits }

namespace Term

/-- The term with its sides in digits. -/
def inDigits (t : Term) : Term := { t with atom := t.atom.inDigits }

/-- Whether the sides of a term are given by a percent sign. -/
def HasPercent (t : Term) : Prop := ∃ num, t.atom = .dice ⟨num, .percentile⟩

/-- Exactly a percent sign is changed. -/
theorem inDigits_eq_self_iff {t : Term} : t.inDigits = t ↔ ¬ t.HasPercent := by
  obtain ⟨sign, atom⟩ := t
  cases atom with
  | constant n => simp [inDigits, Atom.inDigits, HasPercent]
  | dice d =>
    obtain ⟨num, sides⟩ := d
    cases sides with
    | poly n => simp [inDigits, Atom.inDigits, Sides.inDigits, Sides.count, HasPercent]
    | percentile => simp [inDigits, Atom.inDigits, Sides.inDigits, HasPercent]

@[simp] theorem inDigits_inDigits (t : Term) : t.inDigits.inDigits = t.inDigits := by
  rw [inDigits_eq_self_iff]
  obtain ⟨sign, atom⟩ := t
  cases atom <;> simp [inDigits, Atom.inDigits, Sides.inDigits, HasPercent]

/-! Nothing that is asked about a term, apart from its text, depends on the notation. -/

@[simp] theorem diceCount_inDigits (t : Term) : t.inDigits.diceCount = t.diceCount := by
  obtain ⟨sign, atom⟩ := t
  cases atom <;> rfl

@[simp] theorem faces_inDigits (t : Term) : t.inDigits.faces = t.faces := by
  obtain ⟨sign, atom⟩ := t
  cases atom <;> rfl

theorem extremes_inDigits (t : Term) : t.inDigits.atom.extremes = t.atom.extremes := by
  obtain ⟨sign, atom⟩ := t
  cases atom <;> rfl

@[simp] theorem low_inDigits (t : Term) : t.inDigits.low = t.low := by
  rw [low, low, extremes_inDigits]
  rfl

@[simp] theorem high_inDigits (t : Term) : t.inDigits.high = t.high := by
  rw [high, high, extremes_inDigits]
  rfl

/-- A source that draws one face at a time is asked for the same faces. -/
@[simp] theorem roll_inDigits {σ : Type} [FaceStream σ] (t : Term) :
    (t.inDigits.roll : Rolling σ Amount) = t.roll := by
  obtain ⟨sign, atom⟩ := t
  cases atom with
  | constant n => rfl
  | dice d =>
    have hroll : ({ d with sides := d.sides.inDigits }.roll : Rolling σ Amount) = d.roll := by
      funext s
      rw [Dice.roll, Dice.roll, FaceStream.faces_eq_drawMany, FaceStream.faces_eq_drawMany]
      rfl
    simp only [roll, inDigits, Atom.inDigits, Atom.roll, hroll]

/-- Digits are short enough for a literal where the percent sign was. -/
theorem writable_inDigits {t : Term} (h : t.atom.Writable) : t.inDigits.atom.Writable := by
  obtain ⟨sign, atom⟩ := t
  cases atom with
  | constant n => exact h
  | dice d =>
    obtain ⟨num, sides⟩ := d
    cases sides with
    | poly n => exact h
    | percentile => exact ⟨h.1, (by decide : 100 ≤ 9999)⟩

end Term

/-! ### Formulas with the same dice -/

namespace Formula

/-- The formula with all its sides in digits. -/
def inDigits (f : Formula) : Formula := ⟨f.head.inDigits, f.tail.map Term.inDigits⟩

/-- The formula with the sides of the terms at some places in digits. Places count from zero. -/
def inDigitsAt (f : Formula) (places : Finset Nat) : Formula where
  head := if 0 ∈ places then f.head.inDigits else f.head
  tail := f.tail.mapIdx fun i t => if i + 1 ∈ places then t.inDigits else t

/-- Whether the term at a place has a percent sign. -/
def HasPercentAt (f : Formula) (place : Nat) : Prop :=
  ∃ t, f.terms[place]? = some t ∧ t.HasPercent

/-- Two formulas have the same dice if they are the same in digits. -/
def SameDice (f h : Formula) : Prop := h.inDigits = f.inDigits

variable {f h : Formula}

theorem terms_inDigits (f : Formula) : f.inDigits.terms = f.terms.map Term.inDigits := rfl

theorem terms_inDigitsAt (f : Formula) (places : Finset Nat) :
    (f.inDigitsAt places).terms =
      f.terms.mapIdx fun i t => if i ∈ places then t.inDigits else t := by
  rw [terms, terms, List.mapIdx_cons, inDigitsAt]
  congr 1
  split <;> rfl

theorem getElem?_terms_inDigitsAt (f : Formula) (places : Finset Nat) (i : Nat) :
    (f.inDigitsAt places).terms[i]? =
      f.terms[i]?.map fun t => if i ∈ places then t.inDigits else t := by
  rw [terms_inDigitsAt, List.getElem?_mapIdx]

/-- Digits at some places make no difference once there are digits everywhere. -/
theorem sameDice_inDigitsAt (f : Formula) (places : Finset Nat) :
    f.SameDice (f.inDigitsAt places) := by
  refine terms_injective (List.ext_getElem? fun i => ?_)
  rw [terms_inDigits, terms_inDigits, List.getElem?_map, List.getElem?_map,
    getElem?_terms_inDigitsAt, Option.map_map]
  refine Option.map_congr fun t _ => ?_
  rw [Function.comp_apply]
  split
  · exact t.inDigits_inDigits
  · rfl

/-- A term is changed exactly if it stands at one of the places and has a percent sign. -/
theorem getElem?_terms_inDigitsAt_eq_iff {places : Finset Nat} {i : Nat} :
    (f.inDigitsAt places).terms[i]? = f.terms[i]? ↔ ¬ (i ∈ places ∧ f.HasPercentAt i) := by
  rw [getElem?_terms_inDigitsAt, HasPercentAt]
  cases f.terms[i]? with
  | none => simp
  | some t =>
    by_cases hi : i ∈ places
    · simp [hi, Term.inDigits_eq_self_iff]
    · simp [hi]

theorem inDigitsAt_eq_self_iff {places : Finset Nat} :
    f.inDigitsAt places = f ↔ ∀ i ∈ places, ¬ f.HasPercentAt i := by
  rw [← terms_injective.eq_iff, List.ext_getElem?_iff]
  simp only [getElem?_terms_inDigitsAt_eq_iff, not_and]

theorem writable_inDigitsAt {places : Finset Nat} (hwritable : f.Writable) :
    (f.inDigitsAt places).Writable := by
  intro t ht
  obtain ⟨i, hi⟩ := List.mem_iff_getElem?.mp ht
  rw [getElem?_terms_inDigitsAt, Option.map_eq_some_iff] at hi
  obtain ⟨u, hu, rfl⟩ := hi
  have hmem : u ∈ f.terms := List.mem_of_getElem? hu
  split
  · exact Term.writable_inDigits (hwritable u hmem)
  · exact hwritable u hmem

/-- The terms of formulas with the same dice agree in whatever does not depend on the notation. -/
theorem SameDice.map_terms_eq {α : Type} (hdice : f.SameDice h) {g : Term → α}
    (hg : ∀ t, g t.inDigits = g t) : h.terms.map g = f.terms.map g := by
  have hmap (f : Formula) : f.terms.map g = f.inDigits.terms.map g := by
    rw [terms_inDigits, List.map_map]
    exact List.map_congr_left fun t _ => (hg t).symm
  rw [hmap h, hmap f, hdice]

theorem SameDice.map_getElem?_terms_eq {α : Type} (hdice : f.SameDice h) {g : Term → α}
    (hg : ∀ t, g t.inDigits = g t) (i : Nat) : h.terms[i]?.map g = f.terms[i]?.map g := by
  rw [← List.getElem?_map, ← List.getElem?_map, hdice.map_terms_eq hg]

theorem SameDice.mapM_terms_eq {m : Type → Type} [Monad m] [LawfulMonad m] {α : Type}
    (hdice : f.SameDice h) {g : Term → m α} (hg : ∀ t, g t.inDigits = g t) :
    h.terms.mapM g = f.terms.mapM g := by
  have hmap (f : Formula) : f.terms.mapM g = f.inDigits.terms.mapM g := by
    rw [terms_inDigits, List.mapM_map]
    exact congrArg (List.mapM · f.terms) (funext fun t => (hg t).symm)
  rw [hmap h, hmap f, hdice]

theorem SameDice.low_eq (hdice : f.SameDice h) : h.low = f.low := by
  rw [low, low, hdice.mapM_terms_eq Term.low_inDigits]

theorem SameDice.high_eq (hdice : f.SameDice h) : h.high = f.high := by
  rw [high, high, hdice.mapM_terms_eq Term.high_inDigits]

/-- **Formulas with the same dice are rolled alike**, from a source that draws one face at a time.
-/
theorem SameDice.roll_eq {σ : Type} [FaceStream σ] (hdice : f.SameDice h) :
    (h.roll : Rolling σ Outcome) = f.roll := by
  rw [roll, roll, hdice.mapM_terms_eq Term.roll_inDigits]

/-- Formulas whose numbers are short enough for a literal have different texts if they differ. -/
theorem text_eq_text_iff (hf : f.Writable) (hh : h.Writable) : f.text = h.text ↔ f = h := by
  constructor
  · intro htext
    have hread := ofSpacedText_text hf
    rw [htext, ofSpacedText_text hh] at hread
    exact (Except.ok.inj hread).symm
  · rintro rfl
    rfl

end Formula

/-- Prepared formulas with the same dice have the same bounds. -/
theorem Prepared.bounds_eq_of_sameDice {p q : Prepared} (hdice : p.formula.SameDice q.formula) :
    q.low = p.low ∧ q.high = p.high := by
  have hlow := q.low_eq
  have hhigh := q.high_eq
  rw [hdice.low_eq, p.low_eq] at hlow
  rw [hdice.high_eq, p.high_eq] at hhigh
  exact ⟨(Except.ok.inj hlow).symm, (Except.ok.inj hhigh).symm⟩

/-! ### Sessions -/

/-- Whether a step shows how a formula is written. -/
def Step.showsNotation : Step → Bool
  | .text | .terms => true
  | _ => false

namespace Session

variable {σ : Type} {p q : Prepared}

/-- The session with the formula `q`, unless the formula is gone. -/
def exchange (q : Prepared) (s : Session σ) : Session σ :=
  { s with formula? := s.formula?.map fun _ => q }

variable [FaceStream σ]

/-- **A step that does not show the notation is answered alike** when the formula is exchanged for
one with the same dice, and it leaves the source alike. -/
theorem perform_exchange (hdice : p.formula.SameDice q.formula) {s : Session σ} (hs : s.Holds p)
    {step : Step} (hstep : step.showsNotation = false) :
    (s.exchange q).perform step = (s.perform step).map fun r => (r.1, r.2.exchange q) := by
  obtain ⟨held, source⟩ := s
  cases step with
  | text | terms => cases hstep
  | face | faces | leadingFaces => rfl
  | dice d =>
    simp only [perform, draw, exchange]
    cases d.roll source <;> rfl
  | release => cases held <;> rfl
  | roll | evaluate =>
    cases held with
    | none => rfl
    | some r =>
      cases hs r rfl
      simp only [perform, exchange, withFormula, Option.map_some, draw, hdice.roll_eq]
      cases p.formula.roll source <;> rfl
  | low | high =>
    cases held with
    | none => rfl
    | some r =>
      cases hs r rfl
      obtain ⟨hlow, hhigh⟩ := Prepared.bounds_eq_of_sameDice hdice
      simp only [perform, exchange, withFormula, Option.map_some, hlow, hhigh]
      rfl
  | term index =>
    cases held with
    | none => rfl
    | some r =>
      cases hs r rfl
      have hrolls : (q.formula.terms[index]?.map fun t => (t.roll : Rolling σ Amount)) =
          p.formula.terms[index]?.map fun t => t.roll :=
        hdice.map_getElem?_terms_eq Term.roll_inDigits index
      simp only [perform, exchange, withFormula, Option.map_some]
      cases hterm : p.formula.terms[index]? with
      | none =>
        rw [hterm, Option.map_none, Option.map_eq_none_iff] at hrolls
        rw [hrolls]
        rfl
      | some t =>
        rw [hterm, Option.map_some, Option.map_eq_some_iff] at hrolls
        obtain ⟨u, hu, hroll⟩ := hrolls
        rw [hu]
        simp only [draw, hroll]
        cases t.roll source <;> rfl

/-- **So is a run of such steps.** -/
theorem performAll_exchange (hdice : p.formula.SameDice q.formula) {s : Session σ} (hs : s.Holds p)
    {steps : List Step} (hsteps : ∀ step ∈ steps, step.showsNotation = false) :
    (s.exchange q).performAll steps =
      (s.performAll steps).map fun r => (r.1, r.2.exchange q) := by
  induction steps generalizing s with
  | nil => rfl
  | cons step rest ih =>
    obtain ⟨hstep, hrest⟩ := List.forall_mem_cons.mp hsteps
    rw [performAll, performAll, perform_exchange hdice hs hstep]
    cases hperform : s.perform step with
    | error e => rfl
    | ok r =>
      obtain ⟨a, next⟩ := r
      simp only [Except.map, bind, Except.bind]
      rw [ih (hs.of_perform hperform) hrest]
      cases next.performAll rest <;> rfl

end Session

namespace Prepared

/-- What two prepared formulas have in common that differ in notation only. -/
structure SameButNotation (p q : Prepared) : Prop where
  /-- The least total is the same. -/
  low : q.low = p.low
  /-- So is the greatest. -/
  high : q.high = p.high
  /-- The terms have the same numbers of dice. -/
  diceCount : q.formula.terms.map Term.diceCount = p.formula.terms.map Term.diceCount
  /-- The dice have the same numbers of faces. -/
  faces : q.formula.terms.map Term.faces = p.formula.terms.map Term.faces
  /-- Rolled from the same source, however many times, they have the same outcomes, and the source
  is in the same state after each roll. -/
  rolls : ∀ (σ : Type) [FaceStream σ] [LawfulFaceStream σ] (source : σ) (rolls : Nat),
    ∃ answers last,
      (Session.start p source).performAll (List.replicate rolls .roll) =
        .ok (answers, Session.start p last) ∧
      (Session.start q source).performAll (List.replicate rolls .roll) =
        .ok (answers, Session.start q last)
  /-- Whatever else is asked in a session, unless it shows the notation, has the same answers. If
  a step gives no answer, it gives none to either, and for the same reason. -/
  runs : ∀ (σ : Type) [FaceStream σ] (source : σ) (steps : List Step),
    (∀ step ∈ steps, step.showsNotation = false) →
      (Session.start q source).performAll steps =
        ((Session.start p source).performAll steps).map fun r => (r.1, r.2.exchange q)

variable {p q : Prepared}

theorem sameButNotation_of_sameDice (hdice : p.formula.SameDice q.formula) :
    SameButNotation p q where
  low := (bounds_eq_of_sameDice hdice).1
  high := (bounds_eq_of_sameDice hdice).2
  diceCount := hdice.map_terms_eq Term.diceCount_inDigits
  faces := hdice.map_terms_eq Term.faces_inDigits
  rolls := by
    intro σ _ _ source rolls
    have hcalls : ∀ step ∈ List.replicate rolls Step.roll, step = .roll := fun _ =>
      List.eq_of_mem_replicate
    obtain ⟨answers, ⟨held, last⟩, hrun, hlast⟩ := Session.exists_performAll
      (s := Session.start p source) rfl fun step hstep => Or.inl (hcalls step hstep)
    cases hlast
    refine ⟨answers, last, hrun, ?_⟩
    have hexchange := Session.performAll_exchange hdice (Session.holds_start p source)
      fun step hstep => congrArg Step.showsNotation (hcalls step hstep)
    rw [hrun] at hexchange
    exact hexchange
  runs := fun _ _ source _ => Session.performAll_exchange hdice (Session.holds_start p source)

/-- A formula with the same dice can be prepared, too. -/
theorem exists_of_sameDice {h : Formula} (hdice : p.formula.SameDice h) :
    ∃ q : Prepared, q.formula = h :=
  ⟨⟨h, p.low, p.high, hdice.low_eq.trans p.low_eq, hdice.high_eq.trans p.high_eq⟩, rfl⟩

/-- **The percent sign is notation for a hundred faces and nothing else.** If a text gives a
prepared formula, so does every text of the formula in which percent signs at any places have been
replaced by digits. Whatever does not show the notation is the same for both. Still they are two
formulas, with two texts, as soon as one percent sign has been replaced, and each is read from its
own text. -/
theorem percent_sign_is_notation {s : String} {p : Prepared} (h : ofText s = .ok p)
    (places : Finset Nat) :
    ∃ q : Prepared, q.formula = p.formula.inDigitsAt places ∧ SameButNotation p q ∧
      (∀ t, Formula.ofSpacedText t = .ok q.formula → ofText t = .ok q) ∧
      ofText p.formula.text = .ok p ∧ ofText q.formula.text = .ok q ∧
      (∀ i, q.formula.terms[i]? ≠ p.formula.terms[i]? ↔ i ∈ places ∧ p.formula.HasPercentAt i) ∧
      (q.formula ≠ p.formula ↔ ∃ i ∈ places, p.formula.HasPercentAt i) ∧
      (q.formula.text ≠ p.formula.text ↔ ∃ i ∈ places, p.formula.HasPercentAt i) := by
  have hdice := p.formula.sameDice_inDigitsAt places
  obtain ⟨q, hq⟩ := exists_of_sameDice hdice
  have hp : p.formula.Writable := Formula.writable_of_ofSpacedText (ofText_eq_ok_iff.mp h)
  have hwritable : q.formula.Writable := hq ▸ Formula.writable_inDigitsAt hp
  have hsame : q.formula = p.formula ↔ ∀ i ∈ places, ¬ p.formula.HasPercentAt i := by
    rw [hq, Formula.inDigitsAt_eq_self_iff]
  refine ⟨q, hq, sameButNotation_of_sameDice (hq ▸ hdice), fun t => ofText_eq_ok_iff.mpr,
    ofText_eq_ok_iff.mpr (Formula.ofSpacedText_text hp),
    ofText_eq_ok_iff.mpr (Formula.ofSpacedText_text hwritable), fun i => ?_, ?_, ?_⟩
  · rw [hq, Ne, Formula.getElem?_terms_inDigitsAt_eq_iff, not_not]
  · rw [Ne, hsame]
    simp only [not_forall, not_not, exists_prop]
  · rw [Ne, Formula.text_eq_text_iff hwritable hp, hsame]
    simp only [not_forall, not_not, exists_prop]

/-- The formula `1d%-2d%+7`, prepared. -/
def twoPercentSigns : Prepared where
  formula := ⟨.dice ⟨1, .percentile⟩, [⟨.neg, .dice ⟨2, .percentile⟩⟩, ⟨.pos, .constant 7⟩]⟩
  low := -192
  high := 105
  low_eq := by decide +kernel
  high_eq := by decide +kernel

/-- The second of two percent signs, behind a minus sign: a roll from a cycle, and three from the
words of a seed. -/
theorem percent_sign_is_notation_behind_minus :
    ofText "D% - 2d% + 7" = .ok twoPercentSigns ∧
      ∃ q, ofText "1d%-2d100+7" = .ok q ∧ q.low = -192 ∧ q.high = 105 ∧
        q.formula.text ≠ twoPercentSigns.formula.text ∧
        (Session.start q (⟨3, 1, 0⟩ : Cycle)).performAll [.roll] =
          .ok ([(.outcome ⟨1, [3, -9, 7]⟩, ⟨6, 1, 3⟩)], Session.start q ⟨6, 1, 3⟩) ∧
        ∃ answers last,
          (Session.start twoPercentSigns (Words.ofSeed 7)).performAll [.roll, .roll, .roll] =
            .ok (answers, Session.start twoPercentSigns last) ∧
          (Session.start q (Words.ofSeed 7)).performAll [.roll, .roll, .roll] =
            .ok (answers, Session.start q last) := by
  have hread : Formula.ofSpacedText "D% - 2d% + 7" = .ok twoPercentSigns.formula := by
    decide +kernel
  have hdigits : Formula.ofSpacedText "1d%-2d100+7" =
      .ok (twoPercentSigns.formula.inDigitsAt {1}) := by decide +kernel
  have hpercent : ∃ i ∈ ({1} : Finset Nat), twoPercentSigns.formula.HasPercentAt i :=
    ⟨1, by decide, _, rfl, 2, rfl⟩
  have hroll : (Session.start twoPercentSigns (⟨3, 1, 0⟩ : Cycle)).performAll [.roll] =
      .ok ([(.outcome ⟨1, [3, -9, 7]⟩, ⟨6, 1, 3⟩)], Session.start twoPercentSigns ⟨6, 1, 3⟩) := by
    rfl
  have hbuild := ofText_eq_ok_iff.mpr hread
  obtain ⟨q, hq, hsame, htext, _, _, _, _, hdiffer⟩ := percent_sign_is_notation hbuild {1}
  have hruns := hsame.runs Cycle ⟨3, 1, 0⟩ [.roll] (by simp [Step.showsNotation])
  rw [hroll] at hruns
  exact ⟨hbuild, q, htext _ (hq ▸ hdigits), hsame.low, hsame.high, hdiffer.mpr hpercent, hruns,
    hsame.rolls Words _ 3⟩

end Prepared

end DiceFormula
