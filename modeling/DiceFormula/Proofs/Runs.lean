import DiceFormula.Proofs.Bounds
import DiceFormula.Session
import DiceFormula.Source.Cycle
import DiceFormula.Source.Words

/-!
# Runs of a session

Steps may follow each other in any order, and all of them draw from the one source. No step
changes the formula of a session; releasing the source takes it away. As a formula rolls within
its bounds whatever state the source is in, it does so at every point of every run.

## Main definitions

* `Session.Holds` — the formula of a session, if it is still there
* `Session.Answered`, `Session.RunWithin` — what a step may be answered, and what a run is like

## Main results

* `Session.formula?_of_perform`, `Session.formula?_of_performAll` — what is left of the formula
* `Session.answered_of_perform`, `Session.answered_of_performAll` — a step, and a whole run
* `Session.rolls_within_bounds` — every roll of every run stays within the bounds
-/

namespace DiceFormula

namespace Session

variable {σ : Type} {s next : Session σ} {a : Answer}

/-! ### One step -/

theorem withFormula_eq_ok_iff {perform : Prepared → Except StepError (Answer × Session σ)} :
    s.withFormula perform = .ok (a, next) ↔
      ∃ p, s.formula? = some p ∧ perform p = .ok (a, next) := by
  rw [withFormula]
  cases s.formula? <;> simp

theorem draw_eq_ok_iff {α : Type} {rolling : Rolling σ α} {answer : α → Answer} :
    s.draw rolling answer = .ok (a, next) ↔
      ∃ x source, rolling s.source = .ok (x, source) ∧ a = answer x ∧
        next = { s with source := source } := by
  rw [draw]
  cases rolling s.source with
  | error operation => simp
  | ok p => simp [Prod.ext_iff, eq_comm]

/-- The formula of a session is `p`, if it is still there. -/
def Holds (p : Prepared) (s : Session σ) : Prop := ∀ q, s.formula? = some q → q = p

theorem holds_start (p : Prepared) (source : σ) : (start p source).Holds p := by
  intro q hq
  exact (Option.some.inj hq).symm

variable [FaceSource σ]

/-- A step leaves the formula as it is, unless it releases the source. -/
theorem formula?_of_perform {step : Step} (h : s.perform step = .ok (a, next)) :
    next.formula? = s.formula? ∨ step = .release ∧ next.formula? = none := by
  cases step with
  | roll | evaluate =>
    obtain ⟨p, _, hdraw⟩ := withFormula_eq_ok_iff.mp h
    obtain ⟨_, _, _, _, rfl⟩ := draw_eq_ok_iff.mp hdraw
    exact Or.inl rfl
  | low | high | text | terms =>
    obtain ⟨p, _, heq⟩ := withFormula_eq_ok_iff.mp h
    cases heq
    exact Or.inl rfl
  | term index =>
    obtain ⟨p, _, hterm⟩ := withFormula_eq_ok_iff.mp h
    split at hterm
    · obtain ⟨_, _, _, _, rfl⟩ := draw_eq_ok_iff.mp hterm
      exact Or.inl rfl
    · cases hterm
  | face | faces | leadingFaces =>
    cases h
    exact Or.inl rfl
  | dice d =>
    obtain ⟨_, _, _, _, rfl⟩ := draw_eq_ok_iff.mp h
    exact Or.inl rfl
  | release =>
    obtain ⟨p, _, heq⟩ := withFormula_eq_ok_iff.mp h
    cases heq
    exact Or.inr ⟨rfl, rfl⟩

theorem Holds.of_perform {p : Prepared} {step : Step} (hs : s.Holds p)
    (h : s.perform step = .ok (a, next)) : next.Holds p := by
  intro q hq
  rcases formula?_of_perform h with heq | ⟨_, hnone⟩
  · exact hs q (heq ▸ hq)
  · rw [hnone] at hq
    cases hq

/-- What the formula rolls from the source is what a roll is answered, and evaluating the formula
gives the total. -/
theorem perform_of_roll {p : Prepared} {o : Outcome} {source : σ} (hs : s.formula? = some p)
    (hroll : p.formula.roll s.source = .ok (o, source)) :
    s.perform .roll = .ok (.outcome o, { s with source := source }) ∧
      s.perform .evaluate = .ok (.amount o.total, { s with source := source }) := by
  constructor
  · exact withFormula_eq_ok_iff.mpr ⟨p, hs, draw_eq_ok_iff.mpr ⟨o, source, hroll, rfl, rfl⟩⟩
  · exact withFormula_eq_ok_iff.mpr ⟨p, hs, draw_eq_ok_iff.mpr ⟨o, source, hroll, rfl, rfl⟩⟩

/-! ### One step after the other -/

/-- A run is a step and the run from what it leaves. -/
theorem performAll_cons_eq_ok_iff {step : Step} {steps : List Step} {answers : List (Answer × σ)}
    {last : Session σ} :
    s.performAll (step :: steps) = .ok (answers, last) ↔
      ∃ a next rest, s.perform step = .ok (a, next) ∧ next.performAll steps = .ok (rest, last) ∧
        answers = (a, next.source) :: rest := by
  rw [performAll]
  cases s.perform step with
  | error e => simp [bind, Except.bind]
  | ok q =>
    obtain ⟨a, next⟩ := q
    cases hrest : next.performAll steps with
    | error e => simp [bind, Except.bind, hrest]
    | ok r =>
      simp [bind, Except.bind, pure, Except.pure, hrest, Prod.ext_iff, eq_comm, and_comm]

/-- A run that does not release the source leaves the formula as it is. -/
theorem formula?_of_performAll {steps : List Step} {answers : List (Answer × σ)}
    {last : Session σ} (h : s.performAll steps = .ok (answers, last))
    (hrelease : Step.release ∉ steps) : last.formula? = s.formula? := by
  induction steps generalizing s answers with
  | nil =>
    cases h
    rfl
  | cons step steps ih =>
    obtain ⟨a, next, rest, hstep, hrest, _⟩ := performAll_cons_eq_ok_iff.mp h
    rw [List.mem_cons, not_or] at hrelease
    rcases formula?_of_perform hstep with heq | ⟨rfl, _⟩
    · rw [ih hrest hrelease.2, heq]
    · exact absurd rfl hrelease.1

/-! ### Rolls within the bounds -/

/-- What a step may be answered in a session with the formula `p`: a roll is within its bounds,
and so is the roll that an evaluation gives the total of. -/
def Answered (p : Prepared) : Step → Answer → Prop
  | .roll, a => ∃ o : Outcome, a = .outcome o ∧ o.Within p
  | .evaluate, a => ∃ o : Outcome, a = .amount o.total ∧ o.Within p
  | _, _ => True

variable [LawfulFaceSource σ]

theorem answered_of_perform {p : Prepared} {step : Step} (hs : s.Holds p)
    (h : s.perform step = .ok (a, next)) : Answered p step a := by
  cases step with
  | roll | evaluate =>
    obtain ⟨q, hq, hdraw⟩ := withFormula_eq_ok_iff.mp h
    obtain ⟨o, _, hroll, rfl, _⟩ := draw_eq_ok_iff.mp hdraw
    cases hs q hq
    exact ⟨o, rfl, Formula.within_of_roll hroll⟩
  | _ => trivial

/-- As long as the formula is there, it can be rolled, and evaluating it gives the total of the
same roll. -/
theorem exists_perform_roll {p : Prepared} (hs : s.formula? = some p) :
    ∃ o next, s.perform .roll = .ok (.outcome o, next) ∧
      s.perform .evaluate = .ok (.amount o.total, next) ∧ o.Within p := by
  obtain ⟨o, source, hroll, hwithin⟩ := Formula.exists_roll p s.source
  obtain ⟨hperform, hevaluate⟩ := perform_of_roll hs hroll
  exact ⟨o, _, hperform, hevaluate, hwithin⟩

theorem answered_of_performAll {p : Prepared} {steps : List Step} {answers : List (Answer × σ)}
    {last : Session σ} (hs : s.Holds p) (h : s.performAll steps = .ok (answers, last)) :
    List.Forall₂ (fun step answer => Answered p step answer.1) steps answers := by
  induction steps generalizing s answers with
  | nil =>
    cases h
    exact .nil
  | cons step steps ih =>
    obtain ⟨a, next, rest, hstep, hrest, rfl⟩ := performAll_cons_eq_ok_iff.mp h
    exact .cons (answered_of_perform hs hstep) (ih (hs.of_perform hstep) hrest)

/-- What a run in a session with the formula `p` is like. -/
structure RunWithin (p : Prepared) (steps : List Step) (answers : List (Answer × σ))
    (last : Session σ) : Prop where
  /-- Every roll and every evaluation in it is within the bounds. -/
  answered : List.Forall₂ (fun step answer => Answered p step answer.1) steps answers
  /-- After it, unless the source has been released, there is another roll within the bounds, and
  evaluating the formula gives its total. -/
  exists_roll : Step.release ∉ steps → ∃ o next, last.perform .roll = .ok (.outcome o, next) ∧
    last.perform .evaluate = .ok (.amount o.total, next) ∧ o.Within p

/-- **Every roll of every run stays within the bounds**, in a session that is started on a text
with a source whose faces are on the dice. -/
theorem rolls_within_bounds {input : String} {source : σ} {last : Session σ} {steps : List Step}
    {answers : List (Answer × σ)} (hbuild : ofText input source = .ok s)
    (hrun : s.performAll steps = .ok (answers, last)) :
    ∃ p, Formula.ofSpacedText input = .ok p.formula ∧ s = start p source ∧
      RunWithin p steps answers last := by
  obtain ⟨p, rfl, hformula⟩ := ofText_eq_ok_iff.mp hbuild
  refine ⟨p, hformula, rfl, answered_of_performAll (holds_start p source) hrun, ?_⟩
  intro hrelease
  exact exists_perform_roll (formula?_of_performAll hrun hrelease)

/-- The formula `20-2d6`, prepared. -/
def twentyMinusTwoDice : Prepared where
  formula := ⟨.constant 20, [⟨.neg, .dice ⟨2, .poly ⟨6, by decide⟩⟩⟩]⟩
  low := 8
  high := 18
  low_eq := by decide +kernel
  high_eq := by decide +kernel

/-- Two dice are subtracted, before and after a single draw from a cycle, and by words. -/
theorem rolls_within_bounds_twenty_minus_two_dice :
    (ofText "20 - 2d6" (⟨3, 1, 0⟩ : Cycle) = .ok (start twentyMinusTwoDice ⟨3, 1, 0⟩) ∧
      RunWithin twentyMinusTwoDice [.roll, .face ⟨6, by decide⟩, .evaluate]
        [(.outcome ⟨13, [20, -7]⟩, (⟨5, 1, 2⟩ : Cycle)), (.face 5, ⟨6, 1, 3⟩),
          (.amount 13, ⟨8, 1, 5⟩)]
        (start twentyMinusTwoDice ⟨8, 1, 5⟩)) ∧
      ofText "20 - 2d6" (Words.ofSeed 7) = .ok (start twentyMinusTwoDice (Words.ofSeed 7)) ∧
        RunWithin twentyMinusTwoDice [] [] (start twentyMinusTwoDice (Words.ofSeed 7)) := by
  have hread : Formula.ofSpacedText "20 - 2d6" = .ok twentyMinusTwoDice.formula := by
    decide +kernel
  have hbuild {σ : Type} (source : σ) :
      ofText "20 - 2d6" source = .ok (start twentyMinusTwoDice source) :=
    ofText_eq_ok_iff.mpr ⟨twentyMinusTwoDice, rfl, hread⟩
  constructor
  · have hrun : (start twentyMinusTwoDice (⟨3, 1, 0⟩ : Cycle)).performAll
        [.roll, .face ⟨6, by decide⟩, .evaluate] =
        .ok ([(.outcome ⟨13, [20, -7]⟩, ⟨5, 1, 2⟩), (.face 5, ⟨6, 1, 3⟩),
          (.amount 13, ⟨8, 1, 5⟩)], start twentyMinusTwoDice ⟨8, 1, 5⟩) := by rfl
    obtain ⟨q, _, heq, hwithin⟩ := rolls_within_bounds (hbuild _) hrun
    cases heq
    exact ⟨hbuild _, hwithin⟩
  · have hrun : (start twentyMinusTwoDice (Words.ofSeed 7)).performAll [] =
        .ok ([], start twentyMinusTwoDice (Words.ofSeed 7)) := rfl
    obtain ⟨q, _, heq, hwithin⟩ := rolls_within_bounds (hbuild _) hrun
    cases heq
    exact ⟨hbuild _, hwithin⟩

end Session

end DiceFormula
