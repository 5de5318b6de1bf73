import DiceFormula.Proofs.Overflow
import DiceFormula.Proofs.Requests

/-!
# A session is one list of requests

The steps of a session may be mixed as one likes, and all of them draw from the one source. Still
nothing is lost, drawn twice or drawn out of order. To see this, the source is taken out of the
session. Which faces a step asks for is decided beforehand, by the step and the formula alone. All
the requests of all the steps are put into one list, the source serves this list from left to right,
and the faces are cut into one segment for each step. What a step is answered then depends on
its own segment only. This gives the answers of the session, and the state in which it leaves the
source.

Totals and values are given here as integers, computed without regard to any limit. That they
are the answers shows once more that no roll of a formula overflows. Only the faces of a group of
dice that is not part of the formula may be too many to add up.

## Main definitions

* `ExactAnswer`, `Answer.exact` — answers with integers in place of amounts
* `Step.requests`, `Step.answer`, `Step.leaves` — the faces that a step asks for, how it is answered
  with given faces, and what it leaves of the formula
* `Session.flatRun` — a run told from one list of requests
* `Session.Offers` — what a session can be asked at any time

## Main results

* `Session.map_perform`, `Session.map_performAll` — one step, and a whole run
* `Session.runs_are_flat` — every run is one flat list of requests
-/

namespace DiceFormula

/-! ### Answers in integers -/

/-- An answer, with integers in place of amounts. -/
inductive ExactAnswer
  /-- A roll of the formula. -/
  | outcome (total : Int) (values : List Int)
  /-- A total, a bound or the value of a term. -/
  | amount (v : Int)
  /-- The text of the formula. -/
  | text (s : String)
  /-- The texts of its terms. -/
  | texts (all : List String)
  /-- The face of a single die. -/
  | face (n : UInt32)
  /-- The faces of a group of dice. -/
  | faces (all : List UInt32)
  /-- The source has been released. -/
  | released
deriving DecidableEq

/-- The same answer, with integers in place of amounts. -/
def Answer.exact : Answer → ExactAnswer
  | .outcome o => .outcome o.total.toInt (o.values.map Int64.toInt)
  | .amount v => .amount v.toInt
  | .text s => .text s
  | .texts all => .texts all
  | .face n => .face n
  | .faces all => .faces all
  | .released => .released

/-- Nothing about an answer is lost. -/
theorem Answer.exact_injective : Function.Injective Answer.exact := by
  have hamounts : Function.Injective (List.map Int64.toInt) :=
    List.map_injective_iff.mpr fun _ _ => Int64.toInt_inj.mp
  intro a b h
  cases a with
  | outcome o =>
    cases b <;> simp only [exact, reduceCtorEq, ExactAnswer.outcome.injEq] at h
    obtain ⟨htotal, hvalues⟩ := h
    rw [Answer.outcome.injEq, Outcome.mk.injEq]
    exact ⟨Int64.toInt_inj.mp htotal, hamounts hvalues⟩
  | amount v =>
    cases b <;> simp only [exact, reduceCtorEq, ExactAnswer.amount.injEq] at h
    rw [Int64.toInt_inj.mp h]
  | _ =>
    cases b <;> cases h
    rfl

/-! ### One step -/

namespace Step

/-- The faces that a step asks for, where `whole` says whether a group is drawn as a whole before
its first face is handed out. -/
def requests (whole : Bool) (held : Option Prepared) : Step → List Request
  | .roll | .evaluate =>
    match held with
    | some p => p.formula.requests
    | none => []
  | .term index =>
    match held.bind fun p => p.formula.terms[index]? with
    | some t => t.requests
    | none => []
  | .face n => [⟨.single, n⟩]
  | .faces d | .dice d => d.requests
  | .leadingFaces d k => if whole then d.requests else d.requests.take k
  | .low | .high | .text | .terms | .release => []

/-- How a step is answered with the faces that it asks for. -/
def answer (held : Option Prepared) (faces : List UInt32) (step : Step) :
    Except StepError ExactAnswer :=
  let withFormula (answer : Prepared → Except StepError ExactAnswer) :=
    match held with
    | some p => answer p
    | none => .error .released
  match step with
  | .roll => withFormula fun p =>
    .ok (.outcome (p.formula.valuesOf faces).sum (p.formula.valuesOf faces))
  | .evaluate => withFormula fun p => .ok (.amount (p.formula.valuesOf faces).sum)
  | .low => withFormula fun p => .ok (.amount p.low.toInt)
  | .high => withFormula fun p => .ok (.amount p.high.toInt)
  | .text => withFormula fun p => .ok (.text p.formula.text)
  | .terms => withFormula fun p => .ok (.texts (p.formula.terms.map Term.text))
  | .term index => withFormula fun p =>
    match p.formula.terms[index]? with
    | some t => .ok (.amount (t.value faces))
    | none => .error (.noTerm index)
  | .face _ => .ok (.face (faces.headD 0))
  | .faces _ => .ok (.faces faces)
  | .leadingFaces _ k => .ok (.faces (faces.take k))
  | .dice _ =>
    if Amount.InRange (faceSum faces) then .ok (.amount (faceSum faces))
    else .error (.overflow .addition)
  | .release => withFormula fun _ => .ok .released

/-- What a step leaves of the formula. -/
def leaves (held : Option Prepared) : Step → Option Prepared
  | .release => none
  | _ => held

end Step

namespace Session

variable {σ : Type} [FaceStream σ]

/-- A step, told from the faces that are served for its requests. -/
def flatPerform (s : Session σ) (step : Step) : Except StepError (ExactAnswer × Session σ) :=
  let requests := step.requests (FaceStream.drawsWholeGroups σ) s.formula?
  let (faces, next) := FaceStream.serve requests s.source
  (step.answer s.formula? faces).map fun a => (a, ⟨step.leaves s.formula?, next⟩)

/-- **A step is told from the faces that are served for its requests.** -/
theorem map_perform [LawfulFaceStream σ] (s : Session σ) (step : Step) :
    (s.perform step).map (fun r => (r.1.exact, r.2)) = s.flatPerform step := by
  obtain ⟨held, source⟩ := s
  cases step with
  | roll | evaluate =>
    cases held with
    | none => rfl
    | some p =>
      obtain ⟨o, hroll, hvalues, htotal⟩ := p.exists_roll_of_requests source
      simp only [perform, withFormula, draw, hroll, Except.map, Answer.exact, hvalues, htotal]
      rfl
  | low | high | text | terms | release => cases held <;> rfl
  | term index =>
    cases held with
    | none => rfl
    | some p =>
      cases hterm : p.formula.terms[index]? with
      | none =>
        simp only [perform, flatPerform, withFormula, Step.answer, hterm]
        rfl
      | some t =>
        obtain ⟨v, hroll, hvalue⟩ :=
          p.exists_roll_term_of_requests (List.mem_of_getElem? hterm) source
        simp only [perform, flatPerform, withFormula, draw, Step.requests, Step.answer,
          Option.bind, hterm, hroll, Except.map, Answer.exact, hvalue]
        rfl
  | face n => rfl
  | faces d =>
    simp only [perform, d.faces_eq_serve]
    rfl
  | leadingFaces d k =>
    simp only [perform, flatPerform, d.leadingFaces_eq_serve, Step.requests, Step.answer]
    split
    · rfl
    · -- No more faces are drawn than are handed out, so there is nothing to drop.
      have hlength : (FaceStream.serve (d.requests.take k) source).1.length ≤ k := by
        rw [FaceStream.length_serve]
        exact List.length_take_le k d.requests
      rw [List.take_of_length_le hlength]
      rfl
  | dice d =>
    have hroll := d.roll_eq_fit source
    rw [d.faces_eq_serve] at hroll
    by_cases hrange : Amount.InRange (faceSum (FaceStream.serve d.requests source).1)
    · obtain ⟨v, hfit, hvalue⟩ := Amount.exists_fit hrange .addition
      have hanswer : (Step.dice d).answer held (FaceStream.serve d.requests source).1 =
          .ok (.amount v.toInt) := by
        rw [hvalue]
        exact if_pos hrange
      rw [hfit] at hroll
      simp only [perform, flatPerform, draw, hroll, Step.requests, hanswer]
      rfl
    · have hanswer : (Step.dice d).answer held (FaceStream.serve d.requests source).1 =
          .error (.overflow .addition) := if_neg hrange
      rw [Amount.fit_eq_error_iff.mpr ⟨rfl, hrange⟩] at hroll
      simp only [perform, flatPerform, draw, hroll, Step.requests, hanswer]
      rfl

/-! ### Runs -/

/-- The requests of steps, one segment for each of them. -/
def requests (whole : Bool) : Option Prepared → List Step → List (List Request)
  | _, [] => []
  | held, step :: rest => step.requests whole held :: requests whole (step.leaves held) rest

/-- How steps are answered with given faces, one segment for each of them. -/
def answers : Option Prepared → List Step → List (List UInt32) → Except StepError (List ExactAnswer)
  | _, [], _ => .ok []
  | _, _ :: _, [] => .ok []
  | held, step :: rest, faces :: segments => do
    let a ← step.answer held faces
    let more ← answers (step.leaves held) rest segments
    return a :: more

/-- A run, told from one list of requests. The source serves the list, and the faces are cut into
one segment for each step. -/
def flatRun (s : Session σ) (steps : List Step) :
    Except StepError (List ExactAnswer × Session σ) :=
  let segments := requests (FaceStream.drawsWholeGroups σ) s.formula? steps
  let (faces, last) := FaceStream.serve segments.flatten s.source
  (answers s.formula? steps ((segments.map List.length).splitLengths faces)).map fun given =>
    (given, ⟨steps.foldl Step.leaves s.formula?, last⟩)

/-- The requests of a step are served before those of the steps after it. -/
theorem flatRun_cons (s : Session σ) (step : Step) (rest : List Step) :
    s.flatRun (step :: rest) = (s.flatPerform step).bind fun r =>
      (r.2.flatRun rest).map fun more => (r.1 :: more.1, more.2) := by
  -- The faces are cut behind the first segment, where serving the first step ended.
  have hlength := FaceStream.length_serve
    (step.requests (FaceStream.drawsWholeGroups σ) s.formula?) s.source
  simp only [flatRun, flatPerform, requests, List.flatten_cons, FaceStream.serve_append,
    List.map_cons, List.splitLengths_cons, List.take_left' hlength, List.drop_left' hlength,
    answers, List.foldl_cons]
  cases step.answer s.formula? _ with
  | error e => rfl
  | ok a =>
    simp only [Except.map, Except.bind, bind, pure, Except.pure]
    cases answers (step.leaves s.formula?) rest _ <;> rfl

/-- **A run is told from one list of requests.** -/
theorem map_performAll [LawfulFaceStream σ] (s : Session σ) (steps : List Step) :
    (s.performAll steps).map (fun r => (r.1.map fun a => a.1.exact, r.2)) = s.flatRun steps := by
  induction steps generalizing s with
  | nil => rfl
  | cons step rest ih =>
    rw [flatRun_cons, ← map_perform, performAll]
    cases s.perform step with
    | error e => rfl
    | ok r =>
      show _ = (r.2.flatRun rest).map _
      rw [← ih]
      cases h : r.2.performAll rest <;> simp [Except.map, Except.bind, bind, pure, Except.pure, h]

/-! ### What stays the same -/

/-- What a session with the formula `p` answers at any time. -/
structure Offers (p : Prepared) (s : Session σ) : Prop where
  /-- The formula is there. -/
  formula : s.formula? = some p
  /-- Asking for the least total draws nothing, and so do the questions that follow. -/
  low : s.perform .low = .ok (.amount p.low, s)
  /-- The greatest total. -/
  high : s.perform .high = .ok (.amount p.high, s)
  /-- The text of the formula. -/
  text : s.perform .text = .ok (.text p.formula.text, s)
  /-- The texts of its terms. -/
  terms : s.perform .terms = .ok (.texts (p.formula.terms.map Term.text), s)
  /-- Evaluating the formula gives the total of the roll that could have been made instead, and
  leaves the source in the same state. -/
  evaluate : ∃ o next, s.perform .roll = .ok (.outcome o, next) ∧
    s.perform .evaluate = .ok (.amount o.total, next)
  /-- The source is released in the state in which it is. -/
  release : s.perform .release = .ok (.released, ⟨none, s.source⟩)

theorem offers_of_formula?_eq [LawfulFaceStream σ] {p : Prepared} {s : Session σ}
    (h : s.formula? = some p) : s.Offers p := by
  obtain ⟨o, next, hroll, hevaluate, _⟩ := exists_perform_roll h
  obtain ⟨held, source⟩ := s
  cases h
  exact ⟨rfl, rfl, rfl, rfl, rfl, ⟨o, next, hroll, hevaluate⟩, rfl⟩

/-- **A session is one flat list of requests.** In a session that is started on a text, with a
source that draws one face at a time, every run is told from the list of its requests: the
answers are those of the segments of the faces that are served, and the source is left as serving
leaves it. As long as the source has not been released, everything about the formula stays the
same. -/
theorem runs_are_flat [LawfulFaceStream σ] {input : String} {source : σ} {s : Session σ}
    (hbuild : ofText input source = .ok s) :
    ∃ p, Formula.ofSpacedText input = .ok p.formula ∧ s = start p source ∧
      ∀ steps : List Step,
        (s.performAll steps).map (fun r => (r.1.map fun a => a.1.exact, r.2)) = s.flatRun steps ∧
        ∀ answers last, s.performAll steps = .ok (answers, last) → Step.release ∉ steps →
          last.Offers p := by
  obtain ⟨p, rfl, hformula⟩ := ofText_eq_ok_iff.mp hbuild
  refine ⟨p, hformula, rfl, fun steps => ⟨map_performAll _ steps, ?_⟩⟩
  intro answers last hrun hrelease
  exact offers_of_formula?_eq (formula?_of_performAll hrun hrelease)

/-- Two subtracted dice, before and after a single draw from a cycle that is released in the end,
and by words. -/
theorem runs_are_flat_twenty_minus_two_dice :
    (ofText "20 - 2d6" (⟨3, 1, 0⟩ : Cycle) = .ok (start twentyMinusTwoDice ⟨3, 1, 0⟩) ∧
      (start twentyMinusTwoDice (⟨3, 1, 0⟩ : Cycle)).flatRun
        [.roll, .face ⟨6, by decide⟩, .low, .evaluate, .release] =
          .ok ([.outcome 13 [20, -7], .face 5, .amount 8, .amount 13, .released],
            ⟨none, ⟨8, 1, 5⟩⟩)) ∧
      ofText "20 - 2d6" (Words.ofSeed 7) = .ok (start twentyMinusTwoDice (Words.ofSeed 7)) ∧
        (start twentyMinusTwoDice (Words.ofSeed 7)).Offers twentyMinusTwoDice := by
  constructor
  · have hbuild := ofText_twentyMinusTwoDice (⟨3, 1, 0⟩ : Cycle)
    obtain ⟨p, _, hstart, hflat⟩ := runs_are_flat hbuild
    cases hstart
    refine ⟨hbuild, ?_⟩
    rw [← (hflat _).1]
    rfl
  · have hbuild := ofText_twentyMinusTwoDice (Words.ofSeed 7)
    obtain ⟨p, _, hstart, hflat⟩ := runs_are_flat hbuild
    cases hstart
    exact ⟨hbuild, (hflat []).2 [] _ rfl (by simp)⟩

end Session

end DiceFormula
