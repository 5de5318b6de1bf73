import DiceFormula.Source.Word

/-!
# Sources of words

A generator of random words is a source of faces: to draw a face, it draws words until one is
accepted. This ends for every generator in which an accepted word comes up sooner or later, from
whatever state; such a generator is called live.

## Main definitions

* `WordSource` — states from which words can be drawn
* `WordSource.skip`, `WordSource.wordAt` — the state after some words, and the word it gives
* `LiveWordSource` — sources that never reject forever
* `WordSource.drawFace` — the face that the next accepted word picks

## Main results

* `WordSource.onDie_drawFace` — every face is on the die
-/

namespace DiceFormula

/-- States from which 32-bit words can be drawn. -/
class WordSource (σ : Type) where
  /-- Draws one word. -/
  next : σ → UInt32 × σ

namespace WordSource

/-- The state after `k` words. -/
def skip {σ : Type} [WordSource σ] : Nat → σ → σ
  | 0, s => s
  | k + 1, s => skip k (next s).2

/-- The word that is drawn after `k` others. -/
def wordAt {σ : Type} [WordSource σ] (k : Nat) (s : σ) : UInt32 := (next (skip k s)).1

theorem wordAt_zero {σ : Type} [WordSource σ] (s : σ) : wordAt 0 s = (next s).1 := rfl

theorem wordAt_succ {σ : Type} [WordSource σ] (k : Nat) (s : σ) :
    wordAt (k + 1) s = wordAt k (next s).2 := rfl

end WordSource

/-- Sources of words in which an accepted word comes up sooner or later. -/
class LiveWordSource (σ : Type) extends WordSource σ where
  /-- Some word after finitely many others is accepted. -/
  exists_accepted (mode : DrawMode) (n : FaceCount) (s : σ) :
    ∃ k, (mode.face? n (WordSource.wordAt k s)).isSome = true

namespace WordSource

/-- One state comes before another in the search for a face if it is what a rejected word leaves
behind. -/
def AfterRejection {σ : Type} [WordSource σ] (mode : DrawMode) (n : FaceCount) (after s : σ) :
    Prop :=
  mode.face? n (next s).1 = none ∧ after = (next s).2

variable {σ : Type} [LiveWordSource σ]

theorem afterRejection_wf (mode : DrawMode) (n : FaceCount) :
    WellFounded (AfterRejection (σ := σ) mode n) := by
  refine ⟨fun s => ?_⟩
  obtain ⟨k, accepted⟩ := LiveWordSource.exists_accepted mode n s
  induction k generalizing s with
  | zero =>
    refine ⟨s, fun after ⟨rejected, _⟩ => ?_⟩
    rw [wordAt_zero, rejected] at accepted
    cases accepted
  | succ k ih =>
    refine ⟨s, fun after ⟨_, eq⟩ => ?_⟩
    subst eq
    exact ih _ accepted

/-- Draws words until one is accepted, and gives the face that it picks. -/
def drawFace (mode : DrawMode) (n : FaceCount) (s : σ) : UInt32 × σ :=
  match _h : mode.face? n (next s).1 with
  | some face => (face, (next s).2)
  | none => drawFace mode n (next s).2
termination_by (afterRejection_wf mode n).wrap s
decreasing_by exact ⟨_h, rfl⟩

theorem onDie_drawFace (mode : DrawMode) (n : FaceCount) (s : σ) :
    n.OnDie (drawFace mode n s).1 := by
  fun_induction drawFace mode n s with
  | case1 s face h => exact DrawMode.onDie_of_face? h
  | case2 s h ih => exact ih

/-- A group of dice draws words only for the faces that are asked for. -/
instance : FaceStream σ where
  draw := drawFace
  drawsWholeGroups := false

instance : LawfulFaceStream σ where
  onDie_draw := onDie_drawFace

end WordSource

end DiceFormula
