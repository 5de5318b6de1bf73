import DiceFormula.Source.FaceStream

/-!
# Faces written down in advance

A script is a source whose faces have been chosen beforehand. It hands them out in the order in
which they are written, whatever the dice are, and does not look whether a face is on its die.
When it is used up every die shows one.

## Main definitions

* `Script` — the faces still to come
* `Script.draw` — the next one

## Main results

* `Script.faces_append` — a group of dice shows what is written for it
-/

namespace DiceFormula

/-- A source that hands out given faces. -/
structure Script where
  /-- The faces still to come. -/
  faces : List UInt32
deriving DecidableEq

namespace Script

/-- The next face. -/
def draw (s : Script) : UInt32 × Script :=
  match s.faces with
  | [] => (1, s)
  | face :: rest => (face, ⟨rest⟩)

instance : FaceStream Script where
  draw _ _ s := s.draw
  drawsWholeGroups := true

theorem drawMany_append (mode : DrawMode) (n : FaceCount) (faces rest : List UInt32) :
    FaceStream.drawMany mode n faces.length (⟨faces ++ rest⟩ : Script) = (faces, ⟨rest⟩) := by
  induction faces with
  | nil => rfl
  | cons face faces ih =>
    have hdraw : FaceStream.draw mode n (⟨face :: faces ++ rest⟩ : Script) =
        (face, ⟨faces ++ rest⟩) := rfl
    rw [List.length_cons, FaceStream.drawMany_succ, hdraw, ih]

/-- A group of dice shows what is written for it. -/
theorem faces_append {d : Dice} {faces : List UInt32} (h : faces.length = d.num.toNat)
    (rest : List UInt32) :
    FaceSource.faces d (⟨faces ++ rest⟩ : Script) = (faces, ⟨rest⟩) := by
  rw [FaceStream.faces_eq_drawMany, ← h, drawMany_append]

end Script

end DiceFormula
