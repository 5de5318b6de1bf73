import DiceFormula.Source.FaceSource

/-!
# Sources that draw one face at a time

Most sources draw the faces of a group one after the other. They may still draw the face of a die
in a group by another rule than that of a single die, and they may draw a whole group before they
hand out its first face. Such a source is given by how it draws one face.

## Main definitions

* `DrawMode` — whether a die is rolled alone or in a group
* `FaceStream` — sources that draw one face at a time
* `FaceStream.drawMany` — a number of faces, drawn one after the other
* `LawfulFaceStream` — sources whose every face is on the die

## Main results

* `FaceStream.drawMany_succ` — the first face is drawn first
* `FaceStream.length_drawMany` — as many faces are drawn as were asked for
-/

namespace DiceFormula

/-- Whether a die is rolled alone or in a group. -/
inductive DrawMode
  /-- The die is rolled alone. -/
  | single
  /-- The die is one of a group. -/
  | group
deriving DecidableEq

/-- States from which faces are drawn one at a time. -/
class FaceStream (σ : Type) where
  /-- Draws one face. -/
  draw : DrawMode → FaceCount → σ → UInt32 × σ
  /-- Whether a group is drawn as a whole before its first face is handed out. -/
  drawsWholeGroups : Bool

/-- Sources whose every face is on the die. -/
class LawfulFaceStream (σ : Type) [FaceStream σ] : Prop where
  /-- The face that is drawn is on the die. -/
  onDie_draw (mode : DrawMode) (n : FaceCount) (s : σ) : n.OnDie (FaceStream.draw mode n s).1

namespace FaceStream

variable {σ : Type} [FaceStream σ]

/-- Draws `k` more faces, behind those in `drawn`, of which the last one comes first. -/
def drawBehind (mode : DrawMode) (n : FaceCount) (drawn : List UInt32) :
    Nat → σ → List UInt32 × σ
  | 0, s => (drawn.reverse, s)
  | k + 1, s =>
    let (face, next) := draw mode n s
    drawBehind mode n (face :: drawn) k next

/-- Draws `k` faces, one after the other. -/
def drawMany (mode : DrawMode) (n : FaceCount) (k : Nat) (s : σ) : List UInt32 × σ :=
  drawBehind mode n [] k s

theorem drawBehind_eq (mode : DrawMode) (n : FaceCount) (drawn : List UInt32) (k : Nat) (s : σ) :
    drawBehind mode n drawn k s =
      (drawn.reverse ++ (drawMany mode n k s).1, (drawMany mode n k s).2) := by
  unfold drawMany
  induction k generalizing drawn s with
  | zero => simp [drawBehind]
  | succ k ih =>
    simp only [drawBehind]
    rw [ih (_ :: drawn), ih [_]]
    simp

@[simp]
theorem drawMany_zero (mode : DrawMode) (n : FaceCount) (s : σ) :
    drawMany mode n 0 s = ([], s) := rfl

theorem drawMany_succ (mode : DrawMode) (n : FaceCount) (k : Nat) (s : σ) :
    drawMany mode n (k + 1) s =
      ((draw mode n s).1 :: (drawMany mode n k (draw mode n s).2).1,
        (drawMany mode n k (draw mode n s).2).2) :=
  drawBehind_eq mode n [(draw mode n s).1] k (draw mode n s).2

theorem length_drawMany (mode : DrawMode) (n : FaceCount) (k : Nat) (s : σ) :
    (drawMany mode n k s).1.length = k := by
  induction k generalizing s with
  | zero => rfl
  | succ k ih => simp [drawMany_succ, ih]

/-- Draws faces of a group of dice. A source that draws whole groups has drawn the others, too. -/
def drawGroup (d : Dice) (k : Nat) (s : σ) : List UInt32 × σ :=
  if drawsWholeGroups σ then
    let (faces, next) := drawMany .group d.sides.count d.num.toNat s
    (faces.take k, next)
  else drawMany .group d.sides.count (min k d.num.toNat) s

instance : FaceSource σ where
  face n s := draw .single n s
  leadingFaces d k s := drawGroup d k s

/-- All the faces of a group are drawn one after the other. -/
theorem faces_eq_drawMany (d : Dice) (s : σ) :
    FaceSource.faces d s = drawMany .group d.sides.count d.num.toNat s := by
  simp only [FaceSource.faces, FaceSource.leadingFaces, drawGroup, Nat.min_self]
  split
  · rw [List.take_of_length_le (Nat.le_of_eq (length_drawMany ..))]
  · rfl

theorem onDie_of_mem_drawMany [LawfulFaceStream σ] (mode : DrawMode) (n : FaceCount) (k : Nat)
    (s : σ) {face : UInt32} (h : face ∈ (drawMany mode n k s).1) : n.OnDie face := by
  induction k generalizing s with
  | zero => cases h
  | succ k ih =>
    rw [drawMany_succ, List.mem_cons] at h
    obtain rfl | h := h
    · exact LawfulFaceStream.onDie_draw mode n s
    · exact ih _ h

instance [LawfulFaceStream σ] : LawfulFaceSource σ where
  length_faces d s := by rw [faces_eq_drawMany, length_drawMany]
  onDie_of_mem_faces d s _ h :=
    onDie_of_mem_drawMany .group _ _ s (faces_eq_drawMany d s ▸ h)

end FaceStream

end DiceFormula
