import DiceFormula.Dice

/-!
# Sources of faces

Dice are rolled by a source of faces, a state that changes with every draw. A source can be asked
for the face of a single die, and for the faces of a group of dice. The faces of a group come in
order, and whoever asks for them may stop early; what the source has spent by then is its own
affair.

## Main definitions

* `FaceSource` — a type of states from which faces can be drawn
* `FaceSource.faces` — all the faces of a group of dice
* `LawfulFaceSource` — sources that give a group as many faces as it has dice, each of them on
  the die
-/

namespace DiceFormula

/-- States from which the faces of dice can be drawn. -/
class FaceSource (σ : Type) where
  /-- Draws the face of a single die. -/
  face : FaceCount → σ → UInt32 × σ
  /-- Draws the first faces of a group of dice, at most as many as asked for. -/
  leadingFaces : Dice → Nat → σ → List UInt32 × σ

/-- Draws all the faces of a group of dice. -/
def FaceSource.faces {σ : Type} [FaceSource σ] (d : Dice) (s : σ) : List UInt32 × σ :=
  leadingFaces d d.num.toNat s

/-- Whether a face is on a die with `n` faces, which are numbered from one. -/
def FaceCount.OnDie (n : FaceCount) (face : UInt32) : Prop :=
  1 ≤ face.toNat ∧ face.toNat ≤ n.toNat

/-- Sources that give a group as many faces as it has dice, each of them on the die. -/
class LawfulFaceSource (σ : Type) [FaceSource σ] : Prop where
  /-- There is one face for each die. -/
  length_faces (d : Dice) (s : σ) : (FaceSource.faces d s).1.length = d.num.toNat
  /-- Every face is on the die. -/
  onDie_of_mem_faces (d : Dice) (s : σ) {face : UInt32} (h : face ∈ (FaceSource.faces d s).1) :
    d.sides.count.OnDie face

end DiceFormula
