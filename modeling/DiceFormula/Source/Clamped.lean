import DiceFormula.Source.FaceStream

/-!
# Faces put onto the die

Any source that draws one face at a time can be made to hand out faces that are on the die. A number
beyond the highest face counts as the highest face, and zero counts as the first. A face that is on
the die anyway stays what it is, so a source loses nothing that its dice can show.

## Main definitions

* `FaceCount.clamp` — the face of a die that is nearest to a number
* `Clamped` — a source with all its faces put onto the die

## Main results

* `FaceCount.onDie_clamp` — the nearest face is on the die
* `FaceCount.clamp_of_onDie` — and a face that is on the die is its own nearest
* `Clamped.faces_of_onDie` — a group of dice shows what the source has for it
-/

namespace DiceFormula

namespace FaceCount

/-- The face of a die that is nearest to a number. -/
def clamp (n : FaceCount) (number : UInt32) : UInt32 :=
  UInt32.ofNat (max 1 (min number.toNat n.toNat))

theorem toNat_clamp (n : FaceCount) (number : UInt32) :
    (n.clamp number).toNat = max 1 (min number.toNat n.toNat) := by
  have hpos := n.toNat_pos
  have hsize := n.toNat_lt
  exact UInt32.toNat_ofNat_of_lt' (show _ < UInt32.size by omega)

theorem onDie_clamp (n : FaceCount) (number : UInt32) : n.OnDie (n.clamp number) := by
  have hpos := n.toNat_pos
  rw [OnDie, toNat_clamp]
  omega

/-- A face that is on the die is the nearest one. -/
theorem clamp_of_onDie {n : FaceCount} {face : UInt32} (h : n.OnDie face) :
    n.clamp face = face := by
  obtain ⟨hfirst, hlast⟩ := h
  apply UInt32.toNat_inj.mp
  rw [toNat_clamp]
  omega

end FaceCount

/-- A source with all its faces put onto the die. -/
structure Clamped (σ : Type) where
  /-- The source. -/
  source : σ
deriving DecidableEq

namespace Clamped

variable {σ : Type} [FaceStream σ]

/-- Draws one face and puts it onto the die. -/
def draw (mode : DrawMode) (n : FaceCount) (s : Clamped σ) : UInt32 × Clamped σ :=
  let (number, next) := FaceStream.draw mode n s.source
  (n.clamp number, ⟨next⟩)

instance : FaceStream (Clamped σ) where
  draw := draw
  drawsWholeGroups := FaceStream.drawsWholeGroups σ

instance : LawfulFaceStream (Clamped σ) where
  onDie_draw _ n _ := n.onDie_clamp _

theorem drawMany_eq (mode : DrawMode) (n : FaceCount) (k : Nat) (s : σ) :
    FaceStream.drawMany mode n k (⟨s⟩ : Clamped σ) =
      ((FaceStream.drawMany mode n k s).1.map n.clamp, ⟨(FaceStream.drawMany mode n k s).2⟩) := by
  induction k generalizing s with
  | zero => rfl
  | succ k ih =>
    have hdraw : FaceStream.draw mode n (⟨s⟩ : Clamped σ) =
        (n.clamp (FaceStream.draw mode n s).1, ⟨(FaceStream.draw mode n s).2⟩) := rfl
    rw [FaceStream.drawMany_succ, hdraw, ih, FaceStream.drawMany_succ, List.map_cons]

/-- A group of dice shows what the source has for it, if the dice can show that. -/
theorem faces_of_onDie {d : Dice} {s : σ}
    (h : ∀ face ∈ (FaceSource.faces d s).1, d.sides.count.OnDie face) :
    FaceSource.faces d (⟨s⟩ : Clamped σ) =
      ((FaceSource.faces d s).1, ⟨(FaceSource.faces d s).2⟩) := by
  have hclamp : (FaceSource.faces d s).1.map d.sides.count.clamp = (FaceSource.faces d s).1 := by
    calc (FaceSource.faces d s).1.map d.sides.count.clamp
        = (FaceSource.faces d s).1.map id :=
          List.map_congr_left fun face hface => FaceCount.clamp_of_onDie (h face hface)
      _ = (FaceSource.faces d s).1 := List.map_id _
  rw [FaceStream.faces_eq_drawMany] at hclamp ⊢
  rw [FaceStream.faces_eq_drawMany, drawMany_eq, hclamp]

end Clamped

end DiceFormula
