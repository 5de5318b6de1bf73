import DiceFormula.Source.FaceStream

/-!
# Faces from random words

A uniformly random 32-bit word becomes a fair face by multiplication: for a die with `n` faces
the high half of the product with `n` picks the face, and the low half decides whether the word
counts. Words whose low half lies beyond a zone are rejected, so that every face is left with
equally many words. A single die and a die in a group have zones of different sizes: the single
die's is found with a shift and rejects more words.

## Main definitions

* `DrawMode.zone` — the last low half that is accepted
* `DrawMode.face?` — the face that a word picks, if the word is accepted

## Main results

* `DrawMode.onDie_of_face?` — the face is on the die
* `DrawMode.face?_zero` — the word zero is always accepted
-/

namespace DiceFormula.DrawMode

/-- The number of words. -/
def wordCount : Nat := UInt32.size

/-- The last low half of a product that is accepted. For a single die it is the number of faces
shifted to the top of a word, less one; for a die in a group it leaves a multiple of the number of
faces. -/
def zone : DrawMode → FaceCount → Nat
  | .single, n => n.toNat <<< (31 - n.toNat.log2) - 1
  | .group, n => wordCount - 1 - wordCount % n.toNat

/-- The face that a word picks on a die with `n` faces, unless the word is rejected. -/
def face? (mode : DrawMode) (n : FaceCount) (word : UInt32) : Option UInt32 :=
  let product := word.toNat * n.toNat
  if product % wordCount ≤ mode.zone n then some (UInt32.ofNat (product / wordCount + 1))
  else none

theorem onDie_of_face? {mode : DrawMode} {n : FaceCount} {word face : UInt32}
    (h : mode.face? n word = some face) : n.OnDie face := by
  simp only [face?] at h
  split at h
  · cases h
    have low : word.toNat * n.toNat / wordCount < n.toNat :=
      Nat.div_lt_of_lt_mul (Nat.mul_lt_mul_of_pos_right word.toNat_lt_size n.toNat_pos)
    generalize word.toNat * n.toNat / wordCount = high at low
    have size := n.toNat_lt
    have : (UInt32.ofNat (high + 1)).toNat = high + 1 :=
      UInt32.toNat_ofNat_of_lt' (show _ < UInt32.size by omega)
    unfold FaceCount.OnDie
    omega
  · cases h

/-- The word zero picks the first face, whatever the zone. -/
theorem face?_zero (mode : DrawMode) (n : FaceCount) : mode.face? n 0 = some 1 := by
  simp [face?, wordCount]

end DiceFormula.DrawMode
