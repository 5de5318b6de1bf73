import DiceFormula.Source.Words
import Mathlib.Algebra.Order.Floor.Div
import Mathlib.Data.Set.Card
import Mathlib.Order.Interval.Finset.Nat

/-!
# Fair dice

A word picks a face by the high half of its product with the number of faces. The products lie at
equal distances, but the distance does not divide the number of words, so some faces are picked by
more words than others. The zone makes up for this. Its size is a multiple of the number of faces,
and among so many numbers in a row, wherever they begin, there are equally many products. So every
face has the same number of words that are accepted. This number is the share of the faces.

The two zones are the greatest multiples of their kinds that leave room in a word: for a single die
the number of faces times a power of two, for a die in a group any multiple at all. This is why a
group rejects no word that a single die accepts.

## Main definitions

* `FaceCount.leadingZeros` — the zeros in front of a number of faces in binary
* `DrawMode.share` — how many words each face gets
* `DrawMode.Fair` — the faces of a die have equally many words
* `WordSource.Picks`, `WordSource.PicksAll` — words that are drawn until one picks a face

## Main results

* `DrawMode.zone_add_one` — a zone has room for the share of every face
* `DrawMode.ncard_wordsFor` — every face has its share of the words
* `WordSource.picks_drawFace`, `WordSource.picksAll_drawMany` — a source goes by these words
* `DrawMode.dice_are_fair` — single dice and groups, from any generator
-/

namespace DiceFormula

/-! ### Leading zeros -/

namespace FaceCount

/-- The number of zeros in front of the first one, where a number of faces is written with 32 binary
digits. -/
def leadingZeros (n : FaceCount) : Nat := n.val.toBitVec.clz.toNat

theorem two_pow_le_toNat (n : FaceCount) : 2 ^ (31 - n.leadingZeros) ≤ n.toNat := by
  have hne : n.val.toBitVec ≠ 0#32 := by
    intro h
    have hzero : n.toNat = 0 := congrArg BitVec.toNat h
    exact absurd n.toNat_pos (by omega)
  exact BitVec.two_pow_sub_clz_le_toNat_of_ne_zero (by decide) hne

theorem toNat_lt_two_pow (n : FaceCount) : n.toNat < 2 ^ (32 - n.leadingZeros) :=
  BitVec.toNat_lt_two_pow_sub_clz

theorem leadingZeros_lt (n : FaceCount) : n.leadingZeros < 32 := by
  by_contra h
  have hlt := n.toNat_lt_two_pow
  rw [Nat.sub_eq_zero_of_le (Nat.le_of_not_lt h)] at hlt
  exact absurd n.toNat_pos (by omega)

theorem log2_toNat (n : FaceCount) : n.toNat.log2 = 31 - n.leadingZeros := by
  have hzeros := n.leadingZeros_lt
  have hlt := n.toNat_lt_two_pow
  rw [Nat.log2_eq_iff (Nat.ne_of_gt n.toNat_pos)]
  refine ⟨n.two_pow_le_toNat, ?_⟩
  rwa [show 31 - n.leadingZeros + 1 = 32 - n.leadingZeros by omega]

end FaceCount

/-! ### Zones -/

namespace DrawMode

/-- How many words each face of a die gets. -/
def share : DrawMode → FaceCount → Nat
  | .single, n => 2 ^ n.leadingZeros
  | .group, n => wordCount / n.toNat

theorem share_pos (mode : DrawMode) (n : FaceCount) : 0 < mode.share n := by
  cases mode with
  | single => exact Nat.two_pow_pos _
  | group => exact Nat.div_pos (Nat.le_of_lt n.toNat_lt) n.toNat_pos

theorem mul_share_le (mode : DrawMode) (n : FaceCount) : n.toNat * mode.share n ≤ wordCount := by
  cases mode with
  | single =>
    have hzeros := n.leadingZeros_lt
    calc n.toNat * 2 ^ n.leadingZeros
        ≤ 2 ^ (32 - n.leadingZeros) * 2 ^ n.leadingZeros :=
          Nat.mul_le_mul_right _ (Nat.le_of_lt n.toNat_lt_two_pow)
      _ = 2 ^ 32 := by rw [← Nat.pow_add, Nat.sub_add_cancel (Nat.le_of_lt hzeros)]
  | group => exact Nat.mul_div_le wordCount n.toNat

/-- The low halves that are accepted are as many as all the faces have words. -/
theorem zone_add_one (mode : DrawMode) (n : FaceCount) :
    mode.zone n + 1 = n.toNat * mode.share n := by
  have hpos : 0 < n.toNat * mode.share n := Nat.mul_pos n.toNat_pos (mode.share_pos n)
  cases mode with
  | single =>
    have hzeros := n.leadingZeros_lt
    -- What the logarithm leaves of 31 are the leading zeros.
    have hshift : n.toNat <<< (31 - n.toNat.log2) = n.toNat * 2 ^ n.leadingZeros := by
      rw [Nat.shiftLeft_eq, n.log2_toNat,
        show 31 - (31 - n.leadingZeros) = n.leadingZeros by omega]
    rw [zone, hshift]
    exact Nat.sub_add_cancel hpos
  | group =>
    have hdiv := Nat.div_add_mod wordCount n.toNat
    have hmod : wordCount % n.toNat < wordCount :=
      Nat.lt_trans (Nat.mod_lt _ n.toNat_pos) n.toNat_lt
    rw [zone, share]
    omega

/-- A word picks the face behind `k` others exactly if its product with the number of faces is one
of the first numbers from `k * wordCount` on, as many as the zone has. -/
theorem face?_eq_some_iff {mode : DrawMode} {n : FaceCount} {word face : UInt32} :
    mode.face? n word = some face ↔ ∃ k, face.toNat = k + 1 ∧
      k * wordCount ≤ n.toNat * word.toNat ∧
        n.toNat * word.toNat < k * wordCount + n.toNat * mode.share n := by
  have hsize := n.toNat_lt
  have hzone := mode.zone_add_one n
  have hshare := mode.mul_share_le n
  have hhigh : word.toNat * n.toNat / wordCount < n.toNat :=
    Nat.div_lt_of_lt_mul (Nat.mul_lt_mul_of_pos_right word.toNat_lt_size n.toNat_pos)
  have hface : (UInt32.ofNat (word.toNat * n.toNat / wordCount + 1)).toNat =
      word.toNat * n.toNat / wordCount + 1 :=
    UInt32.toNat_ofNat_of_lt' (show _ < UInt32.size by omega)
  -- The face and the low half of the product are its quotient and its remainder.
  have hdiv := Nat.div_add_mod' (word.toNat * n.toNat) wordCount
  rw [Nat.mul_comm n.toNat word.toNat]
  constructor
  · intro h
    simp only [face?] at h
    split at h
    case isTrue haccepted =>
      rw [Option.some.injEq] at h
      rw [← h]
      exact ⟨word.toNat * n.toNat / wordCount, hface, by omega, by omega⟩
    case isFalse => cases h
  · rintro ⟨k, hk, hlow, hlt⟩
    have hquotient : word.toNat * n.toNat / wordCount = k := by
      apply Nat.div_eq_of_lt_le hlow
      rw [Nat.succ_mul]
      omega
    rw [hquotient] at hdiv hface
    have haccepted : word.toNat * n.toNat % wordCount ≤ mode.zone n := by omega
    rw [face?, if_pos haccepted, hquotient, Option.some.injEq, ← UInt32.toNat_inj, hface, hk]

/-! ### Words for a face -/

/-- The words that pick a face. -/
def wordsFor (mode : DrawMode) (n : FaceCount) (face : UInt32) : Set UInt32 :=
  {word | mode.face? n word = some face}

/-- Among `n * count` numbers in a row there are `count` multiples of `n`. -/
theorem mul_mem_Ico_iff {n a count w : Nat} (hn : 0 < n) :
    a ≤ n * w ∧ n * w < a + n * count ↔ w ∈ Finset.Ico (a ⌈/⌉ n) (a ⌈/⌉ n + count) := by
  have hstop : a + n * count ≤ n * w ↔ a ⌈/⌉ n + count ≤ w := by
    -- For less than `count` the product is too small, and otherwise `count` can be taken off.
    by_cases hw : count ≤ w
    · obtain ⟨v, rfl⟩ := Nat.exists_eq_add_of_le' hw
      rw [Nat.mul_add, Nat.add_le_add_iff_right, Nat.add_le_add_iff_right,
        ceilDiv_le_iff_le_mul hn]
    · have hlt : n * w < n * count := Nat.mul_lt_mul_of_pos_left (Nat.lt_of_not_le hw) hn
      omega
  rw [Finset.mem_Ico, ceilDiv_le_iff_le_mul hn, ← Nat.not_le, hstop, Nat.not_le]

/-- So the words for a face are as many words in a row as its share. -/
theorem image_toNat_wordsFor {mode : DrawMode} {n : FaceCount} {face : UInt32} {k : Nat}
    (hface : face.toNat = k + 1) (hk : k < n.toNat) :
    UInt32.toNat '' mode.wordsFor n face =
      Finset.Ico ((k * wordCount) ⌈/⌉ n.toNat) ((k * wordCount) ⌈/⌉ n.toNat + mode.share n) := by
  ext w
  rw [Finset.mem_coe, ← mul_mem_Ico_iff n.toNat_pos]
  constructor
  · rintro ⟨word, hword, rfl⟩
    obtain ⟨k', hk', hlow, hlt⟩ := face?_eq_some_iff.mp hword
    obtain rfl : k' = k := by omega
    exact ⟨hlow, hlt⟩
  · rintro ⟨hlow, hlt⟩
    -- The last of these numbers is still the value of a word.
    have hword : w < wordCount := by
      refine Nat.lt_of_mul_lt_mul_left (a := n.toNat) ?_
      calc n.toNat * w
          < k * wordCount + n.toNat * mode.share n := hlt
        _ ≤ k * wordCount + wordCount := Nat.add_le_add_left (mode.mul_share_le n) _
        _ = (k + 1) * wordCount := (Nat.succ_mul k wordCount).symm
        _ ≤ n.toNat * wordCount := Nat.mul_le_mul_right _ hk
    have hvalue : (UInt32.ofNat w).toNat = w := UInt32.toNat_ofNat_of_lt' hword
    refine ⟨UInt32.ofNat w, face?_eq_some_iff.mpr ⟨k, hface, ?_⟩, hvalue⟩
    rw [hvalue]
    exact ⟨hlow, hlt⟩

/-- **Every face of a die has the same number of words.** -/
theorem ncard_wordsFor (mode : DrawMode) {n : FaceCount} {face : UInt32} (h : n.OnDie face) :
    (mode.wordsFor n face).ncard = mode.share n := by
  obtain ⟨hfirst, hlast⟩ := h
  have hinjective : Function.Injective UInt32.toNat := fun _ _ => UInt32.toNat_inj.mp
  rw [← Set.ncard_image_of_injective _ hinjective,
    image_toNat_wordsFor (k := face.toNat - 1) (by omega) (by omega), Set.ncard_coe_finset,
    Nat.card_Ico, Nat.add_sub_cancel_left]

/-- A die in a group rejects no word that a single die accepts. -/
theorem zone_single_le_zone_group (n : FaceCount) : zone .single n ≤ zone .group n := by
  have hshare : share .single n ≤ share .group n := by
    show 2 ^ n.leadingZeros ≤ wordCount / n.toNat
    rw [Nat.le_div_iff_mul_le n.toNat_pos, Nat.mul_comm]
    exact mul_share_le .single n
  have hmul := Nat.mul_le_mul_left n.toNat hshare
  have hsingle := zone_add_one .single n
  have hgroup := zone_add_one .group n
  omega

theorem face?_group_of_single {n : FaceCount} {word face : UInt32}
    (h : face? .single n word = some face) : face? .group n word = some face := by
  have hzone := zone_single_le_zone_group n
  simp only [face?] at h ⊢
  split at h
  case isTrue haccepted => rwa [if_pos (Nat.le_trans haccepted hzone)]
  case isFalse => cases h

/-- The faces of a die have equally many words, and every word that is accepted is one of these. -/
structure Fair (mode : DrawMode) (n : FaceCount) (count : Nat) : Prop where
  /-- A word that is accepted picks a face of the die. -/
  onDie : ∀ word face, mode.face? n word = some face → n.OnDie face
  /-- Each face of the die has `count` words. -/
  ncard : ∀ face, n.OnDie face → (mode.wordsFor n face).ncard = count
  /-- No face is left without one. -/
  pos : 0 < count

/-- Every die is fair, with the share of its faces. -/
theorem fair_share (mode : DrawMode) (n : FaceCount) : Fair mode n (mode.share n) where
  onDie _ _ h := onDie_of_face? h
  ncard _ h := mode.ncard_wordsFor h
  pos := mode.share_pos n

end DrawMode

/-! ### Drawing until a word is accepted -/

namespace WordSource

variable {σ : Type} [LiveWordSource σ]

/-- From the state `s`, some words are rejected, the next one picks `face`, and `last` is the state
behind it. -/
def Picks (mode : DrawMode) (n : FaceCount) (s : σ) (face : UInt32) (last : σ) : Prop :=
  ∃ k, (∀ j < k, mode.face? n (wordAt j s) = none) ∧ mode.face? n (wordAt k s) = some face ∧
    last = skip (k + 1) s

theorem picks_drawFace (mode : DrawMode) (n : FaceCount) (s : σ) :
    Picks mode n s (drawFace mode n s).1 (drawFace mode n s).2 := by
  fun_induction drawFace mode n s with
  | case1 s face haccepted => exact ⟨0, by simp, haccepted, rfl⟩
  | case2 s hrejected ih =>
    obtain ⟨k, hbefore, haccepted, hlast⟩ := ih
    refine ⟨k + 1, fun j hj => ?_, haccepted, hlast⟩
    cases j with
    | zero => exact hrejected
    | succ j => exact hbefore j (Nat.lt_of_succ_lt_succ hj)

/-- From the state `s`, the faces of a list are picked one after the other. -/
inductive PicksAll (mode : DrawMode) (n : FaceCount) : σ → List UInt32 → σ → Prop
  /-- No face takes no word. -/
  | nil (s : σ) : PicksAll mode n s [] s
  /-- The first face is picked first. -/
  | cons {s next last : σ} {face : UInt32} {faces : List UInt32} (first : Picks mode n s face next)
      (rest : PicksAll mode n next faces last) : PicksAll mode n s (face :: faces) last

theorem picksAll_drawMany (mode : DrawMode) (n : FaceCount) (k : Nat) (s : σ) :
    PicksAll mode n s (FaceStream.drawMany mode n k s).1 (FaceStream.drawMany mode n k s).2 := by
  induction k generalizing s with
  | zero => exact .nil s
  | succ k ih =>
    rw [FaceStream.drawMany_succ]
    exact .cons (picks_drawFace mode n s) (ih _)

end WordSource

namespace DrawMode

/-- **Dice are fair, alone and in groups.** A face of a single die has two to the power of the
leading zeros as its number of words, and a face of a die in a group the whole quotient of all words
by the faces. What a single die accepts, a group does too, with the same face. From any generator, a
single face and all the faces of a group are picked by the first words that are accepted, one after
the other. -/
theorem dice_are_fair (n : FaceCount) :
    Fair .single n (2 ^ n.leadingZeros) ∧
      Fair .group n (2 ^ 32 / n.toNat) ∧
      (∀ word face, face? .single n word = some face → face? .group n word = some face) ∧
      ∀ (σ : Type) [LiveWordSource σ] (s : σ),
        WordSource.Picks .single n s (FaceSource.face n s).1 (FaceSource.face n s).2 ∧
        ∀ d : Dice, (FaceSource.faces d s).1.length = d.num.toNat ∧
          WordSource.PicksAll .group d.sides.count s (FaceSource.faces d s).1
            (FaceSource.faces d s).2 := by
  refine ⟨fair_share .single n, fair_share .group n, ?_, ?_⟩
  · intro word face h
    exact face?_group_of_single h
  · intro σ _ s
    refine ⟨WordSource.picks_drawFace .single n s, fun d => ?_⟩
    rw [FaceStream.faces_eq_drawMany]
    exact ⟨FaceStream.length_drawMany .group d.sides.count d.num.toNat s,
      WordSource.picksAll_drawMany .group d.sides.count d.num.toNat s⟩

example : FaceCount.leadingZeros ⟨6, by decide⟩ = 29 := by decide

end DrawMode

end DiceFormula
