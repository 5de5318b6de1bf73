import DiceFormula.Term
import Mathlib.Algebra.Group.Nat.Defs

/-!
# Literals

The constants and dice literals of a formula, as the grammar has them: which sequences of
characters are literals, and what each of them stands for. Nothing here follows the readers. A
literal is given by runs of digits of bounded length, and the value of a run is the number that
its digits denote in base ten.

That the readers agree with the grammar is a fact about the *shape* of a literal: a reader sees
only digits where the grammar has digits, so the plus sign and the error cases that it also knows
about never come up.

## Main definitions

* `Numeral.IsRun`, `Numeral.value` — runs of digits and the numbers they denote
* `Sides.IsLiteral`, `Atom.IsLiteral` — the literals of the grammar
* `Sides.SpelledBy`, `Atom.SpelledBy` — what a literal stands for

## Main results

* `Atom.exists_spelledBy_iff` — the literals are the sequences that stand for something
* `Numeral.read_eq_ok_iff_of_isRun` — a short run of digits is read as its value
* `Dice.ofChars_of_spelledBy`, `Dice.spelledBy_of_ofChars` — a dice literal is read as what it
  stands for
-/

namespace DiceFormula

/-! ### Runs of digits -/

namespace Numeral

/-- A run of at least `least` and at most `most` digits. -/
def IsRun (least most : Nat) (cs : List Char) : Prop :=
  (∀ c ∈ cs, c.isDigit = true) ∧ least ≤ cs.length ∧ cs.length ≤ most

instance (least most : Nat) (cs : List Char) : Decidable (IsRun least most cs) :=
  have : Decidable (∀ c ∈ cs, c.isDigit = true) := List.decidableBAll _ cs
  inferInstanceAs (Decidable (_ ∧ _ ∧ _))

/-- The number that a run of digits denotes. -/
def value (cs : List Char) : Nat := Nat.ofDigitChars 10 cs 0

theorem IsRun.mono {least least' most most' : Nat} {cs : List Char} (h : IsRun least most cs)
    (hl : least' ≤ least) (hm : most ≤ most') : IsRun least' most' cs :=
  ⟨h.1, Nat.le_trans hl h.2.1, Nat.le_trans h.2.2 hm⟩

theorem IsRun.ne_nil {least most : Nat} {cs : List Char} (h : IsRun least most cs)
    (hl : 0 < least) : cs ≠ [] :=
  List.length_pos_iff.mp (Nat.lt_of_lt_of_le hl h.2.1)

theorem toNat_of_isDigit {c : Char} (h : c.isDigit = true) : c.toNat = 48 + digitValue c := by
  have hlow : 48 ≤ c.toNat := (Char.isDigit_iff_toNat.mp h).1
  rw [digitValue, show '0'.toNat = 48 from rfl]
  omega

theorem digitValue_le {c : Char} (h : c.isDigit = true) : digitValue c ≤ 9 := by
  have hhigh : c.toNat ≤ 57 := (Char.isDigit_iff_toNat.mp h).2
  have := toNat_of_isDigit h
  omega

private theorem ofDigitChars_lt (cs : List Char) (h : ∀ c ∈ cs, c.isDigit = true) (acc : Nat) :
    Nat.ofDigitChars 10 cs acc < 10 ^ cs.length * (acc + 1) := by
  induction cs generalizing acc with
  | nil => simp
  | cons c rest ih =>
    have hc : digitValue c ≤ 9 := digitValue_le (h c List.mem_cons_self)
    have hrest := ih (fun d hd => h d (List.mem_cons_of_mem _ hd)) (10 * acc + digitValue c)
    rw [show Nat.ofDigitChars 10 (c :: rest) acc
        = Nat.ofDigitChars 10 rest (10 * acc + digitValue c) from Nat.ofDigitChars_cons]
    calc Nat.ofDigitChars 10 rest (10 * acc + digitValue c)
        < 10 ^ rest.length * (10 * acc + digitValue c + 1) := hrest
      _ ≤ 10 ^ rest.length * (10 * (acc + 1)) := Nat.mul_le_mul_left _ (by omega)
      _ = 10 ^ (c :: rest).length * (acc + 1) := by
        rw [List.length_cons, Nat.pow_succ, Nat.mul_assoc]

/-- A run of at most `most` digits denotes a number below the corresponding power of ten. -/
theorem value_lt_of_isRun {least most : Nat} {cs : List Char} (h : IsRun least most cs) :
    value cs < 10 ^ most := by
  have hlt := ofDigitChars_lt cs h.1 0
  have hle : 10 ^ cs.length ≤ 10 ^ most := Nat.pow_le_pow_right (by decide) h.2.2
  rw [value]
  omega

/-- A run of digits denotes zero exactly if all of them are zero. -/
theorem value_eq_zero_iff {cs : List Char} (h : ∀ c ∈ cs, c.isDigit = true) :
    value cs = 0 ↔ ∀ c ∈ cs, c = '0' := by
  induction cs with
  | nil => simp [value]
  | cons c rest ih =>
    have hzero : digitValue c = 0 ↔ c = '0' := by
      rw [← Char.toNat_inj, toNat_of_isDigit (h c List.mem_cons_self), show '0'.toNat = 48 from rfl]
      omega
    have hvalue : value (c :: rest) = 10 ^ rest.length * digitValue c + value rest := by
      rw [value, Nat.ofDigitChars_cons, Nat.ofDigitChars_eq_ofDigitChars_zero]
      simp [value, digitValue]
    have hpow : 0 < 10 ^ rest.length := Nat.pow_pos (by decide)
    rw [hvalue, List.forall_mem_cons, ← ih fun d hd => h d (List.mem_cons_of_mem _ hd), ← hzero,
      Nat.add_eq_zero_iff, Nat.mul_eq_zero]
    constructor
    · rintro ⟨hpow' | hdigit, hrest⟩
      · omega
      · exact ⟨hdigit, hrest⟩
    · rintro ⟨hdigit, hrest⟩
      exact ⟨Or.inr hdigit, hrest⟩

/-- The value of a run of at most nine digits is a 32-bit number. -/
theorem toNat_ofNat_value {least : Nat} {cs : List Char} (h : IsRun least 9 cs) :
    (UInt32.ofNat (value cs)).toNat = value cs :=
  UInt32.toNat_ofNat_of_lt' (Nat.lt_trans (value_lt_of_isRun h) (by decide))

/-- A run of at most nine digits is below the limit of a numeral, so it is read as its value. -/
theorem read_eq_ok_iff_of_isRun {cs : List Char} (h : IsRun 1 9 cs) {n : UInt32} :
    read cs = .ok n ↔ n.toNat = value cs := by
  have hlimit : value cs ≤ limit :=
    Nat.le_of_lt (Nat.lt_trans (value_lt_of_isRun h) (by decide))
  have hread : readDigits limit 0 (dropPlus cs) = .ok (value cs) := by
    rw [dropPlus_of_isDigit h.1]
    exact (readDigits_eq_ok_iff (Nat.zero_le _)).mpr ⟨h.1, rfl, hlimit⟩
  have hempty : cs.isEmpty = false := by simpa using h.ne_nil Nat.one_pos
  rw [read, hempty, hread]
  simp only [Bool.false_eq_true, if_false, Except.map, Except.ok.injEq]
  rw [← UInt32.toNat_inj, toNat_ofNat_value h]
  exact eq_comm

end Numeral

/-- A positive number of faces is read as the value of its digits. -/
theorem FaceCount.ofChars_eq_ok_iff_of_isRun {cs : List Char} (h : Numeral.IsRun 1 9 cs)
    {n : FaceCount} : FaceCount.ofChars cs = .ok n ↔ n.toNat = Numeral.value cs := by
  have hread : Numeral.read cs = .ok (UInt32.ofNat (Numeral.value cs)) :=
    (Numeral.read_eq_ok_iff_of_isRun h).mpr (Numeral.toNat_ofNat_value h)
  have hval : n.toNat = Numeral.value cs ↔ UInt32.ofNat (Numeral.value cs) = n.val := by
    rw [← UInt32.toNat_inj, Numeral.toNat_ofNat_value h]
    exact eq_comm
  obtain ⟨val, hpos⟩ := n
  rw [FaceCount.ofChars, hread, hval]
  simp only [FaceCount.ofNumber]
  split
  · rw [Except.ok.injEq, FaceCount.mk.injEq]
  · rename_i hzero
    exact ⟨nofun, fun heq => absurd (heq ▸ hpos) hzero⟩

/-- Digits take one byte each. -/
theorem Text.byteSize_of_isDigit {cs : List Char} (h : ∀ c ∈ cs, c.isDigit = true) :
    Text.byteSize cs = cs.length := by
  induction cs with
  | nil => rfl
  | cons c rest ih =>
    have hc : c.utf8Size = 1 := by
      have := (Char.isDigit_iff_toNat.mp (h c List.mem_cons_self)).2
      rw [Char.utf8Size_eq_one_iff, UInt32.le_iff_toNat_le]
      exact Nat.le_trans this (by decide)
    rw [Text.byteSize_cons, hc, ih fun d hd => h d (List.mem_cons_of_mem _ hd), List.length_cons,
      Nat.add_comm]

/-! ### Sides -/

namespace Sides

/-- Sides as the grammar has them: the percent sign, or up to four digits, not all of them
zero. -/
def IsLiteral (cs : List Char) : Prop :=
  cs = ['%'] ∨ Numeral.IsRun 1 4 cs ∧ ∃ c ∈ cs, c ≠ '0'

/-- The sides that a literal stands for. -/
inductive SpelledBy : Sides → List Char → Prop
  /-- The percent sign. -/
  | percent : SpelledBy .percentile ['%']
  /-- A positive number. -/
  | digits {cs : List Char} {n : FaceCount} (run : Numeral.IsRun 1 4 cs)
      (value : n.toNat = Numeral.value cs) : SpelledBy (.poly n) cs

theorem SpelledBy.shape {s : Sides} {cs : List Char} (h : s.SpelledBy cs) :
    cs = ['%'] ∨ Numeral.IsRun 1 4 cs := by
  cases h with
  | percent => exact Or.inl rfl
  | digits hrun => exact Or.inr hrun

theorem exists_spelledBy_iff {cs : List Char} : (∃ s : Sides, s.SpelledBy cs) ↔ IsLiteral cs := by
  constructor
  · rintro ⟨s, h⟩
    cases h with
    | percent => exact Or.inl rfl
    | @digits _ n hrun hvalue =>
      have hpos : ¬ ∀ c ∈ cs, c = '0' := by
        rw [← Numeral.value_eq_zero_iff hrun.1, ← hvalue]
        exact Nat.ne_of_gt n.toNat_pos
      exact Or.inr ⟨hrun, by simpa using hpos⟩
  · rintro (rfl | ⟨hrun, c, hmem, hc⟩)
    · exact ⟨_, .percent⟩
    · have hpos : Numeral.value cs ≠ 0 := fun hzero =>
        hc ((Numeral.value_eq_zero_iff hrun.1).mp hzero c hmem)
      have htoNat : (UInt32.ofNat (Numeral.value cs)).toNat = Numeral.value cs :=
        Numeral.toNat_ofNat_value (hrun.mono (Nat.le_refl 1) (by decide))
      refine ⟨.poly ⟨UInt32.ofNat (Numeral.value cs), ?_⟩, .digits hrun htoNat⟩
      rw [UInt32.lt_iff_toNat_lt, htoNat]
      exact Nat.pos_of_ne_zero hpos

/-- Sides of the right shape are read as what they stand for. -/
theorem ofChars_eq_ok_iff_spelledBy {cs : List Char} (h : cs = ['%'] ∨ Numeral.IsRun 1 4 cs)
    {s : Sides} : ofChars cs = .ok s ↔ s.SpelledBy cs := by
  rcases h with rfl | hrun
  · rw [ofChars, if_pos rfl, Except.ok.injEq]
    constructor
    · rintro rfl
      exact .percent
    · intro h
      cases h with
      | percent => rfl
      | digits hrun => exact absurd (hrun.1 '%' List.mem_cons_self) (by decide)
  · have hne : cs ≠ ['%'] := by
      rintro rfl
      exact absurd (hrun.1 '%' List.mem_cons_self) (by decide)
    have hread {n : FaceCount} : FaceCount.ofChars cs = .ok n ↔ n.toNat = Numeral.value cs :=
      FaceCount.ofChars_eq_ok_iff_of_isRun (hrun.mono (Nat.le_refl 1) (by decide))
    rw [ofChars, if_neg hne]
    constructor
    · intro h
      cases hn : FaceCount.ofChars cs with
      | error reason => rw [hn] at h; cases h
      | ok n =>
        rw [hn] at h
        cases h
        exact .digits hrun (hread.mp hn)
    · intro h
      cases h with
      | percent => exact absurd rfl hne
      | digits _ hvalue => rw [hread.mpr hvalue]; rfl

end Sides

/-! ### Constants and groups of dice -/

namespace Atom

/-- The literals of the grammar: up to eight digits, or up to four digits, a marker and sides. -/
def IsLiteral (cs : List Char) : Prop :=
  Numeral.IsRun 1 8 cs ∨
    ∃ count marker sides, cs = count ++ marker :: sides ∧ Numeral.IsRun 0 4 count ∧
      (marker = 'd' ∨ marker = 'D') ∧ Sides.IsLiteral sides

/-- The constant or group of dice that a literal stands for. -/
inductive SpelledBy : Atom → List Char → Prop
  /-- A number. -/
  | constant {cs : List Char} {n : UInt32} (run : Numeral.IsRun 1 8 cs)
      (value : n.toNat = Numeral.value cs) : SpelledBy (.constant n) cs
  /-- A group of dice; there is one of them where no number is written. -/
  | dice {count sides : List Char} {marker : Char} {d : Dice} (run : Numeral.IsRun 0 4 count)
      (isMarker : marker = 'd' ∨ marker = 'D')
      (num : d.num.toNat = if count = [] then 1 else Numeral.value count)
      (faces : d.sides.SpelledBy sides) : SpelledBy (.dice d) (count ++ marker :: sides)

/-- Up to eight digits stand for their value. -/
theorem spelledBy_of_isRun {cs : List Char} (h : Numeral.IsRun 1 8 cs) :
    (constant (UInt32.ofNat (Numeral.value cs))).SpelledBy cs :=
  .constant h (Numeral.toNat_ofNat_value (h.mono (Nat.le_refl 1) (by decide)))

/-- The literals of the grammar are the sequences that stand for something. -/
theorem exists_spelledBy_iff {cs : List Char} : (∃ a : Atom, a.SpelledBy cs) ↔ IsLiteral cs := by
  constructor
  · rintro ⟨a, h⟩
    cases h with
    | constant hrun => exact Or.inl hrun
    | dice hrun hmarker _ hfaces =>
      exact Or.inr ⟨_, _, _, rfl, hrun, hmarker, Sides.exists_spelledBy_iff.mp ⟨_, hfaces⟩⟩
  · rintro (hrun | ⟨count, marker, sides, rfl, hrun, hmarker, hsides⟩)
    · exact ⟨_, spelledBy_of_isRun hrun⟩
    · obtain ⟨s, hs⟩ := Sides.exists_spelledBy_iff.mpr hsides
      have hnum : ∃ n : UInt32, n.toNat = if count = [] then 1 else Numeral.value count := by
        split
        · exact ⟨1, rfl⟩
        · exact ⟨_, Numeral.toNat_ofNat_value (hrun.mono (Nat.le_refl 0) (by decide))⟩
      obtain ⟨n, hn⟩ := hnum
      exact ⟨.dice ⟨n, s⟩, .dice hrun hmarker hn hs⟩

end Atom

/-- A constant is read as the number that it stands for. -/
theorem Numeral.read_of_spelledBy {cs : List Char} {n : UInt32}
    (h : (Atom.constant n).SpelledBy cs) : read cs = .ok n := by
  cases h with
  | constant hrun hvalue =>
    exact (read_eq_ok_iff_of_isRun (hrun.mono (Nat.le_refl 1) (by decide))).mpr hvalue

namespace Dice

theorem isMarker_iff {c : Char} : isMarker c = true ↔ c = 'd' ∨ c = 'D' := by
  simp [isMarker]

theorem isMarker_of_isDigit {c : Char} (h : c.isDigit = true) : isMarker c = false := by
  rw [Bool.eq_false_iff, Ne, isMarker_iff]
  rintro (rfl | rfl) <;> exact absurd h (by decide)

/-- The number of dice is read as its value, or as one where there are no digits. -/
theorem readNum_eq_ok_iff_of_isRun {cs : List Char} (h : Numeral.IsRun 0 4 cs) {n : UInt32} :
    readNum cs = .ok n ↔ n.toNat = if cs = [] then 1 else Numeral.value cs := by
  rw [readNum]
  cases cs with
  | nil =>
    simp only [List.isEmpty_nil, if_true, Except.ok.injEq]
    rw [← UInt32.toNat_inj]
    exact eq_comm
  | cons c rest =>
    have hrun : Numeral.IsRun 1 9 (c :: rest) :=
      ⟨h.1, by simp, Nat.le_trans h.2.2 (by decide)⟩
    simpa using Numeral.read_eq_ok_iff_of_isRun hrun

theorem splitAtMarker_append {count sides : List Char} {marker : Char}
    (hcount : ∀ c ∈ count, c.isDigit = true) (hmarker : isMarker marker = true) :
    splitAtMarker (count ++ marker :: sides) = some (count, sides) :=
  splitAtMarker_eq_some_iff.mpr
    ⟨marker, hmarker, rfl, fun c hc => isMarker_of_isDigit (hcount c hc)⟩

/-- What a dice literal stands for is what is read. -/
theorem ofChars_of_spelledBy {cs : List Char} {d : Dice} (h : (Atom.dice d).SpelledBy cs) :
    ofChars cs = .ok d := by
  cases h with
  | @dice count sides marker _ hrun hmarker hnum hfaces =>
    have hshape := hfaces.shape
    have hsides : Text.byteSize sides ≤ maxPartSize := by
      rcases hshape with rfl | hrun
      · decide
      · exact Text.byteSize_of_isDigit hrun.1 ▸ hrun.2.2
    rw [ofChars_eq_ok_iff (splitAtMarker_append hrun.1 (isMarker_iff.mpr hmarker))]
    exact ⟨Text.byteSize_of_isDigit hrun.1 ▸ hrun.2.2, hsides,
      (readNum_eq_ok_iff_of_isRun hrun).mpr hnum,
      (Sides.ofChars_eq_ok_iff_spelledBy hshape).mpr hfaces⟩

/-- A text with the shape of a dice literal stands for what is read. -/
theorem spelledBy_of_ofChars {count sides : List Char} {marker : Char} {d : Dice}
    (hcount : ∀ c ∈ count, c.isDigit = true) (hmarker : isMarker marker = true)
    (hsides : sides = ['%'] ∨ sides ≠ [] ∧ ∀ c ∈ sides, c.isDigit = true)
    (h : ofChars (count ++ marker :: sides) = .ok d) :
    (Atom.dice d).SpelledBy (count ++ marker :: sides) := by
  rw [ofChars_eq_ok_iff (splitAtMarker_append hcount hmarker)] at h
  obtain ⟨hcountSize, hsidesSize, hnum, hfaces⟩ := h
  have hrun : Numeral.IsRun 0 4 count :=
    ⟨hcount, Nat.zero_le _, Text.byteSize_of_isDigit hcount ▸ hcountSize⟩
  have hshape : sides = ['%'] ∨ Numeral.IsRun 1 4 sides := by
    rcases hsides with rfl | ⟨hne, hdigits⟩
    · exact Or.inl rfl
    · exact Or.inr ⟨hdigits, List.length_pos_iff.mpr hne,
        Text.byteSize_of_isDigit hdigits ▸ hsidesSize⟩
  exact .dice hrun (isMarker_iff.mp hmarker) ((readNum_eq_ok_iff_of_isRun hrun).mp hnum)
    ((Sides.ofChars_eq_ok_iff_spelledBy hshape).mp hfaces)

end Dice

end DiceFormula
