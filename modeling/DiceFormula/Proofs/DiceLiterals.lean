import DiceFormula.Proofs.Literal

/-!
# What a text is read as when it should be some dice

A dice literal that is read on its own has not been through the scanner, so it may be any text at
all. It is cut at the first marker. What stands before it should be a number, or nothing, and what
stands behind it a positive number or the percent sign; neither may take more than four bytes. Here
it is said of every text what it is read as, errors included. If several things are wrong with a
text, the sizes are reported before the numbers and the number of dice before the sides.

Numbers may have a plus sign in front, which the grammar of formulas does not know. Four bytes are
too few for a number that is too large, so no text is rejected for that.

## Main definitions

* `Numeral.Denotes`, `Sides.DenotedBy` — texts that are read as a number, and as sides
* `Numeral.Fault`, `Sides.Fault` — what is wrong with all the other short texts
* `Dice.CutAt` — cutting a text at its first marker
* `Dice.ReadAs` — what a text is read as

## Main results

* `Numeral.read_eq_ok_iff_denotes`, `Numeral.read_eq_error_iff_fault` — short texts as numbers
* `Sides.ofChars_eq_ok_iff_denotedBy`, `Sides.ofChars_eq_error_iff_fault` — and as sides
* `Dice.ofText_classified` — every text
-/

namespace DiceFormula

/-- No character takes less than a byte. -/
theorem Text.length_le_byteSize (cs : List Char) : cs.length ≤ byteSize cs := by
  induction cs with
  | nil => exact Nat.le_refl 0
  | cons c rest ih =>
    have hc : 0 < c.utf8Size := c.utf8Size_pos
    rw [List.length_cons, byteSize_cons]
    omega

/-! ### Numbers -/

namespace Numeral

/-- A text denotes a number if it consists of decimal digits, of which there is at least one. There
may be a plus sign before them. -/
inductive Denotes : List Char → Nat → Prop
  /-- The digits alone. -/
  | digits {cs : List Char} (nonempty : cs ≠ []) (digits : ∀ c ∈ cs, c.isDigit = true) :
    Denotes cs (value cs)
  /-- The digits after a plus sign. -/
  | plus {cs : List Char} (nonempty : cs ≠ []) (digits : ∀ c ∈ cs, c.isDigit = true) :
    Denotes ('+' :: cs) (value cs)

/-- What is wrong with a text that denotes no number. -/
inductive Fault : List Char → NumeralError → Prop
  /-- There is nothing. -/
  | empty : Fault [] .empty
  /-- There is something that does not belong there. -/
  | invalidDigit {cs : List Char} (nonempty : cs ≠ []) (noNumber : ∀ n, ¬ Denotes cs n) :
    Fault cs .invalidDigit

/-- The digits of a number are what is left without the plus sign. -/
theorem denotes_iff {cs : List Char} {n : Nat} :
    Denotes cs n ↔ cs ≠ [] ∧ (∀ c ∈ dropPlus cs, c.isDigit = true) ∧ value (dropPlus cs) = n := by
  constructor
  · intro h
    cases h with
    | digits hne hdigits =>
      rw [dropPlus_of_isDigit hdigits]
      exact ⟨hne, hdigits, rfl⟩
    | @plus cs hne hdigits =>
      obtain ⟨c, rest, rfl⟩ := List.exists_cons_of_ne_nil hne
      exact ⟨List.cons_ne_nil _ _, hdigits, rfl⟩
  · rintro ⟨hne, hdigits, rfl⟩
    revert hdigits
    unfold dropPlus
    split
    case h_1 c rest => exact .plus (List.cons_ne_nil c rest)
    case h_2 => exact .digits hne

/-- No value goes over a limit that all numbers with as many digits are within. -/
theorem eq_invalidDigit_of_readDigits {bound acc : Nat} {cs : List Char} {e : NumeralError}
    (hbound : 10 ^ cs.length * (acc + 1) ≤ bound + 1) (h : readDigits bound acc cs = .error e) :
    e = .invalidDigit := by
  -- The value so far, followed by nines only, is still within the limit.
  induction cs generalizing acc with
  | nil => cases h
  | cons c rest ih =>
    rw [readDigits] at h
    split at h
    case isFalse => exact (Except.error.inj h).symm
    case isTrue hdigit =>
      have hle : 10 * acc + digitValue c + 1 ≤ 10 * (acc + 1) := by
        have := digitValue_le hdigit
        omega
      have hrest : 10 ^ rest.length * (10 * acc + digitValue c + 1) ≤ bound + 1 := by
        calc 10 ^ rest.length * (10 * acc + digitValue c + 1)
            ≤ 10 ^ rest.length * (10 * (acc + 1)) := Nat.mul_le_mul_left _ hle
          _ = 10 ^ (c :: rest).length * (acc + 1) := by
            rw [List.length_cons, Nat.pow_succ, Nat.mul_assoc]
          _ ≤ bound + 1 := hbound
      have hwithin : 10 * acc + digitValue c ≤ bound := by
        have := Nat.le_mul_of_pos_left (10 * acc + digitValue c + 1)
          (Nat.pow_pos (by decide) : 0 < 10 ^ rest.length)
        omega
      rw [if_pos hwithin] at h
      exact ih hrest h

variable {cs : List Char}

theorem length_dropPlus_le (cs : List Char) : (dropPlus cs).length ≤ cs.length := by
  unfold dropPlus
  split
  case h_1 c rest => exact Nat.le_succ _
  case h_2 => exact Nat.le_refl _

/-- Without the plus sign, a short text has at most four characters. -/
theorem length_dropPlus_le_four (h : Text.byteSize cs ≤ 4) : (dropPlus cs).length ≤ 4 :=
  calc (dropPlus cs).length
      ≤ cs.length := length_dropPlus_le cs
    _ ≤ Text.byteSize cs := Text.length_le_byteSize cs
    _ ≤ 4 := h

/-- A short number has no more than four digits. -/
theorem Denotes.le {n : Nat} (hn : Denotes cs n) (h : Text.byteSize cs ≤ 4) : n ≤ 9999 := by
  obtain ⟨_, hdigits, rfl⟩ := denotes_iff.mp hn
  have hrun : IsRun 0 4 (dropPlus cs) := ⟨hdigits, Nat.zero_le _, length_dropPlus_le_four h⟩
  have hlt : value (dropPlus cs) < 10 ^ 4 := value_lt_of_isRun hrun
  omega

theorem read_of_ne_nil (h : cs ≠ []) :
    read cs = (readDigits limit 0 (dropPlus cs)).map UInt32.ofNat := by
  rw [read, if_neg (by simpa using h)]

/-- **A short text is read as the number that it denotes.** -/
theorem read_eq_ok_iff_denotes (h : Text.byteSize cs ≤ 4) {n : UInt32} :
    read cs = .ok n ↔ Denotes cs n.toNat := by
  constructor
  · intro hread
    have hne : cs ≠ [] := by
      rintro rfl
      cases hread
    rw [read_of_ne_nil hne] at hread
    cases hdigits : readDigits limit 0 (dropPlus cs) with
    | error e =>
      rw [hdigits] at hread
      cases hread
    | ok m =>
      rw [hdigits] at hread
      cases hread
      obtain ⟨hall, hvalue, hm⟩ := (readDigits_eq_ok_iff (Nat.zero_le _)).mp hdigits
      have hm : m < UInt32.size := Nat.lt_of_le_pred (by decide) hm
      rw [UInt32.toNat_ofNat_of_lt' hm]
      exact denotes_iff.mpr ⟨hne, hall, hvalue⟩
  · intro hn
    obtain ⟨hne, hall, hvalue⟩ := denotes_iff.mp hn
    have hdigits : readDigits limit 0 (dropPlus cs) = .ok n.toNat :=
      (readDigits_eq_ok_iff (Nat.zero_le _)).mpr ⟨hall, hvalue, Nat.le_of_lt_succ n.toNat_lt⟩
    rw [read_of_ne_nil hne, hdigits, Except.map, UInt32.ofNat_toNat]

/-- In a short text that is not empty, the only thing that can be wrong is a character. -/
theorem eq_invalidDigit_of_read (h : Text.byteSize cs ≤ 4) (hne : cs ≠ []) {e : NumeralError}
    (hread : read cs = .error e) : e = .invalidDigit := by
  rw [read_of_ne_nil hne] at hread
  cases hdigits : readDigits limit 0 (dropPlus cs) with
  | ok m =>
    rw [hdigits] at hread
    cases hread
  | error e' =>
    rw [hdigits] at hread
    cases hread
    refine eq_invalidDigit_of_readDigits ?_ hdigits
    calc 10 ^ (dropPlus cs).length * (0 + 1)
        ≤ 10 ^ 4 * (0 + 1) :=
          Nat.mul_le_mul_right _ (Nat.pow_le_pow_right (by decide) (length_dropPlus_le_four h))
      _ ≤ limit + 1 := by decide

/-- **A short text that denotes no number is rejected for its fault.** -/
theorem read_eq_error_iff_fault (h : Text.byteSize cs ≤ 4) {e : NumeralError} :
    read cs = .error e ↔ Fault cs e := by
  by_cases hne : cs = []
  · subst hne
    constructor
    · intro hread
      cases hread
      exact .empty
    · intro hfault
      cases hfault with
      | empty => rfl
      | invalidDigit hne => exact absurd rfl hne
  · constructor
    · intro hread
      cases eq_invalidDigit_of_read h hne hread
      refine .invalidDigit hne fun n hn => ?_
      have hsize : n < UInt32.size := Nat.lt_of_le_of_lt (hn.le h) (by decide)
      rw [← UInt32.toNat_ofNat_of_lt' hsize, ← read_eq_ok_iff_denotes h, hread] at hn
      cases hn
    · intro hfault
      cases hfault with
      | empty => exact absurd rfl hne
      | invalidDigit _ hno =>
        cases hread : read cs with
        | ok n => exact absurd ((read_eq_ok_iff_denotes h).mp hread) (hno n.toNat)
        | error e => rw [eq_invalidDigit_of_read h hne hread]

end Numeral

/-! ### Sides -/

namespace Sides

/-- The sides that a text is read as. -/
inductive DenotedBy : Sides → List Char → Prop
  /-- The percent sign. -/
  | percent : DenotedBy .percentile ['%']
  /-- A positive number. -/
  | number {cs : List Char} {n : FaceCount} (number : Numeral.Denotes cs n.toNat) :
    DenotedBy (.poly n) cs

/-- What is wrong with a text that is read as no sides. -/
inductive Fault : List Char → NumeralError → Prop
  /-- It denotes no number, nor is it the percent sign. -/
  | noNumber {cs : List Char} {e : NumeralError} (notPercent : cs ≠ ['%'])
      (fault : Numeral.Fault cs e) : Fault cs e
  /-- It denotes zero. -/
  | zero {cs : List Char} (number : Numeral.Denotes cs 0) : Fault cs .zero

theorem not_denotes_percent (n : Nat) : ¬ Numeral.Denotes ['%'] n := by
  intro h
  obtain ⟨_, hdigits, _⟩ := Numeral.denotes_iff.mp h
  exact absurd (hdigits '%' List.mem_cons_self) (by decide)

end Sides

namespace FaceCount

variable {cs : List Char}

/-- A number of faces is read if it is the number that is read. -/
theorem ofChars_eq_ok_iff {n : FaceCount} : ofChars cs = .ok n ↔ Numeral.read cs = .ok n.val := by
  obtain ⟨val, hpos⟩ := n
  rw [ofChars]
  cases Numeral.read cs with
  | error e => simp
  | ok m =>
    simp only [ofNumber]
    split
    case isTrue => rw [Except.ok.injEq, mk.injEq, Except.ok.injEq]
    case isFalse hzero =>
      refine ⟨fun heq => ?_, fun heq => absurd hpos (Except.ok.inj heq ▸ hzero)⟩
      cases heq

/-- None is read if no number is, or if it is zero. -/
theorem ofChars_eq_error_iff {e : NumeralError} :
    ofChars cs = .error e ↔
      Numeral.read cs = .error e ∨ Numeral.read cs = .ok 0 ∧ e = .zero := by
  rw [ofChars]
  cases Numeral.read cs with
  | error e' => simp
  | ok m =>
    have hzero : m = 0 ↔ ¬ 0 < m := by
      rw [← UInt32.toNat_inj, UInt32.lt_iff_toNat_lt]
      exact (Nat.not_lt.trans Nat.le_zero).symm
    simp only [ofNumber]
    split
    case isTrue hpos => simp [hzero, hpos]
    case isFalse hpos => simp [hzero, hpos, eq_comm]

end FaceCount

namespace Sides

variable {cs : List Char}

/-- Anything but the percent sign is read as a number of faces. -/
theorem ofChars_eq_ok_iff_of_ne (h : cs ≠ ['%']) {s : Sides} :
    ofChars cs = .ok s ↔ ∃ n : FaceCount, Numeral.read cs = .ok n.val ∧ poly n = s := by
  simp only [ofChars, if_neg h, ← FaceCount.ofChars_eq_ok_iff]
  cases FaceCount.ofChars cs <;> simp [Except.map]

theorem ofChars_eq_error_iff_of_ne (h : cs ≠ ['%']) {e : NumeralError} :
    ofChars cs = .error e ↔ Numeral.read cs = .error e ∨ Numeral.read cs = .ok 0 ∧ e = .zero := by
  simp only [ofChars, if_neg h, ← FaceCount.ofChars_eq_error_iff]
  cases FaceCount.ofChars cs <;> simp [Except.map]

/-- **A short text is read as the sides that it denotes.** -/
theorem ofChars_eq_ok_iff_denotedBy (h : Text.byteSize cs ≤ 4) {s : Sides} :
    ofChars cs = .ok s ↔ s.DenotedBy cs := by
  by_cases hpercent : cs = ['%']
  · subst hpercent
    rw [ofChars, if_pos rfl, Except.ok.injEq]
    constructor
    · rintro rfl
      exact .percent
    · intro hs
      cases hs with
      | percent => rfl
      | number hn => exact absurd hn (not_denotes_percent _)
  · rw [ofChars_eq_ok_iff_of_ne hpercent]
    constructor
    · rintro ⟨n, hread, rfl⟩
      exact .number ((Numeral.read_eq_ok_iff_denotes h).mp hread)
    · intro hs
      cases hs with
      | percent => exact absurd rfl hpercent
      | number hn => exact ⟨_, (Numeral.read_eq_ok_iff_denotes h).mpr hn, rfl⟩

/-- **A short text that denotes no sides is rejected for its fault.** -/
theorem ofChars_eq_error_iff_fault (h : Text.byteSize cs ≤ 4) {e : NumeralError} :
    ofChars cs = .error e ↔ Fault cs e := by
  by_cases hpercent : cs = ['%']
  · subst hpercent
    rw [ofChars, if_pos rfl]
    constructor
    · intro heq
      cases heq
    · intro hfault
      cases hfault with
      | noNumber hne => exact absurd rfl hne
      | zero hn => exact absurd hn (not_denotes_percent 0)
  · rw [ofChars_eq_error_iff_of_ne hpercent, Numeral.read_eq_error_iff_fault h,
      Numeral.read_eq_ok_iff_denotes h]
    constructor
    · rintro (hfault | ⟨hn, rfl⟩)
      · exact .noNumber hpercent hfault
      · exact .zero hn
    · intro hfault
      cases hfault with
      | noNumber _ hfault => exact .inl hfault
      | zero hn => exact .inr ⟨hn, rfl⟩

/-- Short sides have no more than four digits. -/
theorem DenotedBy.count_le {s : Sides} (hs : s.DenotedBy cs) (h : Text.byteSize cs ≤ 4) :
    s.count.toNat ≤ 9999 := by
  cases hs with
  | percent => decide
  | number hn => exact hn.le h

end Sides

/-! ### Dice -/

namespace Dice

/-- A text is cut at its first marker: `num` stands before it and `sides` behind it. -/
structure CutAt (cs num sides : List Char) : Prop where
  /-- There is a marker between the two parts. -/
  marker : ∃ m, (m = 'd' ∨ m = 'D') ∧ cs = num ++ m :: sides
  /-- There is none before it. -/
  first : ∀ c ∈ num, ¬ (c = 'd' ∨ c = 'D')

/-- The number of dice that a text is read as: one if it is empty. -/
inductive CountDenotedBy : Nat → List Char → Prop
  /-- Nothing stands for one die. -/
  | one : CountDenotedBy 1 []
  /-- A number stands for itself. -/
  | number {cs : List Char} {n : Nat} (number : Numeral.Denotes cs n) : CountDenotedBy n cs

/-- What a text is read as, whether it is a dice literal or not. -/
inductive ReadAs (cs : List Char) : Except DiceError Dice → Prop
  /-- There is no marker in it. -/
  | noMarker (none : ∀ c ∈ cs, ¬ (c = 'd' ∨ c = 'D')) : ReadAs cs (.error .noMarker)
  /-- More than four bytes stand before the first marker. -/
  | numTooLong {num sides : List Char} (cut : CutAt cs num sides)
      (long : 4 < Text.byteSize num) : ReadAs cs (.error .numTooLong)
  /-- More than four bytes stand behind it. -/
  | sidesTooLong {num sides : List Char} (cut : CutAt cs num sides)
      (short : Text.byteSize num ≤ 4) (long : 4 < Text.byteSize sides) :
      ReadAs cs (.error .sidesTooLong)
  /-- Something stands before it that is no number. -/
  | invalidNum {num sides : List Char} (cut : CutAt cs num sides)
      (short : Text.byteSize num ≤ 4 ∧ Text.byteSize sides ≤ 4) (nonempty : num ≠ [])
      (noNumber : ∀ n, ¬ Numeral.Denotes num n) : ReadAs cs (.error (.invalidNum .invalidDigit))
  /-- What stands behind it are no sides. -/
  | invalidSides {num sides : List Char} {n : Nat} {reason : NumeralError}
      (cut : CutAt cs num sides) (short : Text.byteSize num ≤ 4 ∧ Text.byteSize sides ≤ 4)
      (count : CountDenotedBy n num) (fault : Sides.Fault sides reason) :
      ReadAs cs (.error (.invalidSides reason))
  /-- Nothing is wrong. -/
  | dice {num sides : List Char} {d : Dice} (cut : CutAt cs num sides)
      (short : Text.byteSize num ≤ 4 ∧ Text.byteSize sides ≤ 4)
      (count : CountDenotedBy d.num.toNat num) (faces : d.sides.DenotedBy sides) :
      ReadAs cs (.ok d)

/-- The number of dice of a short text has no more than four digits. -/
theorem CountDenotedBy.le {n : Nat} {num : List Char} (hn : CountDenotedBy n num)
    (h : Text.byteSize num ≤ 4) : n ≤ 9999 := by
  cases hn with
  | one => decide
  | number hn => exact hn.le h

variable {cs num sides : List Char}

theorem splitAtMarker_eq_some_iff_cutAt :
    splitAtMarker cs = some (num, sides) ↔ CutAt cs num sides := by
  simp only [splitAtMarker_eq_some_iff, Bool.eq_false_iff, Ne, isMarker_iff]
  constructor
  · rintro ⟨m, hm, heq, hfirst⟩
    exact ⟨⟨m, hm, heq⟩, hfirst⟩
  · rintro ⟨⟨m, hm, heq⟩, hfirst⟩
    exact ⟨m, hm, heq, hfirst⟩

theorem splitAtMarker_eq_none_iff :
    splitAtMarker cs = none ↔ ∀ c ∈ cs, ¬ (c = 'd' ∨ c = 'D') := by
  induction cs with
  | nil => simp [splitAtMarker]
  | cons c rest ih =>
    rw [splitAtMarker, List.forall_mem_cons, ← ih, ← isMarker_iff]
    split
    case isTrue hc => simp [hc]
    case isFalse hc => simp [hc]

theorem readNum_of_ne_nil (h : num ≠ []) : readNum num = Numeral.read num := by
  rw [readNum, if_neg (by simpa using h)]

/-- The number of dice of a short text is the one that it denotes. -/
theorem readNum_eq_ok_iff_denotedBy (h : Text.byteSize num ≤ 4) {n : UInt32} :
    readNum num = .ok n ↔ CountDenotedBy n.toNat num := by
  by_cases hne : num = []
  · subst hne
    constructor
    · intro hread
      cases hread
      exact .one
    · generalize hm : n.toNat = m
      intro hn
      cases hn with
      | one => exact congrArg Except.ok (UInt32.toNat_inj.mp hm.symm)
      | number hn => exact absurd rfl (Numeral.denotes_iff.mp hn).1
  · rw [readNum_of_ne_nil hne, Numeral.read_eq_ok_iff_denotes h]
    constructor
    · exact .number
    · generalize n.toNat = m
      intro hn
      cases hn with
      | one => exact absurd rfl hne
      | number hn => exact hn

theorem readNum_eq_error_iff (h : Text.byteSize num ≤ 4) {e : NumeralError} :
    readNum num = .error e ↔
      (num ≠ [] ∧ ∀ n, ¬ Numeral.Denotes num n) ∧ e = .invalidDigit := by
  by_cases hne : num = []
  · subst hne
    exact ⟨nofun, fun hnone => absurd rfl hnone.1.1⟩
  · rw [readNum_of_ne_nil hne, Numeral.read_eq_error_iff_fault h]
    constructor
    · intro hfault
      cases hfault with
      | empty => exact absurd rfl hne
      | invalidDigit _ hnone => exact ⟨⟨hne, hnone⟩, rfl⟩
    · rintro ⟨⟨_, hnone⟩, rfl⟩
      exact .invalidDigit hne hnone

/-- Every text is read as something. -/
theorem readAs_ofChars (cs : List Char) : ReadAs cs (ofChars cs) := by
  rw [ofChars]
  cases hsplit : splitAtMarker cs with
  | none => exact .noMarker (splitAtMarker_eq_none_iff.mp hsplit)
  | some parts =>
    obtain ⟨num, sides⟩ := parts
    have hcut := splitAtMarker_eq_some_iff_cutAt.mp hsplit
    dsimp only
    split
    case isTrue hlong => exact .numTooLong hcut hlong
    case isFalse hnum =>
      have hnum := Nat.le_of_not_lt hnum
      split
      case isTrue hlong => exact .sidesTooLong hcut hnum hlong
      case isFalse hsides =>
        have hsides := Nat.le_of_not_lt hsides
        cases hn : readNum num with
        | error e =>
          obtain ⟨⟨hne, hnone⟩, rfl⟩ := (readNum_eq_error_iff hnum).mp hn
          exact .invalidNum hcut ⟨hnum, hsides⟩ hne hnone
        | ok n =>
          have hcount := (readNum_eq_ok_iff_denotedBy hnum).mp hn
          cases hs : Sides.ofChars sides with
          | error e =>
            exact .invalidSides hcut ⟨hnum, hsides⟩ hcount
              ((Sides.ofChars_eq_error_iff_fault hsides).mp hs)
          | ok s =>
            exact .dice hcut ⟨hnum, hsides⟩ hcount
              ((Sides.ofChars_eq_ok_iff_denotedBy hsides).mp hs)

/-- What is read once it is known where the text is cut and that both parts are short. -/
theorem ofChars_of_cutAt (cut : CutAt cs num sides)
    (short : Text.byteSize num ≤ 4 ∧ Text.byteSize sides ≤ 4) :
    ofChars cs =
      match readNum num with
      | .error reason => .error (.invalidNum reason)
      | .ok n =>
        match Sides.ofChars sides with
        | .error reason => .error (.invalidSides reason)
        | .ok s => .ok ⟨n, s⟩ := by
  rw [ofChars, splitAtMarker_eq_some_iff_cutAt.mpr cut]
  exact (if_neg (Nat.not_lt.mpr short.1)).trans (if_neg (Nat.not_lt.mpr short.2))

/-- And it is read as nothing else. -/
theorem ReadAs.ofChars_eq {r : Except DiceError Dice} (h : ReadAs cs r) : ofChars cs = r := by
  cases h with
  | noMarker none => rw [ofChars, splitAtMarker_eq_none_iff.mpr none]
  | numTooLong cut long =>
    rw [ofChars, splitAtMarker_eq_some_iff_cutAt.mpr cut]
    exact if_pos long
  | sidesTooLong cut short long =>
    rw [ofChars, splitAtMarker_eq_some_iff_cutAt.mpr cut]
    exact (if_neg (Nat.not_lt.mpr short)).trans (if_pos long)
  | invalidNum cut short nonempty noNumber =>
    have hnum := (readNum_eq_error_iff short.1).mpr ⟨⟨nonempty, noNumber⟩, rfl⟩
    rw [ofChars_of_cutAt cut short, hnum]
  | @invalidSides num sides n reason cut short count fault =>
    have hsize : n < UInt32.size := Nat.lt_of_le_of_lt (count.le short.1) (by decide)
    rw [← UInt32.toNat_ofNat_of_lt' hsize] at count
    have hnum := (readNum_eq_ok_iff_denotedBy short.1).mpr count
    have hsides := (Sides.ofChars_eq_error_iff_fault short.2).mpr fault
    rw [ofChars_of_cutAt cut short, hnum]
    dsimp only
    rw [hsides]
  | dice cut short count faces =>
    have hnum := (readNum_eq_ok_iff_denotedBy short.1).mpr count
    have hsides := (Sides.ofChars_eq_ok_iff_denotedBy short.2).mpr faces
    rw [ofChars_of_cutAt cut short, hnum]
    dsimp only
    rw [hsides]

/-- **What every text is read as**, whether it is a dice literal or not. The dice that are read have
a number and sides of at most four digits. -/
theorem ofText_classified (s : String) :
    (∀ r, ofText s = r ↔ ReadAs s.toList r) ∧
      ∀ d, ofText s = .ok d → d.num.toNat ≤ 9999 ∧ d.sides.count.toNat ≤ 9999 := by
  have hread (r : Except DiceError Dice) : ofText s = r ↔ ReadAs s.toList r := by
    constructor
    · rintro rfl
      exact readAs_ofChars s.toList
    · exact ReadAs.ofChars_eq
  refine ⟨hread, fun d hd => ?_⟩
  cases (hread _).mp hd with
  | dice cut short count faces => exact ⟨count.le short.1, faces.count_le short.2⟩

/-- Plus signs and leading zeros; and three letters of two bytes each, although there are no sides
behind the marker. -/
theorem ofText_classified_plus_signs :
    ReadAs "+2d+06".toList (.ok ⟨2, .poly ⟨6, by decide⟩⟩) ∧
      (2 : UInt32).toNat ≤ 9999 ∧ ReadAs "éééd0".toList (.error .numTooLong) := by
  obtain ⟨hread, hsmall⟩ := ofText_classified "+2d+06"
  have hdice : ofText "+2d+06" = .ok ⟨2, .poly ⟨6, by decide⟩⟩ := by rfl
  have hlong : ofText "éééd0" = .error .numTooLong := by rfl
  exact ⟨(hread _).mp hdice, (hsmall _ hdice).1, ((ofText_classified "éééd0").1 _).mp hlong⟩

end Dice

end DiceFormula
