import DiceFormula.Proofs.Reading

/-!
# How tokens cover a text

The tokens of a text lie one behind the other and leave nothing out. More is true of its digits: a
constant is all the digits there are in its place, none of them left to the tokens beside it. On
its right this is how it is recognised. On its left it depends on the token before, whatever that
is: dice, a run of digits without a meaning, or any character. None of them stops between two
digits, not even at a percent sign, behind which a number may follow that has nothing to do with
it.

So the invariant of a scan is about the place it has come to, `Token.DividesDigits`: it is never a
place with a digit on either side. Every token that is recognised keeps it up.

## Main definitions

* `Token.DividesDigits` — places between two digits
* `Token.Contiguous` — spans that lie one behind the other
* `Token.WholeNumber`, `Token.WholeDice` — what a constant is in its place, and a dice literal
* `Token.Tiled` — how tokens cover a text

## Main results

* `Token.Recognised.not_dividesDigits` — no token stops between two digits
* `Token.exists_recognised_of_mem_located` — a token in its place among the others of a text
* `Token.Recognised.kind_eq_integer_iff`, `Token.Recognised.kind_eq_dice_iff` — which tokens are
  constants, and which are dice literals
* `Token.tiled` — the tokens of a text cover it, and a constant is a whole number in it
-/

namespace DiceFormula

namespace Token

/-! ### Places between two digits -/

/-- Whether a text has a digit as its last character. -/
def endsInDigit (cs : List Char) : Bool := cs.getLast?.any Char.isDigit

/-- Between `before` and `after` there is a digit on either side. -/
def DividesDigits (before after : List Char) : Prop :=
  endsInDigit before = true ∧ startsWithDigit after = true

theorem not_dividesDigits_nil (after : List Char) : ¬ DividesDigits [] after := by
  simp [DividesDigits, endsInDigit]

theorem startsWithDigit_append {cs after : List Char} (h : cs ≠ []) :
    startsWithDigit (cs ++ after) = startsWithDigit cs := by
  cases cs with
  | nil => exact absurd rfl h
  | cons c cs => rfl

theorem startsWithDigit_of_isDigit {cs : List Char} (hne : cs ≠ [])
    (h : ∀ c ∈ cs, c.isDigit = true) : startsWithDigit cs = true := by
  cases cs with
  | nil => exact absurd rfl hne
  | cons c cs => exact h c List.mem_cons_self

/-- No token stops between two digits, whatever stands before it. -/
theorem Recognised.not_dividesDigits {t : Token} {after : List Char} (h : Recognised t after)
    (before : List Char) : ¬ DividesDigits (before ++ t.lexeme) after := by
  rintro ⟨hlast, hfirst⟩
  cases h with
  | spelling spelled maximal =>
    rcases maximal with rfl | hmaximal
    -- The last character is the percent sign.
    · simp [endsInDigit] at hlast
    · rw [hmaximal] at hfirst
      cases hfirst
  | digits isDigit nonempty maximal =>
    rw [maximal] at hfirst
    cases hfirst
  | symbol isDigit => simp [endsInDigit, isDigit] at hlast

/-- A scan that has not stopped between two digits, with `before` behind it, recognises every token
in its place, and none of them starts between two digits. -/
theorem exists_recognised_of_not_dividesDigits {before cs : List Char}
    (h : ¬ DividesDigits before cs) :
    ∀ p ∈ located (Text.byteSize before) (scan cs), ∃ left right,
      left ++ p.2.lexeme ++ right = before ++ cs ∧ Text.byteSize left = p.1 ∧
        Recognised p.2 right ∧ ¬ DividesDigits left (p.2.lexeme ++ right) := by
  -- What the scan leaves behind it grows by each token, so `before` varies.
  fun_induction scan cs generalizing before with
  | case1 =>
    intro p hp
    cases hp
  | case2 c rest ih =>
    intro p hp
    have hrecognised := recognised_start c rest
    have happend := (lexeme_start_append c rest).1
    rw [located] at hp
    rcases List.mem_cons.mp hp with rfl | hp
    · refine ⟨before, (start c rest).2, ?_, rfl, hrecognised, ?_⟩
      · rw [List.append_assoc, happend]
      · rwa [happend]
    · rw [size, ← Text.byteSize_append] at hp
      obtain ⟨left, right, hcut, hplace⟩ := ih (hrecognised.not_dividesDigits before) p hp
      refine ⟨left, right, ?_, hplace⟩
      rw [hcut, List.append_assoc, happend]

/-- Every token of a text is recognised in its place and does not start between two digits. -/
theorem exists_recognised_of_mem_located {cs : List Char} {p : Nat × Token}
    (h : p ∈ located 0 (scan cs)) : ∃ left right,
      left ++ p.2.lexeme ++ right = cs ∧ Text.byteSize left = p.1 ∧
        Recognised p.2 right ∧ ¬ DividesDigits left (p.2.lexeme ++ right) :=
  exists_recognised_of_not_dividesDigits (not_dividesDigits_nil cs) p h

/-! ### Literals in their places -/

/-- A run of one to eight digits between `before` and `after` that is all the digits there are,
without a marker behind it. -/
structure WholeNumber (before lexeme after : List Char) : Prop where
  /-- The characters are digits, and neither too few nor too many. -/
  isRun : Numeral.IsRun 1 8 lexeme
  /-- There is no digit in front of them. -/
  noDigitBefore : endsInDigit before = false
  /-- There is no digit behind them. -/
  noDigitAfter : startsWithDigit after = false
  /-- There is no marker behind them. -/
  noMarkerAfter : after.head?.any Dice.isMarker = false

/-- A dice literal in front of `after`, with sides that are a percent sign or all the digits there
are. -/
structure WholeDice (lexeme after : List Char) : Prop where
  /-- The characters are digits, if any, a marker, and sides. -/
  spelled : ∃ count marker sides, lexeme = count ++ marker :: sides ∧
    IsDiceSpelling count marker sides ∧ (sides = ['%'] ∨ startsWithDigit after = false)
  /-- The literal can be read. -/
  isRead : ∃ d, Dice.ofText (String.ofList lexeme) = .ok d

theorem wholeNumber_iff {before digits after : List Char}
    (hdigits : ∀ c ∈ digits, c.isDigit = true) (hne : digits ≠ [])
    (hmaximal : startsWithDigit after = false)
    (hbefore : ¬ DividesDigits before (digits ++ after)) :
    WholeNumber before digits after ↔ isConstant digits after = true := by
  have hlast : endsInDigit before = false := by
    rw [Bool.eq_false_iff]
    intro hlast
    refine hbefore ⟨hlast, ?_⟩
    rw [startsWithDigit_append hne, startsWithDigit_of_isDigit hne hdigits]
  constructor
  · intro hwhole
    rw [isConstant, hwhole.noMarkerAfter, Bool.and_eq_true, decide_eq_true_eq]
    exact ⟨hwhole.isRun.2.2, rfl⟩
  · intro hconstant
    have hmarker : after.head?.any Dice.isMarker = false := by
      rw [isConstant, Bool.and_eq_true, Bool.not_eq_true'] at hconstant
      exact hconstant.2
    exact ⟨isRun_of_isConstant hdigits hne hconstant, hlast, hmaximal, hmarker⟩

theorem wholeDice_iff {count sides after : List Char} {marker : Char}
    (hspelled : IsDiceSpelling count marker sides)
    (hmaximal : sides = ['%'] ∨ startsWithDigit after = false) :
    WholeDice (count ++ marker :: sides) after ↔
      (Dice.ofChars (count ++ marker :: sides)).isOk = true := by
  have hread : (∃ d, Dice.ofText (String.ofList (count ++ marker :: sides)) = .ok d) ↔
      (Dice.ofChars (count ++ marker :: sides)).isOk = true := by
    rw [Dice.ofText, String.toList_ofList]
    cases Dice.ofChars (count ++ marker :: sides) <;> simp [Except.isOk, Except.toBool]
  rw [← hread]
  exact ⟨WholeDice.isRead, fun hread => ⟨⟨_, _, _, rfl, hspelled, hmaximal⟩, hread⟩⟩

theorem symbolKind_ne {kind : TokenKind} (h : kind.sign? = none) (hne : kind ≠ .error) (c : Char) :
    symbolKind c ≠ kind := by
  rcases symbolKind_eq c with ⟨g, rfl⟩ | herror
  · rw [g.symbolKind_symbol]
    rintro rfl
    rw [g.sign?_tokenKind] at h
    cases h
  · rw [herror]
    exact hne.symm

/-- A token that does not start between two digits is a constant exactly if it is a whole number. -/
theorem Recognised.kind_eq_integer_iff {t : Token} {before after : List Char}
    (h : Recognised t after) (hbefore : ¬ DividesDigits before (t.lexeme ++ after)) :
    t.kind = .integer ↔ WholeNumber before t.lexeme after := by
  cases h with
  | @spelling count sides after marker spelled maximal =>
    refine iff_of_false (by dsimp only; split <;> decide) fun hwhole => ?_
    have hdigit := hwhole.isRun.1 marker (List.mem_append_right _ List.mem_cons_self)
    rw [spelled.isDigit_marker] at hdigit
    cases hdigit
  | digits isDigit nonempty maximal =>
    rw [wholeNumber_iff isDigit nonempty maximal hbefore]
    simp
  | @symbol c after isDigit =>
    refine iff_of_false (symbolKind_ne rfl (by decide) _) fun hwhole => ?_
    have hdigit := hwhole.isRun.1 c List.mem_cons_self
    rw [isDigit] at hdigit
    cases hdigit

/-- A token is a dice literal exactly if it is spelled like one and can be read. -/
theorem Recognised.kind_eq_dice_iff {t : Token} {after : List Char} (h : Recognised t after) :
    t.kind = .dice ↔ WholeDice t.lexeme after := by
  cases h with
  | spelling spelled maximal =>
    rw [wholeDice_iff spelled maximal]
    simp
  | digits isDigit nonempty maximal =>
    refine iff_of_false (by dsimp only; split <;> decide) fun hwhole => ?_
    obtain ⟨count, marker, sides, rfl, hspelled, _⟩ := hwhole.spelled
    have hdigit := isDigit marker (List.mem_append_right _ List.mem_cons_self)
    rw [hspelled.isDigit_marker] at hdigit
    cases hdigit
  | symbol isDigit =>
    refine iff_of_false (symbolKind_ne rfl (by decide) _) fun hwhole => ?_
    obtain ⟨count, marker, sides, heq, hspelled, _⟩ := hwhole.spelled
    have hlength : 0 < sides.length := List.length_pos_iff.mpr hspelled.sides_ne_nil
    have hone : 1 = count.length + (sides.length + 1) := by
      simpa using congrArg List.length heq
    omega

/-! ### Spans -/

/-- Where a token starts and where it stops. -/
def span (p : Nat × Token) : Nat × Nat := (p.1, p.1 + p.2.size)

/-- Spans that lie one behind the other from `pos` to `stop`, none of them empty. -/
inductive Contiguous : Nat → List (Nat × Nat) → Nat → Prop
  /-- No spans get nowhere. -/
  | nil {pos : Nat} : Contiguous pos [] pos
  /-- Each starts where the one before it stops. -/
  | cons {pos mid stop : Nat} {spans : List (Nat × Nat)} (nonempty : pos < mid)
      (rest : Contiguous mid spans stop) : Contiguous pos ((pos, mid) :: spans) stop

theorem contiguous_located {ts : List Token} (h : ∀ t ∈ ts, t.lexeme ≠ []) (pos : Nat) :
    Contiguous pos ((located pos ts).map span) (pos + totalSize ts) := by
  induction ts generalizing pos with
  | nil => exact .nil
  | cons t ts ih =>
    have hsize : 0 < t.size := Text.byteSize_pos (h t List.mem_cons_self)
    rw [totalSize_cons, ← Nat.add_assoc]
    exact .cons (Nat.lt_add_of_pos_right hsize) (ih (fun u hu => h u (List.mem_cons_of_mem _ hu)) _)

theorem length_le_length_flatMap_lexeme {ts : List Token} (h : ∀ t ∈ ts, t.lexeme ≠ []) :
    ts.length ≤ (ts.flatMap lexeme).length := by
  induction ts with
  | nil => exact Nat.le_refl 0
  | cons t ts ih =>
    have hpos : 0 < t.lexeme.length := List.length_pos_iff.mpr (h t List.mem_cons_self)
    have hrest := ih fun u hu => h u (List.mem_cons_of_mem _ hu)
    rw [List.flatMap_cons, List.length_append, List.length_cons]
    omega

/-! ### Tokens in the order they have in a text -/

/-- The token `t` stands in the text `s` from the position `pos` on. -/
structure InPlace (s : String) (pos : Nat) (t : Token) : Prop where
  /-- The token covers some of the text. -/
  nonempty : t.lexeme ≠ []
  /-- It starts between two characters. -/
  isValid_start : String.Pos.Raw.IsValid s ⟨pos⟩
  /-- It stops between two characters. -/
  isValid_stop : String.Pos.Raw.IsValid s ⟨pos + t.size⟩
  /-- What it covers is the text from its start to its stop. It does not start between two digits,
  and it is what its kind says. -/
  slice : ∃ before after, before ++ t.lexeme ++ after = s.toList ∧ Text.byteSize before = pos ∧
    ¬ DividesDigits before (t.lexeme ++ after) ∧
    (t.kind = .integer ↔ WholeNumber before t.lexeme after) ∧
    (t.kind = .dice ↔ WholeDice t.lexeme after)

/-- The tokens `ts`, with the positions where they start, are the text `s` cut into pieces. -/
structure Tiled (s : String) (ts : List (Nat × Token)) : Prop where
  /-- There are no more of them than characters. -/
  length_le : ts.length ≤ s.length
  /-- Put together, they are the text. -/
  join : String.join (ts.map fun p => String.ofList p.2.lexeme) = s
  /-- Their spans are not empty and reach from its start to its end without a gap. -/
  contiguous : Contiguous 0 (ts.map span) s.utf8ByteSize
  /-- Every token is in its place. -/
  inPlace : ∀ p ∈ ts, InPlace s p.1 p.2

/-- The position behind the beginning of a text lies between two characters. -/
theorem isValid_byteSize {s : String} {before after : List Char} (h : before ++ after = s.toList) :
    String.Pos.Raw.IsValid s ⟨Text.byteSize before⟩ := by
  rw [String.Pos.Raw.isValid_iff_exists_append]
  refine ⟨String.ofList before, String.ofList after, ?_, ?_⟩
  · rw [← String.ofList_append, h, String.ofList_toList]
  · rw [Text.byteSize_ofList]
    rfl

theorem inPlace_of_mem_located {s : String} :
    ∀ p ∈ located 0 (scan s.toList), InPlace s p.1 p.2 := by
  intro p hp
  obtain ⟨before, after, hcut, hstart, hrecognised, hbefore⟩ :=
    exists_recognised_of_mem_located hp
  have hmem : p.2 ∈ scan s.toList := by
    rw [← map_snd_located 0 (scan s.toList)]
    exact List.mem_map_of_mem hp
  refine ⟨lexeme_ne_nil_of_mem_scan s.toList p.2 hmem, ?_, ?_, before, after, hcut, hstart,
    hbefore, hrecognised.kind_eq_integer_iff hbefore, hrecognised.kind_eq_dice_iff⟩
  · rw [← hstart]
    exact isValid_byteSize ((List.append_assoc ..).symm.trans hcut)
  · rw [← hstart, size, ← Text.byteSize_append]
    exact isValid_byteSize hcut

/-- **The tokens of a text cover it**, one behind the other, and none starts between two digits. A
constant among them is all the digits in its place, and a dice literal can be read. -/
theorem tiled (s : String) : Tiled s (located 0 (scan s.toList)) where
  length_le := by
    have hlength := length_le_length_flatMap_lexeme (lexeme_ne_nil_of_mem_scan s.toList)
    rw [flatMap_lexeme_scan, String.length_toList] at hlength
    calc (located 0 (scan s.toList)).length
        = ((located 0 (scan s.toList)).map Prod.snd).length := (List.length_map ..).symm
      _ = (scan s.toList).length := by rw [map_snd_located]
      _ ≤ s.length := hlength
  join := by
    rw [← String.toList_inj, String.toList_join, List.flatMap_map]
    calc (located 0 (scan s.toList)).flatMap (fun p => (String.ofList p.2.lexeme).toList)
        = ((located 0 (scan s.toList)).map Prod.snd).flatMap lexeme := by
          simp only [List.flatMap_map, String.toList_ofList]
      _ = s.toList := by rw [map_snd_located, flatMap_lexeme_scan]
  contiguous := by
    have hspans := contiguous_located (lexeme_ne_nil_of_mem_scan s.toList) 0
    rwa [totalSize_scan, Text.byteSize_toList, Nat.zero_add] at hspans
  inPlace := inPlace_of_mem_located

/-- Behind a percent sign a number of its own may start. -/
example : scan "d%5".toList = [⟨.dice, ['d', '%']⟩, ⟨.integer, ['5']⟩] := by decide +kernel

end Token

end DiceFormula
