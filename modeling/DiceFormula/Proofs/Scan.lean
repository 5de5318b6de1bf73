import DiceFormula.Proofs.Literal
import DiceFormula.Token

/-!
# What scanning keeps apart

The longest spelling at a position may reach as far as there are digits, markers and percent
signs, and a constant is recognised only by what comes after it. Both stop at a character of any
other kind: such a character *stands alone*. It is a token of its own, and the texts before it
and after it are scanned as if the other were not there. This is what lets a formula be cut at its
operators, and it is proved once, for every character that stands alone.

Within a piece without operators only the literals of the grammar matter. A literal is scanned as
one token, and a token of the kind of a literal is one.

## Main definitions

* `Token.StandsAlone` — characters that no longer spelling contains
* `Sign.token`, `Atom.tokenKind` — the token of an operator, and the kind of a literal's token
* `Token.Sound` — tokens whose kind is the truth about their characters
* `Token.Recognised` — the first token of a text, with what follows it

## Main results

* `Token.scan_append_cons` — scanning is undisturbed by what stands behind a character that stands
  alone
* `Token.recognised_start` — everything that the first token of a text can be
* `Token.sound_of_mem_scan` — the tokens of a text are sound
* `Token.scan_of_spelledBy` — a literal is one token
-/

namespace DiceFormula

namespace Token

/-! ### Characters that stand alone -/

/-- Characters that are part of no spelling longer than one character. -/
def StandsAlone (c : Char) : Prop :=
  c.isDigit = false ∧ Dice.isMarker c = false ∧ c ≠ '%'

instance (c : Char) : Decidable (StandsAlone c) := inferInstanceAs (Decidable (_ ∧ _ ∧ _))

variable {c : Char}

theorem leadingDigits_append_cons (h : StandsAlone c) (s t : List Char) :
    leadingDigits (s ++ c :: t) = leadingDigits s := by
  induction s with
  | nil => simp [leadingDigits, h.1]
  | cons d s ih =>
    simp only [leadingDigits] at ih ⊢
    rw [List.cons_append, List.takeWhile_cons, List.takeWhile_cons, ih]

theorem afterDigits_append_cons (h : StandsAlone c) (s t : List Char) :
    afterDigits (s ++ c :: t) = afterDigits s ++ c :: t := by
  induction s with
  | nil => simp [afterDigits, h.1]
  | cons d s ih =>
    simp only [afterDigits] at ih ⊢
    rw [List.cons_append, List.dropWhile_cons, List.dropWhile_cons, ih]
    split <;> rfl

theorem leadingSides_cons_of_ne {d : Char} (h : d ≠ '%') (s : List Char) :
    leadingSides (d :: s) = (leadingDigits (d :: s), afterDigits (d :: s)) := by
  rw [leadingSides]
  intro rest heq
  exact h (List.cons.inj heq).1

theorem leadingSides_append_cons (h : StandsAlone c) (s t : List Char) :
    leadingSides (s ++ c :: t) = ((leadingSides s).1, (leadingSides s).2 ++ c :: t) := by
  cases s with
  | nil =>
    rw [List.nil_append, leadingSides_cons_of_ne h.2.2]
    exact Prod.ext (leadingDigits_append_cons h [] t) (afterDigits_append_cons h [] t)
  | cons d s =>
    by_cases hd : d = '%'
    · subst hd
      rfl
    · rw [List.cons_append, leadingSides_cons_of_ne hd, leadingSides_cons_of_ne hd]
      exact Prod.ext (leadingDigits_append_cons h (d :: s) t) (afterDigits_append_cons h (d :: s) t)

theorem diceSpelling?_append_cons (h : StandsAlone c) (s t : List Char) :
    diceSpelling? (s ++ c :: t) = (diceSpelling? s).map fun p => (p.1, p.2 ++ c :: t) := by
  rw [diceSpelling?, diceSpelling?, afterDigits_append_cons h, leadingDigits_append_cons h]
  cases afterDigits s with
  | nil => simp [h.2.1]
  | cons marker rest =>
    simp only [List.cons_append, leadingSides_append_cons h]
    split <;> rfl

theorem isConstant_append_cons (h : StandsAlone c) (digits after t : List Char) :
    isConstant digits (after ++ c :: t) = isConstant digits after := by
  cases after with
  | nil => simp [isConstant, h.2.1]
  | cons d after => rfl

/-- What stands behind a character that stands alone has no part in the first token. -/
theorem start_append_cons (h : StandsAlone c) (d : Char) (s t : List Char) :
    start d (s ++ c :: t) = ((start d s).1, (start d s).2 ++ c :: t) := by
  have hspelling := diceSpelling?_append_cons h (d :: s) t
  have hdigits := leadingDigits_append_cons h (d :: s) t
  have hafter := afterDigits_append_cons h (d :: s) t
  rw [List.cons_append] at hspelling hdigits hafter
  rw [start, start, hspelling]
  cases diceSpelling? (d :: s) with
  | some p => rfl
  | none =>
    simp only [Option.map_none, hdigits, hafter, isConstant_append_cons h]
    split <;> rfl

theorem start_of_standsAlone (h : StandsAlone c) (t : List Char) :
    start c t = (⟨symbolKind c, [c]⟩, t) := by
  have hspelling : diceSpelling? (c :: t) = none := by
    simp [diceSpelling?, afterDigits, h.1, h.2.1]
  rw [start, hspelling]
  simp [h.1]

/-- **Scanning keeps apart what a character that stands alone separates.** -/
theorem scan_append_cons (h : StandsAlone c) (s t : List Char) :
    scan (s ++ c :: t) = scan s ++ ⟨symbolKind c, [c]⟩ :: scan t := by
  fun_induction scan s with
  | case1 => rw [List.nil_append, scan, start_of_standsAlone h, List.nil_append]
  | case2 d rest ih => rw [List.cons_append, scan, start_append_cons h, ih, List.cons_append]

end Token

/-! ### Operators -/

namespace Sign

/-- The kind of the token that an operator is. -/
def tokenKind : Sign → TokenKind
  | .pos => .plus
  | .neg => .minus

/-- The token that an operator is. -/
def token (g : Sign) : Token := ⟨g.tokenKind, [g.symbol]⟩

theorem standsAlone_symbol (g : Sign) : Token.StandsAlone g.symbol := by
  cases g <;> decide

theorem symbolKind_symbol (g : Sign) : Token.symbolKind g.symbol = g.tokenKind := by
  cases g <;> rfl

@[simp] theorem sign?_tokenKind (g : Sign) : g.tokenKind.sign? = some g := by
  cases g <;> rfl

theorem tokenKind_eq_of_sign? {kind : TokenKind} {g : Sign} (h : kind.sign? = some g) :
    kind = g.tokenKind := by
  cases kind <;> cases h <;> rfl

end Sign

/-- The tokens of a text are those before an operator, the operator, and those after it. -/
theorem Token.scan_append_symbol (s t : List Char) (g : Sign) :
    Token.scan (s ++ g.symbol :: t) = Token.scan s ++ g.token :: Token.scan t := by
  rw [Token.scan_append_cons g.standsAlone_symbol, g.symbolKind_symbol, Sign.token]

/-! ### Literals -/

/-- The kind of the token that a literal is. -/
def Atom.tokenKind : Atom → TokenKind
  | .constant _ => .integer
  | .dice _ => .dice

namespace Token

/-- Tokens whose kind is the truth about their characters. -/
inductive Sound : Token → Prop
  /-- A literal of the grammar. -/
  | literal {a : Atom} {cs : List Char} (spelled : a.SpelledBy cs) : Sound ⟨a.tokenKind, cs⟩
  /-- An operator. -/
  | operator (g : Sign) : Sound g.token
  /-- Anything. -/
  | error (cs : List Char) : Sound ⟨.error, cs⟩

theorem leadingDigits_append_of_isDigit {cs rest : List Char} (h : ∀ c ∈ cs, c.isDigit = true) :
    leadingDigits (cs ++ rest) = cs ++ leadingDigits rest :=
  List.takeWhile_append_of_pos h

theorem afterDigits_append_of_isDigit {cs rest : List Char} (h : ∀ c ∈ cs, c.isDigit = true) :
    afterDigits (cs ++ rest) = afterDigits rest :=
  List.dropWhile_append_of_pos h

theorem leadingDigits_of_isDigit {cs : List Char} (h : ∀ c ∈ cs, c.isDigit = true) :
    leadingDigits cs = cs := by
  calc leadingDigits cs
      = leadingDigits (cs ++ []) := by rw [List.append_nil]
    _ = cs ++ [] := leadingDigits_append_of_isDigit h
    _ = cs := List.append_nil cs

theorem afterDigits_of_isDigit {cs : List Char} (h : ∀ c ∈ cs, c.isDigit = true) :
    afterDigits cs = [] := by
  calc afterDigits cs
      = afterDigits (cs ++ []) := by rw [List.append_nil]
    _ = [] := afterDigits_append_of_isDigit h

theorem isDigit_of_mem_leadingDigits {cs : List Char} :
    ∀ c ∈ leadingDigits cs, c.isDigit = true := by
  intro c hc
  exact List.all_eq_true.mp List.all_takeWhile c hc

/-- Whether a text has a digit as its first character. -/
def startsWithDigit (cs : List Char) : Bool := cs.head?.any Char.isDigit

/-- The characters that the sides in a spelling have: the percent sign, or digits. -/
def IsSidesSpelling (sides : List Char) : Prop :=
  sides = ['%'] ∨ sides ≠ [] ∧ ∀ c ∈ sides, c.isDigit = true

/-- Without regard to their length: digits, a marker, and sides. -/
def IsDiceSpelling (count : List Char) (marker : Char) (sides : List Char) : Prop :=
  (∀ c ∈ count, c.isDigit = true) ∧ Dice.isMarker marker = true ∧ IsSidesSpelling sides

theorem isSidesSpelling_leadingSides {cs : List Char} (h : (leadingSides cs).1 ≠ []) :
    IsSidesSpelling (leadingSides cs).1 := by
  revert h
  rw [leadingSides.eq_def]
  split
  · intro _
    exact Or.inl rfl
  · intro h
    exact Or.inr ⟨h, isDigit_of_mem_leadingDigits⟩

theorem leadingSides_of_isSidesSpelling {sides : List Char} (h : IsSidesSpelling sides) :
    leadingSides sides = (sides, []) := by
  rcases h with rfl | ⟨_, hdigits⟩
  · rfl
  · rw [leadingSides.eq_def]
    split
    · exact absurd (hdigits '%' List.mem_cons_self) (by decide)
    · rw [leadingDigits_of_isDigit hdigits, afterDigits_of_isDigit hdigits]

theorem startsWithDigit_afterDigits (cs : List Char) :
    startsWithDigit (afterDigits cs) = false := by
  have hhead := List.head?_dropWhile_not Char.isDigit cs
  rw [startsWithDigit, afterDigits]
  cases hc : (cs.dropWhile Char.isDigit).head? with
  | none => rfl
  | some c => simpa [hc] using hhead

/-- The sides at the start of a text reach as far as there are digits. -/
theorem leadingSides_maximal (cs : List Char) :
    (leadingSides cs).1 = ['%'] ∨ startsWithDigit (leadingSides cs).2 = false := by
  rw [leadingSides.eq_def]
  split
  · exact Or.inl rfl
  · exact Or.inr (startsWithDigit_afterDigits _)

theorem isDiceSpelling_of_diceSpelling? {cs lexeme after : List Char}
    (h : diceSpelling? cs = some (lexeme, after)) :
    ∃ count marker sides, lexeme = count ++ marker :: sides ∧
      IsDiceSpelling count marker sides ∧ (sides = ['%'] ∨ startsWithDigit after = false) := by
  rw [diceSpelling?] at h
  split at h
  · cases h
  · rename_i marker rest heq
    dsimp only at h
    split at h
    · rename_i hspelling
      cases h
      rw [Bool.and_eq_true] at hspelling
      refine ⟨_, marker, _, rfl, ⟨isDigit_of_mem_leadingDigits, hspelling.1, ?_⟩,
        leadingSides_maximal rest⟩
      exact isSidesSpelling_leadingSides (by simpa using hspelling.2)
    · cases h

theorem IsDiceSpelling.isDigit_marker {count sides : List Char} {marker : Char}
    (h : IsDiceSpelling count marker sides) : marker.isDigit = false := by
  rw [Bool.eq_false_iff]
  intro hdigit
  have hmarker := Dice.isMarker_of_isDigit hdigit
  rw [h.2.1] at hmarker
  cases hmarker

theorem IsDiceSpelling.sides_ne_nil {count sides : List Char} {marker : Char}
    (h : IsDiceSpelling count marker sides) : sides ≠ [] := by
  rcases h.2.2 with rfl | ⟨hne, _⟩
  · simp
  · exact hne

theorem diceSpelling?_of_isDiceSpelling {count sides : List Char} {marker : Char}
    (h : IsDiceSpelling count marker sides) :
    diceSpelling? (count ++ marker :: sides) = some (count ++ marker :: sides, []) := by
  rw [diceSpelling?, afterDigits_append_of_isDigit h.1, leadingDigits_append_of_isDigit h.1]
  simp [afterDigits, leadingDigits, h.isDigit_marker, h.2.1, h.sides_ne_nil,
    leadingSides_of_isSidesSpelling h.2.2]

theorem isDiceSpelling_of_spelledBy {d : Dice} {cs : List Char}
    (h : (Atom.dice d).SpelledBy cs) :
    ∃ count marker sides, cs = count ++ marker :: sides ∧ IsDiceSpelling count marker sides := by
  cases h with
  | dice hrun hmarker _ hfaces =>
    refine ⟨_, _, _, rfl, hrun.1, Dice.isMarker_iff.mpr hmarker, ?_⟩
    rcases hfaces.shape with hpercent | hsides
    · exact Or.inl hpercent
    · exact Or.inr ⟨hsides.ne_nil Nat.one_pos, hsides.1⟩

/-- What the first token of a text is, with the text `after` behind it. -/
inductive Recognised : Token → List Char → Prop
  /-- A spelling of dice as long as it gets. Whether it is a literal is up to its reader. -/
  | spelling {count sides after : List Char} {marker : Char}
      (spelled : IsDiceSpelling count marker sides)
      (maximal : sides = ['%'] ∨ startsWithDigit after = false) :
      Recognised ⟨if (Dice.ofChars (count ++ marker :: sides)).isOk then .dice else .error,
        count ++ marker :: sides⟩ after
  /-- All the digits there are. -/
  | digits {digits after : List Char} (isDigit : ∀ c ∈ digits, c.isDigit = true)
      (nonempty : digits ≠ []) (maximal : startsWithDigit after = false) :
      Recognised ⟨if isConstant digits after then .integer else .error, digits⟩ after
  /-- A single character. -/
  | symbol {c : Char} {after : List Char} (isDigit : c.isDigit = false) :
      Recognised ⟨symbolKind c, [c]⟩ after

theorem recognised_start (c : Char) (rest : List Char) :
    Recognised (start c rest).1 (start c rest).2 := by
  rw [start]
  split
  · rename_i lexeme after hspelling
    obtain ⟨count, marker, sides, rfl, hspelled, hmaximal⟩ :=
      isDiceSpelling_of_diceSpelling? hspelling
    exact .spelling hspelled hmaximal
  · split
    · rename_i hdigit
      exact .digits isDigit_of_mem_leadingDigits (by simp [leadingDigits, hdigit])
        (startsWithDigit_afterDigits _)
    · rename_i hdigit
      exact .symbol (by simpa using hdigit)

theorem symbolKind_eq (c : Char) : (∃ g : Sign, c = g.symbol) ∨ symbolKind c = .error := by
  rw [symbolKind]
  split
  · rename_i heq
    exact Or.inl ⟨.pos, heq⟩
  · split
    · rename_i heq
      exact Or.inl ⟨.neg, heq⟩
    · exact Or.inr rfl

theorem sound_symbolKind (c : Char) : Sound ⟨symbolKind c, [c]⟩ := by
  rcases symbolKind_eq c with ⟨g, rfl⟩ | herror
  · rw [g.symbolKind_symbol]
    exact .operator g
  · rw [herror]
    exact .error _

theorem isRun_of_isConstant {digits after : List Char} (hdigits : ∀ c ∈ digits, c.isDigit = true)
    (hne : digits ≠ []) (h : isConstant digits after = true) : Numeral.IsRun 1 8 digits := by
  rw [isConstant, Bool.and_eq_true, decide_eq_true_eq] at h
  exact ⟨hdigits, List.length_pos_iff.mpr hne, h.1⟩

/-- The first token of a text is sound. -/
theorem Recognised.sound {t : Token} {after : List Char} (h : Recognised t after) : Sound t := by
  cases h with
  | @spelling count sides _ marker spelled _ =>
    obtain ⟨hcount, hmarker, hsides⟩ := spelled
    cases hread : Dice.ofChars (count ++ marker :: sides) with
    | ok d => exact .literal (Dice.spelledBy_of_ofChars hcount hmarker hsides hread)
    | error reason => exact .error _
  | digits isDigit nonempty _ =>
    split
    · rename_i hconstant
      exact .literal (Atom.spelledBy_of_isRun (isRun_of_isConstant isDigit nonempty hconstant))
    · exact .error _
  | symbol _ => exact sound_symbolKind _

/-- The tokens of a text are sound. -/
theorem sound_of_mem_scan {cs : List Char} : ∀ t ∈ scan cs, Sound t := by
  fun_induction scan cs with
  | case1 => intro t ht; cases ht
  | case2 c rest ih =>
    intro t ht
    rcases List.mem_cons.mp ht with rfl | ht
    · exact (recognised_start c rest).sound
    · exact ih t ht

/-- The first token of a run of digits is the whole run. -/
theorem start_of_isRun {c : Char} {rest : List Char} (h : Numeral.IsRun 1 8 (c :: rest)) :
    start c rest = (⟨.integer, c :: rest⟩, []) := by
  have hspelling : diceSpelling? (c :: rest) = none := by
    rw [diceSpelling?, afterDigits_of_isDigit h.1]
  have hconstant : isConstant (c :: rest) [] = true := by
    simpa [isConstant, maxConstantDigits] using h.2.2
  rw [start, hspelling]
  simp only [h.1 c List.mem_cons_self, if_true, leadingDigits_of_isDigit h.1,
    afterDigits_of_isDigit h.1, hconstant]

/-- The first token of a dice literal is the whole literal. -/
theorem start_of_spelledBy_dice {c : Char} {rest : List Char} {d : Dice}
    (h : (Atom.dice d).SpelledBy (c :: rest)) : start c rest = (⟨.dice, c :: rest⟩, []) := by
  have hspelling : diceSpelling? (c :: rest) = some (c :: rest, []) := by
    obtain ⟨count, marker, sides, heq, hshape⟩ := isDiceSpelling_of_spelledBy h
    rw [heq]
    exact diceSpelling?_of_isDiceSpelling hshape
  rw [start, hspelling]
  simp [Dice.ofChars_of_spelledBy h, Except.isOk, Except.toBool]

/-- A literal is one token. -/
theorem scan_of_spelledBy {a : Atom} {cs : List Char} (h : a.SpelledBy cs) :
    scan cs = [⟨a.tokenKind, cs⟩] := by
  cases cs with
  | nil =>
    have hnil : ¬ Atom.IsLiteral [] := by
      rintro (hrun | ⟨_, _, _, heq, _⟩)
      · exact hrun.ne_nil Nat.one_pos rfl
      · simp at heq
    exact absurd (Atom.exists_spelledBy_iff.mp ⟨a, h⟩) hnil
  | cons c rest =>
    have hstart : start c rest = (⟨a.tokenKind, c :: rest⟩, []) := by
      cases a with
      | constant n =>
        cases h with
        | constant hrun => exact start_of_isRun hrun
      | dice d => exact start_of_spelledBy_dice h
    rw [scan, hstart, scan]

end Token

end DiceFormula
