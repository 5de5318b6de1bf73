import DiceFormula.Proofs.Grammar
import DiceFormula.Proofs.Sums
import DiceFormula.Source.Cycle

/-!
# What is written is read

A formula is written in one way and read in many. Its numbers are written without leading zeros,
the number of dice is never left out, and the marker is always a small letter. So the text of a
formula is one of the texts that stand for it, provided that its numbers are short enough for a
literal, and reading it gives back the formula. Every formula that comes from a text is of this
kind. Its own text is therefore a normal form of all the texts that are read as it.

Since the grammar says which texts stand for a formula, nothing about tokens comes up here. The
written form of each atom is a literal of the grammar, and operators stand between them.

## Main definitions

* `Formula.Writable` — formulas whose numbers are short enough for a literal

## Main results

* `Formula.spelledBy_chars` — the text of such a formula stands for it
* `Formula.writable_of_ofSpacedText` — what is read from a text is such a formula
* `Formula.text_round_trip` — reading and writing undo each other
-/

namespace DiceFormula

/-! ### Numbers -/

namespace Numeral

theorem value_digits (n : Nat) : value (digits n) = n := Nat.ofDigitChars_ten_toDigits

/-- A number below a power of ten is written with at least one digit, and not with more digits than
the power says. -/
theorem isRun_digits {n most : Nat} (hmost : 0 < most) (h : n < 10 ^ most) :
    IsRun 1 most (digits n) :=
  ⟨fun _ => isDigit_of_mem_digits, List.length_pos_iff.mpr (digits_ne_nil n),
    (Nat.length_toDigits_le_iff (by decide) hmost).mpr h⟩

end Numeral

/-! ### Literals -/

/-- Sides whose number has at most four digits. -/
def Sides.Writable : Sides → Prop
  | .poly n => n.toNat ≤ 9999
  | .percentile => True

/-- Constants of at most eight digits, and groups whose number of dice and sides have at most four
digits each. -/
def Atom.Writable : Atom → Prop
  | .constant n => n.toNat ≤ 99999999
  | .dice d => d.num.toNat ≤ 9999 ∧ d.sides.Writable

theorem Sides.spelledBy_chars {s : Sides} (h : s.Writable) : s.SpelledBy s.chars := by
  cases s with
  | poly n =>
    have hlt : n.toNat < 10 ^ 4 := Nat.lt_succ_of_le h
    exact .digits (Numeral.isRun_digits (by decide) hlt) (Numeral.value_digits _).symm
  | percentile => exact .percent

theorem Sides.SpelledBy.writable {s : Sides} {cs : List Char} (h : s.SpelledBy cs) :
    s.Writable := by
  cases h with
  | percent => trivial
  | @digits _ n hrun hvalue =>
    have hlt : n.toNat < 10 ^ 4 := hvalue ▸ Numeral.value_lt_of_isRun hrun
    exact Nat.le_of_lt_succ hlt

namespace Atom

/-- The text of a constant or a group of dice stands for it, if its numbers are short enough. -/
theorem spelledBy_chars {a : Atom} (h : a.Writable) : a.SpelledBy a.chars := by
  cases a with
  | constant n =>
    have hlt : n.toNat < 10 ^ 8 := Nat.lt_succ_of_le h
    exact .constant (Numeral.isRun_digits (by decide) hlt) (Numeral.value_digits _).symm
  | dice d =>
    obtain ⟨hnum, hsides⟩ := h
    have hlt : d.num.toNat < 10 ^ 4 := Nat.lt_succ_of_le hnum
    have hrun := Numeral.isRun_digits (by decide) hlt
    refine .dice (hrun.mono (Nat.zero_le 1) (Nat.le_refl 4)) (Or.inl rfl) ?_
      (Sides.spelledBy_chars hsides)
    rw [if_neg (Numeral.digits_ne_nil _), Numeral.value_digits]

/-- What a literal stands for has numbers that are short enough. -/
theorem SpelledBy.writable {a : Atom} {cs : List Char} (h : a.SpelledBy cs) : a.Writable := by
  cases h with
  | @constant _ n hrun hvalue =>
    have hlt : n.toNat < 10 ^ 8 := hvalue ▸ Numeral.value_lt_of_isRun hrun
    exact Nat.le_of_lt_succ hlt
  | @dice count _ _ d hrun _ hnum hfaces =>
    refine ⟨?_, hfaces.writable⟩
    have hvalue : Numeral.value count < 10 ^ 4 := Numeral.value_lt_of_isRun hrun
    have hle : d.num.toNat ≤ 9999 := by
      rw [hnum]
      split <;> omega
    exact hle

/-- The characters of a literal are digits, markers and percent signs. -/
theorem SpelledBy.eq_of_mem {a : Atom} {cs : List Char} (h : a.SpelledBy cs) {c : Char}
    (hc : c ∈ cs) : c.isDigit = true ∨ c = 'd' ∨ c = 'D' ∨ c = '%' := by
  cases h with
  | constant hrun => exact Or.inl (hrun.1 c hc)
  | dice hrun hmarker _ hfaces =>
    rcases List.mem_append.mp hc with hc | hc
    · exact Or.inl (hrun.1 c hc)
    · rcases List.mem_cons.mp hc with rfl | hc
      · rcases hmarker with rfl | rfl <;> simp
      · rcases hfaces.shape with rfl | hrun
        · exact Or.inr (Or.inr (Or.inr (List.mem_singleton.mp hc)))
        · exact Or.inl (hrun.1 c hc)

end Atom

theorem Text.isBlank_of_isDigit {c : Char} (h : c.isDigit = true) : Text.isBlank c = false := by
  have hlow : 48 ≤ c.toNat := (Char.isDigit_iff_toNat.mp h).1
  have hhigh : c.toNat ≤ 57 := (Char.isDigit_iff_toNat.mp h).2
  have hranges : ∀ range ∈ blankRanges, range.2 < 48 ∨ 57 < range.1 := by decide
  rw [isBlank, inRanges, List.any_eq_false]
  intro range hmem
  have hoff := hranges range hmem
  rw [Bool.and_eq_true, decide_eq_true_eq, decide_eq_true_eq]
  omega

/-- No literal contains a blank. -/
theorem Atom.SpelledBy.isBlank_eq_false {a : Atom} {cs : List Char} (h : a.SpelledBy cs) :
    ∀ c ∈ cs, Text.isBlank c = false := by
  intro c hc
  rcases h.eq_of_mem hc with hdigit | rfl | rfl | rfl
  · exact Text.isBlank_of_isDigit hdigit
  all_goals decide

/-- No literal contains an operator. -/
theorem Atom.SpelledBy.isOperator_eq_false {a : Atom} {cs : List Char} (h : a.SpelledBy cs) :
    ∀ c ∈ cs, Formula.isOperator c = false := by
  intro c hc
  rcases h.eq_of_mem hc with hdigit | rfl | rfl | rfl
  · rw [Bool.eq_false_iff, Ne, Formula.isOperator_iff]
    rintro ⟨g, rfl⟩
    cases g <;> exact absurd hdigit (by decide)
  all_goals decide

/-! ### Formulas -/

/-- Of a text of blanks nothing is left to be read. -/
theorem Formula.ofSpacedText_of_strip_eq_empty {s : String} (h : Text.strip s = "") :
    ofSpacedText s = .error (Token.missing 0 Token.literalKinds) := by
  rw [ofSpacedText, h]
  decide +kernel

/-- What is read as a formula is not empty. -/
theorem Formula.ne_empty_of_ofSpacedText {s : String} {f : Formula}
    (h : ofSpacedText s = .ok f) : s ≠ "" := by
  rintro rfl
  rw [ofSpacedText_of_strip_eq_empty rfl] at h
  cases h

namespace Prepared

variable {s : String}

/-- A text that is not empty is read, and what is read is prepared. -/
theorem ofText_of_ne_empty (h : s ≠ "") :
    ofText s = (Formula.ofSpacedText s).mapError (.invalidFormula s) >>= fun f =>
      f.prepare.mapError .overflow := by
  have hempty : s.isEmpty = false := by
    rw [Bool.eq_false_iff, Ne, String.isEmpty_iff]
    exact h
  rw [ofText, hempty]
  cases Formula.ofSpacedText s with
  | error e => rfl
  | ok f =>
    dsimp only [bind, Except.bind, Except.mapError]
    cases f.prepare <;> rfl

/-- Preparing a text that is not read quotes the text as it is. -/
theorem ofText_of_error {e : SyntaxError} (hs : s ≠ "") (h : Formula.ofSpacedText s = .error e) :
    ofText s = .error (.invalidFormula s e) := by
  rw [ofText_of_ne_empty hs, h]
  rfl

/-- What comes of preparing a text depends only on the formula that is read from it. -/
theorem ofText_of_ofSpacedText {f : Formula} (h : Formula.ofSpacedText s = .ok f) :
    ofText s = f.prepare.mapError .overflow := by
  rw [ofText_of_ne_empty (Formula.ne_empty_of_ofSpacedText h), h]
  rfl

/-- A text that is not empty is refused for what it is read as, or for the bounds of the formula. -/
theorem ofText_eq_error_iff {e : BuildError} (hs : s ≠ "") :
    ofText s = .error e ↔
      (∃ source, Formula.ofSpacedText s = .error source ∧ e = .invalidFormula s source) ∨
      ∃ f operation, Formula.ofSpacedText s = .ok f ∧ f.prepare = .error operation ∧
        e = .overflow operation := by
  cases hread : Formula.ofSpacedText s with
  | error source =>
    rw [ofText_of_error hs hread]
    simp [eq_comm]
  | ok f =>
    rw [ofText_of_ofSpacedText hread]
    cases hprepare : f.prepare with
    | error operation => simp [Except.mapError, hprepare, eq_comm]
    | ok p => simp [Except.mapError, hprepare]

end Prepared

namespace Formula

/-- Formulas whose constants have at most eight digits, and whose groups of dice have at most four
for their number and at most four for their sides. -/
def Writable (f : Formula) : Prop := ∀ t ∈ f.terms, t.atom.Writable

theorem writable_iff {f : Formula} :
    f.Writable ↔ f.head.Writable ∧ ∀ t ∈ f.tail, t.atom.Writable := by
  rw [Writable, terms, List.forall_mem_cons]

/-- **The text of a formula stands for it**, if its numbers are short enough. -/
theorem spelledBy_chars {f : Formula} (h : f.Writable) : f.SpelledBy f.chars := by
  obtain ⟨head, tail⟩ := f
  induction tail generalizing head with
  | nil =>
    have hhead := Atom.spelledBy_chars (writable_iff.mp h).1
    rw [chars, List.flatMap_nil, List.append_nil, spelledBy_iff_of_forall hhead.isOperator_eq_false]
    exact ⟨rfl, hhead⟩
  | cons t tail ih =>
    obtain ⟨hhead, htail⟩ := writable_iff.mp h
    obtain ⟨ht, hrest⟩ := List.forall_mem_cons.mp htail
    have hfirst := Atom.spelledBy_chars hhead
    have hchars : chars ⟨head, t :: tail⟩ =
        head.chars ++ t.sign.symbol :: chars ⟨t.atom, tail⟩ := by
      simp [chars, Term.chars]
    rw [hchars, spelledBy_append_iff hfirst.isOperator_eq_false]
    refine ⟨⟨head, []⟩, ⟨t.atom, tail⟩, ?_, ih _ (writable_iff.mpr ⟨ht, hrest⟩), rfl⟩
    rw [spelledBy_iff_of_forall hfirst.isOperator_eq_false]
    exact ⟨rfl, hfirst⟩

/-- What a text stands for has numbers that are short enough. -/
theorem SpelledBy.writable {f : Formula} {cs : List Char} (h : f.SpelledBy cs) : f.Writable := by
  intro t ht
  obtain ⟨piece, hpiece⟩ := exists_of_mem_of_forall₂ h.1 t.atom (List.mem_map_of_mem ht)
  exact hpiece.writable

/-- **No blank is part of a formula.** -/
theorem SpelledBy.isBlank_eq_false {f : Formula} {cs : List Char} (h : f.SpelledBy cs) :
    ∀ c ∈ cs, Text.isBlank c = false := by
  induction cs using pieces_induction generalizing f with
  | piece s hs =>
    rw [spelledBy_iff_of_forall hs] at h
    exact h.2.isBlank_eq_false
  | more s g t hs ih =>
    obtain ⟨f₁, f₂, hfirst, hrest, _⟩ := (spelledBy_append_iff hs).mp h
    rw [spelledBy_iff_of_forall hs] at hfirst
    intro c hc
    rcases List.mem_append.mp hc with hc | hc
    · exact hfirst.2.isBlank_eq_false c hc
    · rcases List.mem_cons.mp hc with rfl | hc
      · cases g <;> decide
      · exact ih hrest c hc

/-- So a formula is written without blanks. -/
theorem strip_text {f : Formula} (h : f.Writable) : Text.strip f.text = f.text := by
  rw [Text.strip_eq_self_iff, text, String.toList_ofList]
  exact (spelledBy_chars h).isBlank_eq_false

/-- Reading the text of a formula gives the formula, if its numbers are short enough. -/
theorem ofText_text {f : Formula} (h : f.Writable) : ofText f.text = .ok f := by
  rw [ofText, text, String.toList_ofList]
  exact (ofTokens_scan_eq_ok_iff _ f).mpr (spelledBy_chars h)

theorem ofSpacedText_text {f : Formula} (h : f.Writable) : ofSpacedText f.text = .ok f := by
  rw [ofSpacedText_eq_ofText (strip_text h), ofText_text h]

/-- What is read from a text has numbers that are short enough. -/
theorem writable_of_ofSpacedText {s : String} {f : Formula} (h : ofSpacedText s = .ok f) :
    f.Writable :=
  ((ofTokens_scan_eq_ok_iff _ f).mp h).writable

/-- The text of a formula is that of all its terms, one behind the other, but without the first
sign. -/
theorem join_map_text_terms (f : Formula) :
    String.join (f.terms.map Term.text) = "+" ++ f.text := by
  have hchars : f.terms.flatMap Term.chars = '+' :: f.chars := rfl
  rw [← String.toList_inj, String.toList_join, String.toList_append, text, String.toList_ofList,
    List.flatMap_map]
  simp only [Term.text, String.toList_ofList]
  exact hchars

/-- **Reading and writing undo each other.** A formula whose numbers are short enough is read from
its own text. What is read from any text is such a formula, and a session that is started on
its text is the one that is started on the text it was read from: it answers with the text, and
with the texts of the terms, of which the text is made. So two texts are read as one formula
exactly if they have one normal form. -/
theorem text_round_trip :
    (∀ f : Formula, f.Writable → ofText f.text = .ok f ∧ ofSpacedText f.text = .ok f) ∧
      (∀ (s : String) (f : Formula), ofSpacedText s = .ok f →
        ofSpacedText f.text = .ok f ∧
          ∀ (σ : Type) [FaceSource σ] (source : σ),
            Session.ofText f.text source = Session.ofText s source ∧
              ∀ session, Session.ofText s source = .ok session →
                session.perform .text = .ok (.text f.text, session) ∧
                  ∃ parts, session.perform .terms = .ok (.texts parts, session) ∧
                    String.join parts = "+" ++ f.text) ∧
      ∀ (s t : String) (f g : Formula), ofSpacedText s = .ok f → ofSpacedText t = .ok g →
        (f.text = g.text ↔ f = g) := by
  refine ⟨fun f hf => ⟨ofText_text hf, ofSpacedText_text hf⟩, fun s f hs => ?_, ?_⟩
  · have htext := ofSpacedText_text (writable_of_ofSpacedText hs)
    refine ⟨htext, fun σ _ source => ⟨?_, fun session hsession => ?_⟩⟩
    · rw [Session.ofText, Session.ofText, Prepared.ofText_of_ofSpacedText htext,
        Prepared.ofText_of_ofSpacedText hs]
    · obtain ⟨p, rfl, hp⟩ := Session.ofText_eq_ok_iff.mp hsession
      cases hp.symm.trans hs
      exact ⟨rfl, _, rfl, join_map_text_terms p.formula⟩
  · intro s t f g hs ht
    refine ⟨fun heq => ?_, fun heq => heq ▸ rfl⟩
    have hf := ofSpacedText_text (writable_of_ofSpacedText hs)
    rw [heq, ofSpacedText_text (writable_of_ofSpacedText ht)] at hf
    exact (Except.ok.inj hf).symm

/-- A text with blanks, a capital marker, an omitted number of dice and leading zeros, and its
normal form. -/
theorem text_round_trip_percent_minus_four :
    ofSpacedText " D % - 0004" = .ok ⟨.dice ⟨1, .percentile⟩, [⟨.neg, .constant 4⟩]⟩ ∧
      ofText "1d%-4" = .ok ⟨.dice ⟨1, .percentile⟩, [⟨.neg, .constant 4⟩]⟩ ∧
      ofSpacedText "1d%-4" = .ok ⟨.dice ⟨1, .percentile⟩, [⟨.neg, .constant 4⟩]⟩ ∧
      Session.ofText "1d%-4" (⟨1, 1, 0⟩ : Cycle) = Session.ofText " D % - 0004" ⟨1, 1, 0⟩ := by
  obtain ⟨hwritten, hread, _⟩ := text_round_trip
  have hspaced : ofSpacedText " D % - 0004" =
      .ok ⟨.dice ⟨1, .percentile⟩, [⟨.neg, .constant 4⟩]⟩ := by decide +kernel
  have hwritable : Writable ⟨.dice ⟨1, .percentile⟩, [⟨.neg, .constant 4⟩]⟩ := by
    refine List.forall_mem_cons.mpr ⟨⟨by decide, trivial⟩, List.forall_mem_singleton.mpr ?_⟩
    show (4 : UInt32).toNat ≤ 99999999
    decide
  obtain ⟨hnormal, hsession⟩ := hread _ _ hspaced
  exact ⟨hspaced, (hwritten _ hwritable).1, hnormal, (hsession Cycle ⟨1, 1, 0⟩).1⟩

end Formula

end DiceFormula
