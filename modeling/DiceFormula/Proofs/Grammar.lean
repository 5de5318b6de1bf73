import DiceFormula.Proofs.Reading
import DiceFormula.Session
import Mathlib.Data.List.Forall2

/-!
# The grammar of formulas

A text is cut at its operators. It is a formula exactly if every piece is a literal of the
grammar, and it then stands for the sum of what the pieces stand for, each with the sign of the
operator in front of it. Nothing in this description looks for tokens, and nothing in it has an
order of work: the cut is made once, everywhere.

The proof goes from the left. Up to the first operator there is a piece without operators, which
is a formula only if it is a single literal; what follows the operator is shorter, and joining
the two formulas is putting one piece in front of the others.

## Main definitions

* `Formula.isOperator` — the characters at which a text is cut
* `Formula.SpelledBy` — the formula that the pieces of a text stand for

## Main results

* `Formula.ofTokens_scan_eq_ok_iff` — a text is read as the formula that its pieces stand for
* `Formula.ofSpacedText_follows_grammar` — which texts are formulas, and which formulas they are
-/

namespace DiceFormula

namespace Formula

/-- Whether a character is an operator. -/
def isOperator (c : Char) : Bool := c == '+' || c == '-'

theorem isOperator_iff {c : Char} : isOperator c = true ↔ ∃ g : Sign, c = g.symbol := by
  rw [isOperator, Bool.or_eq_true, beq_iff_eq, beq_iff_eq]
  constructor
  · rintro (rfl | rfl)
    · exact ⟨.pos, rfl⟩
    · exact ⟨.neg, rfl⟩
  · rintro ⟨_ | _, rfl⟩
    · exact Or.inl rfl
    · exact Or.inr rfl

/-- The formula that the pieces of a text stand for. The first sign is not written. -/
def SpelledBy (f : Formula) (cs : List Char) : Prop :=
  List.Forall₂ Atom.SpelledBy (f.terms.map Term.atom) (cs.splitOnP isOperator) ∧
    f.terms.map (fun t => t.sign.symbol) = '+' :: cs.filter isOperator

/-- A text without operators is a formula if it is a literal. -/
theorem ofTokens_scan_eq_ok_iff_of_forall {cs : List Char} (h : ∀ c ∈ cs, isOperator c = false)
    {f : Formula} :
    ofTokens (Token.scan cs) = .ok f ↔ f.tail = [] ∧ f.head.SpelledBy cs := by
  obtain ⟨head, tail⟩ := f
  rw [ofTokens_eq_ofTokensFrom]
  constructor
  · intro hok
    have hsound : ∀ t ∈ Token.scan cs, Token.Sound t := Token.sound_of_mem_scan
    have hlexemes := Token.flatMap_lexeme_scan cs
    cases hscan : Token.scan cs with
    | nil => rw [hscan] at hok; cases hok
    | cons t rest =>
      rw [hscan] at hok hsound hlexemes
      cases ha : t.atom 0 with
      | error e => rw [ofTokensFrom_of_error ha] at hok; cases hok
      | ok a =>
        rw [ofTokensFrom_of_ok ha] at hok
        cases rest with
        | nil =>
          cases hok
          refine ⟨rfl, ?_⟩
          rw [← hlexemes, List.flatMap_singleton]
          exact ((hsound t List.mem_cons_self).spelledBy ha).2
        | cons o us =>
          cases hsign : o.kind.sign? with
          | none => rw [tailOfTokens_of_none hsign] at hok; cases hok
          | some g =>
            -- A second token would be an operator, and the text has none.
            have ho := (hsound o (by simp)).eq_token hsign
            have hmem : g.symbol ∈ cs := by rw [← hlexemes, ho]; simp [Sign.token]
            have hoperator := isOperator_iff.mpr ⟨g, rfl⟩
            rw [h _ hmem] at hoperator
            cases hoperator
  · rintro ⟨rfl, hspelled⟩
    rw [Token.scan_of_spelledBy hspelled, ofTokensFrom_of_ok (Token.atom_of_spelledBy hspelled 0)]
    rfl

theorem spelledBy_iff_of_forall {cs : List Char} (h : ∀ c ∈ cs, isOperator c = false)
    {f : Formula} : f.SpelledBy cs ↔ f.tail = [] ∧ f.head.SpelledBy cs := by
  have hfilter : cs.filter isOperator = [] := by simpa [List.filter_eq_nil_iff] using h
  rw [SpelledBy, List.splitOnP_eq_singleton h, hfilter, terms, List.map_cons, List.map_cons]
  constructor
  · rintro ⟨hatoms, hsigns⟩
    refine ⟨List.map_eq_nil_iff.mp (List.cons.inj hsigns).2, ?_⟩
    cases hatoms with
    | cons hhead _ => exact hhead
  · rintro ⟨htail, hhead⟩
    rw [htail]
    exact ⟨.cons hhead .nil, rfl⟩

theorem symbol_injective {g g' : Sign} (h : g.symbol = g'.symbol) : g = g' := by
  cases g <;> cases g' <;> first | rfl | exact absurd h (by decide)

/-- Up to the first operator there is one piece. -/
theorem spelledBy_append_iff {s t : List Char} (h : ∀ c ∈ s, isOperator c = false) {g : Sign}
    {f : Formula} :
    f.SpelledBy (s ++ g.symbol :: t) ↔
      ∃ f₁ f₂ : Formula, f₁.SpelledBy s ∧ f₂.SpelledBy t ∧ join g f₁ f₂ = f := by
  have hoperator : isOperator g.symbol = true := isOperator_iff.mpr ⟨g, rfl⟩
  have hsplit : (s ++ g.symbol :: t).splitOnP isOperator = s :: t.splitOnP isOperator :=
    List.splitOnP_append_cons_of_forall_mem h _ hoperator t
  have hfilter : (s ++ g.symbol :: t).filter isOperator = g.symbol :: t.filter isOperator := by
    rw [List.filter_append, List.filter_cons_of_pos hoperator]
    simpa [List.filter_eq_nil_iff] using h
  simp only [spelledBy_iff_of_forall h]
  rw [SpelledBy, hsplit, hfilter]
  constructor
  · rintro ⟨hatoms, hsigns⟩
    obtain ⟨head, tail⟩ := f
    cases tail with
    | nil => simp [terms] at hsigns
    | cons u tail =>
      cases hatoms with
      | cons hhead hatoms =>
        simp only [terms, List.map_cons, List.cons.injEq] at hsigns
        obtain ⟨-, hsign, hsigns⟩ := hsigns
        refine ⟨⟨head, []⟩, ⟨u.atom, tail⟩, ⟨rfl, hhead⟩, ⟨hatoms, ?_⟩, ?_⟩
        · rw [terms, List.map_cons, hsigns]
          rfl
        · rw [join, ← symbol_injective hsign]
          rfl
  · rintro ⟨f₁, f₂, ⟨htail, hhead⟩, ⟨hatoms, hsigns⟩, rfl⟩
    rw [terms_join, terms, htail]
    rw [terms, List.map_cons] at hatoms hsigns
    refine ⟨.cons hhead hatoms, ?_⟩
    rw [List.singleton_append, List.map_cons, List.map_cons, (List.cons.inj hsigns).2]
    rfl

/-- Induction over the pieces of a text: it has no operator, or a piece comes before the first. -/
@[elab_as_elim]
theorem pieces_induction {motive : List Char → Prop}
    (piece : ∀ s, (∀ c ∈ s, isOperator c = false) → motive s)
    (more : ∀ s g t, (∀ c ∈ s, isOperator c = false) → motive t →
      motive (s ++ Sign.symbol g :: t)) (cs : List Char) : motive cs := by
  -- Stronger: characters that are no operators may stand in front.
  have key : ∀ s, (∀ c ∈ s, isOperator c = false) → motive (s ++ cs) := by
    induction cs with
    | nil =>
      intro s hs
      rw [List.append_nil]
      exact piece s hs
    | cons c cs ih =>
      intro s hs
      cases hc : isOperator c with
      | true =>
        obtain ⟨g, rfl⟩ := isOperator_iff.mp hc
        exact more s g cs hs (ih [] nofun)
      | false =>
        rw [List.append_cons]
        refine ih _ fun d hd => ?_
        rcases List.mem_append.mp hd with hd | hd
        · exact hs d hd
        · rwa [List.mem_singleton.mp hd]
  exact key [] nofun

/-- **A text is read as the formula that its pieces stand for.** -/
theorem ofTokens_scan_eq_ok_iff (cs : List Char) (f : Formula) :
    ofTokens (Token.scan cs) = .ok f ↔ f.SpelledBy cs := by
  induction cs using pieces_induction generalizing f with
  | piece s hs => rw [ofTokens_scan_eq_ok_iff_of_forall hs, spelledBy_iff_of_forall hs]
  | more s g t hs ih =>
    rw [ofTokens_scan_append_eq_ok_iff, spelledBy_append_iff hs]
    simp only [ofTokens_scan_eq_ok_iff_of_forall hs, spelledBy_iff_of_forall hs, ih]

/-- The texts whose pieces stand for a formula are those whose pieces are all literals. -/
theorem exists_spelledBy_iff (cs : List Char) :
    (∃ f : Formula, f.SpelledBy cs) ↔ ∀ piece ∈ cs.splitOnP isOperator, Atom.IsLiteral piece := by
  induction cs using pieces_induction with
  | piece s hs =>
    simp only [List.splitOnP_eq_singleton hs, List.forall_mem_singleton,
      ← Atom.exists_spelledBy_iff, spelledBy_iff_of_forall hs]
    constructor
    · rintro ⟨f, -, hhead⟩
      exact ⟨f.head, hhead⟩
    · rintro ⟨a, ha⟩
      exact ⟨⟨a, []⟩, rfl, ha⟩
  | more s g t hs ih =>
    have hoperator : isOperator g.symbol = true := isOperator_iff.mpr ⟨g, rfl⟩
    rw [List.splitOnP_append_cons_of_forall_mem hs _ hoperator, List.forall_mem_cons, ← ih,
      ← Atom.exists_spelledBy_iff]
    simp only [spelledBy_append_iff hs, spelledBy_iff_of_forall hs]
    constructor
    · rintro ⟨f, f₁, f₂, ⟨-, hhead⟩, h₂, -⟩
      exact ⟨⟨f₁.head, hhead⟩, f₂, h₂⟩
    · rintro ⟨⟨a, ha⟩, f₂, h₂⟩
      exact ⟨_, ⟨a, []⟩, f₂, ⟨rfl, ha⟩, h₂, rfl⟩

/-! ### Texts with blanks -/

/-- What is left between the operators of a text once its blanks are gone. -/
def pieces (s : String) : List (List Char) := (Text.strip s).toList.splitOnP isOperator

/-- The operators of a text, in order. -/
def operators (s : String) : List Char := (Text.strip s).toList.filter isOperator

/-- **The grammar of formulas.** A text is a formula exactly if all its pieces are literals, and a
session can be started on it exactly if the bounds of the formula do not overflow either. The
formula has one term for each piece, in order: the atom that the piece stands for, with the sign
of the operator in front of it, or a positive sign where there is none. -/
theorem ofSpacedText_follows_grammar (s : String) :
    ((∃ f, ofSpacedText s = .ok f) ↔ ∀ piece ∈ pieces s, Atom.IsLiteral piece) ∧
      (∀ f, ofSpacedText s = .ok f ↔
        List.Forall₂ Atom.SpelledBy (f.terms.map Term.atom) (pieces s) ∧
          f.terms.map (fun t => t.sign.symbol) = '+' :: operators s) ∧
      ∀ (σ : Type) (source : σ),
        ((∃ session, Session.ofText s source = .ok session) ↔
          (∀ piece ∈ pieces s, Atom.IsLiteral piece) ∧
            ∀ f, ofSpacedText s = .ok f → ∃ low high, f.low = .ok low ∧ f.high = .ok high) ∧
        ∀ session, Session.ofText s source = .ok session →
          ∃ p, session = Session.start p source ∧ ofSpacedText s = .ok p.formula := by
  have hread (f : Formula) : ofSpacedText s = .ok f ↔ f.SpelledBy (Text.strip s).toList :=
    ofTokens_scan_eq_ok_iff _ f
  have haccept : (∃ f, ofSpacedText s = .ok f) ↔ ∀ piece ∈ pieces s, Atom.IsLiteral piece := by
    simp only [hread]
    exact exists_spelledBy_iff _
  refine ⟨haccept, hread, fun σ source => ⟨?_, fun session => Session.ofText_eq_ok_iff.mp⟩⟩
  rw [← haccept]
  simp only [Session.ofText_eq_ok_iff]
  constructor
  · rintro ⟨_, p, -, hp⟩
    refine ⟨⟨p.formula, hp⟩, fun f hf => ?_⟩
    cases hp.symm.trans hf
    exact ⟨p.low, p.high, p.low_eq, p.high_eq⟩
  · rintro ⟨⟨f, hf⟩, hbounds⟩
    obtain ⟨low, high, hlow, hhigh⟩ := hbounds f hf
    exact ⟨_, ⟨f, low, high, hlow, hhigh⟩, rfl, hf⟩

end Formula

end DiceFormula
