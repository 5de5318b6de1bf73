import DiceFormula.Proofs.Pattern
import Mathlib.Data.Nat.Find

/-!
# Where a text stops being a formula

A text fails to be a formula exactly if something misfits among its tokens, and the error is about
the first place where that happens: the token there, or the end of the text. The kind of the token
decides what is said about it. In front of this place the text is as good as a formula.

## Main definitions

* `Token.errorAt` — the error of a misfit at a place
* `Formula.Locates`, `Formula.Diagnosed` — what an error says about the text

## Main results

* `Token.FirstMisfit.ofTokensFrom` — the error of tokens with a misfit
* `Formula.diagnosed` — both readers report the first misfit, exactly
-/

namespace DiceFormula

namespace Token

/-! ### The error of the first misfit -/

/-- The error at place `k` of tokens of which the first starts at `pos`. -/
def errorAt (pos : Nat) (ts : List Token) (k : Nat) : SyntaxError :=
  match ts[k]? with
  | some t => t.misplaced (pos + totalSize (ts.take k)) (expectedAt k)
  | none => missing (pos + totalSize (ts.take k)) (expectedAt k)

theorem errorAt_cons_cons (pos : Nat) (t o : Token) (ts : List Token) (k : Nat) :
    errorAt pos (t :: o :: ts) (k + 2) = errorAt (pos + t.size + o.size) ts k := by
  rw [errorAt, errorAt, expectedAt_add_two]
  simp only [List.getElem?_cons_succ, List.take_succ_cons, totalSize_cons, Nat.add_assoc]

/-- **Tokens with a misfit are not a formula, and the error is that of the first one.** -/
theorem FirstMisfit.ofTokensFrom {ts : List Token} {k : Nat} (h : FirstMisfit ts k)
    (hsound : ∀ t ∈ ts, Sound t) (pos : Nat) :
    Formula.ofTokensFrom pos ts = .error (errorAt pos ts k) := by
  induction h generalizing pos with
  | @literal ts hmisfit =>
    cases ts with
    | nil => rfl
    | cons t rest =>
      rw [Formula.ofTokensFrom_of_error (atom_of_kind_notMem (hmisfit t rfl) pos)]
      rfl
  | @operator t o hliteral hmisfit ts =>
    obtain ⟨a, cs, hspelled, rfl⟩ := (hsound t (by simp)).exists_spelledBy hliteral
    rw [Formula.ofTokensFrom_of_ok (atom_of_spelledBy hspelled pos),
      Formula.tailOfTokens_of_none (sign?_of_kind_notMem hmisfit)]
    simp [errorAt, expectedAt, operatorKinds, Except.map]
  | @later t o hliteral hoperator ts k _ ih =>
    obtain ⟨a, cs, hspelled, rfl⟩ := (hsound t (by simp)).exists_spelledBy hliteral
    obtain ⟨g, rfl⟩ := (hsound o (by simp)).exists_token hoperator
    rw [Formula.ofTokensFrom_of_ok (atom_of_spelledBy hspelled pos),
      Formula.tailOfTokens_of_some (Sign.sign?_tokenKind g),
      ih fun t ht => hsound t (by simp [ht]), errorAt_cons_cons]
    rfl

/-! ### Where the error is -/

theorem getElem?_located (pos : Nat) (ts : List Token) (k : Nat) :
    (located pos ts)[k]? = ts[k]?.map fun t => (pos + totalSize (ts.take k), t) := by
  induction ts generalizing pos k with
  | nil => rfl
  | cons t rest ih =>
    cases k with
    | zero => rfl
    | succ k =>
      rw [located, List.getElem?_cons_succ, List.getElem?_cons_succ, ih, List.take_succ_cons,
        totalSize_cons, Nat.add_assoc]

section Error

variable {ts : List Token} {k : Nat} {t : Token}

theorem errorAt_of_some (h : ts[k]? = some t) (pos : Nat) :
    errorAt pos ts k = t.misplaced (pos + totalSize (ts.take k)) (expectedAt k) := by
  rw [errorAt, h]

theorem errorAt_of_none (h : ts[k]? = none) (pos : Nat) :
    errorAt pos ts k = missing (pos + totalSize ts) (expectedAt k) := by
  rw [errorAt, h, List.take_of_length_le (List.getElem?_eq_none_iff.mp h)]

theorem start_errorAt (pos : Nat) (ts : List Token) (k : Nat) :
    (errorAt pos ts k).start = pos + totalSize (ts.take k) := by
  rw [errorAt]
  split <;> rfl

theorem stop_errorAt (pos : Nat) (ts : List Token) (k : Nat) :
    (errorAt pos ts k).stop = (errorAt pos ts k).start + (errorAt pos ts k).slice.utf8ByteSize := by
  rw [errorAt]
  split
  · simp only [misplaced, size, Text.byteSize_ofList]
  · simp [missing]

/-- The slice of an error is what the text has behind the tokens in front of it. -/
theorem exists_append_slice_errorAt (pos : Nat) (ts : List Token) (k : Nat) :
    ∃ after, ts.flatMap lexeme =
      (ts.take k).flatMap lexeme ++ (errorAt pos ts k).slice.toList ++ after := by
  cases h : ts[k]? with
  | none =>
    refine ⟨[], ?_⟩
    rw [errorAt_of_none h, List.take_of_length_le (List.getElem?_eq_none_iff.mp h)]
    simp [missing]
  | some t =>
    obtain ⟨hlt, rfl⟩ := List.getElem?_eq_some_iff.mp h
    refine ⟨(ts.drop (k + 1)).flatMap lexeme, ?_⟩
    rw [errorAt_of_some h, misplaced, String.toList_ofList]
    calc ts.flatMap lexeme
        = (ts.take k ++ ts[k] :: ts.drop (k + 1)).flatMap lexeme := by
          rw [← List.drop_eq_getElem_cons hlt, List.take_append_drop]
      _ = (ts.take k).flatMap lexeme ++ ts[k].lexeme ++ (ts.drop (k + 1)).flatMap lexeme := by
          rw [List.flatMap_append, List.flatMap_cons, List.append_assoc]

theorem fault_errorAt_eq_invalidToken_iff (pos : Nat) :
    (errorAt pos ts k).fault = .invalidToken ↔ ∃ t, ts[k]? = some t ∧ t.kind = .error := by
  cases h : ts[k]? with
  | none => simp [errorAt_of_none h, missing]
  | some t => simp [errorAt_of_some h, misplaced]

theorem fault_errorAt_eq_unexpectedToken_iff (pos : Nat) {found : TokenKind}
    {expected : List TokenKind} :
    (errorAt pos ts k).fault = .unexpectedToken found expected ↔
      (∃ t, ts[k]? = some t ∧ t.kind = found ∧ found ≠ .error) ∧ expected = expectedAt k := by
  cases h : ts[k]? with
  | none => simp [errorAt_of_none h, missing]
  | some t =>
    by_cases hkind : t.kind = .error
    · simp +contextual [errorAt_of_some h, misplaced, hkind, eq_comm]
    · simp only [errorAt_of_some h, misplaced, if_neg hkind, SyntaxFault.unexpectedToken.injEq,
        Option.some.injEq, exists_eq_left']
      constructor
      · rintro ⟨rfl, rfl⟩
        exact ⟨⟨rfl, hkind⟩, rfl⟩
      · rintro ⟨⟨rfl, _⟩, rfl⟩
        exact ⟨rfl, rfl⟩

theorem fault_errorAt_eq_unexpectedEnd_iff (pos : Nat) (hle : k ≤ ts.length)
    {expected : List TokenKind} :
    (errorAt pos ts k).fault = .unexpectedEnd expected ↔
      k = ts.length ∧ expected = expectedAt k := by
  cases h : ts[k]? with
  | none =>
    have hlength : k = ts.length := Nat.le_antisymm hle (List.getElem?_eq_none_iff.mp h)
    simp only [errorAt_of_none h, missing, SyntaxFault.unexpectedEnd.injEq]
    constructor
    · intro heq
      exact ⟨hlength, heq.symm⟩
    · rintro ⟨_, rfl⟩
      rfl
  | some t =>
    have hlt : k < ts.length := (List.getElem?_eq_some_iff.mp h).1
    rw [errorAt_of_some h]
    constructor
    · intro hfault
      have hend := isEnd_misplaced (0 + totalSize (ts.take k)) (expectedAt k) t
      simp only [misplaced] at hfault hend
      rw [hfault] at hend
      cases hend
    · rintro ⟨hlength, _⟩
      omega

end Error

end Token

/-! ### What an error says about the text -/

namespace Formula

open Token (scan located expectedAt MisfitAt)

/-- An error of the reader `read` is about place `k` among the tokens of a text. -/
structure Locates (read : String → Except SyntaxError Formula) (text : String) (k : Nat)
    (e : SyntaxError) : Prop where
  /-- The positions and the slice are those of the token at this place. -/
  token : ∀ t, (scan text.toList)[k]? = some t →
    (located 0 (scan text.toList))[k]? = some (e.start, t) ∧ e.stop = e.start + t.size ∧
      e.slice = String.ofList t.lexeme
  /-- Where there is no token any more, they are the end of the text. -/
  atEnd : k = (scan text.toList).length →
    e.start = text.utf8ByteSize ∧ e.stop = text.utf8ByteSize ∧ e.slice = ""
  /-- The text can be cut at the positions, which leaves the slice between them. What stands
  before the first position is a formula, or becomes one with a literal behind it. -/
  cut : ∃ before after, text = before ++ e.slice ++ after ∧ before.utf8ByteSize = e.start ∧
    e.stop = e.start + e.slice.utf8ByteSize ∧
      (k % 2 = 1 → ∃ f, read before = .ok f) ∧ (k % 2 = 0 → ∃ f, read (before ++ "0") = .ok f)
  /-- An invalid token is one of the kind of errors. -/
  invalidToken_iff : e.fault = .invalidToken ↔
    ∃ t, (scan text.toList)[k]? = some t ∧ t.kind = .error
  /-- An unexpected token is one of any other kind. -/
  unexpectedToken_iff : ∀ found expected, e.fault = .unexpectedToken found expected ↔
    (∃ t, (scan text.toList)[k]? = some t ∧ t.kind = found ∧ found ≠ .error) ∧
      expected = expectedAt k
  /-- An unexpected end is at the end. -/
  unexpectedEnd_iff : ∀ expected, e.fault = .unexpectedEnd expected ↔
    k = (scan text.toList).length ∧ expected = expectedAt k
  /-- What is missing at the end is a literal. -/
  expected_end : ∀ expected, e.fault = .unexpectedEnd expected → expected = [.integer, .dice]

/-- What the reader `read` makes of a text is a formula exactly if the tokens follow the pattern,
and otherwise an error about the first place where they do not. -/
structure Diagnosed (read : String → Except SyntaxError Formula) (text : String)
    (result : Except SyntaxError Formula) : Prop where
  /-- Tokens that follow the pattern are read. -/
  isFormula_iff : (∃ f, result = .ok f) ↔ Token.Alternating (scan text.toList)
  /-- Tokens with a misfit are not. -/
  fails_iff : (∃ e, result = .error e) ↔ ∃ k, MisfitAt (scan text.toList) k
  /-- The first misfit is what the error is about. -/
  locates : ∀ k, MisfitAt (scan text.toList) k → (∀ j < k, ¬ MisfitAt (scan text.toList) j) →
    ∃ e, result = .error e ∧ Locates read text k e

theorem ofText_eq_error_of_firstMisfit {s : String} {k : Nat}
    (h : Token.FirstMisfit (scan s.toList) k) :
    ofText s = .error (Token.errorAt 0 (scan s.toList) k) := by
  rw [ofText, ofTokens_eq_ofTokensFrom]
  exact h.ofTokensFrom Token.sound_of_mem_scan 0

/-- The error of the first misfit is about it, for a reader that makes formulas of what
`ofText` does. -/
theorem locates_errorAt {read : String → Except SyntaxError Formula} {s : String} {k : Nat}
    (hread : ∀ before after, s = before ++ after →
      read before = ofText before ∧ read (before ++ "0") = ofText (before ++ "0"))
    (hmisfit : MisfitAt (scan s.toList) k) (hfirst : Token.FirstMisfit (scan s.toList) k) :
    Locates read s k (Token.errorAt 0 (scan s.toList) k) where
  token := by
    intro t ht
    rw [Token.getElem?_located, Token.errorAt_of_some ht, ht]
    exact ⟨rfl, rfl, rfl⟩
  atEnd := by
    intro hk
    have hnone : (scan s.toList)[k]? = none := List.getElem?_eq_none_iff.mpr (Nat.le_of_eq hk.symm)
    rw [Token.errorAt_of_none hnone, Token.totalSize_scan, Text.byteSize_toList, Nat.zero_add]
    exact ⟨rfl, rfl, rfl⟩
  cut := by
    obtain ⟨after, hafter⟩ := Token.exists_append_slice_errorAt 0 (scan s.toList) k
    rw [Token.flatMap_lexeme_scan, List.append_assoc] at hafter
    have htake : ∀ t ∈ (scan s.toList).take k, Token.Sound t := by
      intro t ht
      exact Token.sound_of_mem_scan t (List.mem_of_mem_take ht)
    have hs : s = String.ofList (((scan s.toList).take k).flatMap Token.lexeme) ++
        ((Token.errorAt 0 (scan s.toList) k).slice ++ String.ofList after) := by
      rw [← String.toList_inj]
      simpa using hafter
    refine ⟨_, _, hs.trans (String.append_assoc ..).symm, ?_, Token.stop_errorAt .., ?_, ?_⟩
    · rw [Token.start_errorAt, Nat.zero_add, Token.totalSize, Text.byteSize_ofList]
    · intro hodd
      rw [(hread _ _ hs).1]
      exact (hfirst.alternating_take hodd).exists_ofText htake
    · intro heven
      rw [(hread _ _ hs).2]
      have hzero : Token.zero.kind ∈ [TokenKind.integer, .dice] := List.mem_cons_self
      have hsound : ∀ t ∈ (scan s.toList).take k ++ [Token.zero], Token.Sound t := by
        intro t ht
        rcases List.mem_append.mp ht with ht | ht
        · exact htake t ht
        · rw [List.mem_singleton.mp ht]
          exact Token.sound_zero
      obtain ⟨f, hf⟩ := (hfirst.alternating_take_append heven hzero).exists_ofText hsound
      refine ⟨f, ?_⟩
      rw [← hf, List.flatMap_append, String.ofList_append]
      rfl
  invalidToken_iff := Token.fault_errorAt_eq_invalidToken_iff 0
  unexpectedToken_iff := fun _ _ => Token.fault_errorAt_eq_unexpectedToken_iff 0
  unexpectedEnd_iff := fun _ => Token.fault_errorAt_eq_unexpectedEnd_iff 0 hmisfit.le_length
  expected_end := by
    intro expected hfault
    obtain ⟨rfl, rfl⟩ :=
      (Token.fault_errorAt_eq_unexpectedEnd_iff 0 hmisfit.le_length).mp hfault
    exact hmisfit.expectedAt_length

/-- Of a text there is a formula, or a first misfit. -/
theorem alternating_or_exists_firstMisfit (s : String) :
    Token.Alternating (scan s.toList) ∨
      ∃ k, MisfitAt (scan s.toList) k ∧ ∀ j < k, ¬ MisfitAt (scan s.toList) j := by
  classical
  by_cases hmisfit : ∃ k, MisfitAt (scan s.toList) k
  · refine Or.inr ⟨Nat.find hmisfit, Nat.find_spec hmisfit, ?_⟩
    intro j hj
    exact Nat.find_min hmisfit hj
  · exact Or.inl (Token.alternating_iff.mpr (not_exists.mp hmisfit))

theorem isFormula_iff_alternating (s : String) :
    (∃ f, ofText s = .ok f) ↔ Token.Alternating (scan s.toList) := by
  constructor
  · rintro ⟨f, hf⟩
    rcases alternating_or_exists_firstMisfit s with halternating | ⟨k, hmisfit, hbefore⟩
    · exact halternating
    · rw [ofText_eq_error_of_firstMisfit (Token.firstMisfit_of_misfitAt hmisfit hbefore)] at hf
      cases hf
  · intro halternating
    rw [ofText, ofTokens_eq_ofTokensFrom]
    exact halternating.exists_ofTokensFrom Token.sound_of_mem_scan 0

theorem diagnosed_ofText {read : String → Except SyntaxError Formula} {s : String}
    (hread : ∀ before after, s = before ++ after →
      read before = ofText before ∧ read (before ++ "0") = ofText (before ++ "0")) :
    Diagnosed read s (ofText s) where
  isFormula_iff := isFormula_iff_alternating s
  fails_iff := by
    have hnot : (∃ e, ofText s = .error e) ↔ ¬ ∃ f, ofText s = .ok f := by
      cases ofText s <;> simp
    rw [hnot, isFormula_iff_alternating, Token.alternating_iff, not_forall_not]
  locates := by
    intro k hmisfit hbefore
    have hfirst := Token.firstMisfit_of_misfitAt hmisfit hbefore
    exact ⟨_, ofText_eq_error_of_firstMisfit hfirst, locates_errorAt hread hmisfit hfirst⟩

/-- Where blanks count for nothing, they do not count in a part of a text without blanks. -/
theorem ofSpacedText_of_strip_eq_append {s before after : String}
    (h : Text.strip s = before ++ after) :
    ofSpacedText before = ofText before ∧ ofSpacedText (before ++ "0") = ofText (before ++ "0") := by
  have hblank : ∀ c ∈ (Text.strip s).toList, Text.isBlank c = false :=
    Text.strip_eq_self_iff.mp (Text.strip_strip s)
  have hbefore : Text.strip before = before := by
    refine Text.strip_eq_self_iff.mpr fun c hc => hblank c ?_
    rw [h, String.toList_append]
    exact List.mem_append_left _ hc
  have hzero : Text.strip "0" = "0" := by decide
  refine ⟨ofSpacedText_eq_ofText hbefore, ofSpacedText_eq_ofText ?_⟩
  rw [Text.strip_append, hbefore, hzero]

/-- **Errors are located and classified exactly**, by the reader in which every character counts
and, in the text without its blanks, by the one in which blanks do not. -/
theorem diagnosed (s : String) :
    Diagnosed ofText s (ofText s) ∧ Diagnosed ofSpacedText (Text.strip s) (ofSpacedText s) := by
  constructor
  · exact diagnosed_ofText fun _ _ _ => ⟨rfl, rfl⟩
  · exact diagnosed_ofText fun _ _ => ofSpacedText_of_strip_eq_append

end Formula

end DiceFormula
