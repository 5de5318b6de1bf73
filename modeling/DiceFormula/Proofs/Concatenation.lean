import DiceFormula.Proofs.Reading

/-!
# Two texts with an operator between them

What a text is read as is settled on the two sides of any operator in it. If both sides are
formulas, so is the whole, and it has the terms of both. Otherwise the first error is the error of
the whole: unchanged if it lies before the operator, and further on by what stands in front if it
lies behind it. Only a text that ends too early does not end there any more. The operator is then
found where a literal was needed.

The statement is about any reader of texts, so that it can be made of both: the reader in which
every character counts, and the one in which blanks do not.

## Main definitions

* `Formula.ReadsJoined` — what is made of two texts with an operator between them, from what is
  made of each

## Main results

* `Formula.readsJoined` — both readers treat an operator in this way
-/

namespace DiceFormula

namespace Formula

/-- What a reader makes of two texts with the operator `g` between them, the first of `n` bytes,
in terms of what it makes of each. -/
structure ReadsJoined (g : Sign) (n : Nat) (first second whole : Except SyntaxError Formula) :
    Prop where
  /-- Two formulas are put one behind the other. The term after the operator takes its sign. -/
  formula : ∀ f h, first = .ok f → second = .ok h → ∃ w, whole = .ok w ∧
    w.terms = f.terms ++ h.terms.modifyHead fun t => { t with sign := g }
  /-- An error behind a formula and an operator is the same error further on. -/
  errorAfter : ∀ f e, first = .ok f → second = .error e →
    whole = .error ⟨e.fault, n + 1 + e.start, n + 1 + e.stop, e.slice⟩
  /-- An error before the operator stays as it is. -/
  errorBefore : ∀ e, first = .error e → (∀ expected, e.fault ≠ .unexpectedEnd expected) →
    whole = .error e
  /-- Where the first text ends too early, the operator is found instead. -/
  endBefore : ∀ e expected, first = .error e → e.fault = .unexpectedEnd expected →
    whole = .error ⟨.unexpectedToken g.tokenKind [.integer, .dice], n, n + 1, g.text⟩
  /-- The whole is a formula exactly if both texts are. -/
  isFormula_iff : (∃ w, whole = .ok w) ↔ (∃ f, first = .ok f) ∧ ∃ h, second = .ok h

theorem misplaced_token (n : Nat) (g : Sign) :
    g.token.misplaced n Token.literalKinds =
      ⟨.unexpectedToken g.tokenKind [.integer, .dice], n, n + 1, g.text⟩ := by
  cases g <;> rfl

theorem isEnd_eq_false_iff {fault : SyntaxFault} :
    fault.isEnd = false ↔ ∀ expected, fault ≠ .unexpectedEnd expected := by
  cases fault <;> simp [SyntaxFault.isEnd]

theorem readsJoined_joinReadings (g : Sign) (n : Nat) (first second : Except SyntaxError Formula) :
    ReadsJoined g n first second
      (joinReadings n g.token g first (second.mapError (SyntaxError.shift (n + 1)))) where
  formula := by
    rintro f h rfl rfl
    exact ⟨join g f h, rfl, terms_join g f h⟩
  errorAfter := by
    rintro f e rfl rfl
    rfl
  errorBefore := by
    rintro e rfl hend
    simp [joinReadings, isEnd_eq_false_iff.mpr hend]
  endBefore := by
    rintro e expected rfl hend
    simp [joinReadings, hend, SyntaxFault.isEnd, misplaced_token]
  isFormula_iff := by
    constructor
    · rintro ⟨w, hw⟩
      obtain ⟨f, h, hf, hh, _⟩ := joinReadings_eq_ok_iff.mp hw
      exact ⟨⟨f, hf⟩, h, mapError_eq_ok_iff.mp hh⟩
    · rintro ⟨⟨f, hf⟩, h, hh⟩
      exact ⟨join g f h, joinReadings_eq_ok_iff.mpr ⟨f, h, hf, mapError_eq_ok_iff.mpr hh, rfl⟩⟩

theorem toList_append_text (s t : String) (g : Sign) :
    (s ++ g.text ++ t).toList = s.toList ++ g.symbol :: t.toList := by
  simp [Sign.text, Char.toString]

theorem strip_append_text (s t : String) (g : Sign) :
    Text.strip (s ++ g.text ++ t) = Text.strip s ++ g.text ++ Text.strip t := by
  have htext : Text.strip g.text = g.text := by cases g <;> decide
  rw [Text.strip_append, Text.strip_append, htext]

/-- **Reading goes piece by piece.** Of two texts with an operator between them, both readers make
what follows from what they make of each. -/
theorem readsJoined (s t : String) (g : Sign) :
    ReadsJoined g s.utf8ByteSize (ofText s) (ofText t) (ofText (s ++ g.text ++ t)) ∧
      ReadsJoined g (Text.strip s).utf8ByteSize (ofSpacedText s) (ofSpacedText t)
        (ofSpacedText (s ++ g.text ++ t)) := by
  have hraw (s t : String) :
      ReadsJoined g s.utf8ByteSize (ofText s) (ofText t) (ofText (s ++ g.text ++ t)) := by
    simp only [ofText]
    rw [toList_append_text, ofTokens_scan_append, Text.byteSize_toList]
    exact readsJoined_joinReadings g _ _ _
  refine ⟨hraw s t, ?_⟩
  simp only [ofSpacedText]
  rw [strip_append_text]
  exact hraw _ _

end Formula

end DiceFormula
