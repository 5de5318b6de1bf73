import DiceFormula.Proofs.Reading
import DiceFormula.Session
import DiceFormula.Source.Cycle

/-!
# What is recognised can be read

A literal is looked at twice. Scanning decides whether some characters are a constant or a dice
literal, and reading then works out what the token stands for. The two do this by different rules,
and for the case that the second disagrees with the first there are errors of their own: a constant
that cannot be read, and a dice literal that cannot be read. Neither ever comes up. A token of a
literal's kind is a literal of the grammar, and every literal of the grammar is read.

So a text fails to be a formula only because a token is in the wrong place or is missing. One token
gives no other error, and as reading goes from token to token no sequence of sound tokens does. All
the ways to prepare a formula end in the same reader.

## Main definitions

* `SyntaxFault.isUnreadable`, `BuildError.isUnreadable` — the errors of literals that cannot be read

## Main results

* `Token.Sound.exists_read` — a token of a literal's kind is read
* `Formula.isUnreadable_of_sound` — reading sound tokens gives no such error
* `Formula.recognised_literals_are_read` — nor does any way to read or prepare a formula
-/

namespace DiceFormula

/-! ### Errors of literals -/

/-- Whether a token was taken for a literal and then could not be read. -/
def SyntaxFault.isUnreadable : SyntaxFault → Bool
  | .invalidConstant _ | .invalidDice _ => true
  | .unexpectedToken _ _ | .unexpectedEnd _ | .invalidToken => false

/-- Whether there is no prepared formula because of such a token. -/
def BuildError.isUnreadable : BuildError → Bool
  | .invalidFormula _ source => source.fault.isUnreadable
  | .missingInput | .wrongKind _ | .overflow _ => false

/-! ### One token -/

namespace Token

theorem isUnreadable_misplaced (pos : Nat) (expected : List TokenKind) (t : Token) :
    (t.misplaced pos expected).fault.isUnreadable = false := by
  simp only [misplaced]
  split <;> rfl

/-- **A token of a literal's kind is read**, a constant as a number and a dice literal as a group of
dice. -/
theorem Sound.exists_read {t : Token} (h : Sound t) :
    (t.kind = .integer → ∃ n, Numeral.read t.lexeme = .ok n) ∧
      (t.kind = .dice → ∃ d, Dice.ofChars t.lexeme = .ok d) := by
  cases h with
  | @literal a cs hspelled =>
    cases a with
    | constant n => exact ⟨fun _ => ⟨n, Numeral.read_of_spelledBy hspelled⟩, nofun⟩
    | dice d => exact ⟨nofun, fun _ => ⟨d, Dice.ofChars_of_spelledBy hspelled⟩⟩
  | operator g =>
    have hkind : g.token.kind ≠ .integer ∧ g.token.kind ≠ .dice := by cases g <;> decide
    exact ⟨fun h => absurd h hkind.1, fun h => absurd h hkind.2⟩
  | error cs => exact ⟨nofun, nofun⟩

/-- Where a literal is needed, a sound token is one or it is in the wrong place. -/
theorem Sound.isUnreadable_of_atom {t : Token} (h : Sound t) {pos : Nat} {e : SyntaxError}
    (hatom : t.atom pos = .error e) : e.fault.isUnreadable = false := by
  cases h with
  | literal hspelled =>
    rw [atom_of_spelledBy hspelled] at hatom
    cases hatom
  | operator g =>
    rw [atom_of_sign? (Sign.sign?_tokenKind g)] at hatom
    cases hatom
    exact isUnreadable_misplaced ..
  | error cs =>
    cases hatom
    exact isUnreadable_misplaced ..

end Token

/-! ### All the tokens of a text -/

namespace Formula

/-- Reading is the same for a formula and for what follows a literal: either the next token is in the
wrong place, or the error comes from the tokens after it. So the two are proved together. -/
theorem isUnreadable_of_sound {ts : List Token} (hsound : ∀ t ∈ ts, Token.Sound t)
    {e : SyntaxError} :
    (∀ pos, ofTokensFrom pos ts = .error e → e.fault.isUnreadable = false) ∧
      ∀ pos, tailOfTokens pos ts = .error e → e.fault.isUnreadable = false := by
  induction ts with
  | nil =>
    constructor
    · intro pos h
      cases h
      rfl
    · intro pos h
      cases h
  | cons t rest ih =>
    obtain ⟨ht, hrest⟩ := List.forall_mem_cons.mp hsound
    obtain ⟨hformula, htail⟩ := ih hrest
    constructor
    · intro pos h
      cases hatom : t.atom pos with
      | error e' =>
        rw [ofTokensFrom_of_error hatom] at h
        cases h
        exact ht.isUnreadable_of_atom hatom
      | ok a =>
        rw [ofTokensFrom_of_ok hatom, map_eq_error_iff] at h
        exact htail _ h
    · intro pos h
      cases hsign : t.kind.sign? with
      | none =>
        rw [tailOfTokens_of_none hsign] at h
        cases h
        exact Token.isUnreadable_misplaced ..
      | some g =>
        rw [tailOfTokens_of_some hsign, map_eq_error_iff] at h
        exact hformula _ h

variable {s : String}

theorem isUnreadable_of_ofText {e : SyntaxError} (h : ofText s = .error e) :
    e.fault.isUnreadable = false := by
  rw [ofText, ofTokens_eq_ofTokensFrom] at h
  exact (isUnreadable_of_sound Token.sound_of_mem_scan).1 0 h

end Formula

/-! ### Ways to prepare a formula -/

namespace Prepared

variable {e : BuildError}

theorem isUnreadable_of_ofText {s : String} (h : ofText s = .error e) :
    e.isUnreadable = false := by
  rw [ofText] at h
  split at h
  · cases h
    rfl
  · split at h
    · rename_i source hread
      cases h
      exact Formula.isUnreadable_of_ofText hread
    · split at h
      · cases h
        rfl
      · cases h

theorem isUnreadable_of_ofText? {input : Option String} (h : ofText? input = .error e) :
    e.isUnreadable = false := by
  cases input with
  | none =>
    cases h
    rfl
  | some s => exact isUnreadable_of_ofText h

theorem isUnreadable_of_ofJson {json : Json} (h : ofJson json = .error e) :
    e.isUnreadable = false := by
  cases json with
  | text s => exact isUnreadable_of_ofText h
  | _ =>
    cases h
    rfl

end Prepared

namespace Formula

/-- **What is recognised as a literal can be read.** Every token of a literal's kind in a text is read
as a number or as a group of dice, and so no error that comes of reading the text says otherwise,
whether blanks count or not. Neither does any error that comes of preparing a formula. -/
theorem recognised_literals_are_read (s : String) :
    (∀ t ∈ Token.scan s.toList,
      (t.kind = .integer → ∃ n, Numeral.read t.lexeme = .ok n) ∧
        (t.kind = .dice → ∃ d, Dice.ofChars t.lexeme = .ok d)) ∧
      (∀ e, ofText s = .error e → e.fault.isUnreadable = false) ∧
      (∀ e, ofSpacedText s = .error e → e.fault.isUnreadable = false) ∧
      (∀ (σ : Type) (source : σ) (e : BuildError), Session.ofText s source = .error e →
        e.isUnreadable = false) ∧
      (∀ (input : Option String) (e : BuildError), Prepared.ofText? input = .error e →
        e.isUnreadable = false) ∧
      ∀ (json : Json) (e : BuildError), Prepared.ofJson json = .error e →
        e.isUnreadable = false := by
  refine ⟨fun t ht => (Token.sound_of_mem_scan t ht).exists_read,
    fun e h => isUnreadable_of_ofText h, fun e h => isUnreadable_of_ofText h,
    fun σ source e h => ?_, fun input e h => Prepared.isUnreadable_of_ofText? h,
    fun json e h => Prepared.isUnreadable_of_ofJson h⟩
  rw [Session.ofText, map_eq_error_iff] at h
  exact Prepared.isUnreadable_of_ofText h

/-- A constant and a dice literal in a text that is no formula, because of the error token between
them. -/
theorem recognised_literals_are_read_around_error :
    (∃ n, Numeral.read "20".toList = .ok n) ∧ (∃ d, Dice.ofChars "3D%".toList = .ok d) ∧
      ofSpacedText "20 + 1d0 - 3D%" = .error ⟨.invalidToken, 3, 6, "1d0"⟩ ∧
      SyntaxFault.invalidToken.isUnreadable = false ∧
      (BuildError.invalidFormula "20 + 1d0 - 3D%" ⟨.invalidToken, 3, 6, "1d0"⟩).isUnreadable =
        false := by
  obtain ⟨htokens, _⟩ := recognised_literals_are_read "20+1d0-3D%"
  obtain ⟨_, _, hspaced, hsession, _⟩ := recognised_literals_are_read "20 + 1d0 - 3D%"
  have hread : ofSpacedText "20 + 1d0 - 3D%" = .error ⟨.invalidToken, 3, 6, "1d0"⟩ :=
    (agree_eq_true_iff _ _).mp (by decide +kernel)
  have hstart : Session.ofText "20 + 1d0 - 3D%" (⟨3, 1, 0⟩ : Cycle) =
      .error (.invalidFormula "20 + 1d0 - 3D%" ⟨.invalidToken, 3, 6, "1d0"⟩) := by
    rw [Session.ofText, Prepared.ofText, hread]
    rfl
  exact ⟨(htokens ⟨.integer, "20".toList⟩ (by decide +kernel)).1 rfl,
    (htokens ⟨.dice, "3D%".toList⟩ (by decide +kernel)).2 rfl, hread, hspaced _ hread,
    hsession Cycle ⟨3, 1, 0⟩ _ hstart⟩

end Formula

end DiceFormula
