import DiceFormula.Formula.Reading
import DiceFormula.Proofs.Scan

/-!
# Reading from a position

The tokens of a formula may be read from any position, not only from the start of a text. A shift
of the position shifts an error and changes nothing else, so what is known about reading the
tokens of a text carries over to the same tokens further on in a longer one.

The second half is about two lists of tokens with an operator between them. What reading makes of
the whole is a function of what it makes of the two halves: they are joined if both can be read,
and otherwise the first error is the error, shifted if it lies in the second half. There is one
exception. Where the first half ends too early, there is no end any more but an operator.

## Main definitions

* `Token.totalSize` — the bytes that a list of tokens covers
* `Formula.ofTokensFrom` — reading tokens of which the first starts at a given position
* `SyntaxError.shift`, `SyntaxFault.isEnd` — errors further on, and errors at the end of a text
* `Formula.join` — one formula after another, with an operator between them

## Main results

* `Formula.ofTokensFrom_add` — reading further on
* `Formula.ofTokensFrom_append_cons` — reading two lists of tokens with an operator between them
-/

namespace DiceFormula

/-! ### Sizes -/

namespace Token

/-- The number of bytes that a list of tokens covers. -/
def totalSize (ts : List Token) : Nat := Text.byteSize (ts.flatMap lexeme)

@[simp] theorem totalSize_nil : totalSize [] = 0 := rfl

@[simp] theorem totalSize_cons (t : Token) (ts : List Token) :
    totalSize (t :: ts) = t.size + totalSize ts := by
  rw [totalSize, List.flatMap_cons, Text.byteSize_append, size, totalSize]

@[simp] theorem totalSize_scan (cs : List Char) : totalSize (scan cs) = Text.byteSize cs := by
  rw [totalSize, flatMap_lexeme_scan]

end Token

@[simp] theorem Sign.size_token (g : Sign) : g.token.size = 1 := by
  cases g <;> rfl

/-! ### Errors further on -/

/-- The same error, `d` bytes further on. -/
def SyntaxError.shift (d : Nat) (e : SyntaxError) : SyntaxError :=
  { e with start := d + e.start, stop := d + e.stop }

/-- Whether a text ended where a token was needed. -/
def SyntaxFault.isEnd : SyntaxFault → Bool
  | .unexpectedEnd _ => true
  | _ => false

namespace Token

theorem misplaced_add (d pos : Nat) (expected : List TokenKind) (t : Token) :
    misplaced (d + pos) expected t = (misplaced pos expected t).shift d := by
  simp [misplaced, SyntaxError.shift, Nat.add_assoc]

theorem atom_add (d pos : Nat) (t : Token) :
    t.atom (d + pos) = (t.atom pos).mapError (SyntaxError.shift d) := by
  have hunreadable (fault : SyntaxFault) :
      t.unreadable (d + pos) fault = (t.unreadable pos fault).shift d := by
    simp [unreadable, SyntaxError.shift, Nat.add_assoc]
  rw [atom, atom]
  split
  · cases Numeral.read t.lexeme with
    | ok n => rfl
    | error reason => exact congrArg Except.error (hunreadable _)
  · cases Dice.ofChars t.lexeme with
    | ok d => rfl
    | error reason => exact congrArg Except.error (hunreadable _)
  all_goals exact congrArg Except.error (misplaced_add d pos literalKinds t)

/-- The error of a token is not an error at the end of a text. -/
theorem isEnd_misplaced (pos : Nat) (expected : List TokenKind) (t : Token) :
    (t.misplaced pos expected).fault.isEnd = false := by
  simp only [misplaced]
  split <;> rfl

theorem isEnd_of_atom_eq_error {pos : Nat} {t : Token} {e : SyntaxError}
    (h : t.atom pos = .error e) : e.fault.isEnd = false := by
  rw [atom] at h
  split at h
  · cases hread : Numeral.read t.lexeme with
    | ok n => rw [hread] at h; cases h
    | error reason => rw [hread] at h; cases h; rfl
  · cases hread : Dice.ofChars t.lexeme with
    | ok d => rw [hread] at h; cases h
    | error reason => rw [hread] at h; cases h; rfl
  all_goals
    cases h
    exact isEnd_misplaced pos literalKinds t

/-- An operator is no literal. -/
theorem atom_of_sign? {t : Token} {g : Sign} (h : t.kind.sign? = some g) (pos : Nat) :
    t.atom pos = .error (t.misplaced pos literalKinds) := by
  have hkind := Sign.tokenKind_eq_of_sign? h
  cases g <;> simp only [atom, hkind, Sign.tokenKind]

/-- The token of a literal is read as what the literal stands for. -/
theorem atom_of_spelledBy {a : Atom} {cs : List Char} (h : a.SpelledBy cs) (pos : Nat) :
    atom pos ⟨a.tokenKind, cs⟩ = .ok a := by
  cases a with
  | constant n => simp only [atom, Atom.tokenKind, Numeral.read_of_spelledBy h]
  | dice d => simp only [atom, Atom.tokenKind, Dice.ofChars_of_spelledBy h]

/-- A sound token that is read as something is a literal of it. -/
theorem Sound.spelledBy {t : Token} (h : Sound t) {pos : Nat} {a : Atom}
    (hatom : t.atom pos = .ok a) : t.kind = a.tokenKind ∧ a.SpelledBy t.lexeme := by
  cases h with
  | literal hspelled =>
    rw [atom_of_spelledBy hspelled] at hatom
    cases hatom
    exact ⟨rfl, hspelled⟩
  | operator g => rw [atom_of_sign? (Sign.sign?_tokenKind g)] at hatom; cases hatom
  | error cs => cases hatom

/-- A sound token of an operator's kind is the operator. -/
theorem Sound.eq_token {t : Token} (h : Sound t) {g : Sign} (hsign : t.kind.sign? = some g) :
    t = g.token := by
  cases h with
  | @literal a cs hspelled => cases a <;> cases hsign
  | operator g' =>
    have heq : some g' = some g := (Sign.sign?_tokenKind g').symm.trans hsign
    cases heq
    rfl
  | error cs => cases hsign

end Token

/-! ### Reading further on -/

namespace Formula

/-- Reads a formula from tokens of which the first starts at `pos`. -/
def ofTokensFrom (pos : Nat) : List Token → Except SyntaxError Formula
  | [] => .error (Token.missing pos Token.literalKinds)
  | literal :: rest => do
    let head ← literal.atom pos
    let tail ← tailOfTokens (pos + literal.size) rest
    return ⟨head, tail⟩

theorem ofTokens_eq_ofTokensFrom (ts : List Token) : ofTokens ts = ofTokensFrom 0 ts := by
  cases ts with
  | nil => rfl
  | cons t rest => rw [ofTokens, ofTokensFrom, Nat.zero_add]

/-! What follows a literal, and what follows an operator: these equations are used in place of the
definitions. -/

theorem ofTokensFrom_of_error {pos : Nat} {t : Token} {e : SyntaxError} (h : t.atom pos = .error e)
    (rest : List Token) : ofTokensFrom pos (t :: rest) = .error e := by
  rw [ofTokensFrom, h]
  rfl

theorem ofTokensFrom_of_ok {pos : Nat} {t : Token} {a : Atom} (h : t.atom pos = .ok a)
    (rest : List Token) :
    ofTokensFrom pos (t :: rest) = (tailOfTokens (pos + t.size) rest).map fun ts => ⟨a, ts⟩ := by
  rw [ofTokensFrom, h]
  cases tailOfTokens (pos + t.size) rest <;> rfl

theorem tailOfTokens_of_none {t : Token} (h : t.kind.sign? = none) (pos : Nat)
    (rest : List Token) :
    tailOfTokens pos (t :: rest) = .error (t.misplaced pos Token.operatorKinds) := by
  rw [tailOfTokens.eq_def]
  simp only [h]

theorem tailOfTokens_of_some {t : Token} {g : Sign} (h : t.kind.sign? = some g) (pos : Nat)
    (rest : List Token) :
    tailOfTokens pos (t :: rest) =
      (ofTokensFrom (pos + t.size) rest).map fun f => ⟨g, f.head⟩ :: f.tail := by
  rw [tailOfTokens.eq_def]
  simp only [h]
  cases rest with
  | nil => rfl
  | cons u rest =>
    cases hatom : u.atom (pos + t.size) with
    | error e =>
      rw [ofTokensFrom_of_error hatom]
      simp only [hatom]
      rfl
    | ok a =>
      rw [ofTokensFrom_of_ok hatom]
      simp only [hatom]
      cases tailOfTokens (pos + t.size + u.size) rest <;> rfl

/-- It is enough that what follows a literal is read alike further on. -/
private theorem ofTokensFrom_cons_add {d pos : Nat} {t : Token} {rest : List Token}
    (h : tailOfTokens (d + (pos + t.size)) rest =
      (tailOfTokens (pos + t.size) rest).mapError (SyntaxError.shift d)) :
    ofTokensFrom (d + pos) (t :: rest) =
      (ofTokensFrom pos (t :: rest)).mapError (SyntaxError.shift d) := by
  have hatom := Token.atom_add d pos t
  cases ha : t.atom pos with
  | error e =>
    rw [ha] at hatom
    rw [ofTokensFrom_of_error ha, ofTokensFrom_of_error hatom]
    rfl
  | ok a =>
    rw [ha] at hatom
    rw [ofTokensFrom_of_ok ha, ofTokensFrom_of_ok hatom, Nat.add_assoc, h]
    cases tailOfTokens (pos + t.size) rest <;> rfl

/-- Reading the same tokens `d` bytes further on gives the same formula, or the same error there. -/
theorem ofTokensFrom_add (d : Nat) :
    ∀ (pos : Nat) (ts : List Token),
      ofTokensFrom (d + pos) ts = (ofTokensFrom pos ts).mapError (SyntaxError.shift d)
  | pos, [] => rfl
  | pos, [t] => ofTokensFrom_cons_add rfl
  | pos, t :: o :: ts => by
    refine ofTokensFrom_cons_add ?_
    cases hsign : o.kind.sign? with
    | none =>
      rw [tailOfTokens_of_none hsign, tailOfTokens_of_none hsign, Token.misplaced_add]
      rfl
    | some g =>
      rw [tailOfTokens_of_some hsign, tailOfTokens_of_some hsign, Nat.add_assoc,
        ofTokensFrom_add d (pos + t.size + o.size) ts]
      cases ofTokensFrom (pos + t.size + o.size) ts <;> rfl

/-! ### An operator between two lists of tokens -/

/-- One formula after another, with an operator between them. -/
def join (g : Sign) (f h : Formula) : Formula := ⟨f.head, f.tail ++ ⟨g, h.head⟩ :: h.tail⟩

theorem terms_join (g : Sign) (f h : Formula) :
    (join g f h).terms = f.terms ++ ⟨g, h.head⟩ :: h.tail := rfl

/-- What reading makes of two lists of tokens, the first of `n` bytes, with the operator `op`
between them, from what it makes of each. -/
def joinReadings (n : Nat) (op : Token) (g : Sign) (first second : Except SyntaxError Formula) :
    Except SyntaxError Formula :=
  match first with
  | .ok f => second.map (join g f)
  | .error e => .error (if e.fault.isEnd then op.misplaced n Token.literalKinds else e)

/-- **Reading two lists of tokens with an operator between them.** -/
theorem ofTokensFrom_append_cons {op : Token} {g : Sign} (hop : op.kind.sign? = some g) :
    ∀ (pos : Nat) (ts us : List Token),
      ofTokensFrom pos (ts ++ op :: us) =
        joinReadings (pos + Token.totalSize ts) op g (ofTokensFrom pos ts)
          (ofTokensFrom (pos + Token.totalSize ts + op.size) us)
  | pos, [], us => by
    rw [List.nil_append, ofTokensFrom_of_error (Token.atom_of_sign? hop pos)]
    rfl
  | pos, [t], us => by
    cases ha : t.atom pos with
    | error e =>
      have hend := Token.isEnd_of_atom_eq_error ha
      rw [List.singleton_append, ofTokensFrom_of_error ha, ofTokensFrom_of_error ha]
      simp [joinReadings, hend]
    | ok a =>
      rw [List.singleton_append, ofTokensFrom_of_ok ha, ofTokensFrom_of_ok ha,
        tailOfTokens_of_some hop]
      simp only [Token.totalSize_cons, Token.totalSize_nil, Nat.add_zero]
      cases ofTokensFrom (pos + t.size + op.size) us <;> rfl
  | pos, t :: o :: ts, us => by
    rw [List.cons_append, List.cons_append]
    cases ha : t.atom pos with
    | error e =>
      have hend := Token.isEnd_of_atom_eq_error ha
      rw [ofTokensFrom_of_error ha, ofTokensFrom_of_error ha]
      simp [joinReadings, hend]
    | ok a =>
      rw [ofTokensFrom_of_ok ha, ofTokensFrom_of_ok ha]
      cases hsign : o.kind.sign? with
      | none =>
        rw [tailOfTokens_of_none hsign, tailOfTokens_of_none hsign]
        simp [joinReadings, Except.map, Token.isEnd_misplaced]
      | some g' =>
        rw [tailOfTokens_of_some hsign, tailOfTokens_of_some hsign,
          ofTokensFrom_append_cons hop (pos + t.size + o.size) ts us]
        simp only [Token.totalSize_cons, ← Nat.add_assoc]
        cases ofTokensFrom (pos + t.size + o.size) ts with
        | error e => rfl
        | ok f => cases ofTokensFrom (pos + t.size + o.size + Token.totalSize ts + op.size) us <;> rfl

theorem map_eq_error_iff {ε α β : Type} {f : α → β} {x : Except ε α} {e : ε} :
    x.map f = .error e ↔ x = .error e := by
  cases x with
  | error e' => simp [Except.map]
  | ok a => simp [Except.map]

/-- An error further on is an error. -/
theorem mapError_eq_ok_iff {ε ε' α : Type} {f : ε → ε'} {x : Except ε α} {a : α} :
    x.mapError f = .ok a ↔ x = .ok a := by
  cases x with
  | error e => exact ⟨nofun, nofun⟩
  | ok b =>
    constructor
    · rintro ⟨⟩
      rfl
    · rintro ⟨⟩
      rfl

theorem joinReadings_eq_ok_iff {n : Nat} {op : Token} {g : Sign}
    {first second : Except SyntaxError Formula} {f : Formula} :
    joinReadings n op g first second = .ok f ↔
      ∃ f₁ f₂, first = .ok f₁ ∧ second = .ok f₂ ∧ join g f₁ f₂ = f := by
  cases first with
  | error e => simp [joinReadings]
  | ok f₁ => cases second <;> simp [joinReadings, Except.map]

/-- Reading the characters of two texts with an operator between them. -/
theorem ofTokens_scan_append (s t : List Char) (g : Sign) :
    ofTokens (Token.scan (s ++ g.symbol :: t)) =
      joinReadings (Text.byteSize s) g.token g (ofTokens (Token.scan s))
        ((ofTokens (Token.scan t)).mapError (SyntaxError.shift (Text.byteSize s + 1))) := by
  have hshift := ofTokensFrom_add (Text.byteSize s + 1) 0 (Token.scan t)
  rw [Nat.add_zero] at hshift
  rw [Token.scan_append_symbol, ofTokens_eq_ofTokensFrom,
    ofTokensFrom_append_cons (Sign.sign?_tokenKind g), Token.totalSize_scan, Nat.zero_add,
    Sign.size_token, hshift, ← ofTokens_eq_ofTokensFrom, ← ofTokens_eq_ofTokensFrom]

/-- A text with an operator in it is a formula if what stands before the operator and what stands
after it are. -/
theorem ofTokens_scan_append_eq_ok_iff {s t : List Char} {g : Sign} {f : Formula} :
    ofTokens (Token.scan (s ++ g.symbol :: t)) = .ok f ↔
      ∃ f₁ f₂, ofTokens (Token.scan s) = .ok f₁ ∧ ofTokens (Token.scan t) = .ok f₂ ∧
        join g f₁ f₂ = f := by
  simp only [ofTokens_scan_append, joinReadings_eq_ok_iff, mapError_eq_ok_iff]

end Formula

end DiceFormula
