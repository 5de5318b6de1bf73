import DiceFormula.Agreement
import DiceFormula.Formula
import DiceFormula.Formula.Error
import DiceFormula.Text.Blank

/-!
# Reading a formula

The tokens of a formula alternate: a constant or dice literal, an operator, a constant or dice
literal, and so on. They start with a literal and end with one. Reading goes from left to right
and stops at the first token that breaks this pattern.

## Main definitions

* `Token.atom` — what a token stands for where a constant or dice literal is needed
* `Formula.tailOfTokens`, `Formula.ofTokens` — reading the tokens of a formula
* `Formula.ofText` — reading a text as it is
* `Formula.ofSpacedText` — reading a text without regard to its blanks
* `Formula.sameReading` — whether two texts read alike

## Main results

* `Formula.ofSpacedText_eq_ofText` — blanks make no difference where there are none
-/

namespace DiceFormula

namespace Token

/-- The error of a token that does not fit where one of the kinds `expected` is needed. -/
def misplaced (pos : Nat) (expected : List TokenKind) (t : Token) : SyntaxError where
  fault := if t.kind = .error then .invalidToken else .unexpectedToken t.kind expected
  start := pos
  stop := pos + t.size
  slice := String.ofList t.lexeme

/-- The error of a text that ends where a token is needed. -/
def missing (pos : Nat) (expected : List TokenKind) : SyntaxError where
  fault := .unexpectedEnd expected
  start := pos
  stop := pos
  slice := ""

/-- The error of a literal that cannot be read. -/
def unreadable (pos : Nat) (fault : SyntaxFault) (t : Token) : SyntaxError where
  fault := fault
  start := pos
  stop := pos + t.size
  slice := String.ofList t.lexeme

/-- The kinds of tokens that a term can start with. -/
def literalKinds : List TokenKind := [.integer, .dice]

/-- The kinds of tokens that can stand between terms. -/
def operatorKinds : List TokenKind := [.plus, .minus]

/-- The constant or group of dice that the token at position `pos` stands for. -/
def atom (pos : Nat) (t : Token) : Except SyntaxError Atom :=
  match t.kind with
  | .integer =>
    match Numeral.read t.lexeme with
    | .ok n => .ok (.constant n)
    | .error reason => .error (t.unreadable pos (.invalidConstant reason))
  | .dice =>
    match Dice.ofChars t.lexeme with
    | .ok d => .ok (.dice d)
    | .error reason => .error (t.unreadable pos (.invalidDice reason))
  | .plus | .minus | .error => .error (t.misplaced pos literalKinds)

end Token

namespace Formula

/-- Reads the terms after the first one, from tokens of which the first starts at `pos`. -/
def tailOfTokens (pos : Nat) : List Token → Except SyntaxError (List Term)
  | [] => .ok []
  | operator :: rest =>
    match operator.kind.sign? with
    | none => .error (operator.misplaced pos Token.operatorKinds)
    | some sign =>
      match rest with
      | [] => .error (Token.missing (pos + operator.size) Token.literalKinds)
      | literal :: rest => do
        let atom ← literal.atom (pos + operator.size)
        let terms ← tailOfTokens (pos + operator.size + literal.size) rest
        return ⟨sign, atom⟩ :: terms

/-- Reads a formula from its tokens. -/
def ofTokens : List Token → Except SyntaxError Formula
  | [] => .error (Token.missing 0 Token.literalKinds)
  | literal :: rest => do
    let head ← literal.atom 0
    let tail ← tailOfTokens literal.size rest
    return ⟨head, tail⟩

/-- Reads a formula from a text in which every character counts. -/
def ofText (s : String) : Except SyntaxError Formula := ofTokens (Token.scan s.toList)

/-- Reads a formula from a text in which blanks count for nothing. Positions in an error refer to
the text without its blanks. -/
def ofSpacedText (s : String) : Except SyntaxError Formula := ofText (Text.strip s)

/-- Whether two texts read alike: as the same formula, or with the same error. -/
def sameReading (a b : String) : Bool := agree (ofSpacedText a) (ofSpacedText b)

theorem ofSpacedText_eq_ofText {s : String} (h : Text.strip s = s) : ofSpacedText s = ofText s := by
  rw [ofSpacedText, h]

end Formula

end DiceFormula
