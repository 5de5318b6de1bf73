import DiceFormula.Text.Quoted
import DiceFormula.Token

/-!
# Errors in the text of a formula

An error names the place where a text stops being a formula: the bytes of the offending token,
or the end of the text, together with what was wrong there.

## Main definitions

* `SyntaxFault`, `SyntaxFault.message` — what is wrong
* `SyntaxError`, `SyntaxError.message` — what is wrong, and where
-/

namespace DiceFormula

/-- What keeps a text from being a formula. -/
inductive SyntaxFault
  /-- A token of the wrong kind. -/
  | unexpectedToken (found : TokenKind) (expected : List TokenKind)
  /-- The end of the text where a token is needed. -/
  | unexpectedEnd (expected : List TokenKind)
  /-- Something that is neither a number, a dice literal nor an operator. -/
  | invalidToken
  /-- A constant that cannot be read. -/
  | invalidConstant (reason : NumeralError)
  /-- A dice literal that cannot be read. -/
  | invalidDice (reason : DiceError)
deriving DecidableEq

/-- Alternatives in a sentence: `a`, `a or b`, `a, b, or c`. -/
def TokenKind.alternatives : List TokenKind → String
  | [] => ""
  | [a] => a.text
  | [a, b] => a.text ++ " or " ++ b.text
  | a :: b :: c :: rest =>
    let kinds := a :: b :: c :: rest
    String.join (kinds.dropLast.map fun kind => kind.text ++ ", ") ++ "or " ++
      (kinds.getLast (List.cons_ne_nil _ _)).text

/-- The wording of a fault. -/
def SyntaxFault.message : SyntaxFault → String
  | .unexpectedToken found expected =>
    "unexpected token: found " ++ found.text ++ ", expected " ++ TokenKind.alternatives expected
  | .unexpectedEnd expected =>
    "unexpected end of input, expected " ++ TokenKind.alternatives expected
  | .invalidToken => "not a constant, dice literal or operator"
  | .invalidConstant reason => "invalid constant: " ++ reason.message
  | .invalidDice reason => "invalid dice literal: " ++ reason.message

/-- A fault with the place where it was found. -/
structure SyntaxError where
  /-- What is wrong. -/
  fault : SyntaxFault
  /-- The position of the first byte concerned. -/
  start : Nat
  /-- The position after the last byte concerned. -/
  stop : Nat
  /-- The text between the two positions. -/
  slice : String
deriving DecidableEq

/-- The wording of an error: its position, the offending text and the fault. -/
def SyntaxError.message (e : SyntaxError) : String :=
  "error at position " ++ Numeral.intText e.start ++ " (" ++ Text.quoted e.slice ++ "): " ++
    e.fault.message

end DiceFormula
