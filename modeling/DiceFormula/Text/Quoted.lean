import DiceFormula.Text.Unprintable

/-!
# Quoted text

A message shows a piece of input between double quotes, so that its ends and every character in
it can be seen. Quotes and backslashes are preceded by a backslash, four common controls have a
letter or digit after a backslash, and any other unprintable character is given by its code
point in hexadecimal.

## Main definitions

* `Text.escapeChar` — one character as it stands between the quotes
* `Text.quoted` — a text between quotes
-/

namespace DiceFormula.Text

/-- The hexadecimal digits of a number, in lower case and without leading zeros. -/
def hexDigits (n : Nat) : List Char := Nat.toDigits 16 n

/-- One character as it stands between the quotes. -/
def escapeChar (c : Char) : List Char :=
  if c = '\x00' then ['\\', '0']
  else if c = '\t' then ['\\', 't']
  else if c = '\n' then ['\\', 'n']
  else if c = '\r' then ['\\', 'r']
  else if c = '"' then ['\\', '"']
  else if c = '\\' then ['\\', '\\']
  else if isUnprintable c then ['\\', 'u', '{'] ++ hexDigits c.toNat ++ ['}']
  else [c]

/-- The characters of a text between quotes. -/
def quotedChars (cs : List Char) : List Char := '"' :: cs.flatMap escapeChar ++ ['"']

/-- A text between double quotes, with every unprintable character spelled out. -/
def quoted (s : String) : String := String.ofList (quotedChars s.toList)

end DiceFormula.Text
