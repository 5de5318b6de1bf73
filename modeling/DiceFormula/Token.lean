import DiceFormula.Dice
import DiceFormula.Sign

/-!
# Tokens

The text of a formula is cut into tokens: integers, dice literals, the two operators, and errors.
At each position the longest spelling wins.

* Digits, a marker and then either a percent sign or more digits are one token, a dice literal if
  it reads as one. The digits in front of the marker may be absent.
* Otherwise a run of digits is one token. It is an integer if it has at most eight digits and no
  marker comes right after it.
* A plus or minus sign is an operator.
* Any other character is an error on its own.

A spelling that fails its condition is an error as a whole.

## Main definitions

* `TokenKind`, `Token` — a kind and the characters it covers
* `Token.start` — the token at the start of a text, and what follows it
* `Token.scan` — all the tokens of a text
* `Token.located` — the tokens with the positions where they start

## Main results

* `Token.lexeme_start_append` — a token and what follows it are the text
* `Token.flatMap_lexeme_scan` — the tokens of a text, put together, are the text
-/

namespace DiceFormula

/-- The kinds of tokens. -/
inductive TokenKind
  /-- A constant. -/
  | integer
  /-- A dice literal. -/
  | dice
  /-- The plus sign. -/
  | plus
  /-- The minus sign. -/
  | minus
  /-- Anything else. -/
  | error
deriving DecidableEq

namespace TokenKind

/-- How messages refer to a kind of token. -/
def text : TokenKind → String
  | .integer => "<integer>"
  | .dice => "<dice>"
  | .plus => "'+'"
  | .minus => "'-'"
  | .error => "<error>"

/-- The sign that an operator gives to the term after it. -/
def sign? : TokenKind → Option Sign
  | .plus => some .pos
  | .minus => some .neg
  | _ => none

end TokenKind

/-- A piece of a formula's text. -/
structure Token where
  /-- What the piece is. -/
  kind : TokenKind
  /-- The characters it covers. -/
  lexeme : List Char
deriving DecidableEq

namespace Token

/-! ### The longest spelling at the start of a text -/

/-- The digits at the start of a text. -/
def leadingDigits (cs : List Char) : List Char := cs.takeWhile Char.isDigit

/-- A text without the digits at its start. -/
def afterDigits (cs : List Char) : List Char := cs.dropWhile Char.isDigit

/-- The sides at the start of a text, a percent sign or digits, and what follows them. -/
def leadingSides : List Char → List Char × List Char
  | '%' :: rest => (['%'], rest)
  | cs => (leadingDigits cs, afterDigits cs)

/-- The spelling of a dice literal at the start of a text, and what follows it. -/
def diceSpelling? (cs : List Char) : Option (List Char × List Char) :=
  match afterDigits cs with
  | [] => none
  | marker :: rest =>
    let sides := leadingSides rest
    if Dice.isMarker marker && !sides.1.isEmpty then
      some (leadingDigits cs ++ marker :: sides.1, sides.2)
    else none

/-- The largest number of digits of a constant. -/
def maxConstantDigits : Nat := 8

/-- Whether a run of digits with this text after it is a constant. A marker right after the
digits would make them the number of dice of a literal. -/
def isConstant (digits after : List Char) : Bool :=
  digits.length ≤ maxConstantDigits && !after.head?.any Dice.isMarker

/-- The kind of a character that starts neither a number nor a dice literal. -/
def symbolKind (c : Char) : TokenKind :=
  if c = '+' then .plus else if c = '-' then .minus else .error

/-- The token at the start of a text that begins with the character `c`, and what follows it. -/
def start (c : Char) (rest : List Char) : Token × List Char :=
  match diceSpelling? (c :: rest) with
  | some (lexeme, after) =>
    (⟨if (Dice.ofChars lexeme).isOk then .dice else .error, lexeme⟩, after)
  | none =>
    if c.isDigit then
      let digits := leadingDigits (c :: rest)
      let after := afterDigits (c :: rest)
      (⟨if isConstant digits after then .integer else .error, digits⟩, after)
    else (⟨symbolKind c, [c]⟩, rest)

theorem leadingDigits_append_afterDigits (cs : List Char) :
    leadingDigits cs ++ afterDigits cs = cs := List.takeWhile_append_dropWhile

theorem leadingSides_append (cs : List Char) :
    (leadingSides cs).1 ++ (leadingSides cs).2 = cs := by
  unfold leadingSides
  split
  · rfl
  · exact leadingDigits_append_afterDigits cs

theorem diceSpelling?_append {cs lexeme after : List Char}
    (h : diceSpelling? cs = some (lexeme, after)) : lexeme ++ after = cs ∧ lexeme ≠ [] := by
  unfold diceSpelling? at h
  split at h
  · cases h
  case h_2 marker rest eq =>
    dsimp only at h
    split at h
    · cases h
      refine ⟨?_, by simp⟩
      rw [List.append_assoc, List.cons_append, leadingSides_append, ← eq,
        leadingDigits_append_afterDigits]
    · cases h

/-- A token and what follows it are the text, and the token covers some of it. -/
theorem lexeme_start_append (c : Char) (rest : List Char) :
    (start c rest).1.lexeme ++ (start c rest).2 = c :: rest ∧ (start c rest).1.lexeme ≠ [] := by
  unfold start
  split
  case h_1 lexeme after eq => exact diceSpelling?_append eq
  case h_2 =>
    split
    case isTrue digit =>
      exact ⟨leadingDigits_append_afterDigits _, by simp [leadingDigits, digit]⟩
    case isFalse => simp

theorem length_start_lt (c : Char) (rest : List Char) :
    (start c rest).2.length < (c :: rest).length := by
  obtain ⟨eq, ne⟩ := lexeme_start_append c rest
  have := List.length_pos_iff.2 ne
  rw [← eq, List.length_append]
  omega

/-! ### The tokens of a text -/

/-- Cuts a text into tokens. -/
def scan : List Char → List Token
  | [] => []
  | c :: rest => (start c rest).1 :: scan (start c rest).2
termination_by cs => cs.length
decreasing_by exact length_start_lt c rest

theorem flatMap_lexeme_scan (cs : List Char) : (scan cs).flatMap lexeme = cs := by
  fun_induction scan cs with
  | case1 => rfl
  | case2 c rest ih => rw [List.flatMap_cons, ih, (lexeme_start_append c rest).1]

theorem lexeme_ne_nil_of_mem_scan (cs : List Char) : ∀ t ∈ scan cs, t.lexeme ≠ [] := by
  fun_induction scan cs with
  | case1 => simp
  | case2 c rest ih =>
    intro t ht
    rcases List.mem_cons.mp ht with rfl | ht
    · exact (lexeme_start_append c rest).2
    · exact ih t ht

/-! ### Positions -/

/-- The number of bytes that a token covers. -/
def size (t : Token) : Nat := Text.byteSize t.lexeme

/-- Tokens with the positions where they start, when the first one starts at `pos`. -/
def located (pos : Nat) : List Token → List (Nat × Token)
  | [] => []
  | t :: rest => (pos, t) :: located (pos + t.size) rest

theorem map_snd_located (pos : Nat) (ts : List Token) : (located pos ts).map Prod.snd = ts := by
  induction ts generalizing pos with
  | nil => rfl
  | cons t ts ih => rw [located, List.map_cons, ih]

end Token

end DiceFormula
