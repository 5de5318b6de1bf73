import DiceFormula.Prepared
import DiceFormula.Rolling
import DiceFormula.Text.Blank

/-!
# The console

The console reads lines and rolls the formula on each of them. A prompt stands at the beginning
and again after every line. A formula is answered with its text, its bounds and a roll, any other
line with an error, and a line of blanks with nothing. An overflow is no answer: it puts an end to
the run, and the exit code tells so.

## Main definitions

* `Console.lines` — the lines of a text
* `Console.Reply`, `Console.reply` — what one line is answered with
* `Console.Run`, `Console.Run.exitCode` — what has been written, and how the run ended
* `Console.transcript` — the run on a whole text
-/

namespace DiceFormula.Console

/-- What stands at the beginning and after every line. -/
def prompt : String := "> "

/-! ### Lines -/

/-- Drops a carriage return from the end of a line, whose last character comes first. -/
def dropReturn : List Char → List Char
  | '\r' :: rest => rest
  | cs => cs

/-- The lines of a text, where `reversed` holds the line so far, last character first. A line ends
with a newline, and a carriage return in front of the newline belongs to the line's end. What
follows the last newline is a line if it is not empty. -/
def linesFrom (reversed : List Char) : List Char → List String
  | [] => if reversed.isEmpty then [] else [String.ofList reversed.reverse]
  | c :: rest =>
    if c = '\n' then String.ofList (dropReturn reversed).reverse :: linesFrom [] rest
    else linesFrom (c :: reversed) rest

/-- The lines of a text. -/
def lines (s : String) : List String := linesFrom [] s.toList

/-! ### Replies -/

/-- What is written in answer to a line. -/
structure Reply where
  /-- On the standard output. -/
  output : String
  /-- On the standard error output. -/
  errors : String
deriving DecidableEq

namespace Reply

/-- Nothing is written. -/
def none : Reply := ⟨"", ""⟩

/-- Two replies, one after the other. -/
def append (a b : Reply) : Reply := ⟨a.output ++ b.output, a.errors ++ b.errors⟩

/-- A line on the standard output. -/
def line (s : String) : Reply := ⟨s ++ "\n", ""⟩

/-- A line on the standard error output. -/
def failure (message : String) : Reply := ⟨"", "Error: " ++ message ++ "\n"⟩

end Reply

/-- How a roll of a prepared formula is shown. -/
def report (p : Prepared) (o : Outcome) : String :=
  p.formula.text ++ " (" ++ p.low.text ++ "..=" ++ p.high.text ++ ") = " ++ o.text

/-- The answer to a line, with a source to roll from. -/
def reply {σ : Type} [FaceSource σ] (source : σ) (line : String) : Except Overflow Reply :=
  if (Text.trim line).isEmpty then .ok .none
  else
    match Prepared.ofText line with
    | .error (.overflow operation) => .error operation
    | .error e => .ok (.failure e.message)
    | .ok p => (p.formula.roll source).map fun rolled => .line (report p rolled.1)

/-! ### Runs -/

/-- What a run of the console leaves behind. -/
structure Run where
  /-- What has been written. -/
  written : Reply
  /-- The operation that put an end to the run, if one overflowed. The report of an overflow is no
  answer, and is left out of what has been written. -/
  overflow? : Option Overflow
deriving DecidableEq

/-- The exit code of a run that an overflow puts an end to. -/
def overflowCode : UInt32 := 101

/-- The exit code of a run. -/
def Run.exitCode (r : Run) : UInt32 := if r.overflow?.isSome then overflowCode else 0

/-- The answers to lines, each followed by a prompt, behind what is already written. Every line
has a source of its own, which depends on its number. -/
def replyAll {σ : Type} [FaceSource σ] (sourceOf : Nat → σ) (written : Reply) (number : Nat) :
    List String → Run
  | [] => ⟨written, none⟩
  | line :: rest =>
    match reply (sourceOf number) line with
    | .error operation => ⟨written, some operation⟩
    | .ok answer =>
      replyAll sourceOf (written.append (answer.append ⟨prompt, ""⟩)) (number + 1) rest

/-- The run on a whole text. -/
def transcript {σ : Type} [FaceSource σ] (sourceOf : Nat → σ) (input : String) : Run :=
  replyAll sourceOf ⟨prompt, ""⟩ 0 (lines input)

end DiceFormula.Console
