import DiceFormula.Console
import DiceFormula.Source.Words

/-!
# The console program

Reads lines from the standard input until it ends, and answers each of them as soon as it is
complete. Every line is rolled from a freshly seeded source.
-/

namespace DiceFormula.Console

/-- A source with a seed from the system's randomness. -/
def freshSource : IO Words := do
  let bytes ← IO.getRandomBytes 8
  return Words.ofSeed (bytes.foldl (fun seed byte => seed * 256 + byte.toUInt64) 0)

/-- Writes a reply, and then the prompt. -/
def respond (answer : Reply) : IO Unit := do
  let output ← IO.getStdout
  output.putStr answer.output
  (← IO.getStderr).putStr answer.errors
  output.putStr prompt
  output.flush

/-- Answers lines until the input ends or an overflow puts an end to the run. -/
partial def serve (input : IO.FS.Stream) : IO UInt32 := do
  let text ← input.getLine
  if text.isEmpty then return 0
  for line in lines text do
    match reply (← freshSource) line with
    | .ok answer => respond answer
    | .error operation =>
      (← IO.getStderr).putStrLn operation.message
      return overflowCode
  serve input

end DiceFormula.Console

/-- Runs the console. -/
def main : IO UInt32 := do
  DiceFormula.Console.respond .none
  DiceFormula.Console.serve (← IO.getStdin)
