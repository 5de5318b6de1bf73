import DiceFormula.Journal
import DiceFormula.Json.Codec
import DiceFormula.Main
import DiceFormula.Proofs.Additivity
import DiceFormula.Proofs.Blanks
import DiceFormula.Proofs.Concatenation
import DiceFormula.Proofs.DiceLiterals
import DiceFormula.Proofs.Fairness
import DiceFormula.Proofs.FlatRuns
import DiceFormula.Proofs.Grammar
import DiceFormula.Proofs.Legible
import DiceFormula.Proofs.Operators
import DiceFormula.Proofs.Percent
import DiceFormula.Proofs.Splitting
import DiceFormula.Proofs.Storage
import DiceFormula.Proofs.TermOverflow
import DiceFormula.Proofs.Tiling
import DiceFormula.Proofs.Transcripts
import DiceFormula.Proofs.WrittenDice
import DiceFormula.Survey
