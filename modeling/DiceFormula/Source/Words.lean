import DiceFormula.Source.Congruential
import DiceFormula.Source.WordSource

/-!
# A list of words and a generator after it

The words of a list are drawn first. When there are none left, a linear congruential generator
supplies the others, so the source is live whatever its list rejects.

## Main definitions

* `Words` — the words still to come, the state of the generator, and how many words were drawn
* `Words.next` — one word
* `Words.ofSeed` — the generator alone, started from a seed

## Main results

* `Words.exists_wordAt_eq_zero` — the word zero comes up, from every state
-/

namespace DiceFormula

/-- A source of words: a list, and a generator for when the list is used up. -/
structure Words where
  /-- The words to be drawn first. -/
  listed : List UInt32
  /-- The state of the generator. -/
  state : UInt64
  /-- How many words have been drawn. -/
  drawn : Nat := 0
deriving DecidableEq

namespace Words

/-- The generator alone, started from a seed. -/
def ofSeed (seed : UInt64) : Words := ⟨[], seed, 0⟩

/-- Draws one word. -/
def next (s : Words) : UInt32 × Words :=
  match s.listed with
  | word :: rest => (word, { s with listed := rest, drawn := s.drawn + 1 })
  | [] =>
    let state := Congruential.advance s.state
    (Congruential.word state, { s with state := state, drawn := s.drawn + 1 })

instance : WordSource Words where
  next := next

private theorem next_nil (state : UInt64) (drawn : Nat) :
    WordSource.next (⟨[], state, drawn⟩ : Words) =
      (Congruential.word (Congruential.advance state),
        ⟨[], Congruential.advance state, drawn + 1⟩) := rfl

private theorem wordAt_nil (k : Nat) (state : UInt64) (drawn : Nat) :
    WordSource.wordAt k (⟨[], state, drawn⟩ : Words) =
      Congruential.word
        (Congruential.times Congruential.advance k (Congruential.advance state)) := by
  induction k generalizing state drawn with
  | zero => rw [WordSource.wordAt_zero, next_nil, Congruential.times]
  | succ k ih => rw [WordSource.wordAt_succ, next_nil, ih, Congruential.times]

/-- The word zero comes up sooner or later. -/
theorem exists_wordAt_eq_zero (s : Words) : ∃ k, WordSource.wordAt k s = 0 := by
  obtain ⟨listed, state, drawn⟩ := s
  induction listed generalizing drawn with
  | nil =>
    obtain ⟨k, h⟩ := Congruential.exists_times_advance_eq_zero (Congruential.advance state)
    exact ⟨k, by rw [wordAt_nil, h]; rfl⟩
  | cons word rest ih =>
    obtain ⟨k, h⟩ := ih (drawn + 1)
    exact ⟨k + 1, h⟩

instance : LiveWordSource Words where
  exists_accepted mode n s := by
    obtain ⟨k, h⟩ := exists_wordAt_eq_zero s
    exact ⟨k, by rw [h, DrawMode.face?_zero]; rfl⟩

end Words

end DiceFormula
