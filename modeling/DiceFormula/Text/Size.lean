/-!
# The size of a text

Positions in a text are counted in bytes of its UTF-8 encoding, where a character takes one to
four of them.

## Main definitions

* `Text.byteSize` — the size of a sequence of characters

## Main results

* `Text.byteSize_append` — sizes add up
* `Text.byteSize_toList` — the size of a text is the one the core library knows
* `Text.byteSize_pos` — a text that is not empty takes some bytes
-/

namespace DiceFormula.Text

/-- The number of bytes that a sequence of characters takes in UTF-8. -/
def byteSize : List Char → Nat
  | [] => 0
  | c :: rest => c.utf8Size + byteSize rest

@[simp]
theorem byteSize_nil : byteSize [] = 0 := rfl

@[simp]
theorem byteSize_cons (c : Char) (cs : List Char) :
    byteSize (c :: cs) = c.utf8Size + byteSize cs := rfl

@[simp]
theorem byteSize_append (as bs : List Char) :
    byteSize (as ++ bs) = byteSize as + byteSize bs := by
  induction as with
  | nil => simp
  | cons c as ih => simp [ih, Nat.add_assoc]

theorem byteSize_ofList (cs : List Char) : byteSize cs = (String.ofList cs).utf8ByteSize := by
  induction cs with
  | nil => simp
  | cons c cs ih => simp [ih, String.ofList_cons, String.utf8ByteSize_append]

theorem byteSize_toList (s : String) : byteSize s.toList = s.utf8ByteSize := by
  rw [byteSize_ofList, String.ofList_toList]

theorem byteSize_pos {cs : List Char} (h : cs ≠ []) : 0 < byteSize cs := by
  cases cs with
  | nil => exact absurd rfl h
  | cons c cs => exact Nat.lt_of_lt_of_le c.utf8Size_pos (Nat.le_add_right ..)

end DiceFormula.Text
