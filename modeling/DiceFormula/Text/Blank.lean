/-!
# Blank characters

A formula may be written with blanks anywhere in it, also inside a number: blanks separate
nothing and mean nothing. Which characters are blank is fixed by the `White_Space` property of
the Unicode standard, and no line or paragraph structure is read into them.

## Main definitions

* `Text.inRanges` — membership of a code point in a table of closed ranges
* `Text.isBlank` — the characters with the property `White_Space`
* `Text.strip` — a text without its blank characters
* `Text.trim` — a text without the blanks at its beginning and at its end

## Main results

* `Text.strip_append`, `Text.strip_strip` — stripping works character by character
* `Text.trim_eq_empty_iff` — trimming and stripping leave nothing of the same texts
-/

namespace DiceFormula.Text

/-- Whether `n` lies in one of the closed ranges of a table. -/
def inRanges (table : List (Nat × Nat)) (n : Nat) : Bool :=
  table.any fun range => range.1 ≤ n && n ≤ range.2

/-- The code points with the property `White_Space`, as closed ranges in ascending order. -/
def blankRanges : List (Nat × Nat) :=
  [(0x09, 0x0d), (0x20, 0x20), (0x85, 0x85), (0xa0, 0xa0), (0x1680, 0x1680), (0x2000, 0x200a),
    (0x2028, 0x2029), (0x202f, 0x202f), (0x205f, 0x205f), (0x3000, 0x3000)]

/-- Whether a character is blank. -/
def isBlank (c : Char) : Bool := inRanges blankRanges c.toNat

/-- The characters of a text that are not blank, in order. -/
def stripChars (cs : List Char) : List Char := cs.filter fun c => !isBlank c

/-- A text without its blank characters. -/
def strip (s : String) : String := String.ofList (stripChars s.toList)

/-- The characters of a text from the first that is not blank to the last. -/
def trimChars (cs : List Char) : List Char :=
  ((cs.dropWhile isBlank).reverse.dropWhile isBlank).reverse

/-- A text without the blank characters at its beginning and at its end. -/
def trim (s : String) : String := String.ofList (trimChars s.toList)

@[simp]
theorem toList_strip (s : String) : (strip s).toList = stripChars s.toList := by
  simp [strip]

theorem stripChars_cons_of_isBlank {c : Char} (h : isBlank c = true) (cs : List Char) :
    stripChars (c :: cs) = stripChars cs := by
  simp [stripChars, h]

theorem stripChars_cons_of_not_isBlank {c : Char} (h : ¬ isBlank c = true) (cs : List Char) :
    stripChars (c :: cs) = c :: stripChars cs := by
  simp [stripChars, h]

@[simp]
theorem stripChars_append (as bs : List Char) :
    stripChars (as ++ bs) = stripChars as ++ stripChars bs := by
  simp [stripChars]

@[simp]
theorem stripChars_stripChars (cs : List Char) : stripChars (stripChars cs) = stripChars cs := by
  simp [stripChars]

theorem strip_append (s t : String) : strip (s ++ t) = strip s ++ strip t :=
  String.toList_inj.1 (by simp)

theorem strip_strip (s : String) : strip (strip s) = strip s :=
  String.toList_inj.1 (by simp)

/-- Stripping leaves exactly the texts without blanks as they are. -/
theorem strip_eq_self_iff {s : String} : strip s = s ↔ ∀ c ∈ s.toList, isBlank c = false := by
  rw [← String.toList_inj]
  simp [stripChars, List.filter_eq_self]

theorem stripChars_reverse (cs : List Char) : stripChars cs.reverse = (stripChars cs).reverse :=
  List.filter_reverse

/-- It makes no difference to stripping whether the blanks at the beginning are dropped first. -/
theorem stripChars_dropWhile_isBlank (cs : List Char) :
    stripChars (cs.dropWhile isBlank) = stripChars cs := by
  induction cs with
  | nil => rfl
  | cons c cs ih =>
    by_cases h : isBlank c = true
    · rw [List.dropWhile_cons_of_pos h, ih, stripChars_cons_of_isBlank h]
    · rw [List.dropWhile_cons_of_neg h]

/-- If nothing is left without the blanks at the beginning, there is nothing else. -/
theorem dropWhile_isBlank_eq_nil_iff {cs : List Char} :
    cs.dropWhile isBlank = [] ↔ stripChars cs = [] := by
  induction cs with
  | nil => simp [stripChars]
  | cons c cs ih =>
    by_cases h : isBlank c = true
    · rw [List.dropWhile_cons_of_pos h, ih, stripChars_cons_of_isBlank h]
    · rw [List.dropWhile_cons_of_neg h, stripChars_cons_of_not_isBlank h]
      simp

/-- Trimming and stripping leave nothing of the same texts. -/
theorem trim_eq_empty_iff {s : String} : trim s = "" ↔ strip s = "" := by
  rw [← String.toList_inj, ← String.toList_inj, toList_strip, trim, trimChars, String.toList_ofList,
    String.toList_empty, List.reverse_eq_nil_iff, dropWhile_isBlank_eq_nil_iff, stripChars_reverse,
    List.reverse_eq_nil_iff, stripChars_dropWhile_isBlank]

end DiceFormula.Text
