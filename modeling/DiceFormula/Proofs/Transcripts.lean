import DiceFormula.Console
import DiceFormula.Proofs.Capacity
import DiceFormula.Proofs.Independence
import DiceFormula.Proofs.SyntaxErrors
import Mathlib.Data.List.TakeWhile

/-!
# Transcripts of the console

Where every formula comes to the same total with every roll, the console leaves nothing to chance,
and what it writes can be told from its input alone. Every line has one answer. A formula is shown
on a line of the standard output, and a line that is neither blank nor a formula is complained about
on the standard error output. The two outputs are then put together from the answers, in order.

A run is complete if every line is answered. Only the bounds of a formula can put an end to it
before that, since a roll does not overflow where the bounds do not, and only those of a formula
that is longer than its capacity. The lines from there on are not answered.

The lines of a text are those of its beginning and those of the rest, if the beginning ends with a
newline. So a run on both is a run on the one followed by a run on the other.

## Main definitions

* `Prepared.soleOutcome` — what a formula rolls if its bounds coincide
* `Console.Settled` — lines whose formulas leave nothing to chance
* `Console.WithinCapacity` — lines whose formulas are not too long
* `Console.shown`, `Console.reported?` — what a line adds to the two outputs
* `Console.answered` — the lines in front of the first overflow
* `Console.foretold` — the run on a text, as it follows from its lines alone
* `Console.Complete` — runs in which every line is answered
* `Console.Handled` — what can be said of the answer to any line
* `Console.Joins` — one run after another

## Main results

* `Prepared.exists_roll_soleOutcome` — bounds that coincide leave one outcome
* `Formula.start_of_unexpectedEnd` — what is missing is missing at the end of the text
* `Console.lines_append` — the lines of two texts
* `Console.reply_eq` — a settled line has one answer
* `Console.handled` — blank lines and no others are skipped, and what is reported about the others
* `Console.replyAll_eq_foretoldAll`, `Console.foretoldAll_append` — what settled lines are answered
  with, and some lines after others
* `Console.transcript_as_foretold` — the transcript of a text whose lines are settled
* `Console.not_complete_beyond_capacity` — a formula that is too long ends the run
-/

namespace DiceFormula

/-! ### Formulas with one outcome -/

/-- What a formula comes to if its bounds coincide: every term has its least value. -/
def Prepared.soleOutcome (p : Prepared) : Outcome where
  total := p.low
  values := p.formula.terms.map fun t => Int64.ofInt t.least

/-- This is what such a formula rolls from any source. -/
theorem Prepared.exists_roll_soleOutcome {σ : Type} [FaceSource σ] [LawfulFaceSource σ]
    {p : Prepared} (h : p.low = p.high) (s : σ) :
    ∃ next, p.formula.roll s = .ok (p.soleOutcome, next) := by
  obtain ⟨o, next, hroll, hwithin⟩ := Formula.exists_roll p s
  obtain ⟨htotal, hvalues⟩ := eq_of_within h hwithin
  have hleast : o.values = p.formula.terms.map fun t => Int64.ofInt t.least := by
    rw [← List.forall₂_eq_eq_eq, List.forall₂_map_right_iff]
    refine hvalues.flip.imp fun v t hv => ?_
    rw [← (Term.low_eq_ok_iff.mp hv.1).2, Int64.ofInt_toInt]
  have ho : o = p.soleOutcome := by
    rw [soleOutcome, ← htotal, ← hleast]
  exact ⟨next, ho ▸ hroll⟩

/-! ### The end of a text -/

/-- A literal that is missing is missing at the end of the text. -/
theorem Formula.start_of_unexpectedEnd {s : String} {e : SyntaxError} {expected : List TokenKind}
    (h : ofText s = .error e) (hfault : e.fault = .unexpectedEnd expected) :
    e.start = s.utf8ByteSize := by
  have hdiagnosed : Diagnosed ofText s (ofText s) := diagnosed_ofText fun _ _ _ => ⟨rfl, rfl⟩
  rcases alternating_or_exists_firstMisfit s with halternating | ⟨k, hmisfit, hbefore⟩
  · obtain ⟨f, hf⟩ := hdiagnosed.isFormula_iff.mpr halternating
    rw [hf] at h
    cases h
  · obtain ⟨e', he', hlocates⟩ := hdiagnosed.locates k hmisfit hbefore
    rw [he', Except.error.injEq] at h
    rw [h] at hlocates
    exact (hlocates.atEnd ((hlocates.unexpectedEnd_iff expected).mp hfault).1).1

/-! ### Texts without a newline -/

theorem Text.notMem_intercalate {c : Char} {separator : String} {texts : List String}
    (hseparator : c ∉ separator.toList) (h : ∀ t ∈ texts, c ∉ t.toList) :
    c ∉ (separator.intercalate texts).toList := by
  induction texts with
  | nil => exact List.not_mem_nil
  | cons t rest ih =>
    obtain ⟨ht, hrest⟩ := List.forall_mem_cons.mp h
    cases rest with
    | nil => simpa using ht
    | cons u rest =>
      rw [String.intercalate_cons_cons]
      simp only [String.toList_append, List.mem_append, not_or]
      exact ⟨⟨ht, hseparator⟩, ih hrest⟩

theorem Amount.newline_notMem_text (v : Amount) : '\n' ∉ v.text.toList := by
  have hdigits (n : Nat) : '\n' ∉ Numeral.digits n := by
    intro h
    exact absurd (Numeral.isDigit_of_mem_digits h) (by decide)
  rw [Amount.text, Numeral.intText, String.toList_ofList]
  cases v.toInt with
  | ofNat n => exact hdigits n
  | negSucc n =>
    rw [Numeral.intDigits, List.mem_cons, not_or]
    exact ⟨by decide, hdigits (n + 1)⟩

theorem Outcome.newline_notMem_text (o : Outcome) : '\n' ∉ o.text.toList := by
  have hvalues : '\n' ∉ (", ".intercalate (o.values.map Amount.text)).toList := by
    refine Text.notMem_intercalate (by decide) ?_
    rw [List.forall_mem_map]
    intro v _
    exact v.newline_notMem_text
  rw [Outcome.text]
  simp only [String.toList_append, List.mem_append, not_or]
  exact ⟨⟨⟨o.total.newline_notMem_text, by decide⟩, hvalues⟩, by decide⟩

/-- A formula is written without blanks, and so on one line. -/
theorem Formula.newline_notMem_text {f : Formula} (h : f.Writable) : '\n' ∉ f.text.toList := by
  intro hmem
  have hblank := Text.strip_eq_self_iff.mp (strip_text h) _ hmem
  exact absurd hblank (by decide)

/-- The report on a formula that was read from a text takes one line. -/
theorem Console.newline_notMem_report {p : Prepared} (h : p.formula.Writable) (o : Outcome) :
    '\n' ∉ (report p o).toList := by
  simp only [report, String.toList_append, List.mem_append, not_or]
  exact ⟨⟨⟨⟨⟨⟨Formula.newline_notMem_text h, by decide⟩, p.low.newline_notMem_text⟩, by decide⟩,
    p.high.newline_notMem_text⟩, by decide⟩, o.newline_notMem_text⟩

namespace Console

/-! ### Lines -/

/-- A text that stops where a line ends. -/
def EndsLine (s : String) : Prop := s = "" ∨ ∃ t, s = t ++ "\n"

theorem linesFrom_append_newline (reversed cs rest : List Char) :
    linesFrom reversed (cs ++ '\n' :: rest) =
      linesFrom reversed (cs ++ ['\n']) ++ linesFrom [] rest := by
  -- The line so far is a variable of the induction. A newline leaves nothing of it.
  induction cs generalizing reversed with
  | nil => simp [linesFrom]
  | cons c cs ih =>
    rw [List.cons_append, List.cons_append, linesFrom, linesFrom]
    split
    · rw [ih, List.cons_append]
    · exact ih _

/-- The lines of two texts, one behind the other, are those of the one and those of the other. -/
theorem lines_append {a : String} (h : EndsLine a) (b : String) :
    lines (a ++ b) = lines a ++ lines b := by
  rcases h with rfl | ⟨t, rfl⟩
  · rw [String.empty_append]
    rfl
  · have hnewline : ("\n" : String).toList = ['\n'] := rfl
    rw [lines, lines, lines, String.toList_append, String.toList_append, hnewline,
      List.append_assoc, List.singleton_append, linesFrom_append_newline]

theorem linesFrom_of_newline_notMem (reversed : List Char) {cs : List Char} (h : '\n' ∉ cs)
    (hne : reversed.reverse ++ cs ≠ []) :
    linesFrom reversed cs = [String.ofList (reversed.reverse ++ cs)] := by
  induction cs generalizing reversed with
  | nil =>
    rw [List.append_nil, Ne, List.reverse_eq_nil_iff] at hne
    rw [linesFrom, List.append_nil, if_neg (by simpa using hne)]
  | cons c cs ih =>
    rw [List.mem_cons, not_or] at h
    have happend : (c :: reversed).reverse ++ cs = reversed.reverse ++ c :: cs := by simp
    rw [linesFrom, if_neg (Ne.symm h.1), ih _ h.2 (happend ▸ hne), happend]

/-- A text without a newline is a single line, if it is not empty. -/
theorem lines_of_newline_notMem {s : String} (h : '\n' ∉ s.toList) (hne : s ≠ "") :
    lines s = [s] := by
  have hchars : [].reverse ++ s.toList ≠ [] := by
    rwa [List.reverse_nil, List.nil_append, Ne, String.toList_eq_nil_iff]
  rw [lines, linesFrom_of_newline_notMem [] h hchars, List.reverse_nil, List.nil_append,
    String.ofList_toList]

/-! ### What a line is answered with -/

/-- A line whose formula, if there is one, comes to the same total with every roll. -/
def Settled (line : String) : Prop := ∀ p, Prepared.ofText line = .ok p → p.low = p.high

instance (line : String) : Decidable (Settled line) :=
  match h : Prepared.ofText line with
  | .ok p => decidable_of_iff (p.low = p.high) (by simp [Settled, h])
  | .error _ => .isTrue (by simp [Settled, h])

/-- A line whose formula, if there is one, is not longer than its capacity. -/
def WithinCapacity (line : String) : Prop :=
  ∀ f, Formula.ofSpacedText line = .ok f → f.terms.length ≤ Formula.capacity

/-- The operation that overflows where the bounds of the formula on a line are added up. -/
def overflow? (line : String) : Option Overflow :=
  match Prepared.ofText line with
  | .error (.overflow operation) => some operation
  | _ => none

/-- What a line adds to the standard output, in front of the next prompt: a formula with its bounds
and its outcome. -/
def shown (line : String) : String :=
  match Prepared.ofText line with
  | .ok p => report p p.soleOutcome ++ "\n"
  | .error _ => ""

/-- The error that is reported about a line: why it is no formula, unless it is blank. -/
def reported? (line : String) : Option BuildError :=
  match Prepared.ofText line with
  | .ok _ => none
  | .error e => if Text.strip line = "" then none else some e

/-- What a line adds to the standard error output. -/
def complaint (line : String) : String :=
  match reported? line with
  | none => ""
  | some e => "Error: " ++ e.message ++ "\n"

theorem overflow?_eq_some_iff {line : String} {operation : Overflow} :
    overflow? line = some operation ↔ Prepared.ofText line = .error (.overflow operation) := by
  unfold overflow?
  split
  case h_1 heq => rw [heq, Option.some.injEq, Except.error.injEq, BuildError.overflow.injEq]
  case h_2 hother => exact ⟨nofun, fun h => absurd h (hother operation)⟩

/-- The bounds of the formula on a line overflow only if it is longer than its capacity. -/
theorem overflow?_eq_none {line : String} (h : WithinCapacity line) : overflow? line = none := by
  rw [Option.eq_none_iff_forall_ne_some]
  intro operation hoverflow
  have hline := overflow?_eq_some_iff.mp hoverflow
  have hempty : line ≠ "" := by
    rintro rfl
    cases hline
  obtain ⟨_, _, heq⟩ | ⟨f, _, hread, hprepare, _⟩ :=
    (Prepared.ofText_eq_error_iff hempty).mp hline
  · cases heq
  · have hlong : Formula.capacity < f.terms.length :=
      Formula.capacity_lt_of_prepare_eq_error (Formula.writable_of_ofSpacedText hread) hprepare
    exact absurd (h f hread) (Nat.not_le_of_lt hlong)

theorem isEmpty_trim_iff {line : String} :
    (Text.trim line).isEmpty = true ↔ Text.strip line = "" := by
  rw [String.isEmpty_iff, Text.trim_eq_empty_iff]

/-- Nothing can be read from a line of blanks. -/
theorem exists_ofText_of_blank {line : String} (h : Text.strip line = "") :
    ∃ e, Prepared.ofText line = .error e ∧ ∀ operation, e ≠ .overflow operation := by
  by_cases hline : line = ""
  · exact ⟨.missingInput, by rw [hline]; rfl, by simp⟩
  · have hread := Formula.ofSpacedText_of_strip_eq_empty h
    exact ⟨_, Prepared.ofText_of_error hline hread, by simp⟩

section Reply

variable {σ : Type} [FaceSource σ] {source : σ} {line : String}

theorem reply_of_blank (h : Text.strip line = "") : reply source line = .ok .none := by
  rw [reply, if_pos (isEmpty_trim_iff.mpr h)]

/-- An overflow of the bounds puts an end to the run. -/
theorem reply_of_overflow {operation : Overflow} (h : overflow? line = some operation) :
    reply source line = .error operation := by
  have hline := overflow?_eq_some_iff.mp h
  have hblank : Text.strip line ≠ "" := by
    intro hblank
    obtain ⟨e, he, hother⟩ := exists_ofText_of_blank hblank
    rw [hline, Except.error.injEq] at he
    exact hother operation he.symm
  rw [reply, if_neg (mt isEmpty_trim_iff.mp hblank), hline]

/-- **A settled line has one answer**, whatever it is rolled from. -/
theorem reply_eq [LawfulFaceSource σ] (h : Settled line) (hoverflow : overflow? line = none) :
    reply source line = .ok ⟨shown line, complaint line⟩ := by
  by_cases hblank : Text.strip line = ""
  · obtain ⟨e, he, _⟩ := exists_ofText_of_blank hblank
    rw [reply_of_blank hblank]
    simp [shown, complaint, reported?, he, hblank, Reply.none]
  · rw [reply, if_neg (mt isEmpty_trim_iff.mp hblank)]
    unfold shown complaint reported?
    cases hline : Prepared.ofText line with
    | ok p =>
      obtain ⟨next, hroll⟩ := p.exists_roll_soleOutcome (h p hline) source
      simp [hroll, Except.map, Reply.line]
    | error e =>
      have hother : ∀ operation, e ≠ .overflow operation := by
        rintro operation rfl
        rw [overflow?_eq_some_iff.mpr hline] at hoverflow
        cases hoverflow
      -- The answer to an overflow is a case of its own, which does not arise here.
      split
      case h_1 heq => exact absurd (Except.error.inj heq) (hother _)
      case h_2 heq =>
        rw [← Except.error.inj heq]
        simp [hblank, Reply.failure]
      case h_3 heq => cases heq

end Reply

/-- What can be said of the answer to any line. -/
structure Handled (line : String) : Prop where
  /-- It is skipped exactly if nothing is left of it without blanks. -/
  skipped_iff : ∀ (σ : Type) [FaceSource σ] (source : σ),
    reply source line = .ok .none ↔ Text.strip line = ""
  /-- Its formula is shown on one line. -/
  onLine : ∀ p, Prepared.ofText line = .ok p →
    shown line = report p p.soleOutcome ++ "\n" ∧ '\n' ∉ (report p p.soleOutcome).toList
  /-- An error is reported exactly if it is neither blank nor a formula. -/
  reported_iff : ∀ e, reported? line = some e ↔
    Text.strip line ≠ "" ∧ Prepared.ofText line = .error e
  /-- No input is never what is reported. -/
  ne_missingInput : reported? line ≠ some .missingInput
  /-- Where the end of the text is reported, it is not at the beginning. -/
  start_pos : ∀ text source expected, reported? line = some (.invalidFormula text source) →
    source.fault = .unexpectedEnd expected → 1 ≤ source.start

theorem reply_eq_none_iff {σ : Type} [FaceSource σ] {source : σ} {line : String} :
    reply source line = .ok .none ↔ Text.strip line = "" := by
  refine ⟨fun h => ?_, reply_of_blank⟩
  by_contra hblank
  rw [reply, if_neg (mt isEmpty_trim_iff.mp hblank)] at h
  split at h
  case h_1 => cases h
  case h_2 e _ _ =>
    have herrors : "Error: " ++ e.message ++ "\n" = "" :=
      congrArg Reply.errors (Except.ok.inj h)
    simp at herrors
  case h_3 p _ =>
    cases hroll : p.formula.roll source with
    | error operation =>
      rw [hroll] at h
      cases h
    | ok rolled =>
      rw [hroll] at h
      have houtput : report p rolled.1 ++ "\n" = "" :=
        congrArg Reply.output (Except.ok.inj h)
      simp at houtput

theorem reported?_eq_some_iff {line : String} {e : BuildError} :
    reported? line = some e ↔ Text.strip line ≠ "" ∧ Prepared.ofText line = .error e := by
  unfold reported?
  cases Prepared.ofText line with
  | ok p => simp
  | error e' =>
    by_cases hblank : Text.strip line = ""
    · simp [hblank]
    · simp [hblank]

/-- A complaint is made exactly if there is an error to report. -/
theorem complaint_ne_empty_iff {line : String} :
    complaint line ≠ "" ↔ ∃ e, reported? line = some e := by
  unfold complaint
  cases reported? line with
  | none => simp
  | some e => simp

theorem ne_empty_of_strip_ne {line : String} (h : Text.strip line ≠ "") : line ≠ "" := by
  rintro rfl
  exact h rfl

/-- **Every line is handled.** -/
theorem handled (line : String) : Handled line where
  skipped_iff _ _ _ := reply_eq_none_iff
  onLine p hp := by
    refine ⟨by rw [shown, hp], newline_notMem_report ?_ _⟩
    exact Formula.writable_of_ofSpacedText (Prepared.ofText_eq_ok_iff.mp hp)
  reported_iff _ := reported?_eq_some_iff
  ne_missingInput := by
    intro h
    obtain ⟨hblank, herror⟩ := reported?_eq_some_iff.mp h
    obtain ⟨_, _, heq⟩ | ⟨_, _, _, _, heq⟩ :=
      (Prepared.ofText_eq_error_iff (ne_empty_of_strip_ne hblank)).mp herror
    · cases heq
    · cases heq
  start_pos text source expected h hfault := by
    obtain ⟨hblank, herror⟩ := reported?_eq_some_iff.mp h
    obtain ⟨_, hread, ⟨⟩⟩ | ⟨_, _, _, _, heq⟩ :=
      (Prepared.ofText_eq_error_iff (ne_empty_of_strip_ne hblank)).mp herror
    · rw [Formula.start_of_unexpectedEnd hread hfault]
      exact Nat.pos_of_ne_zero (mt String.utf8ByteSize_eq_zero_iff.mp hblank)
    · cases heq

/-! ### Runs -/

/-- The lines that are answered: those in front of the first overflow. -/
def answered (ls : List String) : List String := ls.takeWhile fun line => (overflow? line).isNone

/-- The run on some lines, behind what is already written, as far as it follows from the lines. -/
def foretoldAll (written : Reply) (ls : List String) : Run where
  written := written.append
    ⟨String.join ((answered ls).map fun line => shown line ++ prompt),
      String.join ((answered ls).map complaint)⟩
  overflow? := ls.findSome? overflow?

theorem foretoldAll_nil (written : Reply) : foretoldAll written [] = ⟨written, none⟩ := by
  simp [foretoldAll, answered, Reply.append]

theorem foretoldAll_cons_of_some {line : String} {operation : Overflow}
    (h : overflow? line = some operation) (written : Reply) (rest : List String) :
    foretoldAll written (line :: rest) = ⟨written, some operation⟩ := by
  simp [foretoldAll, answered, Reply.append, h]

theorem foretoldAll_cons_of_none {line : String} (h : overflow? line = none) (written : Reply)
    (rest : List String) :
    foretoldAll written (line :: rest) = foretoldAll
      (written.append (Reply.append ⟨shown line, complaint line⟩ ⟨prompt, ""⟩)) rest := by
  simp [foretoldAll, answered, Reply.append, h, String.append_assoc]

/-- **The console answers settled lines as foretold**, whatever it rolls from. -/
theorem replyAll_eq_foretoldAll {σ : Type} [FaceSource σ] [LawfulFaceSource σ] {sourceOf : Nat → σ}
    {ls : List String} (h : ∀ line ∈ ls, Settled line) (written : Reply) (number : Nat) :
    replyAll sourceOf written number ls = foretoldAll written ls := by
  -- Each answer goes behind what is already written, and each line has the next source.
  induction ls generalizing written number with
  | nil => rw [replyAll, foretoldAll_nil]
  | cons line rest ih =>
    obtain ⟨hline, hrest⟩ := List.forall_mem_cons.mp h
    rw [replyAll]
    cases hoverflow : overflow? line with
    | some operation => rw [reply_of_overflow hoverflow, foretoldAll_cons_of_some hoverflow]
    | none =>
      rw [reply_eq hline hoverflow, foretoldAll_cons_of_none hoverflow]
      exact ih hrest _ _

/-- If nothing overflows on some lines, what is foretold for them is followed by what is foretold
for the others. -/
theorem foretoldAll_append {ls : List String} (h : ∀ line ∈ ls, overflow? line = none)
    (written : Reply) (more : List String) :
    foretoldAll written (ls ++ more) = foretoldAll (foretoldAll written ls).written more := by
  induction ls generalizing written with
  | nil => rw [List.nil_append, foretoldAll_nil]
  | cons line rest ih =>
    obtain ⟨hline, hrest⟩ := List.forall_mem_cons.mp h
    rw [List.cons_append, foretoldAll_cons_of_none hline, foretoldAll_cons_of_none hline, ih hrest]

theorem exitCode_foretoldAll_eq_zero_iff {written : Reply} {ls : List String} :
    (foretoldAll written ls).exitCode = 0 ↔ ∀ line ∈ ls, overflow? line = none := by
  rw [← List.findSome?_eq_none_iff]
  show (if (ls.findSome? overflow?).isSome then overflowCode else 0) = 0 ↔ _
  cases ls.findSome? overflow? with
  | none => simp
  | some operation => simp [overflowCode]

theorem answered_eq_self_iff {ls : List String} :
    answered ls = ls ↔ ∀ line ∈ ls, overflow? line = none := by
  rw [answered, List.takeWhile_eq_self_iff]
  simp only [Option.isNone_iff_eq_none]

/-- The run on a whole text, as far as it follows from the text. -/
def foretold (input : String) : Run := foretoldAll ⟨prompt, ""⟩ (lines input)

theorem transcript_eq_foretold {σ : Type} [FaceSource σ] [LawfulFaceSource σ] {input : String}
    (h : ∀ line ∈ lines input, Settled line) (sourceOf : Nat → σ) :
    transcript sourceOf input = foretold input :=
  replyAll_eq_foretoldAll h ⟨prompt, ""⟩ 0

/-- A run in which every line of the input is answered. -/
structure Complete (input : String) (run : Run) : Prop where
  /-- There is a prompt at the beginning, and one behind whatever is shown for a line. -/
  output : run.written.output =
    prompt ++ String.join ((lines input).map fun line => shown line ++ prompt)
  /-- There is an error for each line that is neither blank nor a formula. -/
  errors : run.written.errors = String.join ((lines input).map complaint)
  /-- The run ends with the input. -/
  exitCode : run.exitCode = 0

/-- What is foretold for a text is a complete run, unless bounds overflow on one of its lines. -/
theorem complete_foretold_iff {input : String} :
    Complete input (foretold input) ↔ ∀ line ∈ lines input, overflow? line = none := by
  constructor
  · intro hcomplete
    exact exitCode_foretoldAll_eq_zero_iff.mp hcomplete.exitCode
  · intro h
    refine ⟨?_, ?_, exitCode_foretoldAll_eq_zero_iff.mpr h⟩
    · rw [foretold, foretoldAll, answered_eq_self_iff.mpr h]
      rfl
    · rw [foretold, foretoldAll, answered_eq_self_iff.mpr h]
      exact String.empty_append

/-- One run after another makes a single run, in which the prompt between the two is written
once. -/
structure Joins (first second whole : Run) : Prop where
  /-- The prompt at the beginning of the second run is left out. -/
  output : ∃ rest, second.written.output = prompt ++ rest ∧
    whole.written.output = first.written.output ++ rest
  /-- The errors of the one are followed by those of the other. -/
  errors : whole.written.errors = first.written.errors ++ second.written.errors
  /-- The second run decides how the whole run ends. -/
  exitCode : whole.exitCode = second.exitCode

theorem joins_foretold {a : String} (hend : EndsLine a)
    (h : ∀ line ∈ lines a, overflow? line = none) (b : String) :
    Joins (foretold a) (foretold b) (foretold (a ++ b)) := by
  have hwhole : foretold (a ++ b) = foretoldAll (foretold a).written (lines b) := by
    rw [foretold, lines_append hend, foretoldAll_append h]
    rfl
  rw [hwhole]
  refine ⟨⟨_, rfl, rfl⟩, ?_, rfl⟩
  show (foretold a).written.errors ++ _ = (foretold a).written.errors ++ ("" ++ _)
  rw [String.empty_append]

/-- **The console leaves nothing to chance where no formula does.** If the bounds of every formula in
a text coincide, then the transcript of the text is what is foretold for it, whatever it is rolled
from. It is complete, with the exit code zero, unless bounds overflow, which they do only in a
formula that is longer than its capacity. Lines are skipped exactly if they are blank, and what is
reported is never that there is no input. The run on a text that stops where a line ends, and the
run on what follows it, are joined to the run on both. -/
theorem transcript_as_foretold (input : String) (h : ∀ line ∈ lines input, Settled line) :
    (∀ (σ : Type) [FaceSource σ] [LawfulFaceSource σ] (sourceOf : Nat → σ),
      transcript sourceOf input = foretold input) ∧
      (Complete input (foretold input) ↔ ∀ line ∈ lines input, overflow? line = none) ∧
      (∀ line, WithinCapacity line → overflow? line = none) ∧
      (∀ line, Handled line) ∧
      ∀ a b, input = a ++ b → EndsLine a → (∀ line ∈ lines a, overflow? line = none) →
        ∀ (σ : Type) [FaceSource σ] [LawfulFaceSource σ] (sourceOf sourceOf₁ sourceOf₂ : Nat → σ),
          Joins (transcript sourceOf₁ a) (transcript sourceOf₂ b) (transcript sourceOf input) := by
  refine ⟨fun σ _ _ sourceOf => transcript_eq_foretold h sourceOf, complete_foretold_iff,
    fun _ => overflow?_eq_none, handled, ?_⟩
  rintro a b rfl hend hanswered σ _ _ sourceOf sourceOf₁ sourceOf₂
  have hwhole := h
  rw [lines_append hend, List.forall_mem_append] at h
  rw [transcript_eq_foretold h.1 sourceOf₁, transcript_eq_foretold h.2 sourceOf₂,
    transcript_eq_foretold hwhole sourceOf]
  exact joins_foretold hend hanswered b

/-- A formula, a line of blanks and a line that is no formula. The formula is rolled from any seed,
and also in a run of its own. -/
theorem transcript_as_foretold_one_die :
    (∀ line ∈ lines "1d1\r\n \n2-", Settled line) ∧
      (∀ seed, transcript (fun number => Words.ofSeed (seed + number.toUInt64)) "1d1\r\n \n2-" =
        ⟨⟨"> 1d1 (1..=1) = 1 [1]\n> > > ",
          "Error: the input expression '2-' is not valid: error at position 2 (\"\"): " ++
            "unexpected end of input, expected <integer> or <dice>\n"⟩, none⟩) ∧
      Complete "1d1\r\n \n2-" (foretold "1d1\r\n \n2-") ∧
      Joins (transcript (fun _ => Words.ofSeed 1) "1d1\r\n")
        (transcript (fun _ => Words.ofSeed 2) " \n2-")
        (transcript (fun _ => Words.ofSeed 3) "1d1\r\n \n2-") := by
  have hsettled : ∀ line ∈ lines "1d1\r\n \n2-", Settled line := by decide +kernel
  have hlines : lines "1d1\r\n \n2-" = lines "1d1\r\n" ++ lines " \n2-" := by decide +kernel
  obtain ⟨hforetold, hcomplete, hfew, _, hjoins⟩ :=
    transcript_as_foretold "1d1\r\n \n2-" hsettled
  have hshort : ∀ line ∈ lines "1d1\r\n \n2-",
      ((Formula.ofSpacedText line).toOption.all fun f => f.terms.length ≤ 1) = true := by
    decide +kernel
  have hanswered : ∀ line ∈ lines "1d1\r\n \n2-", overflow? line = none := by
    refine fun line hline => hfew line fun f hread => ?_
    have hlength := hshort line hline
    rw [hread] at hlength
    exact Nat.le_trans (of_decide_eq_true hlength) (by decide)
  refine ⟨hsettled, fun seed => ?_, hcomplete.mpr hanswered, ?_⟩
  · rw [hforetold]
    decide +kernel
  · rw [hlines, List.forall_mem_append] at hanswered
    exact hjoins "1d1\r\n" " \n2-" rfl (Or.inr ⟨"1d1\r", rfl⟩) hanswered.1 Words _ _ _

/-- **A formula that is too long ends the run.** On its line, the only one, nothing is left to
chance. It is not blank, there is no prepared formula on it, and so a complaint is due. But no
answer is written after the first prompt. -/
theorem not_complete_beyond_capacity :
    lines Formula.overlong.text = [Formula.overlong.text] ∧
      Settled Formula.overlong.text ∧ Text.strip Formula.overlong.text ≠ "" ∧
      complaint Formula.overlong.text ≠ "" ∧
      (transcript (fun _ => (⟨3, 1, 0⟩ : Cycle)) Formula.overlong.text).written = ⟨prompt, ""⟩ ∧
      (transcript (fun _ => (⟨3, 1, 0⟩ : Cycle)) Formula.overlong.text).exitCode = 101 ∧
      ¬ Complete Formula.overlong.text
        (transcript (fun _ => (⟨3, 1, 0⟩ : Cycle)) Formula.overlong.text) := by
  obtain ⟨operation, hprepare⟩ := Formula.exists_ofText_overlong
  have hwritable := Formula.writable_of_ofSpacedText Formula.ofSpacedText_overlong
  have hne := Formula.ne_empty_of_ofSpacedText Formula.ofSpacedText_overlong
  have hlines := lines_of_newline_notMem (Formula.newline_notMem_text hwritable) hne
  have hblank : Text.strip Formula.overlong.text ≠ "" := by rwa [Formula.strip_text hwritable]
  have hsettled : Settled Formula.overlong.text := by
    intro p hp
    rw [hprepare] at hp
    cases hp
  have hrun : transcript (fun _ => (⟨3, 1, 0⟩ : Cycle)) Formula.overlong.text =
      ⟨⟨prompt, ""⟩, some operation⟩ := by
    have hsettledAll : ∀ line ∈ lines Formula.overlong.text, Settled line := by
      rw [hlines]
      simpa using hsettled
    rw [transcript_eq_foretold hsettledAll, foretold, hlines,
      foretoldAll_cons_of_some (overflow?_eq_some_iff.mpr hprepare)]
  have hexit : (transcript (fun _ => (⟨3, 1, 0⟩ : Cycle)) Formula.overlong.text).exitCode = 101 := by
    rw [hrun]
    rfl
  refine ⟨hlines, hsettled, hblank, ?_, ?_, hexit, fun hcomplete => ?_⟩
  · exact complaint_ne_empty_iff.mpr ⟨_, reported?_eq_some_iff.mpr ⟨hblank, hprepare⟩⟩
  · rw [hrun]
  · have hzero := hcomplete.exitCode
    rw [hexit] at hzero
    exact absurd hzero (by decide)

end Console

end DiceFormula
