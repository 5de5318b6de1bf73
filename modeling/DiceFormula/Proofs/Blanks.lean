import DiceFormula.Proofs.Capacity

/-!
# Blanks make no difference

Blanks may be put into a text and taken out of it anywhere, also within a number or a dice literal.
Two texts are equal up to blanks exactly if they are the same text once their blanks are gone, and
this text is all that reading looks at. So both are read as the same formula, or fail with the same
error at the same place, and a session that is started on one of them is the session that is started
on the other. Of the text itself nothing is left but the input that is quoted when no session can be
started.

A formula may also be too long for its bounds to be added up. Then there is neither a session nor an
error that quotes the text, but the same overflow for both.

The reader in which every character counts is as strict as can be. No literal contains a blank and
no operator is one, so a text with a blank in it is not read at all, and on a text without blanks the
two readers agree.

## Main definitions

* `Text.EqualUpToBlanks` — texts that differ in blanks only
* `Session.StartAlike` — texts on which the same session is started, or none for the same reason
* `Session.OverflowAlike` — texts of a formula that is too long

## Main results

* `Text.equalUpToBlanks_iff` — such texts are the same once they are stripped
* `Formula.exists_error_of_isBlank` — a blank is an error where every character counts
* `Session.blanks_make_no_difference` — what is made of texts that differ in blanks only
* `Session.not_startAlike_beyond_capacity` — a formula that is too long is neither started nor
  refused
-/

namespace DiceFormula

/-! ### Texts that differ in blanks only -/

namespace Text

/-- Blanks have been put in and taken out anywhere, and all other characters have been kept. -/
inductive EqualUpToBlanks : List Char → List Char → Prop
  /-- There is nothing to keep. -/
  | nil : EqualUpToBlanks [] []
  /-- A character is kept. -/
  | keep (c : Char) {as bs : List Char} (rest : EqualUpToBlanks as bs) :
      EqualUpToBlanks (c :: as) (c :: bs)
  /-- A blank is put in. -/
  | insert {c : Char} (blank : isBlank c = true) {as bs : List Char}
      (rest : EqualUpToBlanks as bs) : EqualUpToBlanks as (c :: bs)
  /-- A blank is taken out. -/
  | delete {c : Char} (blank : isBlank c = true) {as bs : List Char}
      (rest : EqualUpToBlanks as bs) : EqualUpToBlanks (c :: as) bs

theorem EqualUpToBlanks.stripChars_eq {as bs : List Char} (h : EqualUpToBlanks as bs) :
    stripChars as = stripChars bs := by
  induction h with
  | nil => rfl
  | keep c _ ih =>
    by_cases hc : isBlank c = true
    · rw [stripChars_cons_of_isBlank hc, stripChars_cons_of_isBlank hc, ih]
    · rw [stripChars_cons_of_not_isBlank hc, stripChars_cons_of_not_isBlank hc, ih]
  | insert hblank _ ih => rw [stripChars_cons_of_isBlank hblank, ih]
  | delete hblank _ ih => rw [stripChars_cons_of_isBlank hblank, ih]

/-- Blanks at the start of either text are dealt with first. Then both start with the same
character. -/
theorem equalUpToBlanks_of_stripChars_eq :
    ∀ {as bs : List Char}, stripChars as = stripChars bs → EqualUpToBlanks as bs
  | [], [], _ => .nil
  | a :: as, [], h => by
    by_cases ha : isBlank a = true
    · rw [stripChars_cons_of_isBlank ha] at h
      exact .delete ha (equalUpToBlanks_of_stripChars_eq h)
    · rw [stripChars_cons_of_not_isBlank ha] at h
      exact absurd h (List.cons_ne_nil _ _)
  | [], b :: bs, h => by
    by_cases hb : isBlank b = true
    · rw [stripChars_cons_of_isBlank hb] at h
      exact .insert hb (equalUpToBlanks_of_stripChars_eq h)
    · rw [stripChars_cons_of_not_isBlank hb] at h
      exact absurd h.symm (List.cons_ne_nil _ _)
  | a :: as, b :: bs, h => by
    by_cases ha : isBlank a = true
    · rw [stripChars_cons_of_isBlank ha] at h
      exact .delete ha (equalUpToBlanks_of_stripChars_eq h)
    · by_cases hb : isBlank b = true
      · rw [stripChars_cons_of_isBlank hb] at h
        exact .insert hb (equalUpToBlanks_of_stripChars_eq h)
      · rw [stripChars_cons_of_not_isBlank ha, stripChars_cons_of_not_isBlank hb] at h
        obtain ⟨rfl, hrest⟩ := List.cons.inj h
        exact .keep a (equalUpToBlanks_of_stripChars_eq hrest)
termination_by as bs => as.length + bs.length

/-- **Stripping forgets blanks and nothing else.** -/
theorem equalUpToBlanks_iff {as bs : List Char} :
    EqualUpToBlanks as bs ↔ stripChars as = stripChars bs :=
  ⟨EqualUpToBlanks.stripChars_eq, equalUpToBlanks_of_stripChars_eq⟩

theorem strip_eq_of_equalUpToBlanks {s t : String} (h : EqualUpToBlanks s.toList t.toList) :
    strip s = strip t := by
  rw [strip, strip, h.stripChars_eq]

end Text

/-! ### The reader in which every character counts -/

namespace Formula

/-- A text with a blank in it is not read where every character counts. -/
theorem exists_error_of_isBlank {s : String} {c : Char} (hmem : c ∈ s.toList)
    (hblank : Text.isBlank c = true) : ∃ e, ofText s = .error e := by
  cases hread : ofText s with
  | error e => exact ⟨e, rfl⟩
  | ok f =>
    have hspelled : f.SpelledBy s.toList := (ofTokens_scan_eq_ok_iff s.toList f).mp hread
    rw [hspelled.isBlank_eq_false c hmem] at hblank
    cases hblank

end Formula

/-! ### Sessions -/

namespace Session

variable {σ : Type}

/-- Sessions on two texts with the same source are the same session, or are both refused. -/
inductive StartAlike (s t : String) (source : σ) : Prop
  /-- Both give the same session: the formula has the same terms and the same bounds, and
  every run that follows has the same answers. -/
  | started (p : Prepared) (first : ofText s source = .ok (start p source))
      (second : ofText t source = .ok (start p source))
  /-- Neither is a formula. The reason is the same, and each quotes its own text. -/
  | refused (e : SyntaxError) (reason : Formula.ofSpacedText s = .error e)
      (first : ofText s source = .error (.invalidFormula s e))
      (second : ofText t source = .error (.invalidFormula t e))

/-- Two texts are read as a formula that is longer than its capacity, and its bounds overflow. -/
structure OverflowAlike (s t : String) (source : σ) : Prop where
  /-- The formula is longer than its capacity. -/
  long : ∃ f, Formula.ofSpacedText s = .ok f ∧ Formula.capacity < f.terms.length
  /-- There is no session on either text, because of the same operation. -/
  overflow : ∃ operation, ofText s source = .error (.overflow operation) ∧
    ofText t source = .error (.overflow operation)

/-- Texts that are read alike start the same session, or fail for the same reason. -/
theorem alike_of_ofSpacedText_eq {s t : String} (hs : s ≠ "") (ht : t ≠ "")
    (h : Formula.ofSpacedText t = Formula.ofSpacedText s) (source : σ) :
    StartAlike s t source ∨ OverflowAlike s t source := by
  cases hread : Formula.ofSpacedText s with
  | error e =>
    have hfirst := Prepared.ofText_of_error hs hread
    have hsecond := Prepared.ofText_of_error ht (h.trans hread)
    exact Or.inl (.refused e hread (ofText_of_error hfirst source) (ofText_of_error hsecond source))
  | ok f =>
    have hfirst := Prepared.ofText_of_ofSpacedText hread
    have hsecond := Prepared.ofText_of_ofSpacedText (h.trans hread)
    cases hprepare : f.prepare with
    | ok p =>
      rw [hprepare] at hfirst hsecond
      exact Or.inl (.started p (ofText_of_ok hfirst source) (ofText_of_ok hsecond source))
    | error operation =>
      have hlong : Formula.capacity < f.terms.length :=
        Formula.capacity_lt_of_prepare_eq_error (Formula.writable_of_ofSpacedText hread) hprepare
      rw [hprepare] at hfirst hsecond
      exact Or.inr ⟨⟨f, hread, hlong⟩, operation, ofText_of_error hfirst source,
        ofText_of_error hsecond source⟩

/-- Where the bounds overflow, no session is started, and none is refused for what is read. -/
theorem not_startAlike_of_overflow {s t : String} {operation : Overflow}
    (h : Prepared.ofText s = .error (.overflow operation)) (source : σ) :
    ¬ StartAlike s t source := by
  have hfirst := ofText_of_error h source
  rintro (⟨p, hstarted, _⟩ | ⟨e, _, hrefused, _⟩)
  · rw [hfirst] at hstarted
    cases hstarted
  · rw [hfirst] at hrefused
    cases hrefused

/-- **Blanks make no difference**, except to the reader in which every character counts. Texts that
differ in blanks only are read as the same formula, or with the same error. Unless one of them is
empty, the same session is started on them, or both are refused for the same reason, or the bounds
of a formula longer than its capacity overflow in both. Where every character counts, a text without
blanks is read like this, and one with a blank is not read at all. -/
theorem blanks_make_no_difference (s : String) :
    (∀ t : String, Text.EqualUpToBlanks s.toList t.toList →
      Formula.ofSpacedText t = Formula.ofSpacedText s ∧
        (s ≠ "" → t ≠ "" → ∀ (σ : Type) (source : σ),
          StartAlike s t source ∨ OverflowAlike s t source)) ∧
      ((∀ c ∈ s.toList, Text.isBlank c = false) → Formula.ofText s = Formula.ofSpacedText s) ∧
      ((∃ c ∈ s.toList, Text.isBlank c = true) → ∃ e, Formula.ofText s = .error e) := by
  refine ⟨fun t hequal => ?_, fun hblanks => ?_, fun ⟨c, hmem, hblank⟩ => ?_⟩
  · have hread : Formula.ofSpacedText t = Formula.ofSpacedText s := by
      rw [Formula.ofSpacedText, Formula.ofSpacedText, Text.strip_eq_of_equalUpToBlanks hequal]
    exact ⟨hread, fun hs ht σ source => alike_of_ofSpacedText_eq hs ht hread source⟩
  · exact (Formula.ofSpacedText_eq_ofText (Text.strip_eq_self_iff.mpr hblanks)).symm
  · exact Formula.exists_error_of_isBlank hmem hblank

/-- A blank within a number, and a blank of two bytes within a dice literal. -/
theorem blanks_make_no_difference_within_literals :
    Text.EqualUpToBlanks "1 2d6".toList "12d\u00a06".toList ∧
      Formula.ofSpacedText "12d\u00a06" = Formula.ofSpacedText "1 2d6" ∧
      StartAlike "1 2d6" "12d\u00a06" (⟨3, 1, 0⟩ : Cycle) ∧
      (∃ e, Formula.ofText "1 2d6" = .error e) ∧
      Formula.ofText "12d6" = Formula.ofSpacedText "12d6" := by
  have hequal : Text.EqualUpToBlanks "1 2d6".toList "12d\u00a06".toList :=
    Text.equalUpToBlanks_iff.mpr (by decide)
  have hkept : ∀ c ∈ "12d6".toList, Text.isBlank c = false := by
    have hall : ("12d6".toList.all fun c => !Text.isBlank c) = true := by decide
    simpa using hall
  obtain ⟨hsame, _, herror⟩ := blanks_make_no_difference "1 2d6"
  obtain ⟨_, hplain, _⟩ := blanks_make_no_difference "12d6"
  obtain ⟨hread, hstart⟩ := hsame _ hequal
  have halike : StartAlike "1 2d6" "12d\u00a06" (⟨3, 1, 0⟩ : Cycle) := by
    refine (hstart (by decide) (by decide) Cycle ⟨3, 1, 0⟩).resolve_right fun hoverflow => ?_
    obtain ⟨f, hlong, hlength⟩ := hoverflow.long
    have hshort : Formula.ofSpacedText "1 2d6" =
        .ok ⟨.dice ⟨12, .poly ⟨6, by decide⟩⟩, []⟩ := by decide +kernel
    rw [hshort] at hlong
    cases hlong
    exact absurd hlength (by decide)
  exact ⟨hequal, hread, halike, herror ⟨' ', by decide, by decide⟩, hplain hkept⟩

/-- **A formula that is too long is neither started nor refused**: here in its own text, and in the
same text behind a blank. -/
theorem not_startAlike_beyond_capacity :
    Text.EqualUpToBlanks Formula.overlong.text.toList (" " ++ Formula.overlong.text).toList ∧
      Formula.overlong.text ≠ "" ∧ " " ++ Formula.overlong.text ≠ "" ∧
      ¬ StartAlike Formula.overlong.text (" " ++ Formula.overlong.text) (⟨3, 1, 0⟩ : Cycle) := by
  have hequal : Text.EqualUpToBlanks Formula.overlong.text.toList
      (" " ++ Formula.overlong.text).toList := by
    rw [Text.equalUpToBlanks_iff, String.toList_append]
    exact (Text.stripChars_cons_of_isBlank (by decide) _).symm
  obtain ⟨operation, hoverflow⟩ := Formula.exists_ofText_overlong
  refine ⟨hequal, Formula.ne_empty_of_ofSpacedText Formula.ofSpacedText_overlong, ?_,
    not_startAlike_of_overflow hoverflow _⟩
  simp

end Session

end DiceFormula
