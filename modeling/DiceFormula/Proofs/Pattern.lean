import DiceFormula.Proofs.Reading
import Mathlib.Tactic.ByContra

/-!
# The pattern of a formula

The tokens of a formula alternate: a literal at every even place, an operator at every odd one,
and a literal at the end. A token *misfits* if it is of the wrong kind for its place, and so does
the end of the text at an even place. Tokens alternate exactly if nothing misfits.

How the first misfit lies among the tokens is an inductive fact: at the first place, at the second
behind a literal, or two places further on behind a literal and an operator. What is in front of
it alternates, up to a missing literal, and this follows by induction, as does what reading makes
of the tokens.

## Main definitions

* `Token.expectedAt`, `Token.MisfitAt` — what is needed at a place, and what is not that
* `Token.Alternating` — tokens in the pattern of a formula
* `Token.FirstMisfit` — the first place that does not follow the pattern

## Main results

* `Token.alternating_iff` — tokens alternate exactly if nothing misfits
* `Token.firstMisfit_of_misfitAt` — a misfit with none before it is the first one
* `Token.FirstMisfit.alternating_take`, `Token.FirstMisfit.alternating_take_append` — the tokens
  in front of the first misfit alternate, up to a missing literal
* `Token.Alternating.exists_ofText` — the text of alternating tokens is a formula
-/

namespace DiceFormula

namespace Token

/-! ### Places -/

/-- The kinds of tokens that can stand at place `k`. -/
def expectedAt (k : Nat) : List TokenKind :=
  if k % 2 = 0 then [.integer, .dice] else [.plus, .minus]

/-- At place `k` there is no token of the kind that is needed: at an even place some other token
or none, at an odd place some other token. -/
def MisfitAt (ts : List Token) (k : Nat) : Prop :=
  (k % 2 = 0 ∧ k ≤ ts.length ∧ ∀ t, ts[k]? = some t → t.kind ∉ [TokenKind.integer, .dice]) ∨
    (k % 2 = 1 ∧ ∃ t, ts[k]? = some t ∧ t.kind ∉ [TokenKind.plus, .minus])

/-- Literals with an operator between each two of them, as far as their kinds are concerned. -/
inductive Alternating : List Token → Prop
  /-- A literal. -/
  | single {t : Token} (literal : t.kind ∈ [TokenKind.integer, .dice]) : Alternating [t]
  /-- A literal and an operator in front of others. -/
  | cons {t o : Token} (literal : t.kind ∈ [TokenKind.integer, .dice])
      (operator : o.kind ∈ [TokenKind.plus, .minus]) {ts : List Token} (rest : Alternating ts) :
      Alternating (t :: o :: ts)

/-- The first misfit is at place `k`. -/
inductive FirstMisfit : List Token → Nat → Prop
  /-- There is no literal to start with. -/
  | literal {ts : List Token}
      (misfit : ∀ t, ts[0]? = some t → t.kind ∉ [TokenKind.integer, .dice]) : FirstMisfit ts 0
  /-- Behind a literal there is something else than an operator. -/
  | operator {t o : Token} (literal : t.kind ∈ [TokenKind.integer, .dice])
      (misfit : o.kind ∉ [TokenKind.plus, .minus]) {ts : List Token} : FirstMisfit (t :: o :: ts) 1
  /-- It is behind a literal and an operator. -/
  | later {t o : Token} (literal : t.kind ∈ [TokenKind.integer, .dice])
      (operator : o.kind ∈ [TokenKind.plus, .minus]) {ts : List Token} {k : Nat}
      (rest : FirstMisfit ts k) : FirstMisfit (t :: o :: ts) (k + 2)

theorem expectedAt_add_two (k : Nat) : expectedAt (k + 2) = expectedAt k := by
  rw [expectedAt, expectedAt, Nat.add_mod_right]

section Places

variable {t o : Token} {ts : List Token} {k : Nat}

@[simp] theorem misfitAt_zero :
    MisfitAt ts 0 ↔ ∀ t, ts[0]? = some t → t.kind ∉ [TokenKind.integer, .dice] := by
  simp [MisfitAt]

@[simp] theorem misfitAt_one :
    MisfitAt ts 1 ↔ ∃ o, ts[1]? = some o ∧ o.kind ∉ [TokenKind.plus, .minus] := by
  simp [MisfitAt]

@[simp] theorem misfitAt_cons_cons : MisfitAt (t :: o :: ts) (k + 2) ↔ MisfitAt ts k := by
  simp [MisfitAt]

@[simp] theorem not_misfitAt_nil : ¬ MisfitAt [] (k + 2) := by
  simp [MisfitAt]

@[simp] theorem not_misfitAt_singleton : ¬ MisfitAt [t] (k + 2) := by
  simp [MisfitAt]

theorem kind_mem_of_not_misfitAt_zero (h : ¬ MisfitAt (t :: ts) 0) :
    t.kind ∈ [TokenKind.integer, .dice] := by
  by_contra hkind
  exact h (misfitAt_zero.mpr fun u hu => by cases hu; exact hkind)

theorem kind_mem_of_not_misfitAt_one (h : ¬ MisfitAt (t :: o :: ts) 1) :
    o.kind ∈ [TokenKind.plus, .minus] := by
  by_contra hkind
  exact h (misfitAt_one.mpr ⟨o, rfl, hkind⟩)

end Places

/-- Nothing misfits in alternating tokens. -/
theorem Alternating.not_misfitAt {ts : List Token} (h : Alternating ts) (k : Nat) :
    ¬ MisfitAt ts k := by
  induction h generalizing k with
  | single hliteral =>
    rcases k with _ | _ | k
    · intro hmisfit
      exact misfitAt_zero.mp hmisfit _ rfl hliteral
    · simp
    · exact not_misfitAt_singleton
  | cons hliteral hoperator _ ih =>
    rcases k with _ | _ | k
    · intro hmisfit
      exact misfitAt_zero.mp hmisfit _ rfl hliteral
    · intro hmisfit
      obtain ⟨o, ho, hkind⟩ := misfitAt_one.mp hmisfit
      cases ho
      exact hkind hoperator
    · rw [misfitAt_cons_cons]
      exact ih k

theorem alternating_of_forall_not_misfitAt :
    ∀ {ts : List Token}, (∀ k, ¬ MisfitAt ts k) → Alternating ts
  | [], h => absurd (misfitAt_zero.mpr (by simp)) (h 0)
  | [_], h => .single (kind_mem_of_not_misfitAt_zero (h 0))
  | _ :: _ :: _, h =>
    .cons (kind_mem_of_not_misfitAt_zero (h 0)) (kind_mem_of_not_misfitAt_one (h 1))
      (alternating_of_forall_not_misfitAt fun k => mt misfitAt_cons_cons.mpr (h (k + 2)))

/-- Tokens follow the pattern of a formula exactly if nothing misfits. -/
theorem alternating_iff {ts : List Token} : Alternating ts ↔ ∀ k, ¬ MisfitAt ts k :=
  ⟨Alternating.not_misfitAt, alternating_of_forall_not_misfitAt⟩

/-- A misfit with none before it is the first one. -/
theorem firstMisfit_of_misfitAt :
    ∀ {ts : List Token} {k : Nat}, MisfitAt ts k → (∀ j < k, ¬ MisfitAt ts j) → FirstMisfit ts k
  | _, 0, h, _ => .literal (misfitAt_zero.mp h)
  | [], _ + 2, h, _ => absurd h not_misfitAt_nil
  | [_], _ + 2, h, _ => absurd h not_misfitAt_singleton
  | [], 1, h, _ => by simp at h
  | [_], 1, h, _ => by simp at h
  | t :: o :: ts, 1, h, hbefore => by
    obtain ⟨u, hu, hkind⟩ := misfitAt_one.mp h
    cases hu
    exact .operator (kind_mem_of_not_misfitAt_zero (hbefore 0 Nat.one_pos)) hkind
  | t :: o :: ts, k + 2, h, hbefore => by
    refine .later (kind_mem_of_not_misfitAt_zero (hbefore 0 (by omega)))
      (kind_mem_of_not_misfitAt_one (hbefore 1 (by omega))) ?_
    refine firstMisfit_of_misfitAt (misfitAt_cons_cons.mp h) ?_
    intro j hj
    exact mt misfitAt_cons_cons.mpr (hbefore (j + 2) (by omega))

/-- In front of a misfit at an odd place there is a formula. -/
theorem FirstMisfit.alternating_take {ts : List Token} {k : Nat} (h : FirstMisfit ts k)
    (hodd : k % 2 = 1) : Alternating (ts.take k) := by
  induction h with
  | literal _ => cases hodd
  | operator hliteral _ => exact .single hliteral
  | later hliteral hoperator _ ih => exact .cons hliteral hoperator (ih (by omega))

/-- In front of a misfit at an even place a literal is missing to a formula. -/
theorem FirstMisfit.alternating_take_append {ts : List Token} {k : Nat} (h : FirstMisfit ts k)
    (heven : k % 2 = 0) {last : Token} (hlast : last.kind ∈ [TokenKind.integer, .dice]) :
    Alternating (ts.take k ++ [last]) := by
  induction h with
  | literal _ => exact .single hlast
  | operator _ _ => cases heven
  | later hliteral hoperator _ ih => exact .cons hliteral hoperator (ih (by omega))

theorem MisfitAt.le_length {ts : List Token} {k : Nat} (h : MisfitAt ts k) : k ≤ ts.length := by
  rcases h with ⟨_, hle, _⟩ | ⟨_, t, ht, _⟩
  · exact hle
  · exact Nat.le_of_lt (List.getElem?_eq_some_iff.mp ht).1

/-- A misfit at the end is at an even place. -/
theorem MisfitAt.expectedAt_length {ts : List Token} (h : MisfitAt ts ts.length) :
    expectedAt ts.length = [.integer, .dice] := by
  rcases h with ⟨heven, _⟩ | ⟨_, t, ht, _⟩
  · rw [expectedAt, if_pos heven]
  · simp at ht

/-! ### Sound tokens in their places -/

theorem Sound.exists_spelledBy {t : Token} (h : Sound t)
    (hkind : t.kind ∈ [TokenKind.integer, .dice]) :
    ∃ a cs, Atom.SpelledBy a cs ∧ t = ⟨a.tokenKind, cs⟩ := by
  cases h with
  | literal hspelled => exact ⟨_, _, hspelled, rfl⟩
  | operator g => cases g <;> simp [Sign.token, Sign.tokenKind] at hkind
  | error cs => simp at hkind

theorem Sound.exists_token {t : Token} (h : Sound t) (hkind : t.kind ∈ [TokenKind.plus, .minus]) :
    ∃ g : Sign, t = g.token := by
  cases h with
  | @literal a cs hspelled => cases a <;> simp [Atom.tokenKind] at hkind
  | operator g => exact ⟨g, rfl⟩
  | error cs => simp at hkind

/-- A token that is no literal is in the wrong place where a literal is needed. -/
theorem atom_of_kind_notMem {t : Token} (h : t.kind ∉ [TokenKind.integer, .dice]) (pos : Nat) :
    t.atom pos = .error (t.misplaced pos literalKinds) := by
  obtain ⟨kind, cs⟩ := t
  cases kind with
  | integer | dice => simp at h
  | plus | minus | error => rfl

theorem sign?_of_kind_notMem {t : Token} (h : t.kind ∉ [TokenKind.plus, .minus]) :
    t.kind.sign? = none := by
  obtain ⟨kind, cs⟩ := t
  cases kind with
  | plus | minus => simp at h
  | integer | dice | error => rfl

/-- The digit zero, the shortest literal. -/
def zero : Token := ⟨.integer, ['0']⟩

theorem sound_zero : Sound zero := by
  have hrun : Numeral.IsRun 1 8 ['0'] := by decide
  exact .literal (Atom.spelledBy_of_isRun hrun)

/-- The text of alternating tokens has these tokens. -/
theorem Alternating.scan {ts : List Token} (h : Alternating ts) (hsound : ∀ t ∈ ts, Sound t) :
    Token.scan (ts.flatMap lexeme) = ts := by
  induction h with
  | single hliteral =>
    obtain ⟨a, cs, hspelled, rfl⟩ := (hsound _ (by simp)).exists_spelledBy hliteral
    rw [List.flatMap_singleton, scan_of_spelledBy hspelled]
  | @cons t o hliteral hoperator ts _ ih =>
    obtain ⟨a, cs, hspelled, rfl⟩ := (hsound t (by simp)).exists_spelledBy hliteral
    obtain ⟨g, rfl⟩ := (hsound o (by simp)).exists_token hoperator
    have hrest : Token.scan (ts.flatMap lexeme) = ts := ih fun t ht => hsound t (by simp [ht])
    calc Token.scan (cs ++ ([g.symbol] ++ ts.flatMap lexeme))
        = Token.scan cs ++ g.token :: Token.scan (ts.flatMap lexeme) := scan_append_symbol ..
      _ = ⟨a.tokenKind, cs⟩ :: g.token :: ts := by
        rw [scan_of_spelledBy hspelled, hrest, List.singleton_append]

/-- Alternating tokens are read as a formula. -/
theorem Alternating.exists_ofTokensFrom {ts : List Token} (h : Alternating ts)
    (hsound : ∀ t ∈ ts, Sound t) (pos : Nat) : ∃ f, Formula.ofTokensFrom pos ts = .ok f := by
  induction h generalizing pos with
  | single hliteral =>
    obtain ⟨a, cs, hspelled, rfl⟩ := (hsound _ (by simp)).exists_spelledBy hliteral
    rw [Formula.ofTokensFrom_of_ok (atom_of_spelledBy hspelled pos)]
    exact ⟨_, rfl⟩
  | @cons t o hliteral hoperator ts _ ih =>
    obtain ⟨a, cs, hspelled, rfl⟩ := (hsound t (by simp)).exists_spelledBy hliteral
    obtain ⟨g, rfl⟩ := (hsound o (by simp)).exists_token hoperator
    obtain ⟨f, hf⟩ := ih (fun t ht => hsound t (by simp [ht]))
      (pos + size ⟨a.tokenKind, cs⟩ + g.token.size)
    rw [Formula.ofTokensFrom_of_ok (atom_of_spelledBy hspelled pos),
      Formula.tailOfTokens_of_some (Sign.sign?_tokenKind g), hf]
    exact ⟨_, rfl⟩

/-- The text of alternating tokens is a formula. -/
theorem Alternating.exists_ofText {ts : List Token} (h : Alternating ts)
    (hsound : ∀ t ∈ ts, Sound t) :
    ∃ f, Formula.ofText (String.ofList (ts.flatMap lexeme)) = .ok f := by
  rw [Formula.ofText, String.toList_ofList, h.scan hsound, Formula.ofTokens_eq_ofTokensFrom]
  exact h.exists_ofTokensFrom hsound 0

end Token

end DiceFormula
