import DiceFormula.Proofs.Concatenation
import DiceFormula.Proofs.Tiling

/-!
# Operators among the tokens

An operator cuts the tokens of a text as it cuts the text. The tokens before it are those that the
text before it has alone, the next one is the operator, and behind it come the tokens of the rest,
only further on. Nothing that is scanned reaches over an operator, from neither side.

So the operators among the tokens are the operators among the characters, and no other token has
one in it.

## Main definitions

* `Token.further` — a token further on in a longer text
* `Token.CutAt`, `Token.KeepsOperators` — what an operator does to the tokens of a text

## Main results

* `Token.located_append`, `Token.located_add` — the positions of tokens one behind the other
* `Token.Recognised.eq_of_standsAlone_mem` — a character that stands alone is a token of its own
* `Token.operators_cut_tokens` — an operator cuts the tokens of a text as it cuts the text
-/

namespace DiceFormula

namespace Token

/-! ### Tokens further on -/

/-- A token `d` bytes further on. -/
def further (d : Nat) (p : Nat × Token) : Nat × Token := (d + p.1, p.2)

theorem span_further (d : Nat) (p : Nat × Token) :
    span (further d p) = (d + (span p).1, d + (span p).2) := by
  rw [span, further, Nat.add_assoc]
  rfl

theorem located_append (pos : Nat) (ts us : List Token) :
    located pos (ts ++ us) = located pos ts ++ located (pos + totalSize ts) us := by
  induction ts generalizing pos with
  | nil => rfl
  | cons t ts ih => rw [List.cons_append, located, located, ih, totalSize_cons, Nat.add_assoc,
      List.cons_append]

theorem located_add (d pos : Nat) (ts : List Token) :
    located (d + pos) ts = (located pos ts).map (further d) := by
  induction ts generalizing pos with
  | nil => rfl
  | cons t ts ih => rw [located, located, List.map_cons, Nat.add_assoc, ih, further]

/-- The tokens on both sides of an operator, in their places. -/
theorem located_scan_append_symbol (s t : List Char) (g : Sign) :
    located 0 (scan (s ++ g.symbol :: t)) =
      located 0 (scan s) ++ (Text.byteSize s, g.token) ::
        (located 0 (scan t)).map (further (Text.byteSize s + 1)) := by
  have hbehind : located (Text.byteSize s + 1) (scan t) =
      (located 0 (scan t)).map (further (Text.byteSize s + 1)) := located_add _ 0 _
  rw [scan_append_symbol, located_append, totalSize_scan, Nat.zero_add, located, Sign.size_token,
    hbehind]

/-! ### Characters that are tokens of their own -/

theorem StandsAlone.notMem_of_isDigit {c : Char} (h : StandsAlone c) {cs : List Char}
    (hcs : ∀ d ∈ cs, d.isDigit = true) : c ∉ cs := by
  intro hmem
  have hdigit := hcs c hmem
  rw [h.1] at hdigit
  cases hdigit

theorem StandsAlone.notMem_of_isDiceSpelling {c : Char} (h : StandsAlone c)
    {count sides : List Char} {marker : Char} (hspelled : IsDiceSpelling count marker sides) :
    c ∉ count ++ marker :: sides := by
  obtain ⟨hcount, hmarker, hsides⟩ := hspelled
  have hneMarker : c ≠ marker := by
    rintro rfl
    rw [h.2.1] at hmarker
    cases hmarker
  have hnotSides : c ∉ sides := by
    rcases hsides with rfl | ⟨_, hdigits⟩
    · rw [List.mem_singleton]
      exact h.2.2
    · exact h.notMem_of_isDigit hdigits
  rw [List.mem_append, List.mem_cons, not_or, not_or]
  exact ⟨h.notMem_of_isDigit hcount, hneMarker, hnotSides⟩

/-- A token with a character that stands alone is this character. -/
theorem Recognised.eq_of_standsAlone_mem {t : Token} {after : List Char} (h : Recognised t after)
    {c : Char} (hc : StandsAlone c) (hmem : c ∈ t.lexeme) : t = ⟨symbolKind c, [c]⟩ := by
  cases h with
  | spelling spelled _ => exact absurd hmem (hc.notMem_of_isDiceSpelling spelled)
  | digits isDigit _ _ => exact absurd hmem (hc.notMem_of_isDigit isDigit)
  | symbol _ => rw [List.mem_singleton.mp hmem]

/-! ### Operators -/

/-- The tokens of `s` and `t` with the operator `g` between them, in terms of the tokens of each. -/
structure CutAt (g : Sign) (s t : String) : Prop where
  /-- The tokens and the positions where they start. -/
  tokens : located 0 (scan (s ++ g.text ++ t).toList) =
    located 0 (scan s.toList) ++ (s.utf8ByteSize, g.token) ::
      (located 0 (scan t.toList)).map (further (s.utf8ByteSize + 1))
  /-- Their kinds and spans. -/
  spans : (located 0 (scan (s ++ g.text ++ t).toList)).map (fun p => (p.2.kind, span p)) =
    (located 0 (scan s.toList)).map (fun p => (p.2.kind, span p)) ++
      (g.tokenKind, s.utf8ByteSize, s.utf8ByteSize + 1) ::
        (located 0 (scan t.toList)).map fun p =>
          (p.2.kind, s.utf8ByteSize + 1 + (span p).1, s.utf8ByteSize + 1 + (span p).2)

/-- The operators among the tokens of `s` are the operators among its characters. -/
structure KeepsOperators (s : String) : Prop where
  /-- Exactly where the text has an operator, there is the token of it. -/
  mem_located_iff : ∀ (pos : Nat) (g : Sign), (pos, g.token) ∈ located 0 (scan s.toList) ↔
    ∃ before after, before ++ g.symbol :: after = s.toList ∧ Text.byteSize before = pos
  /-- No other token has an operator in it. -/
  eq_token : ∀ p ∈ located 0 (scan s.toList), ∀ g : Sign, g.symbol ∈ p.2.lexeme → p.2 = g.token

theorem cutAt (g : Sign) (s t : String) : CutAt g s t := by
  have htokens : located 0 (scan (s ++ g.text ++ t).toList) =
      located 0 (scan s.toList) ++ (s.utf8ByteSize, g.token) ::
        (located 0 (scan t.toList)).map (further (s.utf8ByteSize + 1)) := by
    rw [Formula.toList_append_text, located_scan_append_symbol, Text.byteSize_toList]
  refine ⟨htokens, ?_⟩
  have hspan : span (s.utf8ByteSize, g.token) = (s.utf8ByteSize, s.utf8ByteSize + 1) := by
    rw [span, Sign.size_token]
  rw [htokens, List.map_append, List.map_cons, List.map_map, hspan]
  simp only [Function.comp_def, span_further]
  rfl

theorem keepsOperators (s : String) : KeepsOperators s where
  mem_located_iff := by
    intro pos g
    constructor
    · intro hmem
      obtain ⟨before, after, hcut, hstart, -⟩ :=
        exists_recognised_of_mem_located hmem
      exact ⟨before, after, by simpa [Sign.token] using hcut, hstart⟩
    · rintro ⟨before, after, hcut, rfl⟩
      rw [← hcut, located_scan_append_symbol]
      exact List.mem_append_right _ List.mem_cons_self
  eq_token := by
    intro p hp g hmem
    obtain ⟨_, _, _, _, hrecognised, _⟩ :=
      exists_recognised_of_mem_located hp
    rw [hrecognised.eq_of_standsAlone_mem g.standsAlone_symbol hmem, g.symbolKind_symbol,
      Sign.token]

/-- **An operator cuts the tokens of a text as it cuts the text**, and in every text the operators
are tokens of their own. -/
theorem operators_cut_tokens :
    (∀ (g : Sign) (s t : String), CutAt g s t) ∧ ∀ s : String, KeepsOperators s :=
  ⟨cutAt, keepsOperators⟩

end Token

end DiceFormula
