import DiceFormula.Proofs.Bounds
import DiceFormula.Source.FaceStream
import Mathlib.Data.List.SplitLengths

/-!
# Requests for faces

A source that draws one face at a time knows nothing of groups, terms and formulas. What reaches it
is a list of requests, each for the face of one die, and it serves them from left to right. A group
of dice makes one request for each of its dice, a constant makes none, and a formula makes those of
its terms in the order in which they are written.

Serving the requests of a formula is drawing the faces of its terms. So a roll can be told from the
flat list of faces that are served: the list is cut into one segment for each term, and each term
is worth what its own segment says.

## Main definitions

* `Request` — a request for one face
* `FaceStream.serve` — serving requests one after the other
* `Dice.requests`, `Term.requests`, `Formula.requests` — the requests that rolling makes
* `Formula.valuesOf` — what the terms of a formula are worth with a flat list of faces

## Main results

* `FaceStream.serve_append` — requests are served from left to right
* `Term.drawAll_eq_serve` — the faces of some terms are those of their requests
* `Prepared.exists_roll_of_requests` — a roll, told from the faces that are served
-/

namespace DiceFormula

/-- A request for the face of one die. -/
structure Request where
  /-- Whether the die is rolled alone or in a group. -/
  mode : DrawMode
  /-- The number of its faces. -/
  count : FaceCount
deriving DecidableEq

/-! ### Serving requests -/

namespace FaceStream

variable {σ : Type} [FaceStream σ]

/-- Serves requests one after the other. -/
def serve : List Request → σ → List UInt32 × σ
  | [], s => ([], s)
  | request :: rest, s =>
    let (face, next) := draw request.mode request.count s
    let (faces, last) := serve rest next
    (face :: faces, last)

@[simp] theorem serve_nil (s : σ) : serve [] s = ([], s) := rfl

@[simp] theorem serve_cons (request : Request) (rest : List Request) (s : σ) :
    serve (request :: rest) s =
      ((draw request.mode request.count s).1 ::
        (serve rest (draw request.mode request.count s).2).1,
        (serve rest (draw request.mode request.count s).2).2) := rfl

/-- One face is served for each request. -/
@[simp] theorem length_serve (requests : List Request) (s : σ) :
    (serve requests s).1.length = requests.length := by
  induction requests generalizing s with
  | nil => rfl
  | cons request rest ih => rw [serve_cons, List.length_cons, ih, List.length_cons]

/-- Requests are served from left to right. -/
theorem serve_append (requests more : List Request) (s : σ) :
    serve (requests ++ more) s =
      ((serve requests s).1 ++ (serve more (serve requests s).2).1,
        (serve more (serve requests s).2).2) := by
  induction requests generalizing s with
  | nil => rfl
  | cons request rest ih => rw [List.cons_append, serve_cons, ih, serve_cons, List.cons_append]

/-- Drawing a number of faces is serving as many equal requests. -/
theorem serve_replicate (mode : DrawMode) (n : FaceCount) (k : Nat) (s : σ) :
    serve (List.replicate k ⟨mode, n⟩) s = drawMany mode n k s := by
  induction k generalizing s with
  | zero => rfl
  | succ k ih => rw [List.replicate_succ, serve_cons, ih, drawMany_succ]

end FaceStream

/-! ### The requests of a roll -/

/-- A group of dice makes one request for each of its dice. -/
def Dice.requests (d : Dice) : List Request := List.replicate d.num.toNat ⟨.group, d.sides.count⟩

/-- A constant makes no request. -/
def Atom.requests : Atom → List Request
  | .constant _ => []
  | .dice d => d.requests

/-- The requests of a term do not depend on its sign. -/
def Term.requests (t : Term) : List Request := t.atom.requests

/-- The requests of a formula are those of its terms, in order. -/
def Formula.requests (f : Formula) : List Request := f.terms.flatMap Term.requests

theorem Term.length_requests (t : Term) : t.requests.length = t.diceCount.toNat := by
  obtain ⟨sign, atom⟩ := t
  cases atom with
  | constant n => rfl
  | dice d => exact List.length_replicate

/-- A flat list of faces, cut into one segment for each term. -/
def Term.segments (ts : List Term) (faces : List UInt32) : List (List UInt32) :=
  (ts.map fun t => t.diceCount.toNat).splitLengths faces

/-- The first segment is as long as the first term has dice. -/
theorem Term.segments_cons (t : Term) (ts : List Term) (faces : List UInt32) :
    segments (t :: ts) faces =
      faces.take t.diceCount.toNat :: segments ts (faces.drop t.diceCount.toNat) := by
  rw [segments, List.map_cons, List.splitLengths_cons, segments]

/-- What the terms of a formula are worth with a flat list of faces: each is worth the sum of its
own segment, or itself if it is a constant, with its sign. -/
def Formula.valuesOf (f : Formula) (faces : List UInt32) : List Int :=
  f.terms.zipWith Term.value (Term.segments f.terms faces)

section Stream

variable {σ : Type} [FaceStream σ]

theorem Dice.faces_eq_serve (d : Dice) (s : σ) :
    FaceSource.faces d s = FaceStream.serve d.requests s := by
  rw [FaceStream.faces_eq_drawMany, requests, FaceStream.serve_replicate]

/-- A source may have drawn more of a group than it hands out. -/
theorem Dice.leadingFaces_eq_serve (d : Dice) (k : Nat) (s : σ) :
    FaceSource.leadingFaces d k s =
      if FaceStream.drawsWholeGroups σ then
        ((FaceStream.serve d.requests s).1.take k, (FaceStream.serve d.requests s).2)
      else FaceStream.serve (d.requests.take k) s := by
  rw [requests, List.take_replicate, FaceStream.serve_replicate, FaceStream.serve_replicate]
  rfl

theorem Term.draw_eq_serve (t : Term) (s : σ) : t.draw s = FaceStream.serve t.requests s := by
  obtain ⟨sign, atom⟩ := t
  cases atom with
  | constant n => rfl
  | dice d => exact d.faces_eq_serve s

/-- **Terms draw what is served for their requests**, each of them its own segment. -/
theorem Term.drawAll_eq_serve (ts : List Term) (s : σ) :
    drawAll ts s = (segments ts (FaceStream.serve (ts.flatMap requests) s).1,
      (FaceStream.serve (ts.flatMap requests) s).2) := by
  induction ts generalizing s with
  | nil => rfl
  | cons t ts ih =>
    -- The cut behind the first segment is where serving the first term ended.
    have hlength : (FaceStream.serve t.requests s).1.length = t.diceCount.toNat := by
      rw [FaceStream.length_serve, length_requests]
    rw [drawAll_cons, draw_eq_serve, ih, List.flatMap_cons, FaceStream.serve_append,
      segments_cons, List.take_left' hlength, List.drop_left' hlength]

variable [LawfulFaceStream σ]

/-- A roll of a prepared formula is told from the faces that are served for its requests. -/
theorem Prepared.exists_roll_of_requests (p : Prepared) (s : σ) :
    ∃ o, p.formula.roll s = .ok (o, (FaceStream.serve p.formula.requests s).2) ∧
      o.values.map Int64.toInt =
        p.formula.valuesOf (FaceStream.serve p.formula.requests s).1 ∧
      o.total.toInt = (p.formula.valuesOf (FaceStream.serve p.formula.requests s).1).sum := by
  obtain ⟨o, hroll, hvalues, htotal, _⟩ :=
    Formula.exists_roll_of_shown p (Term.shownBy_drawAll p.formula.terms s)
  rw [Term.drawAll_eq_serve] at hroll hvalues htotal
  exact ⟨o, hroll, hvalues, htotal⟩

/-- So is a roll of one of its terms. -/
theorem Prepared.exists_roll_term_of_requests (p : Prepared) {t : Term} (ht : t ∈ p.formula.terms)
    (s : σ) : ∃ v, t.roll s = .ok (v, (FaceStream.serve t.requests s).2) ∧
      v.toInt = t.value (FaceStream.serve t.requests s).1 := by
  obtain ⟨low, high, hlow, hhigh⟩ := p.exists_bounds t ht
  rw [← Term.draw_eq_serve]
  exact Term.exists_roll hlow hhigh (t.atom.shownBy_draw s)

end Stream

end DiceFormula
