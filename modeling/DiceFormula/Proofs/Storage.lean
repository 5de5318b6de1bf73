import DiceFormula.Json.Codec

/-!
# Stored dice data

Each kind of dice data is written in one form and read in several. Which forms these are is said
here by relations between data and JSON values, and reading is sound and complete for them: data
are read from exactly the values that they are related to. The form in which they are written is
one of these, so whatever a value was like, its data can be written and read again without a change.

The relations say nothing about parts that are passed over. Where sides are expected, though, zero
faces are accepted in no form.

## Main definitions

* `Json.IsName`, `Json.HasParts` — the forms of choices that are just a name, and of data in parts
* `Sign.StoredAs`, and the same for `Sides`, `Dice`, `Atom`, `Term` and `Outcome`
* `Dice.HasSides`, `Atom.HasSides`, `Term.HasSides` — where a value has the sides of its dice
* `Faithful` — data that can be written and read again

## Main results

* `Sign.ofJson?_eq_some_iff`, and the same for the other kinds of data — the values from which data
  are read
* `Faithful.of_storedAs` — reading undoes writing if it accepts the written form
* `Json.stored_faithfully` — all six kinds of data, and no dice without faces
-/

namespace DiceFormula

namespace Json

/-! ### Numbers -/

theorem count?_eq_some_iff {v : Json} {n : UInt32} : v.count? = some n ↔ v = ofCount n := by
  constructor
  · intro h
    unfold count? at h
    split at h
    case h_1 m =>
      split at h
      case isTrue hrange =>
        rw [Option.some.injEq] at h
        have hvalue : n.toNat = m.toNat := by
          rw [← h]
          exact UInt32.toNat_ofNat_of_lt' (show m.toNat < UInt32.size by omega)
        rw [ofCount, hvalue, Int.toNat_of_nonneg hrange.1]
      case isFalse => cases h
    case h_2 => cases h
  · intro h
    rw [h]
    exact count?_ofCount n

theorem amount?_eq_some_iff {v : Json} {x : Amount} : v.amount? = some x ↔ v = ofAmount x := by
  constructor
  · intro h
    unfold amount? at h
    split at h
    case h_1 m =>
      split at h
      case isTrue hrange =>
        rw [Option.some.injEq] at h
        rw [ofAmount, ← h, Amount.toInt_ofInt hrange]
      case isFalse => cases h
    case h_2 => cases h
  · intro h
    rw [h]
    exact amount?_ofAmount x

theorem mapM_amount?_eq_some_iff {items : List Json} {values : List Amount} :
    items.mapM amount? = some values ↔ items = values.map ofAmount := by
  constructor
  · intro h
    induction items generalizing values with
    | nil =>
      obtain rfl : [] = values := Option.some.inj h
      rfl
    | cons item items ih =>
      simp only [List.mapM_cons, Option.bind_eq_bind, Option.bind_eq_some_iff, Option.pure_def,
        Option.some.injEq] at h
      obtain ⟨x, hx, rest, hrest, rfl⟩ := h
      rw [List.map_cons, amount?_eq_some_iff.mp hx, ih hrest]
  · intro h
    rw [h]
    exact amounts?_map_ofAmount values

theorem amounts?_eq_some_iff {v : Json} {values : List Amount} :
    v.amounts? = some values ↔ v = .array (values.map ofAmount) := by
  constructor
  · intro h
    unfold amounts? at h
    split at h
    case h_1 items => rw [mapM_amount?_eq_some_iff.mp h]
    case h_2 => cases h
  · intro h
    rw [h]
    exact amounts?_map_ofAmount values

/-! ### Choices -/

/-- A choice of which nothing is said but its name. -/
inductive IsName (name : String) : Json → Prop
  /-- It is the name itself. -/
  | text : IsName name (.text name)
  /-- It is an object that has nothing under the name. -/
  | object : IsName name (.object [(name, .null)])

theorem variant?_eq_some_iff {name : String} {payload : Option Json} {v : Json} :
    v.variant? = some (name, payload) ↔
      (payload = none ∧ v = .text name) ∨ ∃ w, payload = some w ∧ v = .object [(name, w)] := by
  constructor
  · intro h
    unfold variant? at h
    split at h
    case h_1 =>
      cases h
      exact Or.inl ⟨rfl, rfl⟩
    case h_2 =>
      cases h
      exact Or.inr ⟨_, rfl, rfl⟩
    case h_3 => cases h
  · rintro (⟨rfl, rfl⟩ | ⟨w, rfl, rfl⟩)
    · rfl
    · rfl

theorem isUnit_iff {payload : Option Json} :
    isUnit payload = true ↔ payload = none ∨ payload = some .null := by
  unfold isUnit
  split <;> simp_all

theorem isName_iff {name : String} {v : Json} :
    IsName name v ↔ ∃ payload, v.variant? = some (name, payload) ∧ isUnit payload = true := by
  simp only [variant?_eq_some_iff, isUnit_iff]
  constructor
  · rintro (_ | _)
    · exact ⟨none, Or.inl ⟨rfl, rfl⟩, Or.inl rfl⟩
    · exact ⟨some .null, Or.inr ⟨.null, rfl, rfl⟩, Or.inr rfl⟩
  · rintro ⟨payload, ⟨rfl, rfl⟩ | ⟨w, rfl, rfl⟩, hunit⟩
    · exact .text
    · obtain rfl : w = .null := by simpa using hunit
      exact .object

/-! ### Parts -/

/-- The value that stands under a name first. -/
def HasEntry (name : String) (value : Json) (entries : List (String × Json)) : Prop :=
  ∃ before after, entries = before ++ (name, value) :: after ∧ ∀ e ∈ before, e.1 ≠ name

/-- Data in two parts. -/
inductive HasParts (first second : String) (a b : Json) : Json → Prop
  /-- The parts stand under their names, and others may stand beside them. -/
  | object {entries : List (String × Json)} (ha : HasEntry first a entries)
      (hb : HasEntry second b entries) : HasParts first second a b (.object entries)
  /-- There are only the parts, in order. -/
  | array : HasParts first second a b (.array [a, b])

theorem hasEntry_cons_iff_of_ne {name other : String} {value w : Json}
    {entries : List (String × Json)} (h : other ≠ name) :
    HasEntry name value ((other, w) :: entries) ↔ HasEntry name value entries := by
  constructor
  · rintro ⟨_ | ⟨e, before⟩, after, heq, hbefore⟩
    · obtain ⟨⟨rfl, _⟩, _⟩ : (other = name ∧ w = value) ∧ entries = after := by simpa using heq
      exact absurd rfl h
    · obtain ⟨_, rfl⟩ := List.cons_eq_cons.mp heq
      exact ⟨before, after, rfl, (List.forall_mem_cons.mp hbefore).2⟩
  · rintro ⟨before, after, rfl, hbefore⟩
    exact ⟨(other, w) :: before, after, rfl, List.forall_mem_cons.mpr ⟨h, hbefore⟩⟩

theorem entry?_eq_some_iff {name : String} {value : Json} {entries : List (String × Json)} :
    entry? name entries = some value ↔ HasEntry name value entries := by
  induction entries with
  | nil => simp [HasEntry, entry?]
  | cons e entries ih =>
    obtain ⟨other, w⟩ := e
    -- The first entry with the name is the one that counts.
    show (if other = name then some w else entry? name entries) = some value ↔ _
    by_cases hname : other = name
    · rw [if_pos hname, Option.some.injEq]
      constructor
      · rintro rfl
        exact ⟨[], entries, by rw [hname, List.nil_append], nofun⟩
      · rintro ⟨_ | ⟨e, before⟩, after, heq, hbefore⟩
        · exact (Prod.mk.inj (List.cons_eq_cons.mp heq).1).2
        · obtain ⟨rfl, _⟩ := List.cons_eq_cons.mp heq
          exact absurd hname (hbefore _ List.mem_cons_self)
    · rw [if_neg hname, ih, hasEntry_cons_iff_of_ne hname]

section Parts

variable {first second : String}

theorem parts?_eq_some_iff {v a b : Json} :
    v.parts? first second = some (a, b) ↔ HasParts first second a b v := by
  constructor
  · intro h
    unfold parts? at h
    split at h
    case h_1 entries =>
      simp only [Option.bind_eq_bind, Option.bind_eq_some_iff, Option.pure_def, Option.some.injEq,
        Prod.mk.injEq] at h
      obtain ⟨_, ha, _, hb, rfl, rfl⟩ := h
      exact .object (entry?_eq_some_iff.mp ha) (entry?_eq_some_iff.mp hb)
    case h_2 =>
      cases h
      exact .array
    case h_3 => cases h
  · rintro (⟨ha, hb⟩ | _)
    · rw [parts?, entry?_eq_some_iff.mpr ha, entry?_eq_some_iff.mpr hb]
      rfl
    · rfl

/-- A value has its parts in one way only. -/
theorem HasParts.unique {v a b a' b' : Json} (h : HasParts first second a b v)
    (h' : HasParts first second a' b' v) : a = a' ∧ b = b' := by
  have heq := (parts?_eq_some_iff.mpr h).symm.trans (parts?_eq_some_iff.mpr h')
  exact Prod.mk.inj (Option.some.inj heq)

/-- An object with nothing but the two parts. -/
theorem hasParts_pair (h : first ≠ second) (a b : Json) :
    HasParts first second a b (.object [(first, a), (second, b)]) := by
  refine .object ⟨[], _, rfl, nofun⟩ ?_
  rw [hasEntry_cons_iff_of_ne h]
  exact ⟨[], [], rfl, nofun⟩

/-- Data in two parts are read by reading both parts. -/
theorem bind_parts?_eq_some_iff {α β γ : Type} {readFirst : Json → Option α}
    {readSecond : Json → Option β} {make : α → β → γ} {v : Json} {x : γ} :
    (do
      let (a, b) ← v.parts? first second
      let y ← readFirst a
      let z ← readSecond b
      return make y z) = some x ↔
      ∃ a b, HasParts first second a b v ∧
        ∃ y z, readFirst a = some y ∧ readSecond b = some z ∧ make y z = x := by
  simp only [Option.bind_eq_bind, Option.bind_eq_some_iff, Option.pure_def, Option.some.injEq,
    Prod.exists, parts?_eq_some_iff]
  constructor
  · rintro ⟨a, b, hparts, y, hy, z, hz, rfl⟩
    exact ⟨a, b, hparts, y, z, hy, hz, rfl⟩
  · rintro ⟨a, b, hparts, y, z, hy, hz, rfl⟩
    exact ⟨a, b, hparts, y, hy, z, hz, rfl⟩

end Parts

end Json

/-! ### Signs and sides -/

namespace Sign

/-- The name of a sign. -/
def name : Sign → String
  | .pos => "Pos"
  | .neg => "Neg"

/-- A sign is stored under its name. -/
def StoredAs (g : Sign) (v : Json) : Prop := Json.IsName g.name v

theorem storedAs_toJson (g : Sign) : g.StoredAs g.toJson := by
  cases g with
  | pos => exact .text
  | neg => exact .text

theorem ofJson?_eq_some_iff {g : Sign} {v : Json} : ofJson? v = some g ↔ g.StoredAs v := by
  rw [StoredAs, Json.isName_iff]
  constructor
  · intro h
    obtain ⟨⟨name, payload⟩, hvariant, h⟩ := Option.bind_eq_some_iff.mp h
    dsimp only at h
    split at h
    case isFalse => cases h
    case isTrue hunit =>
      refine ⟨payload, ?_, hunit⟩
      split at h
      case isTrue hname =>
        cases h
        rwa [hname] at hvariant
      case isFalse =>
        split at h
        case isTrue hname =>
          cases h
          rwa [hname] at hvariant
        case isFalse => cases h
  · rintro ⟨payload, hvariant, hunit⟩
    rw [ofJson?, hvariant]
    show (if Json.isUnit payload then _ else _) = _
    rw [if_pos hunit]
    cases g <;> rfl

end Sign

namespace Json

/-- How sides without faces would be stored. -/
def noFaces : Json := .object [("Poly", .integer 0)]

end Json

namespace Sides

/-- Sides are stored as a positive number under a name, or as the name of the percent sign. -/
inductive StoredAs : Sides → Json → Prop
  /-- The number of faces is not zero. -/
  | poly {n : FaceCount} {k : Nat} (hk : 0 < k) (hn : n.toNat = k) :
      StoredAs (.poly n) (.object [("Poly", .integer k)])
  /-- There is no number with the percent sign. -/
  | percentile {v : Json} (h : Json.IsName "Percentile" v) : StoredAs .percentile v

theorem storedAs_toJson (s : Sides) : s.StoredAs s.toJson := by
  cases s with
  | poly n => exact .poly n.toNat_pos rfl
  | percentile => exact .percentile .text

theorem StoredAs.ne_noFaces {s : Sides} {v : Json} (h : s.StoredAs v) : v ≠ Json.noFaces := by
  intro hv
  obtain @⟨n, k, hk, _⟩ | h := h
  · have hzero : k = 0 := by simpa [Json.noFaces] using hv
    exact Nat.ne_of_gt hk hzero
  · obtain _ | _ := h
    · cases hv
    · simp [Json.noFaces] at hv

theorem toOption_ofNumber_eq_some_iff {k : UInt32} {s : Sides} :
    (ofNumber k).toOption = some s ↔ ∃ n : FaceCount, n.val = k ∧ s = .poly n := by
  unfold ofNumber FaceCount.ofNumber
  split
  case isTrue hpos =>
    constructor
    · intro h
      cases h
      exact ⟨⟨k, hpos⟩, rfl, rfl⟩
    · rintro ⟨n, rfl, rfl⟩
      rfl
  case isFalse hzero =>
    refine ⟨nofun, ?_⟩
    rintro ⟨n, rfl, _⟩
    exact absurd n.pos hzero

theorem ofJson?_eq_some_iff {s : Sides} {v : Json} : ofJson? v = some s ↔ s.StoredAs v := by
  simp only [ofJson?, Option.bind_eq_bind, Option.bind_eq_some_iff, Prod.exists]
  constructor
  · rintro ⟨name, payload, hvariant, h⟩
    by_cases hpoly : name = "Poly"
    · simp only [if_pos hpoly, Option.bind_eq_some_iff, Json.count?_eq_some_iff,
        toOption_ofNumber_eq_some_iff] at h
      obtain ⟨_, rfl, _, rfl, n, rfl, rfl⟩ := h
      rw [hpoly, Json.variant?_eq_some_iff] at hvariant
      obtain ⟨⟨⟩, _⟩ | ⟨_, ⟨⟩, rfl⟩ := hvariant
      exact .poly n.toNat_pos rfl
    · rw [if_neg hpoly] at h
      split at h
      case isTrue hname =>
        cases h
        exact .percentile (Json.isName_iff.mpr ⟨payload, hname.1 ▸ hvariant, hname.2⟩)
      case isFalse => cases h
  · rintro (@⟨n, _, _, rfl⟩ | h)
    · refine ⟨"Poly", some (Json.ofCount n.val), rfl, ?_⟩
      simp only [if_true, Option.bind_eq_some_iff, Json.count?_eq_some_iff,
        toOption_ofNumber_eq_some_iff]
      exact ⟨_, rfl, n.val, rfl, n, rfl, rfl⟩
    · obtain ⟨payload, hvariant, hunit⟩ := Json.isName_iff.mp h
      refine ⟨"Percentile", payload, hvariant, ?_⟩
      rw [if_neg (by decide), if_pos ⟨rfl, hunit⟩]

end Sides

/-! ### Groups of dice, atoms and terms -/

namespace Dice

/-- A group of dice is stored in two parts. -/
inductive StoredAs (d : Dice) : Json → Prop
  /-- The number comes first. -/
  | parts {sides v : Json} (hparts : Json.HasParts "num" "sides" (Json.ofCount d.num) sides v)
      (hsides : d.sides.StoredAs sides) : StoredAs d v

/-- The sides of a group are its second part. -/
def HasSides (v sides : Json) : Prop := ∃ num, Json.HasParts "num" "sides" num sides v

theorem storedAs_toJson (d : Dice) : d.StoredAs d.toJson :=
  .parts (Json.hasParts_pair (by decide) _ _) d.sides.storedAs_toJson

theorem StoredAs.sides_storedAs {d : Dice} {v sides : Json} (h : d.StoredAs v)
    (hsides : HasSides v sides) : d.sides.StoredAs sides := by
  obtain ⟨hparts, hstored⟩ := h
  obtain ⟨_, hparts'⟩ := hsides
  rwa [← (hparts.unique hparts').2]

theorem ofJson?_eq_some_iff {d : Dice} {v : Json} : ofJson? v = some d ↔ d.StoredAs v := by
  rw [ofJson?, Json.bind_parts?_eq_some_iff]
  constructor
  · rintro ⟨num, sides, hparts, n, s, hn, hs, rfl⟩
    rw [Json.count?_eq_some_iff.mp hn] at hparts
    exact .parts hparts (Sides.ofJson?_eq_some_iff.mp hs)
  · rintro ⟨hparts, hsides⟩
    exact ⟨_, _, hparts, d.num, d.sides, Json.count?_ofCount d.num,
      Sides.ofJson?_eq_some_iff.mpr hsides, rfl⟩

end Dice

namespace Atom

/-- A constant and a group of dice are stored under their names. -/
inductive StoredAs : Atom → Json → Prop
  /-- A constant is a number. -/
  | constant (n : UInt32) : StoredAs (.constant n) (.object [("Constant", Json.ofCount n)])
  /-- A group of dice is stored as it would be alone. -/
  | dice {d : Dice} {v : Json} (h : d.StoredAs v) : StoredAs (.dice d) (.object [("Dice", v)])

/-- Only a group of dice has sides. -/
def HasSides (v sides : Json) : Prop :=
  ∃ dice, v = .object [("Dice", dice)] ∧ Dice.HasSides dice sides

theorem storedAs_toJson (a : Atom) : a.StoredAs a.toJson := by
  cases a with
  | constant n => exact .constant n
  | dice d => exact .dice d.storedAs_toJson

theorem StoredAs.exists_sides_storedAs {a : Atom} {v sides : Json} (h : a.StoredAs v)
    (hsides : HasSides v sides) : ∃ s : Sides, s.StoredAs sides := by
  obtain ⟨dice, hv, hsides⟩ := hsides
  obtain n | @⟨d, w, hdice⟩ := h
  · simp at hv
  · obtain rfl : w = dice := by simpa using hv
    exact ⟨d.sides, hdice.sides_storedAs hsides⟩

theorem ofJson?_eq_some_iff {a : Atom} {v : Json} : ofJson? v = some a ↔ a.StoredAs v := by
  simp only [ofJson?, Option.bind_eq_bind, Option.bind_eq_some_iff, Prod.exists, Option.pure_def]
  constructor
  · rintro ⟨name, _, hvariant, w, rfl, h⟩
    obtain ⟨⟨⟩, _⟩ | ⟨_, ⟨⟩, rfl⟩ := Json.variant?_eq_some_iff.mp hvariant
    split at h
    case isTrue hconstant =>
      simp only [Option.bind_eq_some_iff, Json.count?_eq_some_iff, Option.some.injEq] at h
      obtain ⟨n, rfl, rfl⟩ := h
      rw [hconstant]
      exact .constant n
    case isFalse =>
      split at h
      case isTrue hdice =>
        simp only [Option.bind_eq_some_iff, Dice.ofJson?_eq_some_iff, Option.some.injEq] at h
        obtain ⟨d, hd, rfl⟩ := h
        rw [hdice]
        exact .dice hd
      case isFalse => cases h
  · rintro (n | h)
    · refine ⟨"Constant", _, rfl, _, rfl, ?_⟩
      rw [if_pos rfl, Json.count?_ofCount]
      rfl
    · refine ⟨"Dice", _, rfl, _, rfl, ?_⟩
      rw [if_neg (by decide), if_pos rfl, Dice.ofJson?_eq_some_iff.mpr h]
      rfl

end Atom

namespace Term

/-- A term is stored in two parts. -/
inductive StoredAs (t : Term) : Json → Prop
  /-- The sign comes first. -/
  | parts {sign atom v : Json} (hparts : Json.HasParts "sign" "node" sign atom v)
      (hsign : t.sign.StoredAs sign) (hatom : t.atom.StoredAs atom) : StoredAs t v

/-- The sides of a term are those of its atom. -/
def HasSides (v sides : Json) : Prop :=
  ∃ sign atom, Json.HasParts "sign" "node" sign atom v ∧ Atom.HasSides atom sides

theorem storedAs_toJson (t : Term) : t.StoredAs t.toJson :=
  .parts (Json.hasParts_pair (by decide) _ _) t.sign.storedAs_toJson t.atom.storedAs_toJson

theorem StoredAs.exists_sides_storedAs {t : Term} {v sides : Json} (h : t.StoredAs v)
    (hsides : HasSides v sides) : ∃ s : Sides, s.StoredAs sides := by
  obtain ⟨hparts, _, hatom⟩ := h
  obtain ⟨_, _, hparts', hsides⟩ := hsides
  obtain ⟨_, rfl⟩ := hparts.unique hparts'
  exact hatom.exists_sides_storedAs hsides

theorem ofJson?_eq_some_iff {t : Term} {v : Json} : ofJson? v = some t ↔ t.StoredAs v := by
  rw [ofJson?, Json.bind_parts?_eq_some_iff]
  constructor
  · rintro ⟨sign, atom, hparts, g, a, hg, ha, rfl⟩
    exact .parts hparts (Sign.ofJson?_eq_some_iff.mp hg) (Atom.ofJson?_eq_some_iff.mp ha)
  · rintro ⟨hparts, hsign, hatom⟩
    exact ⟨_, _, hparts, t.sign, t.atom, Sign.ofJson?_eq_some_iff.mpr hsign,
      Atom.ofJson?_eq_some_iff.mpr hatom, rfl⟩

end Term

/-! ### Outcomes -/

namespace Outcome

/-- An outcome is stored in two parts. -/
inductive StoredAs (o : Outcome) : Json → Prop
  /-- The total comes first, and the values are stored in order. -/
  | parts {v : Json} (hparts : Json.HasParts "roll" "dice" (Json.ofAmount o.total)
      (.array (o.values.map Json.ofAmount)) v) : StoredAs o v

theorem storedAs_toJson (o : Outcome) : o.StoredAs o.toJson :=
  .parts (Json.hasParts_pair (by decide) _ _)

theorem ofJson?_eq_some_iff {o : Outcome} {v : Json} : ofJson? v = some o ↔ o.StoredAs v := by
  rw [ofJson?, Json.bind_parts?_eq_some_iff]
  constructor
  · rintro ⟨total, values, hparts, x, xs, hx, hxs, rfl⟩
    rw [Json.amount?_eq_some_iff.mp hx, Json.amounts?_eq_some_iff.mp hxs] at hparts
    exact .parts hparts
  · rintro ⟨hparts⟩
    exact ⟨_, _, hparts, o.total, o.values, Json.amount?_ofAmount o.total,
      Json.amounts?_map_ofAmount o.values, rfl⟩

end Outcome

/-! ### Writing and reading again -/

/-- Data that can be written and read again. -/
structure Faithful {α : Type} (write : α → Json) (read? : Json → Option α)
    (StoredAs : α → Json → Prop) : Prop where
  /-- Data are read from the values that they may be stored as, and from no others. -/
  read_iff : ∀ v x, read? v = some x ↔ StoredAs x v
  /-- What is written is read back. -/
  read_write : ∀ x, read? (write x) = some x
  /-- What is read, from a value of any form, may be written and is read again. -/
  reread : ∀ v x, read? v = some x → read? (write x) = some x

theorem Faithful.of_storedAs {α : Type} {write : α → Json} {read? : Json → Option α}
    {StoredAs : α → Json → Prop} (hread : ∀ {x v}, read? v = some x ↔ StoredAs x v)
    (hwrite : ∀ x, StoredAs x (write x)) : Faithful write read? StoredAs where
  read_iff _ _ := hread
  read_write x := hread.mpr (hwrite x)
  reread _ x _ := hread.mpr (hwrite x)

namespace Json

/-- **Dice data are stored faithfully.** Every kind of them is read exactly from the values that it
may be stored as, and is read back from the one that is written. Sides without faces are not read,
neither on their own nor as part of other data. -/
theorem stored_faithfully :
    Faithful Sign.toJson Sign.ofJson? Sign.StoredAs ∧
      Faithful Sides.toJson Sides.ofJson? Sides.StoredAs ∧
      Faithful Dice.toJson Dice.ofJson? Dice.StoredAs ∧
      Faithful Atom.toJson Atom.ofJson? Atom.StoredAs ∧
      Faithful Term.toJson Term.ofJson? Term.StoredAs ∧
      Faithful Outcome.toJson Outcome.ofJson? Outcome.StoredAs ∧
      (∀ v s, Sides.ofJson? v = some s → v ≠ noFaces) ∧
      (∀ v d sides, Dice.ofJson? v = some d → Dice.HasSides v sides → sides ≠ noFaces) ∧
      (∀ v a sides, Atom.ofJson? v = some a → Atom.HasSides v sides → sides ≠ noFaces) ∧
      ∀ v t sides, Term.ofJson? v = some t → Term.HasSides v sides → sides ≠ noFaces := by
  refine ⟨.of_storedAs Sign.ofJson?_eq_some_iff Sign.storedAs_toJson,
    .of_storedAs Sides.ofJson?_eq_some_iff Sides.storedAs_toJson,
    .of_storedAs Dice.ofJson?_eq_some_iff Dice.storedAs_toJson,
    .of_storedAs Atom.ofJson?_eq_some_iff Atom.storedAs_toJson,
    .of_storedAs Term.ofJson?_eq_some_iff Term.storedAs_toJson,
    .of_storedAs Outcome.ofJson?_eq_some_iff Outcome.storedAs_toJson, ?_, ?_, ?_, ?_⟩
  · intro v s h
    exact (Sides.ofJson?_eq_some_iff.mp h).ne_noFaces
  · intro v d sides h hsides
    exact ((Dice.ofJson?_eq_some_iff.mp h).sides_storedAs hsides).ne_noFaces
  · intro v a sides h hsides
    obtain ⟨s, hs⟩ := (Atom.ofJson?_eq_some_iff.mp h).exists_sides_storedAs hsides
    exact hs.ne_noFaces
  · intro v t sides h hsides
    obtain ⟨s, hs⟩ := (Term.ofJson?_eq_some_iff.mp h).exists_sides_storedAs hsides
    exact hs.ne_noFaces

example : Dice.ofJson? (.array [.integer 2, .object [("Percentile", .null)]]) =
    some ⟨2, .percentile⟩ := by decide

end Json

end DiceFormula
