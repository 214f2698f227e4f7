import Mathlib
import Mockdr.Odata.Clause
import Mockdr.Splunk.KvRefusal

/-!
# The order of the KV store's comparisons

`_compare` of `utils/splunk/kvstore_query.py` compares two values as numbers where `as_float` reads
both, and as what `str` makes of them otherwise. What a field is equal to (`same`) has the same text
or is equal in Python.

* `Lawful`: a field that a record lacks is before and behind nothing and equal to nothing, and one
  that it has is before a literal, equal to it or behind it.
* `Placed`: a value and a literal are equal exactly if they have the same place in the order.
* `lawful_iff`: what a record lacks is compared as the text `None`, and so the law holds there only
  if the comparison raises; of what it has, it holds where the two are `Placed`.
-/

namespace Mockdr

namespace KvStore

open Odata (ExactlyOne ExactlyOne.middle exactlyOne_floats ordered_texts)

section

variable (py : KvPython)

/-- An operator holds of a field of a record. -/
def holds (record : Record) (field op : String) (literal : Json) : Bool :=
  matchesFields py record [(field, .dict [(op, literal)])] = some true

/-- A field of a record is equal to a literal. -/
def equals (record : Record) (field : String) (literal : Json) : Bool :=
  matchesFields py record [(field, literal)] = some true

/-- Exactly one of before, equal and behind is true, and the two others are their unions with
    equal. -/
structure Trichotomous (lt eq gt le ge : Bool) : Prop where
  one : ExactlyOne lt eq gt
  le : le = (lt || eq)
  ge : ge = (gt || eq)

/-- What is to hold of a field of a record and a literal. -/
structure Lawful (record : Record) (field : String) (literal : Json) : Prop where
  lacking : Object.get record field = .null →
    (∀ op ∈ ["$gt", "$gte", "$lt", "$lte"], holds py record field op literal = false)
      ∧ (literal ≠ .null → equals py record field literal = false)
  present : Object.get record field ≠ .null → literal ≠ .null →
    Trichotomous (holds py record field "$lt" literal) (equals py record field literal)
      (holds py record field "$gt" literal) (holds py record field "$lte" literal)
      (holds py record field "$gte" literal)

/-- Two values can be compared. Where both are numbers, neither is a NaN and they are equal exactly
    if they are the same number; otherwise they have the same text if they are equal. -/
def Placed (v literal : Json) : Prop :=
  match py.asFloat v, py.asFloat literal with
  | some (some x), some (some y) => x ≠ .nan ∧ y ≠ .nan ∧ (same py v literal = true ↔ x = y)
  | some _, some _ => same py v literal = true → py.toStr v = py.toStr literal
  | _, _ => False

end

variable {py : KvPython} {record : Record} {field : String} {v literal : Json}

lemma not_trichotomous (eq : Bool) : ¬ Trichotomous false eq false false false := by
  rintro ⟨hone, hle, -⟩
  rw [← show false = eq from hle] at hone
  cases hone

lemma Trichotomous.iff_eq {lt eq eq' gt le ge : Bool} (h : Trichotomous lt eq gt le ge) :
    Trichotomous lt eq' gt le ge ↔ eq' = eq := by
  constructor
  · intro h'
    exact h'.one.middle h.one
  · rintro rfl
    exact h

lemma equals_eq (hfield : isJoin field = false) (hliteral : literal.isDict = false) :
    equals py record field literal = same py (Object.get record field) literal := by
  rw [equals, matchesFields_single hfield]
  cases literal with
  | dict ops => cases hliteral
  | _ =>
    rw [matchCondition]
    · simp
    · rintro _ ⟨⟩

lemma holds_eq (hfield : isJoin field = false) {op : String} {range : RangeOp}
    (hop : rangeOp op = some range) :
    holds py record field op literal
      = decide (compare py (Object.get record field) literal range = some true) := by
  have hcheck : checkOp py (Object.get record field) op literal
      = compare py (Object.get record field) literal range := by
    unfold checkOp
    rw [hop]
  rw [holds, matchesFields_single hfield, matchCondition, checkOps_single, hcheck]

/-- What a record lacks is compared as the text `None`: at or before a literal, or at or behind
    it. -/
lemma compare_null (py : KvPython) (literal : Json) :
    (∀ op, compare py .null literal op ≠ some true) ↔ py.asFloat literal = none := by
  have hnull : ∀ op, compare py .null literal op = (py.asFloat literal).map fun _ =>
      op.between (py.toStr .null) (py.toStr literal) := by
    intro op
    rw [compare]
    cases py.asFloat literal with
    | none => rfl
    | some b => cases b <;> rfl
  simp only [hnull]
  cases py.asFloat literal with
  | none => simp
  | some b =>
    simp only [Option.map_some, ne_eq, Option.some.injEq, reduceCtorEq, iff_false, not_forall,
      not_not]
    rcases le_total (py.toStr .null) (py.toStr literal) with h | h
    · exact ⟨.lte, congrArg not (decide_eq_false h.not_gt)⟩
    · exact ⟨.gte, congrArg not (decide_eq_false h.not_gt)⟩

/-- The comparisons of two values and their equality are an order exactly if they are placed. -/
lemma trichotomous_iff (py : KvPython) (v literal : Json) :
    Trichotomous (compare py v literal .lt = some true) (same py v literal)
        (compare py v literal .gt = some true) (compare py v literal .lte = some true)
        (compare py v literal .gte = some true)
      ↔ Placed py v literal := by
  have htexts : (∀ op, compare py v literal op
        = some (op.between (py.toStr v) (py.toStr literal))) →
      (Trichotomous (compare py v literal .lt = some true) (same py v literal)
          (compare py v literal .gt = some true) (compare py v literal .lte = some true)
          (compare py v literal .gte = some true)
        ↔ (same py v literal = true → py.toStr v = py.toStr literal)) := by
    intro hcompare
    obtain ⟨hone, hle, hge⟩ := ordered_texts (py.toStr v) (py.toStr literal)
    have hsame : py.toStr v = py.toStr literal → same py v literal = true := by
      intro h
      rw [same, decide_eq_true h, Bool.true_or]
    simp only [hcompare, Option.some.injEq, Bool.decide_eq_true]
    rw [Trichotomous.iff_eq ⟨hone, hle, hge⟩, Bool.eq_iff_iff, decide_eq_true_eq]
    exact ⟨Iff.mp, fun h => ⟨h, hsame⟩⟩
  cases hv : py.asFloat v with
  | none =>
    have hcompare : ∀ op, compare py v literal op = none := by
      intro op
      rw [compare, hv]
      rfl
    simp only [hcompare, Placed, hv, iff_false]
    exact not_trichotomous _
  | some a =>
    cases hl : py.asFloat literal with
    | none =>
      have hcompare : ∀ op, compare py v literal op = none := by
        intro op
        rw [compare, hv, hl]
        rfl
      simp only [hcompare, Placed, hv, hl, iff_false]
      exact not_trichotomous _
    | some b =>
      cases a with
      | none =>
        rw [htexts fun op => by rw [compare, hv, hl]; rfl]
        simp only [Placed, hv, hl]
      | some x =>
        cases b with
        | none =>
          rw [htexts fun op => by rw [compare, hv, hl]; rfl]
          simp only [Placed, hv, hl]
        | some y =>
          have hcompare : ∀ op, compare py v literal op = some (op.holds x y) := by
            intro op
            rw [compare, hv, hl]
            rfl
          simp only [hcompare, Placed, hv, hl, Option.some.injEq, Bool.decide_eq_true]
          by_cases hnan : x = .nan ∨ y = .nan
          · simp only [RangeOp.holds_nan hnan]
            refine iff_of_false (not_trichotomous _) ?_
            rintro ⟨hx, hy, -⟩
            exact hnan.elim hx hy
          · obtain ⟨hx, hy⟩ := not_or.1 hnan
            have hreal : x.eq y = decide (x = y) := by
              rw [PyFloat.eq, decide_eq_true hx, Bool.true_and]
            have horder : Trichotomous (RangeOp.lt.holds x y) (decide (x = y))
                (RangeOp.gt.holds x y) (RangeOp.lte.holds x y) (RangeOp.gte.holds x y) :=
              ⟨exactlyOne_floats hx hy, congrArg (x.lt y || ·) hreal, congrArg (y.lt x || ·) hreal⟩
            rw [horder.iff_eq, Bool.eq_iff_iff, decide_eq_true_eq]
            exact ⟨fun h => ⟨hx, hy, h⟩, fun h => h.2.2⟩

/-- A field that a record lacks is compared with a literal as the law says exactly if the comparison
    raises and the literal does not have the text `None`; one that it has, exactly if it and the
    literal are equal where they have the same place in the order, and only there. -/
theorem lawful_iff (py : KvPython) (record : Record) (field : String) (literal : Json)
    (hfield : isJoin field = false) (hliteral : literal.isDict = false) :
    Lawful py record field literal
      ↔ (Object.get record field = .null →
          py.asFloat literal = none ∧ same py .null literal = false)
        ∧ (Object.get record field ≠ .null → literal ≠ .null →
          Placed py (Object.get record field) literal) := by
  have hlacking : Object.get record field = .null →
      ((∀ op ∈ ["$gt", "$gte", "$lt", "$lte"], holds py record field op literal = false)
          ∧ (literal ≠ .null → equals py record field literal = false)
        ↔ py.asFloat literal = none ∧ same py .null literal = false) := by
    intro hnull
    rw [equals_eq hfield hliteral, hnull, ← compare_null]
    have hops : (∀ op ∈ ["$gt", "$gte", "$lt", "$lte"], holds py record field op literal = false)
        ↔ ∀ op, compare py .null literal op ≠ some true := by
      simp only [List.forall_mem_cons, List.not_mem_nil, false_implies, implies_true, and_true,
        holds_eq hfield (show rangeOp "$gt" = some .gt from rfl),
        holds_eq hfield (show rangeOp "$gte" = some .gte from rfl),
        holds_eq hfield (show rangeOp "$lt" = some .lt from rfl),
        holds_eq hfield (show rangeOp "$lte" = some .lte from rfl), hnull, decide_eq_false_iff_not]
      constructor
      · rintro ⟨hgt, hgte, hlt, hlte⟩ op
        cases op with
        | gt => exact hgt
        | gte => exact hgte
        | lt => exact hlt
        | lte => exact hlte
      · intro h
        exact ⟨h .gt, h .gte, h .lt, h .lte⟩
    rw [hops]
    refine and_congr_right fun hcompare => ⟨fun h => h ?_, fun h _ => h⟩
    rintro rfl
    cases (compare_null py .null).1 hcompare
  have hpresent : Object.get record field ≠ .null → literal ≠ .null →
      (Trichotomous (holds py record field "$lt" literal) (equals py record field literal)
          (holds py record field "$gt" literal) (holds py record field "$lte" literal)
          (holds py record field "$gte" literal)
        ↔ Placed py (Object.get record field) literal) := by
    intro _ _
    rw [holds_eq hfield (show rangeOp "$gt" = some .gt from rfl),
      holds_eq hfield (show rangeOp "$gte" = some .gte from rfl),
      holds_eq hfield (show rangeOp "$lt" = some .lt from rfl),
      holds_eq hfield (show rangeOp "$lte" = some .lte from rfl), equals_eq hfield hliteral]
    exact trichotomous_iff py _ _
  constructor
  · rintro ⟨hl, hp⟩
    exact ⟨fun h => (hlacking h).1 (hl h), fun h h' => (hpresent h h').1 (hp h h')⟩
  · rintro ⟨hl, hp⟩
    exact ⟨fun h => (hlacking h).2 (hl h), fun h h' => (hpresent h h').2 (hp h h')⟩

/-- The number 5 is compared with 7 as the law says. -/
theorem five_before_seven : Lawful asciiKvPython [("n", .int 5)] "n" (.int 7) := by
  refine (lawful_iff asciiKvPython [("n", .int 5)] "n" (.int 7) rfl rfl).2 ⟨nofun, fun _ _ => ?_⟩
  change PyFloat.finite 5 ≠ .nan ∧ PyFloat.finite 7 ≠ .nan
    ∧ (same asciiKvPython (.int 5) (.int 7) = true ↔ PyFloat.finite 5 = .finite 7)
  refine ⟨nofun, nofun, ?_⟩
  decide +kernel

/-- A record without a field is found by what is greater than `A` there, and by what is equal to the
    text `None`. -/
theorem missing_above_text :
    holds asciiKvPython [] "n" "$gt" (.str "A") = true
      ∧ equals asciiKvPython [] "n" (.str "None") = true := by
  decide +kernel

end KvStore

end Mockdr
