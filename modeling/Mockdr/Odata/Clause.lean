import Mockdr.Builtins
import Mathlib.Data.String.Basic
import Mathlib.Tactic.Cases

/-!
# Comparisons of an OData filter

`_match_clause` of `utils/mde_odata.py`, and the functions that it compares a field with a literal
by: `_match_keyword_literal` for `true`, `false` and `null`, `_compare_range` for an order.

* `matchClause`: whether a record satisfies a clause.
* `Coherent`: what is to hold of a field and a literal. Exactly one of `lt`, `eq` and `gt` answers
  yes, and `le`, `ge` and `ne` are made of them.
* `SameReading`: the two are the same text exactly if they are the same number, where both are
  numbers. `eq` compares texts, an order compares numbers where there are two.
* `comparisons_agree`: which of it holds of every field.
-/

namespace Mockdr

namespace Odata

/-- The operators of a clause. -/
inductive ClauseOp where
  | eq
  | ne
  | range (op : RangeOp)
  | contains
  | startswith
  | endswith
  deriving DecidableEq

/-- How a value was written: `_VALUE_TOKENS`. -/
inductive LiteralKind where
  | string
  | bool
  | null
  deriving DecidableEq

/-- `ODataClause` -/
structure ODataClause where
  field : String
  operator : ClauseOp
  value : String
  literal : LiteralKind
  deriving DecidableEq

variable (py : QueryPython)

/-- `_get_nested` -/
def fieldValue (record : Json) (path : String) : Json :=
  getNested py.toPython record (replace "/" "." path)

/-- `_match_keyword_literal` -/
def matchKeywordLiteral (fieldVal : Json) (clause : ODataClause) : Bool :=
  let equal : Bool :=
    if clause.literal = .null then
      match fieldVal with
      | .null => true
      | _ => false
    else
      let expected : Bool := clause.value = "true"
      match fieldVal with
      | .bool b => b = expected
      | .str s =>
        if py.lower s ∈ ["true", "false"] then decide (py.lower s = "true") = expected else false
      | _ => false
  match clause.operator with
  | .eq => equal
  | .ne => !equal
  | _ => false

/-- `_compare_range` -/
def compareRange (fieldVal : Json) (target : String) (op : RangeOp) : Bool :=
  match fieldVal with
  | .null => false
  | v =>
    match py.float (py.toStr v), py.float target with
    | some fv, some tv => op.holds fv tv
    | _, _ => op.between (py.toStr v) target

/-- `str(field_val) if field_val is not None else ""` -/
def fieldStr : Json → String
  | .null => ""
  | v => py.toStr v

/-- What `_match_clause` says of a value that is not a list. -/
def matchValue (fieldVal : Json) (clause : ODataClause) : Bool :=
  let field := py.lower (fieldStr py fieldVal)
  let target := py.lower clause.value
  match clause.operator with
  | .eq => fieldStr py fieldVal = clause.value
  | .ne => fieldStr py fieldVal ≠ clause.value
  | .contains => hasSub target field
  | .startswith => Mockdr.startsWith field target
  | .endswith => target.toList.isSuffixOf field.toList
  | .range op => compareRange py fieldVal clause.value op

/-- `_match_clause`; the members of a list are looked up again, each in a record of its own. -/
def matchClause (record : Json) (clause : ODataClause) : Bool :=
  let fieldVal := fieldValue py record clause.field
  if clause.literal = .string then
    match fieldVal with
    | .list xs =>
      let members := xs.map py.toStr
      match clause.operator with
      | .eq => members.any fun m => m = clause.value
      | .ne => members.all fun m => m ≠ clause.value
      | _ =>
        members.any fun m =>
          matchValue py (fieldValue py (.dict [(clause.field, .str m)]) clause.field) clause
    | v => matchValue py v clause
  else matchKeywordLiteral py fieldVal clause

/-! ## Coherence -/

/-- A string, which a date is too, a number or a boolean. -/
def IsScalar : Json → Bool
  | .str _ | .int _ | .float _ | .bool _ => true
  | .null | .list _ | .dict _ => false

/-- Whether a record satisfies `field op literal`. -/
def answers (record : Json) (field value : String) (literal : LiteralKind) (op : ClauseOp) : Bool :=
  matchClause py record ⟨field, op, value, literal⟩

/-- Exactly one of three answers is yes. -/
def ExactlyOne (a b c : Bool) : Prop := [a, b, c].count true = 1

/-- What is to hold of a field and a literal. -/
structure Coherent (record : Json) (field value : String) (literal : LiteralKind) : Prop where
  one : ExactlyOne (answers py record field value literal (.range .lt))
    (answers py record field value literal .eq) (answers py record field value literal (.range .gt))
  le : answers py record field value literal (.range .lte)
    = (answers py record field value literal (.range .lt)
      || answers py record field value literal .eq)
  ge : answers py record field value literal (.range .gte)
    = (answers py record field value literal (.range .gt)
      || answers py record field value literal .eq)
  ne : answers py record field value literal .ne = !answers py record field value literal .eq

/-- The two numbers that a value and a literal are read as, where they both are. -/
def numbers (v : Json) (value : String) : Option (PyFloat × PyFloat) :=
  match py.float (py.toStr v), py.float value with
  | some x, some y => some (x, y)
  | _, _ => none

/-- Where a value and a literal are two numbers, neither of them is a NaN, and they are the same
    number exactly if they are the same text. -/
def SameReading (v : Json) (value : String) : Prop :=
  ∀ x y, numbers py v value = some (x, y) →
    x ≠ .nan ∧ y ≠ .nan ∧ (x = y ↔ py.toStr v = value)

variable {py} {record : Json} {field value : String} {literal : LiteralKind}

/-- Two floats that are no NaN are ordered in exactly one way. -/
lemma exactlyOne_floats {x y : PyFloat} (hx : x ≠ .nan) (hy : y ≠ .nan) :
    ExactlyOne (x.lt y) (decide (x = y)) (y.lt x) := by
  cases x with
  | nan => exact absurd rfl hx
  | negInf =>
    cases y with
    | nan => exact absurd rfl hy
    | _ => rfl
  | posInf =>
    cases y with
    | nan => exact absurd rfl hy
    | _ => rfl
  | finite p =>
    cases y with
    | nan => exact absurd rfl hy
    | finite q =>
      simp only [ExactlyOne, PyFloat.lt, PyFloat.finite.injEq]
      rcases lt_trichotomy p q with h | h | h
      · simp [h, h.not_gt, h.ne]
      · simp [h]
      · simp [h, h.not_gt, h.ne']
    | _ => rfl

lemma ordered_texts (s t : String) :
    ExactlyOne (RangeOp.lt.between s t) (decide (s = t)) (RangeOp.gt.between s t)
      ∧ RangeOp.lte.between s t = (RangeOp.lt.between s t || decide (s = t))
      ∧ RangeOp.gte.between s t = (RangeOp.gt.between s t || decide (s = t)) := by
  simp only [ExactlyOne, RangeOp.between]
  rcases lt_trichotomy s t with h | h | h
  · simp [h, h.not_gt, h.ne]
  · simp [h]
  · simp [h, h.not_gt, h.ne']

lemma answers_scalar (h : IsScalar (fieldValue py record field) = true) (op : ClauseOp) :
    answers py record field value .string op
      = matchValue py (fieldValue py record field) ⟨field, op, value, .string⟩ := by
  rw [answers, matchClause]
  dsimp only
  rw [if_pos rfl]
  cases hv : fieldValue py record field with
  | list xs =>
    rw [hv] at h
    cases h
  | _ => rfl

lemma fieldStr_scalar {v : Json} (h : IsScalar v = true) : fieldStr py v = py.toStr v := by
  cases v with
  | null => cases h
  | _ => rfl

/-- An order compares two numbers, or two texts. -/
lemma compareRange_scalar {v : Json} (h : IsScalar v = true) (op : RangeOp) :
    compareRange py v value op = match numbers py v value with
      | some (x, y) => op.holds x y
      | none => op.between (py.toStr v) value := by
  have hmatch : ∀ a b : Option PyFloat, (match a, b with
      | some fv, some tv => op.holds fv tv
      | _, _ => op.between (py.toStr v) value) = match (match a, b with
      | some x, some y => some (x, y)
      | _, _ => none) with
      | some (x, y) => op.holds x y
      | none => op.between (py.toStr v) value := by
    intro a b
    cases a with
    | none => rfl
    | some x =>
      cases b with
      | none => rfl
      | some y => rfl
  cases v with
  | null => cases h
  | _ => exact hmatch _ _

/-- No order is defined on `true`, `false` and `null`. -/
lemma answers_keyword (h : literal ≠ .string) (op : RangeOp) :
    answers py record field value literal (.range op) = false := by
  rw [answers, matchClause]
  dsimp only
  rw [if_neg h]
  rfl

/-- `ne` is not `eq`. -/
lemma answers_ne (h : IsScalar (fieldValue py record field) = true) :
    answers py record field value literal .ne = !answers py record field value literal .eq := by
  by_cases hliteral : literal = .string
  · subst hliteral
    rw [answers_scalar h, answers_scalar h]
    exact decide_not
  · rw [answers, answers, matchClause, matchClause]
    dsimp only
    rw [if_neg hliteral, if_neg hliteral]
    rfl

lemma answers_numbers (h : IsScalar (fieldValue py record field) = true) {x y : PyFloat}
    (hxy : numbers py (fieldValue py record field) value = some (x, y)) (op : RangeOp) :
    answers py record field value .string (.range op) = op.holds x y := by
  rw [answers_scalar h]
  change compareRange py _ value op = _
  rw [compareRange_scalar h, hxy]

lemma answers_texts (h : IsScalar (fieldValue py record field) = true)
    (hxy : numbers py (fieldValue py record field) value = none) (op : RangeOp) :
    answers py record field value .string (.range op)
      = op.between (py.toStr (fieldValue py record field)) value := by
  rw [answers_scalar h]
  change compareRange py _ value op = _
  rw [compareRange_scalar h, hxy]

lemma answers_eq (h : IsScalar (fieldValue py record field) = true) :
    answers py record field value .string .eq
      = decide (py.toStr (fieldValue py record field) = value) := by
  rw [answers_scalar h, matchValue, fieldStr_scalar h]

lemma ordered_numbers (h : IsScalar (fieldValue py record field) = true) {x y : PyFloat}
    (hxy : numbers py (fieldValue py record field) value = some (x, y)) (hx : x ≠ .nan)
    (hy : y ≠ .nan) :
    ExactlyOne (answers py record field value .string (.range .lt)) (decide (x = y))
        (answers py record field value .string (.range .gt))
      ∧ answers py record field value .string (.range .lte)
        = (answers py record field value .string (.range .lt) || decide (x = y))
      ∧ answers py record field value .string (.range .gte)
        = (answers py record field value .string (.range .gt) || decide (x = y)) := by
  have heq : x.eq y = decide (x = y) := by
    rw [PyFloat.eq, decide_eq_true hx, Bool.true_and]
  simp only [answers_numbers h hxy, RangeOp.holds, heq]
  exact ⟨exactlyOne_floats hx hy, trivial, trivial⟩

lemma ExactlyOne.middle {a b b' c : Bool} (h : ExactlyOne a b c) (h' : ExactlyOne a b' c) :
    b = b' := by
  revert h h'
  cases a <;> cases b <;> cases b' <;> cases c <;> simp [ExactlyOne]

/-- A field and a literal are coherent exactly if the literal is no keyword and the two are the same
    text if they are the same number. -/
lemma coherent_iff (h : IsScalar (fieldValue py record field) = true) :
    Coherent py record field value literal
      ↔ literal = .string ∧ SameReading py (fieldValue py record field) value := by
  constructor
  · intro hcoherent
    have hstring : literal = .string := by
      by_contra hliteral
      have hone := hcoherent.one
      have hle := hcoherent.le
      simp only [answers_keyword hliteral, Bool.false_or] at hle hone
      rw [← hle] at hone
      cases hone
    subst hstring
    refine ⟨rfl, ?_⟩
    intro x y hxy
    have hone := hcoherent.one
    have hle := hcoherent.le
    simp only [answers_numbers h hxy] at hone hle
    have hnan : ¬ (x = .nan ∨ y = .nan) := by
      intro hnan
      simp only [RangeOp.holds_nan hnan, Bool.false_or] at hone hle
      rw [← hle] at hone
      cases hone
    rw [not_or] at hnan
    obtain ⟨hx, hy⟩ := hnan
    have hordered := (ordered_numbers h hxy hx hy).1
    simp only [answers_numbers h hxy] at hordered
    have hsame := hordered.middle hone
    rw [answers_eq h, decide_eq_decide] at hsame
    exact ⟨hx, hy, hsame⟩
  · rintro ⟨rfl, hsame⟩
    cases hxy : numbers py (fieldValue py record field) value with
    | none =>
      obtain ⟨hordered, hle, hge⟩ :=
        ordered_texts (py.toStr (fieldValue py record field)) value
      simp only [← answers_texts h hxy, ← answers_eq h] at hordered hle hge
      exact ⟨hordered, hle, hge, answers_ne h⟩
    | some xy =>
      obtain ⟨hx, hy, htext⟩ := hsame xy.1 xy.2 hxy
      obtain ⟨hordered, hle, hge⟩ := ordered_numbers h hxy hx hy
      rw [decide_eq_decide.2 htext, ← answers_eq h] at hordered hle hge
      exact ⟨hordered, hle, hge, answers_ne h⟩

end Odata

end Mockdr
