import Mockdr.Elastic.DateMath

/-!
# `range`

The clause `range` (`utils/es_query.py`). A bound that is date math is resolved when the clause is
built, with the rounding that its operator asks for, and compared with the instants of the records;
any other bound is compared as a number, or as a text (`compareRange`).
-/

namespace Mockdr

namespace DateMath

open Elastic

variable (py : DatePython)

/-- `ROUNDS_UP` -/
def roundsUp : RangeOp → Bool
  | .gt => true
  | .gte => false
  | .lt => false
  | .lte => true

/-- The operators of a `range`, by name. -/
def rangeOp (name : String) : Option RangeOp :=
  if name = "gte" then some .gte
  else if name = "gt" then some .gt
  else if name = "lte" then some .lte
  else if name = "lt" then some .lt
  else none

/-- `_compare_range`, nothing where it raises. -/
def compareRange (v target : Json) (op : RangeOp) : Option Bool :=
  match v, target with
  | .null, _ => some false
  | _, .null => some false
  | v, target =>
    let texts := op.between (py.toStr v) (py.toStr target)
    match floatOf py.toTermPython v with
    | none => none
    | some none => some texts
    | some (some fv) =>
      match floatOf py.toTermPython target with
      | none => none
      | some none => some texts
      | some (some tv) => some (op.holds fv tv)

/-- `_compare_moment`, nothing where it raises. -/
def compareMoment (v : Json) (bound : ℤ) (op : RangeOp) : Option Bool :=
  match parseDatetime py v with
  | .error _ => none
  | .ok none => some false
  | .ok (some moment) => some (op.between moment bound)

/-- The `time_zone` of a clause: what is not true counts as absent, and what is no text raises. -/
def timeZoneOf (bounds : Object) : Except SearchError (Option String) :=
  match Object.get bounds "time_zone" with
  | .str name => .ok (some name)
  | v => if v.truthy then .error .crash else .ok none

/-- A bound, and the instant that it stands for if it is date math. -/
structure Bound where
  op : RangeOp
  target : Json
  moment : Option ℤ

/-- Resolve a bound. -/
def resolveBound (bounds : Object) (op : RangeOp) (target : Json) : Except SearchError Bound :=
  match target with
  | .str expression =>
    if isDateMath expression then do
      let timeZone ← timeZoneOf bounds
      match resolve py none (roundsUp op) timeZone expression with
      | .ok moment => .ok ⟨op, target, moment⟩
      | .error (.dateMathError message) =>
        .error (.query { message, esType := "parse_exception", shardFailure := true })
      | .error .uncaught => .error .crash
    else .ok ⟨op, target, none⟩
  | target => .ok ⟨op, target, none⟩

/-- `within`, nothing where it raises. -/
def within (bounds : List Bound) (v : Json) : Option Bool :=
  bounds.allM fun bound =>
    match bound.moment with
    | some moment => compareMoment py v moment bound.op
    | none => compareRange py v bound.target bound.op

/-- The test of a `range`, nothing where it raises. -/
def rangeTest (field : String) (bounds : List Bound) (record : Rec) : Option Bool :=
  if bounds.isEmpty then some true
  else (fieldValues py.toPython record field).anyM (within py bounds)

/-- What a clause without a field is refused with. -/
def noField : SearchError := .query {
  message := "field name is null or empty"
  esType := "illegal_argument_exception" }

/-- `_build_range` -/
def buildRange : Object → Except SearchError (Rec → Option Bool)
  | [] => .error noField
  | (first, _) :: (second, _) :: _ => .error (.query {
      message := "[range] query doesn't support multiple fields, found [" ++ first ++ "] and ["
        ++ second ++ "]"
      clause := some "range" })
  | [(field, bounds)] =>
    if field = "" then .error noField
    else
      match bounds with
      | .null => .error noField
      | .dict bounds => do
        let operators := bounds.filterMap fun (name, target) =>
          (rangeOp name).map fun op => (op, target)
        let resolved ← operators.mapM fun (op, target) => resolveBound py bounds op target
        .ok (rangeTest py field resolved)
      | _ => .error (.query {
          message := "[range] query does not support [" ++ field ++ "]"
          clause := some "range" })

end DateMath

end Mockdr
