import Mockdr.Python

/-!
# Floats and instants

The built-ins that the query languages read their literals and the fields of a record with.

* `PyFloat` is a Python float, the special values among them; `RangeOp.holds` compares two of them,
  `RangeOp.between` anything else that is ordered.
* `QueryPython` are the built-ins left open: `float(s)`, `datetime.fromisoformat`, the clock;
  `NumberPython` has `float(n)` with them, and `asFloat` is `as_float` of `utils/numbers.py`.
-/

namespace Mockdr

/-- A float. -/
inductive PyFloat where
  | nan
  | negInf
  | finite (q : ℚ)
  | posInf
  deriving DecidableEq

/-- `a < b` -/
def PyFloat.lt : PyFloat → PyFloat → Bool
  | .finite p, .finite q => p < q
  | .negInf, .finite _ => true
  | .negInf, .posInf => true
  | .finite _, .posInf => true
  | _, _ => false

/-- `a == b` -/
def PyFloat.eq (a b : PyFloat) : Bool := a ≠ .nan && a = b

/-- The range operators. -/
inductive RangeOp where
  | gte
  | lte
  | gt
  | lt
  deriving DecidableEq

/-- Compare two floats; nothing compares to a NaN. -/
def RangeOp.holds (a b : PyFloat) : RangeOp → Bool
  | .gte => b.lt a || a.eq b
  | .lte => a.lt b || a.eq b
  | .gt => b.lt a
  | .lt => a.lt b

lemma RangeOp.holds_nan {x y : PyFloat} (h : x = .nan ∨ y = .nan) (op : RangeOp) :
    op.holds x y = false := by
  rcases h with rfl | rfl
  · cases op <;> cases y <;> rfl
  · cases op <;> cases x <;> rfl

/-- Compare two values of an ordered type. -/
def RangeOp.between {α : Type} [LT α] [DecidableLT α] (a b : α) : RangeOp → Bool
  | .gte => !decide (a < b)
  | .lte => !decide (b < a)
  | .gt => b < a
  | .lt => a < b

/-- The built-ins of the query languages. An instant is its microseconds since the year 1. -/
structure QueryPython extends Python where
  /-- `float(s)`, nothing where it raises -/
  float : String → Option PyFloat
  /-- `datetime.fromisoformat(s)`, in UTC if it names no offset; nothing where it raises -/
  fromisoformat : String → Option Int
  /-- `datetime.now(UTC)` -/
  now : Int

/-- `parse_utc` (`utils/dt.py`) -/
def QueryPython.parseUtc (py : QueryPython) (text : String) : Option Int :=
  py.fromisoformat (replace "Z" "+00:00" text)

/-- The built-ins on ASCII text, with no date readable and the clock at noon of 1 January 2025: what
    the concrete runs of this development compute with. -/
def asciiQueryPython : QueryPython where
  toPython := asciiPython
  float s := (asciiPython.parseInt s).map fun n => .finite n
  fromisoformat _ := none
  now := 63871329600000000

/-- The built-ins of the query languages that read any value as a number. -/
structure NumberPython extends QueryPython where
  /-- `float(n)`, nothing where it raises -/
  ofInt : Int → Option PyFloat

/-- `as_float` (`utils/numbers.py`), nothing where it raises. -/
def NumberPython.asFloat (py : NumberPython) : Json → Option (Option PyFloat)
  | .int n => (py.ofInt n).map some
  | .float q => some (some (.finite q))
  | .str s => some (py.float s)
  | .null | .bool _ | .list _ | .dict _ => some none

/-- The built-ins on ASCII text that the concrete runs of this development compute with. -/
def asciiNumberPython : NumberPython where
  toQueryPython := asciiQueryPython
  ofInt n := some (.finite n)

end Mockdr
