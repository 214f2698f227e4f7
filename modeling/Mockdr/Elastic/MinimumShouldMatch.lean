import Mathlib.Data.Rat.Floor
import Mockdr.Python

/-!
# `minimum_should_match`

`calculate_min_should_match` (`utils/es_query.py`): how many of a number of optional clauses have to
match, read from a specification such as `3`, `-2`, `75%` or `2<-25% 9<-3`. A percentage is computed
in single precision, as Java does.
-/

namespace Mockdr.Elastic

/-! ## Single precision -/

/-- A number that is not negative, rounded to the nearest integer, a tie to the even one. -/
def roundHalfEven (q : ℚ) : Int :=
  let f := q.floor
  if q - f < 1 / 2 then f
  else if 1 / 2 < q - f then f + 1
  else if f % 2 = 0 then f else f + 1

/-- A number rounded to `p` significant bits. -/
def roundBits (p : Nat) (q : ℚ) : ℚ :=
  if q = 0 then 0
  else
    let a := |q|
    let e0 : Int := Nat.log2 a.num.toNat - Nat.log2 a.den
    let e := (if (2 : ℚ) ^ e0 ≤ a then e0 else e0 - 1) - (p - 1)
    let r := roundHalfEven (a / 2 ^ e) * (2 : ℚ) ^ e
    if q < 0 then -r else r

/-- `_float32`: a Python number packed into single precision; nothing where that overflows. -/
def float32 (q : ℚ) : Option ℚ :=
  let r := roundBits 24 (roundBits 53 q)
  if 2 ^ 128 ≤ |r| then none else some r

/-- `int(q)`: the part before the point. -/
def truncate (q : ℚ) : Int := if q < 0 then -(-q).floor else q.floor

/-! ## Specifications -/

/-- What `calculate_min_should_match` raises. -/
inductive MinimumError where
  /-- `ValueError`, where `Integer.parseInt` would fail -/
  | value
  /-- `OverflowError`, for a percentage single precision cannot hold -/
  | overflow
  deriving DecidableEq

/-- `_java_int` -/
def javaInt (py : Python) (text : String) : Except MinimumError Int :=
  match py.readInt text with
  | some n => .ok n
  | none => .error .value

/-- `text[:-1]` -/
def dropLastChar (text : String) : String := String.ofList text.toList.dropLast

/-- `_float32(_float32(n) * _float32(1 / 100))` -/
def percentOf (n : Int) : Option ℚ := do
  let share ← float32 n
  let hundredth ← float32 (1 / 100)
  float32 (share * hundredth)

/-- The unconditional forms: a number, or a percentage, either of which may be negative. -/
def plainMinimum (py : Python) (optional : Nat) (spec : String) : Except MinimumError Int :=
  let text := strip spec
  if hasChar '%' text then do
    let percent ← javaInt py (dropLastChar text)
    match percentOf (optional * percent) with
    | none => .error .overflow
    | some share =>
      .ok (max (if share < 0 then optional + truncate share else truncate share) 0)
  else do
    let n ← javaInt py text
    .ok (max (if n < 0 then optional + n else n) 0)

/-- `re.sub(r"(\s+<\s*)|(\s*<\s+)", "<", text)`, in one direction: no blanks after a `<`. -/
def closeUpAfter : List Char → List Char
  | [] => []
  | '<' :: rest => '<' :: (closeUpAfter rest).dropWhile isSpace
  | c :: rest => c :: closeUpAfter rest

/-- `re.sub(r"(\s+<\s*)|(\s*<\s+)", "<", text)`: no blanks around a `<`. -/
def closeUp (text : String) : String :=
  String.ofList (closeUpAfter (closeUpAfter text.toList).reverse).reverse

/-- `any(optional <= _java_int(link) for link in bounds)` -/
def anyStops (py : Python) (optional : Nat) : List String → Except MinimumError Bool
  | [] => .ok false
  | link :: bounds => do
    let n ← javaInt py link
    if optional ≤ n then .ok true else anyStops py optional bounds

/-- The conditional forms, part by part; `result` is what the parts so far say. -/
def conditionalMinimum (py : Python) (optional : Nat) :
    Int → List String → Except MinimumError Int
  | result, [] => .ok result
  | result, part :: parts => do
    let (bound, rest) := partition '<' part
    let n ← javaInt py bound
    if optional ≤ n then .ok result
    else
      let links := split '<' rest
      let stops ← anyStops py optional links.dropLast
      let result ←
        if stops then .ok (optional : Int) else plainMinimum py optional (links.getLastD "")
      conditionalMinimum py optional result parts

/-- `calculate_min_should_match` -/
def calculateMinShouldMatch (py : Python) (optional : Nat) (spec : Json) :
    Except MinimumError Int :=
  let text := strip (py.toStr spec)
  if hasChar '<' text then conditionalMinimum py optional optional (split ' ' (closeUp text))
  else plainMinimum py optional text

end Mockdr.Elastic
