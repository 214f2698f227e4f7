import Mathlib
import Mockdr.Builtins
import Mockdr.Lib.Except
import Mockdr.SafeRegex

/-!
# The values of hunting queries

What the rows of a hunting table hold, what an expression evaluates to, and the built-ins that
`utils/mde_kql.py` reads them with.

* `Cell` is a value, `Row` a row: a dictionary from columns to values.
* `Fault` is what is raised: a `KqlError` with its message, a `RecursionError`, or something else.
* `asFloat` is `as_float` of `utils/numbers.py`, `toStr` is `str`: both raise on an integer that is
  too large for them.
-/

namespace Mockdr

namespace Kql

/-- A value: what `json.loads` makes, and an instant, as its microseconds since the year 1 in UTC
    and on the clock of its own offset. -/
inductive Cell where
  | none
  | bool (b : Bool)
  | int (n : Int)
  | float (x : PyFloat)
  | str (s : String)
  | list (xs : List Cell)
  | dict (fields : List (String × Cell))
  | instant (utc wall : Int)

/-- A row of a table. -/
abbrev Row := Dict String Cell

/-- `row.get(column)` -/
def cellOf (row : Row) (column : String) : Cell := (row.get column).getD .none

/-- Exceptions that are not a `KqlError`. -/
inductive Exc where
  | overflowError
  | valueError
  | reError
  | other
  deriving DecidableEq

/-- What is raised. -/
inductive Fault where
  | kql (message : String)
  | recursion
  | raised (exc : Exc)
  deriving DecidableEq

/-- From here on a float cannot hold an integer. -/
def floatLimit : Int := 2 ^ 1024 - 2 ^ 970

/-- From here on `str` and `int` refuse an integer. -/
def digitsLimit : Int := 10 ^ 4300

namespace Cell

mutual

/-- Every integer in a value is between the negative of a limit and the limit. -/
def within (limit : Int) : Cell → Bool
  | .int n => -limit < n && n < limit
  | .list xs => allWithin limit xs
  | .dict fields => fieldsWithin limit fields
  | .none | .bool _ | .float _ | .str _ | .instant _ _ => true

/-- Every integer in a list of values. -/
def allWithin (limit : Int) : List Cell → Bool
  | [] => true
  | x :: xs => x.within limit && allWithin limit xs

/-- Every integer in the members of an object. -/
def fieldsWithin (limit : Int) : List (String × Cell) → Bool
  | [] => true
  | (_, x) :: fields => x.within limit && fieldsWithin limit fields

end

/-- Python's truth test. -/
def truthy : Cell → Bool
  | .none => false
  | .bool b => b
  | .int n => n ≠ 0
  | .float x => x ≠ .finite 0
  | .str s => s ≠ ""
  | .list xs => !xs.isEmpty
  | .dict fields => !fields.isEmpty
  | .instant _ _ => true

/-- `v is None` -/
def isNone : Cell → Bool
  | .none => true
  | _ => false

end Cell

/-- Why a pattern is not parsed or not run. -/
inductive RegexFault where
  /-- `re.error` -/
  | error
  /-- `RecursionError` -/
  | recursion
  /-- a count that is too large, flags that exclude each other -/
  | raised (exc : Exc)

/-- A finite float is below the limit. -/
def Representable (x : PyFloat) : Prop :=
  ∀ q, x = .finite q → -(floatLimit : ℚ) < q ∧ q < floatLimit

/-- The built-ins of hunting queries. -/
structure KqlPython extends QueryPython where
  /-- `c.isalnum()` -/
  isAlnum : Char → Bool
  /-- `str(v)`, for a value that is not a string -/
  text : Cell → String
  /-- the microseconds by which an ISO 8601 text is ahead of UTC -/
  offset : String → Int
  /-- `timedelta(**{unit: x})` in microseconds, nothing where it overflows -/
  timedelta : String → PyFloat → Option Nat
  /-- `moment.strftime("%Y-%m-%dT%H:%M:%S.%f")[:-3] + "Z"` -/
  stamp : Int → String
  /-- `float(n)`, below the limit -/
  ofInt : Int → PyFloat
  /-- `sum(numbers)` -/
  sum : List PyFloat → PyFloat
  /-- `x / n` -/
  divide : PyFloat → Nat → PyFloat
  /-- `round(x, 6)` -/
  round6 : PyFloat → PyFloat
  /-- `sre_parse.parse(pattern)` -/
  parseRegex : String → Except RegexFault (List ReNode)
  /-- `bool(re.search(pattern, s))` -/
  search : String → String → Except RegexFault Bool
  /-- how deep calls may nest -/
  stack : Nat
  /-- there is room for an expression in which nothing is nested -/
  room : 8 ≤ stack
  /-- `str.lower` of ASCII text -/
  lower_ascii : ∀ s : String, (s.toList.all fun c => c.toNat < 128) = true →
    lower s = String.ofList (s.toList.map Char.toLower)
  /-- letters and digits are not ASCII punctuation or white space -/
  isAlnum_ascii : ∀ c : Char, c.toNat < 128 → isAlnum c = c.isAlphanum
  isAlnum_space : ∀ c : Char, isSpace c = true → isAlnum c = false
  /-- the digits are ASCII ones and others that are not ASCII -/
  digit_ascii : ∀ c : Char, c.toNat < 128 → (digit c).isSome = c.isDigit
  /-- `float` reads no text that has a quotation mark, a slash or a backslash in it -/
  float_plain : ∀ s : String, '"' ∈ s.toList ∨ '\\' ∈ s.toList ∨ '/' ∈ s.toList → float s = none
  representable_float : ∀ s x, float s = some x → Representable x
  representable_ofInt : ∀ n, Representable (ofInt n)
  representable_sum : ∀ xs, Representable (sum xs)
  representable_divide : ∀ x n, Representable (divide x n)

/-- A number as a float, an infinite one from the limit on. -/
def clamp (q : ℚ) : PyFloat :=
  if -(floatLimit : ℚ) < q ∧ q < floatLimit then .finite q else .posInf

lemma representable_clamp (q : ℚ) : Representable (clamp q) := by
  intro q' h
  rw [clamp] at h
  split at h
  · next hq =>
    cases h
    exact hq
  · cases h

/-- The built-ins on ASCII text, with no date readable and every pattern standing for itself: what
    the concrete runs of this development compute with. -/
def asciiKqlPython : KqlPython where
  toPython := asciiPython
  float s :=
    if s.toList ≠ [] ∧ s.toList.all Char.isDigit then
      some (clamp (s.toList.foldl (fun n c => 10 * n + (c.toNat - 48 : Nat)) (0 : Nat)))
    else none
  fromisoformat _ := none
  now := asciiQueryPython.now
  isAlnum := Char.isAlphanum
  text := fun
    | .none => "None"
    | .int n => toString n
    | _ => ""
  offset _ := 0
  timedelta _ _ := some 0
  stamp _ := ""
  ofInt n := clamp n
  sum xs := clamp (xs.map fun x => if let .finite q := x then q else 0).sum
  divide x n := clamp (if let .finite q := x then q / n else 0)
  round6 x := x
  parseRegex _ := .ok []
  search pattern s := .ok (hasSub pattern s)
  stack := 1000
  room := by decide
  lower_ascii _ _ := rfl
  isAlnum_ascii _ _ := rfl
  isAlnum_space c hc := by
    rw [← Bool.not_eq_true]
    intro halnum
    simp only [isSpace, Bool.or_eq_true, Bool.and_eq_true, decide_eq_true_eq] at hc
    simp only [Char.isAlphanum, Char.isAlpha, Char.isUpper, Char.isLower, Char.isDigit,
      Bool.or_eq_true, Bool.and_eq_true, decide_eq_true_eq, ge_iff_le,
      UInt32.le_iff_toNat_le] at halnum
    change ((65 ≤ c.toNat ∧ c.toNat ≤ 90) ∨ (97 ≤ c.toNat ∧ c.toNat ≤ 122))
      ∨ (48 ≤ c.toNat ∧ c.toNat ≤ 57) at halnum
    omega
  digit_ascii c _ := by
    change (if c.isDigit then _ else none : Option Nat).isSome = c.isDigit
    cases c.isDigit <;> rfl
  float_plain s hs := by
    refine if_neg ?_
    rintro ⟨-, hall⟩
    rw [List.all_eq_true] at hall
    rcases hs with hs | hs | hs
    · exact absurd (hall _ hs) (by decide)
    · exact absurd (hall _ hs) (by decide)
    · exact absurd (hall _ hs) (by decide)
  representable_float s x h := by
    split at h
    · rw [← Option.some.inj h]
      exact representable_clamp _
    · exact absurd h nofun
  representable_ofInt _ := representable_clamp _
  representable_sum _ := representable_clamp _
  representable_divide _ _ := representable_clamp _

variable (py : KqlPython)

/-- `str(v)` -/
def toStr : Cell → Except Fault String
  | .str s => .ok s
  | v => if v.within digitsLimit then .ok (py.text v) else .error (.raised .valueError)

/-- `as_float` -/
def asFloat : Cell → Except Fault (Option PyFloat)
  | .int n =>
    if -floatLimit < n ∧ n < floatLimit then .ok (some (py.ofInt n))
    else .error (.raised .overflowError)
  | .float x => .ok (some x)
  | .str s => .ok (py.float s)
  | .none | .bool _ | .list _ | .dict _ | .instant _ _ => .ok none

/-- `int(s)` of digits, a minus sign before them or not -/
def readInt (s : String) : Except Fault Int :=
  match py.readInt s with
  | some n => .ok n
  | none => .error (.raised .valueError)

/-- `_parse_datetime` -/
def parseDatetime (text : String) : Except Fault Cell :=
  match py.parseUtc text with
  | some utc => .ok (.instant utc (utc + py.offset text))
  | none => .error (.kql s!"A datetime literal is expected, found '{text}'")

/-- `_as_datetime`, in UTC -/
def asDatetime : Cell → Option Int
  | .instant utc _ => some utc
  | .str s => py.parseUtc s
  | _ => none

/-- What a fault of the `re` module raises. -/
def RegexFault.raise : RegexFault → Fault
  | .error => .raised .reError
  | .recursion => .recursion
  | .raised exc => .raised exc

/-- `check_regex`, as `_string_op` calls it. -/
def checkRegex (pattern : String) : Except Fault Unit :=
  match py.parseRegex pattern with
  | .ok tree =>
    if ReNode.nestsUnbounded tree then
      .error (.kql s!"regex '{pattern}' can backtrack catastrophically")
    else .ok ()
  | .error .error => .ok ()
  | .error fault => .error fault.raise

end Kql

end Mockdr
