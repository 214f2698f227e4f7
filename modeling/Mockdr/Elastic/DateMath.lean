import Mockdr.Elastic.Terms
import Mockdr.Lib.Calendar

/-!
# Date math

Elasticsearch's date math (`utils/es_datemath.py`): `now-30d`, `now/d`, `2026-01-01||+1M/M`.

* `parseDatetime` reads a stored value as an instant, in microseconds since the year 1.
* `addMonths`, `applyOffset`, `roundDown` and `nextUnit` are what an operation does to a moment,
  which is the wall clock of a `Zone`. A moment has a year from 1 to 9999, and what would leave
  those years raises (`checked`).
* `resolve` reads an anchor and applies the operations behind it, from left to right.
-/

namespace Mockdr

namespace DateMath

open Calendar Elastic

/-- What `resolve` raises. -/
inductive Raised where
  /-- `DateMathError` -/
  | dateMathError (message : String)
  /-- an `OverflowError`, or a `ValueError` that is no `DateMathError` -/
  | uncaught
  deriving DecidableEq

/-! ## Moments and zones -/

/-- The years that a `datetime` can have. -/
def InYears (m : DateTime) : Prop := 1 ≤ m.year ∧ m.year ≤ 9999

instance (m : DateTime) : Decidable (InYears m) := inferInstanceAs (Decidable (_ ∧ _))

/-- A `datetime`; what would have another year raises. -/
def checked (m : DateTime) : Option DateTime := if InYears m then some m else none

lemma checked_eq_some_iff {m m' : DateTime} : checked m = some m' ↔ InYears m ∧ m = m' := by
  rw [checked]
  split_ifs with h
  · rw [Option.some.injEq]
    exact ⟨fun heq => ⟨h, heq⟩, And.right⟩
  · exact ⟨nofun, fun h' => absurd h'.1 h⟩

/-- `moment + timedelta`. A `timedelta` that is too long to be one leaves the years as well. -/
def plus (m : DateTime) (microseconds : ℤ) : Option DateTime :=
  checked (.ofMicros (m.micros + microseconds))

/-- A `tzinfo`, as what converts to it and from it. -/
structure Zone where
  /-- `astimezone(zone)` of an instant, nothing where it raises -/
  fromUtc : ℤ → Option DateTime
  /-- `astimezone(UTC)` of a moment of the zone, nothing where it raises -/
  toUtc : DateTime → Option ℤ
  fromUtc_mem : ∀ n m, fromUtc n = some m → InYears m

/-- `UTC` -/
def utc : Zone where
  fromUtc n := checked (.ofMicros n)
  toUtc m := some m.micros
  fromUtc_mem _ _ h := (checked_eq_some_iff.1 h).2 ▸ (checked_eq_some_iff.1 h).1

/-- `_FixedOffset`. An offset of a day or more raises when it is used. -/
def fixedOffset (offset : ℤ) : Zone where
  fromUtc n :=
    if |offset| < dayMicros then (checked (.ofMicros n)).bind (plus · offset) else none
  toUtc m := if |offset| < dayMicros then (plus m (-offset)).map DateTime.micros else none
  fromUtc_mem n m h := by
    split_ifs at h
    obtain ⟨instant, -, h⟩ := Option.bind_eq_some_iff.1 h
    obtain ⟨hyears, rfl⟩ := checked_eq_some_iff.1 h
    exact hyears

/-- The built-ins of date math. -/
structure DatePython extends TermPython where
  /-- `str.isdigit` of a character -/
  isdigit : Char → Bool
  /-- `datetime.fromtimestamp(value / 1000, tz=UTC)`, nothing where it raises -/
  fromMillis : ℚ → Option ℤ
  /-- `ZoneInfo(name)`, nothing where it raises -/
  zoneInfo : String → Option Zone
  /-- a sign and a unit are no digits -/
  digit_mark : ∀ c ∈ ['-', '+', 'y', 'M', 'w', 'd', 'h', 'H', 'm', 's'], digit c = none

variable (py : DatePython)

/-- `_zone` -/
def zone : Option String → Zone
  | none => utc
  | some name =>
    if name = "" ∨ name ∈ ["Z", "UTC", "+00:00", "-00:00"] then utc
    else
      let written := match name.toList with
        | sign :: a :: b :: ':' :: c :: d :: [] => some (sign, [a, b], [c, d])
        | sign :: a :: b :: c :: d :: [] => some (sign, [a, b], [c, d])
        | _ => none
      let offset := written.bind fun (sign, hours, minutes) =>
        match hours.mapM py.digit, minutes.mapM py.digit with
        | some [a, b], some [c, d] =>
          let delta : ℤ := (10 * a + b) * 3600000000 + (10 * c + d) * 60000000
          if sign = '+' then some delta else if sign = '-' then some (-delta) else none
        | _, _ => none
      match offset with
      | some delta => if delta = 0 then utc else fixedOffset delta
      | none => (py.zoneInfo name).getD utc

/-! ## Stored values -/

/-- `text.lstrip("-").isdigit()` -/
def isMillis (text : String) : Bool :=
  let digits := text.toList.dropWhile (· = '-')
  !digits.isEmpty && digits.all py.isdigit

/-- A text without the white space around it, and with an offset for the `Z` at its end. -/
def dateText (value : String) : String :=
  let text := strip value
  if text.toList.getLast? = some 'Z' then String.ofList text.toList.dropLast ++ "+00:00" else text

/-- `parse_datetime` -/
def parseDatetime : Json → Except Raised (Option ℤ)
  | .int n => .ok (py.fromMillis n)
  | .float q => .ok (py.fromMillis q)
  | .str value =>
    if value = "" then .ok none
    else
      let text := dateText value
      match py.fromisoformat text with
      | some instant => .ok (some instant)
      | none =>
        if isMillis py text then
          match py.parseInt text with
          | some n => .ok (py.fromMillis n)
          | none => .error .uncaught
        else .ok none
  | .null | .bool _ | .list _ | .dict _ => .ok none

/-! ## Operations -/

/-- The units of date math. -/
inductive DateUnit where
  | y
  | M
  | w
  | d
  | h
  | H
  | m
  | s
  deriving DecidableEq

/-- `[yMwdhHms]` -/
def DateUnit.ofChar : Char → Option DateUnit
  | 'y' => some .y
  | 'M' => some .M
  | 'w' => some .w
  | 'd' => some .d
  | 'h' => some .h
  | 'H' => some .H
  | 'm' => some .m
  | 's' => some .s
  | _ => none

/-- The microseconds of the `_SIMPLE_UNITS`. -/
def DateUnit.simple : DateUnit → ℤ
  | .w => 604800000000
  | .d => 86400000000
  | .h | .H => 3600000000
  | .m => 60000000
  | .s => 1000000
  -- years and months are none of them
  | .y | .M => 0

/-- The moment some months later, in whatever year that is, with the day clamped to its month. -/
def shiftMonths (m : DateTime) (months : ℤ) : DateTime :=
  let total := m.month - 1 + months
  let year := m.year + total / 12
  let month := (total % 12).toNat + 1
  { m with
    year, month
    day := min m.day (daysInMonth year month)
    month_mem := by omega
    day_mem := by
      have := m.day_mem
      have := (daysInMonth_bounds year month).1
      omega }

/-- `_add_months` -/
def addMonths (m : DateTime) (months : ℤ) : Option DateTime := checked (shiftMonths m months)

/-- `_apply_offset` -/
def applyOffset (m : DateTime) (sign count : ℤ) : DateUnit → Option DateTime
  | .y => addMonths m (sign * count * 12)
  | .M => addMonths m (sign * count)
  | unit => plus m (sign * count * unit.simple)

/-- `moment.replace(hour=0, minute=0, second=0, microsecond=0)` -/
def midnight (m : DateTime) : DateTime :=
  { m with hour := 0, minute := 0, second := 0, microsecond := 0, time_mem := by omega }

/-- `moment.weekday()`: the first day of all is a Monday. -/
def weekday (m : DateTime) : ℤ := m.dayNumber % 7

lemma firstDay_mem (year : ℤ) (month : ℕ) : 1 ≤ 1 ∧ 1 ≤ daysInMonth year month :=
  ⟨Nat.le_refl 1, Nat.le_trans (by decide) (daysInMonth_bounds year month).1⟩

/-- `_round_down`. The first week starts with the first year, so no week starts in front of it. -/
def roundDown (m : DateTime) : DateUnit → DateTime
  | .y => { midnight m with
      month := 1, day := 1, month_mem := by omega, day_mem := firstDay_mem _ _ }
  | .M => { midnight m with day := 1, day_mem := firstDay_mem _ _ }
  | .w => .ofMicros ((midnight m).micros - weekday m * dayMicros)
  | .d => midnight m
  | .h | .H => { m with
      minute := 0, second := 0, microsecond := 0
      time_mem := by have := m.time_mem; omega }
  | .m => { m with second := 0, microsecond := 0, time_mem := by have := m.time_mem; omega }
  | .s => { m with microsecond := 0, time_mem := by have := m.time_mem; omega }

/-- `_next_unit` -/
def nextUnit (m : DateTime) : DateUnit → Option DateTime
  | .y => addMonths m 12
  | .M => addMonths m 1
  | .w => plus m 604800000000
  | unit => plus m unit.simple

/-! ## Expressions -/

/-- An operation, as its operator, the digits of its count and its unit. -/
structure Operation where
  operator : Char
  count : List Char
  unit : DateUnit

/-- `_OP_RE.match`: an operation, and the text behind it. -/
def opRe : List Char → Option (Operation × List Char)
  | [] => none
  | operator :: text =>
    if operator ∈ ['+', '-', '/'] then
      let count := text.takeWhile fun c => (py.digit c).isSome
      match text.drop count.length with
      | [] => none
      | c :: rest => (DateUnit.ofChar c).map fun unit => (⟨operator, count, unit⟩, rest)
    else none

/-- `_LOOSE_OP_RE.match`: the first character behind the count that is no white space, or else the
    last digit of the count. -/
def looseOpRe : List Char → Option Char
  | [] => none
  | operator :: text =>
    if operator ∈ ['+', '-', '/'] then
      let count := text.takeWhile fun c => (py.digit c).isSome
      match (text.drop count.length).head?.filter fun c => !isSpace c with
      | some c => some c
      | none => count.getLast?
    else none

/-- What an expression is refused with behind the operations that can be read. -/
def unsupported (whole rest : List Char) : Raised :=
  let offender := match looseOpRe py rest with
    | some c => String.singleton c
    | none => String.ofList rest
  .dateMathError ("unit [" ++ offender ++ "] not supported for date math ["
    ++ String.ofList whole ++ "]")

/-- What `resolve` does to a moment for an operation of the text `whole`. -/
def apply (roundUp : Bool) (whole : List Char) (op : Operation) (moment : DateTime) :
    Except Raised DateTime :=
  if op.operator = '/' then
    if op.count ≠ [] then
      .error (.dateMathError ("rounding is not supported with a count in ["
        ++ String.ofList whole ++ "]"))
    else
      let start := roundDown moment op.unit
      if roundUp then
        -- `_MILLI` before the next unit
        match (nextUnit start op.unit).bind (plus · (-1000)) with
        | some last => .ok last
        | none => .error .uncaught
      else .ok start
  else
    match if op.count = [] then some 1 else py.readInt (String.ofList op.count) with
    | none => .error .uncaught
    | some count =>
      match applyOffset moment (if op.operator = '+' then 1 else -1) count op.unit with
      | some moved => .ok moved
      | none => .error .uncaught

/-- The loop of `resolve` over the operations of the text `whole`; the fuel is its length. -/
def steps (roundUp : Bool) (whole : List Char) : ℕ → List Char → DateTime → Except Raised DateTime
  | _, [], moment => .ok moment
  | 0, _ :: _, moment => .ok moment
  | fuel + 1, rest, moment =>
    match opRe py rest with
    | none => .error (unsupported py whole rest)
    | some (op, rest) => do
      let moment ← apply py roundUp whole op moment
      steps roundUp whole fuel rest moment

/-- `expression.partition("||")`: what is in front of the first `||`, and what is behind it. -/
def splitAnchor : List Char → Option (List Char × List Char)
  | '|' :: '|' :: rest => some ([], rest)
  | c :: rest => (splitAnchor rest).map fun (head, tail) => (c :: head, tail)
  | [] => none

/-- `is_date_math` of a text -/
def isDateMath (expression : String) : Bool :=
  (cutPrefix "now" expression).isSome || (splitAnchor expression.toList).isSome

/-- The instant that an expression starts from, and the operations behind it. -/
def anchor (now : Option ℤ) (expression : String) : Except Raised (Option (ℤ × List Char)) :=
  match cutPrefix "now" expression with
  | some rest => .ok (some (now.getD py.now, rest.toList))
  | none =>
    match splitAnchor expression.toList with
    | none => .ok none
    | some (head, rest) => do
      match ← parseDatetime py (.str (String.ofList head)) with
      | none => .error (.dateMathError ("failed to parse date field ["
          ++ String.ofList head ++ "]"))
      | some instant => .ok (some (instant, rest))

/-- `resolve`: an instant in UTC, or nothing if the expression is no date math. -/
def resolve (now : Option ℤ) (roundUp : Bool) (timeZone : Option String) (expression : String) :
    Except Raised (Option ℤ) := do
  match ← anchor py now expression with
  | none => .ok none
  | some (instant, rest) =>
    let zone := zone py timeZone
    match zone.fromUtc instant with
    | none => .error .uncaught
    | some moment =>
      let resolved ← steps py roundUp rest rest.length rest moment
      match zone.toUtc resolved with
      | none => .error .uncaught
      | some n => .ok (some n)

end DateMath

end Mockdr
