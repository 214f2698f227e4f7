import Mockdr.Elastic.DateUnits
import Mockdr.Splunk.JobProgress
import Mockdr.Splunk.SplExpr

/-!
# Relative times

`resolve_relative_time` of `utils/splunk/spl_parser.py`: `-1h`, `@d`, `-1mon@mon+3h`.

* `shift` moves an instant by an offset and `snap` goes down to the start of a unit.
* `applyOffsets` reads the offsets of a text and applies them, from left to right.
* `resolveRelativeTime` is the instant that a text stands for.

An instant is a rational number of seconds since 1970: the sums of floats are not rounded. Where the
code raises there is nothing.
-/

namespace Mockdr

namespace Splunk

namespace RelativeTime

open Calendar DateMath

variable (py : SplPython)

/-! ## Instants -/

/-- The microseconds from the first of all to the epoch. -/
def EPOCH : ℤ := 62135596800000000

/-- The microsecond that is nearest to an instant. -/
def nearestMicros (moment : ℚ) : ℤ := roundHalfEven (moment * 1000000) + EPOCH

/-- `datetime.fromtimestamp(moment, tz=UTC)` -/
def fromtimestamp (moment : ℚ) : Option DateTime := checked (.ofMicros (nearestMicros moment))

/-- The instant of so many microseconds. -/
def ofMicros (n : ℤ) : ℚ := ((n - EPOCH : ℤ) : ℚ) / 1000000

/-- `stamp.timestamp()` -/
def timestamp (stamp : DateTime) : ℚ := ofMicros stamp.micros

/-! ## Units -/

/-- `_FIXED_UNITS` -/
def FIXED_UNITS : List (String × ℤ) :=
  [("s", 1), ("sec", 1), ("secs", 1), ("second", 1), ("seconds", 1),
    ("m", 60), ("min", 60), ("mins", 60), ("minute", 60), ("minutes", 60),
    ("h", 3600), ("hr", 3600), ("hrs", 3600), ("hour", 3600), ("hours", 3600),
    ("d", 86400), ("day", 86400), ("days", 86400),
    ("w", 604800), ("week", 604800), ("weeks", 604800)]

/-- `_CALENDAR_MONTHS` -/
def CALENDAR_MONTHS : List (String × ℤ) :=
  [("mon", 1), ("month", 1), ("months", 1),
    ("q", 3), ("qtr", 3), ("quarter", 3), ("quarters", 3),
    ("y", 12), ("yr", 12), ("year", 12), ("years", 12)]

/-- `("w", "week", "weeks")` -/
def WEEKS : List String := ["w", "week", "weeks"]

/-- The number of a weekday in `w0` to `w6`, Sunday being 0: `_WEEKDAY_RE` -/
def weekdayOf (unit : String) : Option ℤ :=
  Assoc.get unit
    [("w0", 0), ("w1", 1), ("w2", 2), ("w3", 3), ("w4", 4), ("w5", 5), ("w6", 6)]

/-- The weekday that a unit of weeks starts with. -/
def weekStart (unit : String) : Option ℤ := if unit ∈ WEEKS then some 0 else weekdayOf unit

/-! ## Offsets and snaps -/

/-- `_add_months` -/
def addMonths (moment : ℚ) (months : ℤ) : Option ℚ := do
  let stamp ← fromtimestamp moment
  let shifted ← DateMath.addMonths stamp months
  return timestamp shifted

/-- `_shift`: nothing in it for an unknown unit. -/
def shift (moment : ℚ) (amount : ℤ) (unit : String) : Option (Option ℚ) :=
  match Assoc.get unit FIXED_UNITS with
  | some fixed =>
    -- an integer is made a float to be added to one
    if (py.floatInt (amount * fixed)).isSome then some (some (moment + (amount * fixed : ℤ)))
    else none
  | none =>
    match Assoc.get unit CALENDAR_MONTHS with
    | some months => (addMonths moment (amount * months)).map some
    | none => some none

/-- `moment % fixed` -/
def remainder (moment : ℚ) (fixed : ℤ) : ℚ := moment - ⌊moment / fixed⌋ * fixed

/-- The first day of the quarter that a moment is in: `midnight.replace(month=…, day=1)`. -/
def quarterStart (m : DateTime) : DateTime :=
  { midnight m with
    month := (m.month - 1) / 3 * 3 + 1, day := 1
    month_mem := by have := m.month_mem; omega
    day_mem := firstDay_mem _ _ }

/-- `_snap`, of a unit in lower case: nothing in it for an unknown one. -/
def snap (moment : ℚ) (unit : String) : Option (Option ℚ) :=
  match (Assoc.get unit FIXED_UNITS).filter fun _ => unit ∉ WEEKS with
  | some fixed => some (some (moment - remainder moment fixed))
  | none => do
    let stamp ← fromtimestamp moment
    match weekStart unit with
    | some wanted =>
      let current := (weekday (midnight stamp) + 1) % 7
      let start ← plus (midnight stamp) (-((current - wanted) % 7 * dayMicros))
      return some (timestamp start)
    | none =>
      match Assoc.get unit CALENDAR_MONTHS with
      | none => return none
      | some months =>
        if months = 12 then return some (timestamp (roundDown stamp .y))
        else if months = 3 then return some (timestamp (quarterStart stamp))
        else return some (timestamp (roundDown stamp .M))

/-! ## Texts -/

/-- An offset: its sign, the digits of its count and its unit in lower case. -/
structure Offset where
  sign : Char
  count : List Char
  unit : String

/-- `_OFFSET_RE.match`, and the text behind it. -/
def offsetRe : List Char → Option (Offset × List Char)
  | [] => none
  | sign :: text =>
    let count := text.takeWhile py.isDigit
    let rest := text.drop count.length
    let unit := rest.takeWhile Char.isAlpha
    if sign ∈ ['+', '-'] ∧ unit ≠ [] then
      some (⟨sign, count, py.lower (String.ofList unit)⟩, rest.drop unit.length)
    else none

/-- `_SNAP_UNIT_RE.match`: the unit in lower case, and the text behind it. -/
def snapUnitRe (text : List Char) : Option (String × List Char) :=
  let letters := text.takeWhile Char.isAlpha
  let digit := ((text.drop letters.length).take 1).takeWhile py.isDigit
  if letters = [] then none
  else some (py.lower (String.ofList (letters ++ digit)),
    text.drop (letters.length + digit.length))

/-- `(1 if sign == "+" else -1) * int(count or 1)`, nothing where it raises. -/
def Offset.amount (offset : Offset) : Option ℤ :=
  (if offset.count = [] then some 1 else py.int (String.ofList offset.count)).map fun count =>
    (if offset.sign = '+' then 1 else -1) * count

/-- The loop of `_apply_offsets`; the fuel is the length of the text. -/
def applyFrom : ℕ → ℚ → List Char → Option (Option ℚ)
  | _, moment, [] => some (some moment)
  | 0, _, _ :: _ => some none
  | fuel + 1, moment, text =>
    match offsetRe py text with
    | none => some none
    | some (offset, rest) => do
      let amount ← offset.amount py
      match ← shift py moment amount offset.unit with
      | none => return none
      | some shifted => applyFrom fuel shifted rest

/-- `_apply_offsets`: nothing in it for a text that is not offsets. -/
def applyOffsets (moment : ℚ) (text : List Char) : Option (Option ℚ) :=
  applyFrom py text.length moment text

/-- What `resolve_relative_time` makes of a text that is neither `now` nor a number: 0 where there
    is nothing in it. -/
def resolveOffsets (now : ℚ) (text : String) : Option (Option ℚ) := do
  let (head, tail) := partition '@' text
  match ← applyOffsets py now (strip head).toList with
  | none => return none
  | some moment =>
    if !hasChar '@' text then return some moment
    else
      match snapUnitRe py (strip tail).toList with
      | none => return none
      | some (unit, rest) =>
        match ← snap moment unit with
        | none => return none
        | some snapped => applyOffsets py snapped rest

/-- `resolve_relative_time` -/
def resolveRelativeTime (timeStr : String) (now : ℚ) : Option PyFloat :=
  if timeStr = "" then some (.finite 0)
  else
    let text := strip timeStr
    if py.lower text = "now" then some (.finite now)
    else
      match py.float text with
      | some number => some number
      | none => (resolveOffsets py now text).map fun moment => .finite (moment.getD 0)

end RelativeTime

end Splunk

end Mockdr
