import Mathlib.Data.List.Dedup
import Mathlib.Data.Prod.Lex
import Mathlib.Data.String.Basic
import Mathlib.Order.Lex
import Mockdr.Lib.Grouping
import Mockdr.Splunk.SelectEvents

/-!
# The statistics of a search

`stats`, `eventstats` and `streamstats` of `utils/splunk/spl_exec.py`, of the aggregations and the
by-fields that `_aggregation_plan` reads of their arguments.

* `aggregate` computes one statistic over some rows; `aggregated` the values that a list of
  aggregations has over them.
* `cmdStats`, `cmdEventstats` and `cmdStreamstats` are the commands.

The arithmetic of floats is a parameter (`StatsPython`), and so are the expressions of
`reset_before` and `reset_after` (`StreamOptions`). Where a command raises there are no rows.
-/

namespace Mockdr

namespace Splunk

/-- The built-ins of the statistics. -/
structure StatsPython extends SplunkPython where
  /-- `\d` -/
  isDigit : Char → Bool
  /-- `sum(numbers)` -/
  sum : List PyFloat → PyFloat
  /-- `x + y` -/
  add : PyFloat → PyFloat → PyFloat
  /-- `x - y` -/
  sub : PyFloat → PyFloat → PyFloat
  /-- `x * y` -/
  mul : PyFloat → PyFloat → PyFloat
  /-- `x / y`, of a `y` that is not 0 -/
  div : PyFloat → PyFloat → PyFloat
  /-- `x ** 2`, nothing where it raises -/
  squared : PyFloat → Option PyFloat
  /-- `x ** 0.5` -/
  sqrt : PyFloat → PyFloat
  /-- `x % 1` -/
  modOne : PyFloat → PyFloat
  /-- `round(x, 6)` -/
  round6 : PyFloat → PyFloat
  /-- `int(x)`, nothing where it raises -/
  truncate : PyFloat → Option Int

variable (py : StatsPython)

/-! ## Values -/

/-- `as_float` (`utils/numbers.py`), nothing where it raises. -/
def asFloat : Value → Option (Option PyFloat)
  | .int n => (py.floatInt n).map some
  | .float x => some (some x)
  | .str s => some (py.float s)
  | .null | .bool _ | .list _ | .dict _ => some none

/-- `as_float(row.get("_time")) or 0.0` -/
def timeOf (row : Row) : Option PyFloat :=
  (asFloat py ((row.get "_time").getD .null)).map (·.getD (.finite 0))

/-- The number of some elements, as a float. -/
def countOf {α : Type} (l : List α) : PyFloat := .finite l.length

/-- `_shrink` -/
def shrink (x : PyFloat) : Value :=
  match x with
  | .finite q => if q.den = 1 then .int q.num else .float (py.round6 x)
  | _ => .float (py.round6 x)

/-- Floats in their order, as `sorted` leaves them. -/
def ascending {α : Type} (key : α → PyFloat) : KeyOrder α where
  le a b := rank (key a) ≤ rank (key b)
  dec _ _ := inferInstanceAs (Decidable (_ ≤ _))
  total a b := le_total (rank (key a)) (rank (key b))
  trans _ _ _ := le_trans

/-- Texts in their order, as `sorted` leaves them. -/
def byText : KeyOrder String where
  le a b := a ≤ b
  dec _ _ := inferInstanceAs (Decidable (_ ≤ _))
  total := le_total
  trans _ _ _ := le_trans

/-- `min(numbers)` -/
def minOf (x : PyFloat) (numbers : List PyFloat) : PyFloat :=
  numbers.foldl (fun least y => if y.lt least then y else least) x

/-- `max(numbers)` -/
def maxOf (x : PyFloat) (numbers : List PyFloat) : PyFloat :=
  numbers.foldl (fun most y => if most.lt y then y else most) x

/-! ## Statistics -/

/-- Digits, and digits behind a point: `\d+(?:\.\d+)?`. -/
def isNumeral (text : String) : Bool :=
  let cs := text.toList
  let behind := cs.dropWhile py.isDigit
  !(cs.takeWhile py.isDigit).isEmpty && match behind with
    | [] => true
    | '.' :: fraction => !fraction.isEmpty && fraction.all py.isDigit
    | _ => false

/-- `_PERCENTILE_RE.fullmatch(name)`, and its group. -/
def percentileOf (name : String) : Option String :=
  ["upperperc", "lowerperc", "perc", "p"].findSome? fun word =>
    (cutPrefix word name).filter (isNumeral py)

/-- `_percentile`, nothing where it raises. -/
def percentile (numbers : List PyFloat) (percent : PyFloat) : Option PyFloat :=
  let ordered := (ascending id).sort numbers
  let last := ordered.length - 1
  if last = 0 then ordered.head?
  else do
    let position := py.mul (py.div percent (.finite 100)) (.finite last)
    let lower ← py.truncate position
    let atLower ← if 0 ≤ lower then ordered[lower.toNat]? else none
    let atUpper ← ordered[min (lower.toNat + 1) last]?
    return py.add atLower (py.mul (py.sub position (.finite lower)) (py.sub atUpper atLower))

/-- `_variance`, nothing where it raises. -/
def variance (numbers : List PyFloat) (population : Bool) : Option PyFloat :=
  let divisor := if population then numbers.length else numbers.length - 1
  if divisor = 0 then some (.finite 0)
  else do
    let mean := py.div (py.sum numbers) (countOf numbers)
    let squares ← numbers.mapM fun n => py.squared (py.sub n mean)
    return py.div (py.sum squares) (.finite divisor)

/-- `_median` -/
def median (numbers : List PyFloat) : Option PyFloat := do
  let ordered := (ascending id).sort numbers
  let mid := ordered.length / 2
  if ordered.length % 2 ≠ 0 then ordered[mid]?
  else
    let middle := py.div (py.add (← ordered[mid - 1]?) (← ordered[mid]?)) (.finite 2)
    return if py.modOne middle = .finite (1 / 2) then py.add middle (.finite (1 / 2)) else middle

/-- `_SPREAD_FUNCTIONS`, nothing for any other name, and nothing in it where it raises. -/
def spread (name : String) (numbers : List PyFloat) : Option (Option PyFloat) :=
  if name = "stdev" then some ((variance py numbers false).map py.sqrt)
  else if name = "stdevp" then some ((variance py numbers true).map py.sqrt)
  else if name = "var" then some (variance py numbers false)
  else if name = "varp" then some (variance py numbers true)
  else if name = "sumsq" then some (some (py.sum (numbers.map fun n => py.mul n n)))
  else none

/-- `_present` -/
def present (field : String) (rows : List Row) : List Value :=
  rows.filterMap fun row =>
    match row.get field with
    | none | some .null => none
    | some v => some v

/-- The most frequent text, the first of those in their order. -/
def mode (texts : List String) : Option String :=
  let most := (texts.map fun t => texts.count t).foldl max 0
  (byText.sort (texts.dedup.filter fun t => texts.count t = most)).head?

/-- The first and the last row in the order of their times that carry a field; nothing where it
    raises. -/
def byTime (field : String) (rows : List Row) : Option (List Row) := do
  let timed := rows.filter fun row => !(present field [row]).isEmpty
  let keyed ← timed.mapM fun row => (timeOf py row).map (·, row)
  return ((ascending Prod.fst).sort keyed).map Prod.snd

/-- The statistics that need a number, nothing where they raise. -/
def arithmetic (name : String) (x : PyFloat) (numbers : List PyFloat) : Option Value :=
  match spread py name (x :: numbers) with
  | some value => value.map .float
  | none =>
    match percentileOf py name with
    | some text => (py.float text).bind fun percent =>
      (percentile py (x :: numbers) percent).map .float
    | none =>
      if name = "sum" then some (shrink py (py.sum (x :: numbers)))
      else if name ∈ ["avg", "mean"] then
        some (shrink py (py.div (py.sum (x :: numbers)) (countOf (x :: numbers))))
      else if name = "range" then
        some (shrink py (py.sub (maxOf x numbers) (minOf x numbers)))
      else if name = "median" then (median py (x :: numbers)).map (shrink py)
      else none

/-- `_aggregate`: nothing where it raises, and nothing in it for `_ABSENT`. -/
def aggregate (func field : String) (rows : List Row) : Option (Option Value) := do
  let name := py.lower func
  let values := present field rows
  let texts := values.map py.toStr
  if name ∈ ["count", "c"] then
    return some (.int (if field = "" then rows.length else values.length))
  else if name ∈ ["dc", "distinct_count"] then return some (.int texts.dedup.length)
  else if values.isEmpty ∧ name ∈ ["values", "list"] then return none
  else if name = "values" then return some (.list ((byText.sort texts.dedup).map .str))
  else if name = "list" then return some (.list (texts.map .str))
  else if name = "first" then return values.head?
  else if name = "last" then return values.getLast?
  else if name ∈ ["earliest", "latest"] then
    let rows ← byTime py field rows
    return (if name = "earliest" then rows.head? else rows.getLast?).bind (·.get field)
  else if name = "mode" then return (mode texts).map .str
  else
    let numbers := (← values.mapM (asFloat py)).filterMap id
    if name ∈ ["min", "max"] then
      match numbers with
      | x :: numbers => return some (shrink py (if name = "min" then minOf x numbers
          else maxOf x numbers))
      | [] =>
        let ordered := byText.sort texts
        return (if name = "min" then ordered.head? else ordered.getLast?).map .str
    else
      match numbers with
      | x :: numbers => (arithmetic py name x numbers).map some
      | [] => return none

/-- An aggregation: the function, the field and the alias. -/
structure Aggregation where
  func : String
  field : String
  aliasName : String

/-- A row with the members of another. -/
def updated (row other : Row) : Row := other.entries.foldl (fun row p => row.set p.1 p.2) row

lemma get_updated (row other : Row) (f : String) :
    (updated row other).get f = (other.get f).or (row.get f) := by
  rw [updated]
  cases hget : other.get f with
  | some v =>
    have hmem : (f, v) ∈ other.entries := Dict.mem_entries_iff.2 hget
    refine Dict.get_foldl_set (p := (f, v)) (fun p hp q hq hkey => ?_) hmem
    have hp' : other.get p.1 = some p.2 := Dict.mem_entries_iff.1 hp
    have hq' : other.get q.1 = some q.2 := Dict.mem_entries_iff.1 hq
    rw [hkey, hq'] at hp'
    exact (Option.some.inj hp').symm
  | none =>
    rw [Option.none_or]
    exact Dict.get_foldl_set_ne (Dict.get_eq_none_iff.1 hget)

/-- `_aggregated`, nothing where it raises. -/
def aggregated (aggs : List Aggregation) (members : List Row) : Option Row :=
  aggs.foldlM (fun record agg =>
    (aggregate py agg.func agg.field members).map fun value =>
      value.elim record (record.set agg.aliasName)) Dict.empty

/-- The aggregations of a command, which counts if it has none. -/
def orCount (aggs : List Aggregation) : List Aggregation :=
  if aggs.isEmpty then [⟨"count", "", "count"⟩] else aggs

/-! ## Groups -/

/-- A value that is neither `None` nor the empty string. -/
def carried : Option Value → Option Value
  | none | some .null => none
  | some (.str s) => if s = "" then none else some (.str s)
  | some v => some v

/-- The key of the group of a row; nothing for a row that does not carry every by-field. -/
def groupKey (byFields : List String) (row : Row) : Option (List String) :=
  byFields.mapM fun f => (carried (row.get f)).map py.toStr

/-- The groups of some rows: `groups.setdefault(key, []).append(row)` for each that has a key. -/
def groupsOf (byFields : List String) (rows : List Row) : Dict (List String) (List Row) :=
  Grouping.groupsOf (groupKey py byFields) rows

/-- `_sortable` -/
def sortable (value : String) : ℕ ×ₗ WithBot (WithTop ℚ) ×ₗ String :=
  match py.float value with
  | some x => toLex (0, toLex (rank x, ""))
  | none => toLex (1, toLex (rank (.finite 0), value))

/-- The order of the groups. -/
def byKey : KeyOrder (List String) where
  le a b := a.map (sortable py) ≤ b.map (sortable py)
  dec _ _ := inferInstanceAs (Decidable (_ ≤ _))
  total _ _ := le_total _ _
  trans _ _ _ := le_trans

/-! ## The commands -/

/-- The row of a group, without its statistics: `dict(zip(by_fields, key))`. -/
def keyRow (byFields key : List String) : Row :=
  (byFields.zip key).foldl (fun row p => row.set p.1 (.str p.2)) Dict.empty

/-- `_cmd_stats`, nothing where it raises. -/
def cmdStats (aggs : List Aggregation) (byFields : List String) (rows : List Row) :
    Option (List Row) :=
  if byFields.isEmpty then do
    let whole ← aggregated py (orCount aggs) rows
    return if whole.entries.isEmpty then [] else [whole]
  else
    let groups := groupsOf py byFields rows
    ((byKey py).sort groups.keys).mapM fun key =>
      (aggregated py (orCount aggs) ((groups.get key).getD [])).map (updated (keyRow byFields key))

/-- `_cmd_eventstats`, nothing where it raises. -/
def cmdEventstats (aggs : List Aggregation) (byFields : List String) (rows : List Row) :
    Option (List Row) :=
  let groups := groupsOf py byFields rows
  rows.mapM fun row =>
    match groupKey py byFields row with
    | some key =>
      (aggregated py (orCount aggs) ((groups.get key).getD [])).map (updated row)
    | none => some row

/-- The options of `streamstats`, its expressions as what they evaluate to. -/
structure StreamOptions where
  window : Int
  current : Bool
  resetOnChange : Bool
  resetBefore : Option (Row → Option Bool)
  resetAfter : Option (Row → Option Bool)
  span : PyFloat

/-- The options that are not given. -/
def StreamOptions.default : StreamOptions := ⟨0, true, false, none, none, .finite 0⟩

/-- Whether rows run in time order, `_time_ordered`; nothing where it raises. -/
def timeOrdered (rows : List Row) : Option Bool := do
  let stamps ← rows.mapM fun row => asFloat py ((row.get "_time").getD .null)
  if stamps.any Option.isNone then return false
  else
    let ordered := stamps.filterMap id
    return ordered = (ascending id).sort ordered ∨ ordered = (descending id).sort ordered

/-- `rows[-window:]`, and what `del rows[:-window]` leaves. -/
def lastRows (window : Int) (rows : List Row) : List Row :=
  if 0 < window then rows.drop (rows.length - window.toNat) else rows.drop (-window).toNat

/-- An expression that was given, of a row; nothing where it raises. -/
def resets (expression : Option (Row → Option Bool)) (row : Row) : Option Bool :=
  match expression with
  | some evaluate => evaluate row
  | none => some false

/-- The rows of a pool that are within the span of a row; nothing where it raises. -/
def withinSpan (span : PyFloat) (row : Row) (pool : List Row) : Option (List Row) :=
  if span = .finite 0 then some pool
  else do
    let edge := py.sub (← timeOf py row) span
    pool.filterM fun r => (timeOf py r).map edge.lt

/-- The loop of `_cmd_streamstats`: the rows that were seen of each group, and the key of the row
    before. -/
def streamFrom (aggs : List Aggregation) (byFields : List String) (options : StreamOptions) :
    Dict (List String) (List Row) → Option (List String) → List Row → Option (List Row)
  | _, _, [] => some []
  | seen, previous, row :: rest =>
    match groupKey py byFields row with
    | none => (streamFrom aggs byFields options seen previous rest).map (row :: ·)
    | some key => do
      let changed := options.resetOnChange && previous.any (· ≠ key)
      let before ← resets options.resetBefore row
      let old := if changed || before then [] else (seen.get key).getD []
      let pool := if options.current then old ++ [row] else old
      let pool := if options.window = 0 then pool else lastRows options.window pool
      let members := old ++ [row]
      let members := if options.window = 0 then members else lastRows options.window members
      let pool ← withinSpan py options.span row pool
      let record ← aggregated py aggs pool
      let after ← resets options.resetAfter row
      let seen := if after then seen.erase key else seen.set key members
      let rest ← streamFrom aggs byFields options seen (some key) rest
      return updated row record :: rest

/-- `_cmd_streamstats`, nothing where it raises. -/
def cmdStreamstats (aggs : List Aggregation) (byFields : List String) (options : StreamOptions)
    (rows : List Row) : Option (List Row) := do
  let runs ← if options.span = .finite 0 then some true else timeOrdered py rows
  if runs then streamFrom py (orCount aggs) byFields options Dict.empty none rows else none

end Splunk

end Mockdr
