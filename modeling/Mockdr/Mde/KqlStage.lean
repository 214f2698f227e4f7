import Mathlib.Data.List.Sort
import Mockdr.Mde.KqlExpression

/-!
# The stages of a hunting query

The operators of `utils/mde_kql.py`, and `evaluate_kql`, which runs them one after the other.

* `apply` is what one operator makes of the rows, or what it raises; `evaluateKql` runs a query, and
  turns a `RecursionError` into a `KqlError`.
* `assignments` and `evaluateOperand` are how `extend` reads its argument, `parseAggregations` how
  `summarize` reads its own.
-/

namespace Mockdr

namespace Kql

variable (py : KqlPython)

/-! ## Rows with other columns -/

/-- The values of some columns: `{c: row.get(c) for c in columns}`. -/
def projectRow (names : List String) (row : Row) : Row :=
  names.foldl (fun projected name => projected.set name (cellOf row name)) .empty

/-- `_op_where` -/
def opWhere (rows : List Row) (argument : String) : Except Fault (List Row) := do
  let predicate ← parsePredicate py (← tokenize py argument)
  rows.filterM fun row => predicate.eval py row py.stack

/-- `_op_project` -/
def opProject (rows : List Row) (argument : String) : List Row :=
  rows.map (projectRow (columns argument.toList))

/-- `_op_project_away` -/
def opProjectAway (rows : List Row) (argument : String) : List Row :=
  rows.map fun row => row.filter fun entry => entry.1 ∉ columns argument.toList

/-! ## `extend` -/

/-- The assignments of an `extend` stage: the name, and the text of the expression. -/
def assignments (argument : String) : List (String × String) :=
  (splitCommas argument.toList).filterMap fun part =>
    if '=' ∈ part then
      some (String.ofList (stripChars (part.takeWhile (· ≠ '='))),
        String.ofList (stripChars ((part.dropWhile (· ≠ '=')).drop 1)))
    else none

/-- The operand that an expression is read as, and the tokens behind it. -/
def readOperand (expression : String) : Except Fault (Operand × List Token) := do
  parseOperand py (← tokenize py expression)

/-- `_evaluate_operand` -/
def evaluateOperand (expression : String) (row : Row) : Except Fault Cell :=
  (readOperand py expression).map fun read => read.1.eval row

/-- What a row holds of a value: an instant as text. -/
def storedCell : Cell → Cell
  | .instant _ wall => .str (py.stamp wall)
  | v => v

/-- Extend one row, assignment by assignment. -/
def extendRow (parts : List (String × String)) (row : Row) : Except Fault Row :=
  parts.foldlM (fun row part => do
    .ok (row.set part.1 (storedCell py (← evaluateOperand py part.2 row)))) row

/-- `_op_extend` -/
def opExtend (rows : List Row) (argument : String) : Except Fault (List Row) :=
  rows.mapM (extendRow py (assignments argument))

/-! ## `summarize` -/

/-- `re.split(r"(?i)\sby\s", argument, maxsplit=1)`: the aggregations, and the columns they are
    grouped by. -/
def splitBy : List Char → List Char × Option (List Char)
  | a :: b :: y :: c :: rest =>
    if isSpace a ∧ (b = 'b' ∨ b = 'B') ∧ (y = 'y' ∨ y = 'Y') ∧ isSpace c then ([], some rest)
    else
      let split := splitBy (b :: y :: c :: rest)
      (a :: split.1, split.2)
  | cs => (cs, none)

/-- An aggregation: the column it makes, its function and the column it reads. -/
structure Aggregation where
  name : String
  function : String
  column : String
  deriving DecidableEq

/-- `_DEFAULT_PREFIX` -/
def DEFAULT_PREFIX : List (String × String) :=
  [("make_set", "set"), ("make_list", "list"), ("take_any", "any"), ("any", "any")]

/-- `_default_name` -/
def defaultName (function column : String) : String :=
  let before := (Assoc.get function DEFAULT_PREFIX).getD function
  if column = "" then before ++ "_" else before ++ "_" ++ column

/-- `(?P<func>\w+)\s*\(\s*(?P<column>[^)]*)\s*\)`: the function, the column and the rest. -/
def callAt (cs : List Char) : Option (List Char × List Char × List Char) :=
  let function := cs.takeWhile (isWord py)
  match (cs.dropWhile (isWord py)).dropWhile isSpace with
  | '(' :: inner =>
    match inner.dropWhile (· ≠ ')') with
    | _ :: rest =>
      if function = [] then none else some (function, stripChars (inner.takeWhile (· ≠ ')')), rest)
    | [] => none
  | _ => none

/-- `(?:(?P<alias>\w+)\s*=\s*)?`: the name and the rest. -/
def aliasAt (cs : List Char) : Option (List Char × List Char) :=
  let name := cs.takeWhile (isWord py)
  match (cs.dropWhile (isWord py)).dropWhile isSpace with
  | '=' :: rest => if name = [] then none else some (name, rest.dropWhile isSpace)
  | _ => none

/-- A match of `_AGG_RE` at the front of a text, and the rest. -/
def aggregationAt (cs : List Char) : Option (Aggregation × List Char) :=
  let make (name : Option (List Char)) (call : List Char × List Char × List Char) :
      Aggregation × List Char :=
    let function := py.lower (String.ofList call.1)
    let column := String.ofList call.2.1
    (⟨(name.map String.ofList).getD (defaultName function column), function, column⟩, call.2.2)
  let named := (aliasAt py cs).bind fun read =>
    (callAt py read.2).map (make (some read.1))
  named.or ((callAt py cs).map (make none))

/-- `_AGG_RE.finditer`: where nothing matches, the next character is tried. -/
def findAggregations : Nat → List Char → List Aggregation
  | 0, _ => []
  | _, [] => []
  | n + 1, c :: cs =>
    match aggregationAt py (c :: cs) with
    | some (aggregation, rest) => aggregation :: findAggregations n rest
    | none => findAggregations n cs

/-- `_parse_aggregations` -/
def parseAggregations (text : List Char) : List Aggregation :=
  match findAggregations py text.length text with
  | [] => [⟨"count_", "count", ""⟩]
  | found => found

/-- `_shrink` -/
def shrink (x : PyFloat) : Cell :=
  match x with
  | .finite q => if q.den = 1 then .int q.num else .float (py.round6 x)
  | x => .float (py.round6 x)

/-- `min(numbers)`, of a number and the others. -/
def least (x : PyFloat) (xs : List PyFloat) : PyFloat :=
  xs.foldl (fun best y => if y.lt best then y else best) x

/-- `max(numbers)`, of a number and the others. -/
def greatest (x : PyFloat) (xs : List PyFloat) : PyFloat :=
  xs.foldl (fun best y => if best.lt y then y else best) x

/-- The values of a column that are there. -/
def present (column : String) (rows : List Row) : List Cell :=
  (rows.map (cellOf · column)).filter fun v => !v.isNone

/-- The distinct texts of some values, sorted. -/
def textSet (values : List Cell) : Except Fault (List String) := do
  .ok ((← values.mapM (toStr py)).dedup.insertionSort fun s t => ¬ t < s)

/-- The numbers in a column. -/
def numbersOf (column : String) (rows : List Row) : Except Fault (List PyFloat) := do
  .ok ((← rows.mapM fun row => asFloat py (cellOf row column)).filterMap id)

/-- The functions that `_aggregate` computes from the numbers of a column. -/
def aggregateNumbers (function : String) (x : PyFloat) (xs : List PyFloat) : Except Fault Cell :=
  if function = "sum" then .ok (shrink py (py.sum (x :: xs)))
  else if function = "avg" then .ok (shrink py (py.divide (py.sum (x :: xs)) (xs.length + 1)))
  else if function = "min" then .ok (shrink py (least x xs))
  else if function = "max" then .ok (shrink py (greatest x xs))
  else .error (.kql s!"The aggregation function '{function}' is not supported")

/-- `_aggregate` -/
def aggregate (function column : String) (rows : List Row) : Except Fault Cell :=
  if function = "count" then .ok (.int rows.length)
  else if function = "dcount" then
    (textSet py (present column rows)).map fun set => .int set.length
  else if function = "make_set" then
    (textSet py (present column rows)).map fun set => .list (set.map .str)
  else if function = "make_list" then .ok (.list (present column rows))
  else if function ∈ ["any", "take_any", "arg_max", "arg_min"] then
    .ok ((rows.head?.map (cellOf · column)).getD .none)
  else do
    match ← numbersOf py column rows with
    | [] => .ok (if function = "sum" then .int 0 else .none)
    | x :: xs => aggregateNumbers py function x xs

/-- The groups of the rows, in the order of their first rows. -/
def bucketsOf : List (List String × Row) → List (List String × List Row)
  | [] => []
  | (key, row) :: rest =>
    (key, row :: (rest.filter fun p => p.1 = key).map Prod.snd)
      :: (bucketsOf rest).filter fun bucket => bucket.1 ≠ key

/-- The key of the group of a row. -/
def groupKey (names : List String) (row : Row) : Except Fault (List String) :=
  names.mapM fun name =>
    match row.get name with
    | some v => toStr py v
    | none => .ok ""

/-- The row that a group is summarized to. -/
def summaryRow (names : List String) (aggregations : List Aggregation)
    (bucket : List String × List Row) : Except Fault Row :=
  let record := (names.zip bucket.1).foldl (fun record p => record.set p.1 (.str p.2)) Dict.empty
  aggregations.foldlM (fun record a => do
    .ok (record.set a.name (← aggregate py a.function a.column bucket.2))) record

/-- `_op_summarize` -/
def opSummarize (rows : List Row) (argument : String) : Except Fault (List Row) := do
  let (aggregation, grouping) := splitBy argument.toList
  let names := (grouping.map columns).getD []
  let keys ← rows.mapM (groupKey py names)
  (bucketsOf (keys.zip rows)).mapM (summaryRow py names (parseAggregations py aggregation))

/-! ## Order and number -/

/-- The key a row is sorted by. -/
structure SortKey where
  rank : Nat
  number : PyFloat
  text : String

/-- `a < b`, of keys -/
def SortKey.lt (a b : SortKey) : Bool :=
  if a.rank ≠ b.rank then a.rank < b.rank
  else if !a.number.eq b.number then a.number.lt b.number
  else a.text < b.text

/-- `_sorter` -/
def sorter (column : String) (row : Row) : Except Fault SortKey :=
  let value := cellOf row column
  if value.isNone then .ok ⟨2, .finite 0, ""⟩
  else do
    match ← asFloat py value with
    | some x => .ok ⟨0, x, ""⟩
    | none => .ok ⟨1, .finite 0, ← toStr py value⟩

/-- `s.split()` -/
def words (text : List Char) : List (List Char) :=
  (text.splitOnP isSpace).filter (· ≠ [])

/-- Whether a row may stand before another one. -/
def before (descending : Bool) (a b : SortKey × Row) : Bool :=
  if descending then !a.1.lt b.1 else !b.1.lt a.1

/-- Sort by one clause. -/
def orderBy (rows : List Row) (clause : List Char) : Except Fault (List Row) :=
  match words clause with
  | [] => .ok rows
  | column :: rest => do
    let descending := match rest with
      | [] => false
      | direction :: _ => startsWith (py.lower (String.ofList direction)) "desc"
    let keys ← rows.mapM (sorter py (String.ofList column))
    .ok (((keys.zip rows).insertionSort fun a b => before descending a b = true).map Prod.snd)

/-- `_op_order` -/
def opOrder (rows : List Row) (argument : String) : Except Fault (List Row) :=
  (splitCommas argument.toList).reverse.foldlM (orderBy py) rows

/-- `_op_take` -/
def opTake (rows : List Row) (argument : String) : Except Fault (List Row) :=
  match (argument.toList.dropWhile fun c => !isDigit py c).takeWhile (isDigit py) with
  | [] => .ok rows
  | digits => (readInt py (String.ofList digits)).map fun n => rows.take n.toNat

/-- `^\s*(\d+)\s*(?:by\s+(.*))?$`: the number, and the clauses behind `by`. -/
def topParts (argument : List Char) : Option (List Char × Option (List Char)) :=
  let cs := argument.dropWhile isSpace
  let digits := cs.takeWhile (isDigit py)
  if digits = [] then none
  else
    match (cs.dropWhile (isDigit py)).dropWhile isSpace with
    | [] => some (digits, none)
    | b :: y :: c :: rest =>
      let clauses := rest.dropWhile isSpace
      if (b = 'b' ∨ b = 'B') ∧ (y = 'y' ∨ y = 'Y') ∧ isSpace c ∧ '\n' ∉ clauses then
        some (digits, some clauses)
      else none
    | _ => none

/-- The rows sorted by the clauses behind `by`, if there are any. -/
def topOrder (rows : List Row) : Option (List Char) → Except Fault (List Row)
  | none | some [] => .ok rows
  | some clauses => opOrder py rows (String.ofList clauses)

/-- `_op_top` -/
def opTop (rows : List Row) (argument : String) : Except Fault (List Row) :=
  match topParts py argument.toList with
  | none => .error (.kql s!"Cannot parse 'top {argument}'")
  | some (digits, clauses) => do
    let limited ← topOrder py rows clauses
    (readInt py (String.ofList digits)).map fun n => limited.take n.toNat

/-- The rows whose key has not been seen. -/
def unseen : List (List String) → List (List String × Row) → List Row
  | _, [] => []
  | seen, (key, row) :: rest =>
    if key ∈ seen then unseen seen rest else row :: unseen (key :: seen) rest

/-- `_op_distinct` -/
def opDistinct (rows : List Row) (argument : String) : Except Fault (List Row) := do
  let names := columns argument.toList
  let projected := if names = [] then rows else rows.map (projectRow names)
  let keys ← projected.mapM fun row => row.entries.mapM fun entry => toStr py entry.2
  .ok (unseen [] (keys.zip projected))

/-- `_op_count` -/
def opCount (rows : List Row) : List Row := [Dict.empty.set "Count" (.int rows.length)]

/-- `_APPLY` -/
def apply (rows : List Row) (op : Operator) (argument : String) : Except Fault (List Row) :=
  match op with
  | .where => opWhere py rows argument
  | .project => .ok (opProject rows argument)
  | .projectAway => .ok (opProjectAway rows argument)
  | .extend => opExtend py rows argument
  | .summarize => opSummarize py rows argument
  | .order => opOrder py rows argument
  | .take => opTake py rows argument
  | .limit => opTake py rows argument
  | .top => opTop py rows argument
  | .distinct => opDistinct py rows argument
  | .count => .ok (opCount rows)

/-- One turn of the loop of `evaluate_kql`. -/
def runStage (rows : List Row) (stage : Operator × String) : Except Fault (List Row) :=
  match apply py rows stage.1 stage.2 with
  | .error .recursion => .error (.kql s!"Expression in '{stage.1.name}' is nested too deeply")
  | result => result

/-- `evaluate_kql` -/
def evaluateKql (rows : List Row) (query : KqlQuery) : Except Fault (List Row) :=
  query.operators.foldlM (runStage py) rows

end Kql

end Mockdr
