import Mockdr.Splunk.Tstats

/-!
# `chart`

`cmd_chart` of `utils/splunk/spl_data_cmds.py`: a statistics table pivoted on two fields.

* `ChartSpec` is what the argument asks for, as `_chart_spec` reads it.
* `named`, `folded` and `hasNull` are the columns that keep the name of their value, the values that
  are folded into one column, and whether there is a column for the rows without the column field.
* `cmdChart` is the command. A cell is written under the name of its column, over whatever stands
  there.
-/

namespace Mockdr

namespace Splunk

open Spl

/-- `_ChartSpec` -/
structure ChartSpec where
  rowField : String
  columnField : String
  aggs : List Aggregation
  limit : ℕ
  useOther : Bool
  useNull : Bool
  other : String
  null : String

/-- `chart count over r by c`, with `limit`, `useother` and `usenull` at their defaults. -/
def countOver (rowField columnField : String) : ChartSpec where
  rowField := rowField
  columnField := columnField
  aggs := [⟨"count", "", "count"⟩]
  limit := 10
  useOther := true
  useNull := true
  other := "OTHER"
  null := "NULL"

/-- `_COUNTING` -/
def COUNTING : List String := ["count", "c", "dc", "distinct_count", "estdc"]

variable (py : SplPython)

/-- `str(row[field])`, nothing for `None` and the empty string. -/
def textOf (field : String) (row : Row) : Option String := (carried (row.get field)).map py.toStr

/-- The order of `_sortable`. -/
def bySortable : KeyOrder String where
  le a b := sortable py.toStatsPython a ≤ sortable py.toStatsPython b
  dec _ _ := inferInstanceAs (Decidable (_ ≤ _))
  total _ _ := le_total _ _
  trans _ _ _ := le_trans

/-- The order of `(-totals[c], _sortable(c))`. -/
def byTotal (totals : Dict String (List Row)) : KeyOrder String where
  le a b := toLex (OrderDual.toDual ((totals.get a).getD []).length, sortable py.toStatsPython a)
    ≤ toLex (OrderDual.toDual ((totals.get b).getD []).length, sortable py.toStatsPython b)
  dec _ _ := inferInstanceAs (Decidable (_ ≤ _))
  total _ _ := le_total _ _
  trans _ _ _ := le_trans

namespace ChartSpec

variable (spec : ChartSpec)

/-- The key of the group of a row; without a row field there is one group. -/
def rowKey (row : Row) : Option String :=
  if spec.rowField = "" then some "" else textOf py spec.rowField row

/-- The rows of each value of the row field. -/
def groups (rows : List Row) : Dict String (List Row) := Grouping.groupsOf (spec.rowKey py) rows

/-- The rows that take part, group by group. -/
def grouped (rows : List Row) : List Row := (spec.groups py rows).entries.flatMap Prod.snd

/-- The rows of each value of the column field; `totals` is how many there are. -/
def totals (rows : List Row) : Dict String (List Row) :=
  Grouping.groupsOf (textOf py spec.columnField) (spec.grouped py rows)

/-- The values of the column field, in order. -/
def values (rows : List Row) : List String := (bySortable py).sort (spec.totals py rows).keys

/-- There are more values than columns. -/
def folds (rows : List Row) : Bool := spec.limit ≠ 0 && spec.limit < (spec.values py rows).length

/-- The most frequent values. -/
def kept (rows : List Row) : List String :=
  ((byTotal py (spec.totals py rows)).sort (spec.values py rows)).take spec.limit

/-- The values that have a column. -/
def named (rows : List Row) : List String :=
  if spec.folds py rows then (spec.values py rows).filter (· ∈ spec.kept py rows)
  else spec.values py rows

/-- The values that have none. -/
def folded (rows : List Row) : List String :=
  if spec.folds py rows then (spec.values py rows).filter (· ∉ spec.kept py rows) else []

/-- A row that takes part has no value in the column field. -/
def hasNull (rows : List Row) : Bool :=
  spec.useNull && (spec.grouped py rows).any fun row => (textOf py spec.columnField row).isNone

/-- The columns. -/
def columns (rows : List Row) : List String :=
  spec.named py rows
    ++ (if spec.folds py rows ∧ spec.useOther then [spec.other] else [])
    ++ (if spec.hasNull py rows then [spec.null] else [])

/-- `column_of` -/
def columnOf (row : Row) : Option String :=
  match textOf py spec.columnField row with
  | some text => some text
  | none => if spec.useNull then some spec.null else none

/-- The values that are counted in a column. -/
def wanted (rows : List Row) (column : String) (position : ℕ) : List String :=
  let isNull := spec.hasNull py rows && position + 1 = (spec.columns py rows).length
  if column = spec.other ∧ spec.folded py rows ≠ [] ∧ !isNull then spec.folded py rows else [column]

/-- The rows of a group that are counted in a column. -/
def inCell (rows members : List Row) (column : String) (position : ℕ) : List Row :=
  members.filter fun row =>
    (spec.columnOf py row).any (· ∈ spec.wanted py rows column position)

/-- `names` of one statistic. -/
def cellName (agg : Aggregation) (column : String) : String :=
  if spec.aggs.length = 1 then column else agg.aliasName ++ ": " ++ column

/-- The value of a cell: nothing where it raises, and nothing in it for `_ABSENT`. -/
def cell (agg : Aggregation) (counted : List Row) : Option (Option Value) :=
  if counted.isEmpty then some (if py.lower agg.func ∈ COUNTING then some (.int 0) else none)
  else aggregate py.toStatsPython agg.func agg.field counted

/-- The cells of a column are written. -/
def writeColumn (rows members : List Row) (record : Row) (column : String × ℕ) : Option Row :=
  spec.aggs.foldlM (fun record agg =>
    (cell py agg (spec.inCell py rows members column.1 column.2)).map fun value =>
      value.elim record (record.set (spec.cellName agg column.1))) record

/-- What the first row of a group has in the row field, nothing where it has no such field. -/
def label (members : List Row) : Option Value := members.head?.bind (·.get spec.rowField)

/-- The row of a group, nothing where it raises. -/
def record (rows members : List Row) : Option Row := do
  let label ← spec.label members
  (spec.columns py rows).zipIdx.foldlM (spec.writeColumn py rows members)
    (Dict.empty.set spec.rowField label)

/-- The row of a group where there is no column field, nothing where it raises. -/
def plainRecord (members : List Row) : Option Row := do
  let values ← aggregated py.toStatsPython spec.aggs members
  if spec.rowField = "" then return values
  else return updated (Dict.empty.set spec.rowField (← spec.label members)) values

/-- The values of the row field that have a row in the table, in order. -/
def order (rows : List Row) : List String :=
  ((bySortable py).sort (spec.groups py rows).keys).take MAX_RESULT_ROWS

end ChartSpec

/-- `cmd_chart`, nothing where it raises. -/
def cmdChart (spec : ChartSpec) (rows : List Row) : Option (List Row) :=
  (spec.order py rows).mapM fun key =>
    let members := ((spec.groups py rows).get key).getD []
    if spec.columnField = "" then spec.plainRecord py members else spec.record py rows members

end Splunk

end Mockdr
