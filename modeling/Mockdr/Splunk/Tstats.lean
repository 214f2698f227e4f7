import Mockdr.Splunk.SplParser

/-!
# `tstats`

`cmd_tstats` of `utils/splunk/spl_data_cmds.py` beside a search that feeds `stats`
(`_execute_query` of `application/splunk/commands/search.py`).

* `clauses` cuts the argument at its keywords; `cmdTstats` is the command, of the aggregations in
  front of them. It reads the fields of the index only (`restrict`).
* `readEvents` are the events that a search reads, those of the notable store among them.
* `searchStats` and `searchTstats` are the results of the two searches.

Options in front of the aggregations are left out; a data model and a `span` are parameters
(`TstatsPython`). Where a search fails there are no rows.
-/

namespace Mockdr

namespace Splunk

open Spl

/-- The built-ins of a search that is dispatched. -/
structure TstatsPython extends SplPython where
  /-- `resolve_relative_time(text, now)` -/
  resolve : String → PyFloat
  /-- `_dataset_of`: the rows that the datasets of a `FROM` clause have of some events, and what is
      left of the `WHERE` clause; nothing where it raises -/
  datasetOf : List Char → List Char → Option ((List Row → List Row) × List Char)
  /-- `_span` of a `BY` clause: the bucket that a row falls in, and what is left of the clause;
      nothing where it raises -/
  span : List Char → Option ((Row → Row) × List Char)
  /-- there is no span without `=` -/
  span_plain : ∀ text, '=' ∉ text → span text = some (id, text)
  /-- `str(0)` is the text of a number -/
  float_zero : (float (toSplunkPython.toStr (.int 0))).isSome

/-- The built-ins on texts of ASCII, of a dispatch without times, data models and spans. -/
def asciiTstatsPython : TstatsPython where
  toSplPython := asciiSplPython
  resolve _ := .finite 0
  datasetOf _ _ := none
  span text := some (id, text)
  span_plain _ _ := rfl
  float_zero := by decide +kernel

variable (py : TstatsPython)

/-! ## The clauses of the argument -/

/-- The keywords of the argument. -/
def CLAUSE_KEYWORDS : List String := ["from", "where", "by"]

/-- The keyword that a text begins with, as a whole word. -/
def keywordAt (cs : List Char) : Option String :=
  CLAUSE_KEYWORDS.find? fun word =>
    word.length ≤ cs.length && py.lower (String.ofList (cs.take word.length)) = word
      && (cs.drop word.length).head?.all isSpace

/-- What is open after a character of the argument. -/
def argNesting : Nesting → Char → Nesting := Nesting.next false ['(', '['] [')', ']']

/-- `_keyword_spans` and the loop of `_clauses`: the parts of a text, each under the keyword in
    front of it. `skip` is what is left of a keyword that has been read, `current` what has been
    read of a part. -/
def partsFrom : Nat → Bool → Nesting → Option String → List Char → List Char →
    List (Option String × List Char)
  | _, _, _, keyword, current, [] => [(keyword, current)]
  | skip + 1, _, s, keyword, current, _ :: cs => partsFrom skip false s keyword current cs
  | 0, behindSpace, s, keyword, current, c :: cs =>
    match if s = .closed ∧ behindSpace then keywordAt py (c :: cs) else none with
    | some word =>
      (keyword, current) :: partsFrom (word.length - 1) false s (some word) [] cs
    | none => partsFrom 0 (isSpace c) (argNesting s c) keyword (current ++ [c]) cs

/-- `_clauses`, nothing where it raises because a keyword stands there twice. -/
def clauses (text : List Char) : Option (List (Option String × List Char)) :=
  let parts := partsFrom py 0 true .closed none [] text
  if (parts.map Prod.fst).Nodup then some parts else none

/-- `_fields` -/
def fieldsOf (text : List Char) : List String :=
  ((text.splitOnP fun c => isSpace c || c = ',').filter fun piece =>
      piece ≠ [] ∧ py.lower (String.ofList piece) ≠ "by").map fun piece =>
    String.ofList (((piece.dropWhile (· = '"')).reverse.dropWhile (· = '"')).reverse)

/-! ## The command -/

/-- `MAX_RESULT_ROWS` -/
def MAX_RESULT_ROWS : Nat := 50000

/-- `INDEXED_FIELDS` -/
def INDEXED_FIELDS : List String := ["_time", "index", "sourcetype", "source", "host"]

/-- `_KNOWN_AGGREGATIONS` -/
def KNOWN_AGGREGATIONS : List String :=
  ["count", "c", "dc", "distinct_count", "values", "list", "first", "last", "earliest", "latest",
    "mode", "min", "max", "sum", "avg", "mean", "range", "median", "stdev", "stdevp", "var", "varp",
    "sumsq"]

/-- `_known_aggregation` -/
def knownAggregation (name : String) : Bool :=
  py.lower name ∈ KNOWN_AGGREGATIONS || (percentileOf py.toStatsPython (py.lower name)).isSome

/-- `_TSTATS_REFUSED` -/
def TSTATS_REFUSED : List String := ["list", "first", "last"]

/-- `_TSTATS_EXTRA` -/
def TSTATS_EXTRA : List String := ["estdc", "earliest_time", "latest_time"]

/-- A function that `tstats` takes. -/
def offered (func : String) : Bool :=
  func ∉ TSTATS_REFUSED && (knownAggregation py func || func ∈ TSTATS_EXTRA)

/-- The fields of the index in a row: `{k: e[k] for k in INDEXED_FIELDS if k in e}`. -/
def restrict (row : Row) : Row :=
  INDEXED_FIELDS.foldl (fun indexed k => (row.get k).elim indexed (indexed.set k)) Dict.empty

/-- `_tstats_aggregate`: nothing where it raises, and nothing in it for `_ABSENT`. -/
def tstatsAggregate (func field : String) (members : List Row) : Option (Option Value) :=
  if func ∈ ["earliest_time", "latest_time"] then do
    let carrying := members.filter fun row => !(present field [row]).isEmpty
    let stamps ← carrying.mapM fun row => asFloat py.toStatsPython ((row.get "_time").getD .null)
    match stamps.filterMap id with
    | [] => return none
    | x :: xs =>
      return some (shrink py.toStatsPython
          (if func = "earliest_time" then minOf x xs else maxOf x xs))
  else aggregate py.toStatsPython (if func = "estdc" then "dc" else func) field members

/-- `computed` of `_tstats_groups`, nothing where it raises. -/
def computed (aggs : List Aggregation) (members : List Row) : Option Row :=
  aggs.foldlM (fun record agg =>
    (tstatsAggregate py agg.func agg.field members).map fun value =>
      value.elim record (record.set agg.aliasName)) Dict.empty

/-- The row of a group, without its statistics: `_time` as it is in the first of its rows, and the
    other by-fields as text. -/
def tstatsKeyRow (byFields key : List String) (members : List Row) : Row :=
  (byFields.zip key).foldl (fun row p =>
    row.set p.1 (if p.1 = "_time" then ((members.head?.bind (·.get p.1)).getD .null) else .str p.2))
    Dict.empty

/-- `_tstats_groups`, nothing where it raises. -/
def tstatsGroups (aggs : List Aggregation) (byFields : List String) (rows : List Row) :
    Option (List Row) :=
  if byFields.isEmpty then do
    let whole ← computed py aggs rows
    return if whole.entries.isEmpty then [] else [whole]
  else
    let groups := groupsOf py.toStatsPython byFields rows
    (((byKey py.toStatsPython).sort groups.keys).take MAX_RESULT_ROWS).mapM fun key =>
      let members := (groups.get key).getD []
      (computed py aggs members).map (updated (tstatsKeyRow byFields key members))

/-- `_window`: the bounds of the dispatch, and where it has none those of the `WHERE` clause;
    nothing where it raises. -/
def tstatsWindow (window : PyFloat × PyFloat) (selector : SPLQuery) :
    Option (PyFloat × PyFloat) := do
  let bound (own : PyFloat) (text : String) : Option PyFloat :=
    if text = "" then some own
    else if py.resolve text = .finite 0 then none
    else some (if own = .finite 0 then py.resolve text else own)
  return (← bound window.1 selector.earliestTime, ← bound window.2 selector.latestTime)

/-- The selector of events that a query has, in a window. -/
def selectorOf (q : SPLQuery) (window : PyFloat × PyFloat) : EventSelector :=
  ⟨q.index, q.sourcetype, q.source, q.host, window.1, window.2⟩

/-- `cmd_tstats`, of the aggregations and of what follows them; nothing where it raises. -/
def cmdTstats (events : List SplunkEvent) (window : PyFloat × PyFloat) (aggs : List Aggregation)
    (text : List Char) : Option (List Row) := do
  let parts ← clauses py text
  let part (keyword : String) := Assoc.get (some keyword) parts
  if aggs.isEmpty ∨ !aggs.all fun agg => offered py agg.func then none
  let (rowsOf, whereText) ← match part "from" with
    | some source => py.datasetOf source ((part "where").getD [])
    | none => some (List.map restrict, (part "where").getD [])
  let (bucket, byText) ← py.span ((part "by").getD [])
  let byFields := fieldsOf py byText
  if (part "by").isSome ∧ byFields.isEmpty then none
  let selector := parseSearchClause py.toSplPython whereText (.empty "")
  if selector.errors ≠ [] then none
  let window ← tstatsWindow py window selector
  let rows ← selectEvents py.toSplunkPython events (selectorOf selector window)
  let candidates ← (rowsOf rows).filterM (passes py.toSplPython .search selector.searchExpr)
  tstatsGroups py aggs byFields
    (if "_time" ∈ byFields then candidates.map bucket else candidates)

/-! ## Searches -/

/-- `NotableEvent`, what a search reads of it. -/
structure NotableEvent where
  eventId : String
  ruleName : String
  ruleTitle : String
  ruleId : String
  searchName : String
  securityDomain : String
  severity : String
  urgency : String
  status : String
  statusLabel : String
  owner : String
  src : String
  dest : String
  user : String
  description : String
  drilldownSearch : String
  time : String
  timeAlias : String
  infoMinTime : String
  infoMaxTime : String

/-- The row of a notable event. -/
def notableRow (n : NotableEvent) : Row where
  entries :=
    [("event_id", Value.str n.eventId), ("rule_name", .str n.ruleName),
      ("rule_title", .str n.ruleTitle), ("rule_id", .str n.ruleId),
      ("search_name", .str n.searchName), ("security_domain", .str n.securityDomain),
      ("severity", .str n.severity), ("urgency", .str n.urgency), ("status", .str n.status),
      ("status_label", .str n.statusLabel), ("owner", .str n.owner), ("src", .str n.src),
      ("dest", .str n.dest), ("user", .str n.user), ("description", .str n.description),
      ("drilldown_search", .str n.drilldownSearch), ("time", .str n.time),
      ("_time", .str n.timeAlias), ("info_min_time", .str n.infoMinTime),
      ("info_max_time", .str n.infoMaxTime), ("sourcetype", .str "stash"),
      ("index", .str "notable"),
      ("_raw", .str (py.dumps [("event_id", .str n.eventId), ("rule_name", .str n.ruleName),
        ("severity", .str n.severity), ("description", .str n.description)]))]
  nodup := by
    change ["event_id", "rule_name", "rule_title", "rule_id", "search_name", "security_domain",
      "severity", "urgency", "status", "status_label", "owner", "src", "dest", "user",
      "description", "drilldown_search", "time", "_time", "info_min_time", "info_max_time",
      "sourcetype", "index", "_raw"].Nodup
    decide

/-- `_query_notables`, nothing where it raises. -/
def queryNotables (notables : List NotableEvent) : Option (List Row) :=
  let rows := notables.map (notableRow py)
  if rows.all fun row => (timeKey py.toSplunkPython row).isSome then
    some ((descending fun row => (timeKey py.toSplunkPython row).getD (.finite 0)).sort rows)
  else none

/-- The events and the notable events that are stored. The times of notable events are numbers. -/
structure Stores where
  events : List SplunkEvent
  notables : List NotableEvent
  readable : ∀ n ∈ notables, (readTime py.toSplunkPython (.str n.timeAlias)).isSome

/-- The bounds that a search is dispatched with, empty where there are none. -/
structure Dispatch where
  earliestTime : String
  latestTime : String

/-- A query with the bounds of its dispatch in place of its own. -/
def dispatched (dispatch : Dispatch) (q : SPLQuery) : SPLQuery :=
  { q with
    earliestTime := if dispatch.earliestTime = "" then q.earliestTime else dispatch.earliestTime
    latestTime := if dispatch.latestTime = "" then q.latestTime else dispatch.latestTime
    fromSearchString :=
      q.fromSearchString && dispatch.earliestTime = "" && dispatch.latestTime = "" }

/-- `_time_term_messages` and `_window`: the window of a search, nothing where it is refused. -/
def windowOf (q : SPLQuery) : Option (PyFloat × PyFloat) := do
  let bound (text : String) : Option PyFloat :=
    if text = "" then some (.finite 0)
    else if py.resolve text = .finite 0 then none
    else some (py.resolve text)
  let earliest ← bound q.earliestTime
  let latest ← bound q.latestTime
  if earliest ≠ .finite 0 ∧ latest ≠ .finite 0 ∧ latest.lt earliest then none
  else return (earliest, latest)

/-- The events that a search reads which does not begin with a generating command. -/
def readEvents (stores : Stores py) (q : SPLQuery) (window : PyFloat × PyFloat) :
    Option (List Row) :=
  if q.isNotable ∨ q.index = "notable" then do
    let notables ← queryNotables py stores.notables
    let events ← selectEvents py.toSplunkPython stores.events (selectorOf q window)
    return notables ++ events
  else selectEvents py.toSplunkPython stores.events (selectorOf q window)

/-- `search <clause> | stats <aggs> by <fields>` -/
def searchStats (stores : Stores py) (dispatch : Dispatch) (clause : List Char)
    (aggs : List Aggregation) (byFields : List String) : Option (List Row) := do
  let q := dispatched dispatch (parseSearchClause py.toSplPython clause (.empty ""))
  let window ← windowOf py q
  let rows ← readEvents py stores q window
  let rows ← rows.filterM (passes py.toSplPython .search q.searchExpr)
  cmdStats py.toStatsPython aggs byFields rows

/-- By-fields with blanks between them. -/
def listed (byFields : List String) : List Char := [' '].intercalate (byFields.map String.toList)

/-- `where <clause> by <fields>`, without its end where there are no by-fields. -/
def tstatsText (clause : List Char) (byFields : List String) : List Char :=
  ['w', 'h', 'e', 'r', 'e', ' '] ++ clause
    ++ if byFields.isEmpty then [] else [' ', 'b', 'y', ' '] ++ listed byFields

/-- `| tstats <aggs> where <clause> by <fields>` -/
def searchTstats (stores : Stores py) (dispatch : Dispatch) (clause : List Char)
    (aggs : List Aggregation) (byFields : List String) : Option (List Row) := do
  let window ← windowOf py (dispatched dispatch (.empty ""))
  cmdTstats py stores.events window aggs (tstatsText clause byFields)

end Splunk

end Mockdr
