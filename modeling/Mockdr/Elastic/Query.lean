import Mockdr.Elastic.Document
import Mockdr.Elastic.MinimumShouldMatch

/-!
# Building the predicate of a query

`build_predicate` (`utils/es_query.py`): the recursion over a query clause that turns it into a test
on records, with the compound clauses `bool`, `constant_score`, `dis_max` and `boosting`, the bound
on nesting and the count of clauses.

The other clauses are leaves. Their builders are a parameter of the recursion (`Leaf`), so that what
is said of it holds whatever they are.
-/

namespace Mockdr.Elastic

/-! ## Errors -/

/-- `ESQueryError`, with the members the modelled code sets. -/
structure EsQueryError where
  message : String
  esType : String := "parsing_exception"
  clause : Option String := none
  namedObject : Bool := false
  shardFailure : Bool := false
  /-- `line` and `col` -/
  detail : Option (Nat × Nat) := none
  atEnd : Bool := false
  /-- `type` and `reason` -/
  causedBy : Option (String × String) := none
  positionInMessage : Bool := false
  positionFormat : Bool := false

/-- What a search raises. -/
inductive SearchError where
  | query (e : EsQueryError)
  | es (e : EsError)
  /-- an exception no handler names -/
  | crash

/-- A test on records. -/
abbrev Pred := Rec → Bool

/-- The builders of the leaf clauses: by the kind of the clause and its body, how many clauses it
    counts beside itself, and its test. -/
abbrev Leaf := String → Object → Except SearchError (Nat × Pred)

/-! ## The limits -/

/-- `_MAX_CLAUSE_DEPTH` -/
def maxClauseDepth : Nat := 30

/-- `MAX_CLAUSE_COUNT` -/
def maxClauseCount : Nat := 4096

/-- `_count_clauses`: the total so far and `n` more. -/
def countClauses (n total : Nat) : Except SearchError Nat :=
  if maxClauseCount < total + n then
    .error (.query {
      message := "Query contains too many nested clauses; maxClauseCount is set to 4096"
      esType := "too_many_nested_clauses" })
  else .ok (total + n)

/-! ## The kinds of clauses -/

/-- The keys of `_BUILDERS` and `ids`, less `bool`. -/
def leafKinds : List String :=
  ["match_all", "match", "match_phrase", "term", "terms", "range", "wildcard", "exists",
    "query_string", "prefix", "regexp", "fuzzy", "multi_match", "simple_query_string",
    "match_phrase_prefix", "match_bool_prefix", "terms_set", "ids"]

/-- `bool` and the keys of `_WRAPPERS`. -/
def compoundKinds : List String := ["bool", "constant_score", "dis_max", "boosting"]

/-- `_EMPTY_CLAUSE`: the clauses that are refused with an empty body, and how. -/
def emptyClause : List (String × (String × String)) :=
  [("term", "field name is null or empty", "illegal_argument_exception"),
    ("prefix", "field name is null or empty", "illegal_argument_exception"),
    ("wildcard", "field name is null or empty", "illegal_argument_exception"),
    ("regexp", "field name is null or empty", "illegal_argument_exception"),
    ("range", "field name is null or empty", "illegal_argument_exception"),
    ("fuzzy", "field name cannot be null or empty", "illegal_argument_exception"),
    ("match_phrase", "[match_phrase] requires fieldName", "illegal_argument_exception"),
    ("match_phrase_prefix", "[match_phrase_prefix] requires fieldName",
      "illegal_argument_exception"),
    ("match_bool_prefix", "[match_bool_prefix] requires fieldName", "illegal_argument_exception"),
    ("match", "No text specified for text query", "parsing_exception"),
    ("multi_match", "No text specified for multi_match query", "parsing_exception"),
    ("terms", "[terms] query requires a field name, followed by array of terms or a document " ++
      "lookup specification", "parsing_exception"),
    ("terms_set", "[terms_set] unknown token [END_OBJECT]", "parsing_exception"),
    ("exists", "[exists] must be provided with a [field]", "parsing_exception"),
    ("constant_score", "[constant_score] requires a 'filter' element", "parsing_exception"),
    ("dis_max", "[dis_max] requires 'queries' field with at least one clause",
      "parsing_exception"),
    ("boosting", "[boosting] query requires 'positive' query to be set'", "parsing_exception"),
    ("query_string", "[query_string] must be provided with a [query]", "parsing_exception"),
    ("simple_query_string", "[simple_query_string] query text missing", "parsing_exception")]

/-- `type(v).__name__` -/
def typeName : Json → String
  | .null => "NoneType"
  | .bool _ => "bool"
  | .int _ => "int"
  | .float _ => "float"
  | .str _ => "str"
  | .list _ => "list"
  | .dict _ => "dict"

/-! ## The recursion -/

/-- Build the clauses of a list, one after the other, counting. -/
def collect (build : Json → Nat → Except SearchError (Pred × Nat)) :
    List Json → Nat → Except SearchError (List Pred × Nat)
  | [], total => .ok ([], total)
  | c :: cs, total => do
    let (p, total) ← build c total
    let (ps, total) ← collect build cs total
    return (p :: ps, total)

/-- The clauses of one arm of a `bool`: a list of them, or a single one. -/
def armEntries (body : Object) (arm : String) : List Json :=
  match Assoc.get arm body with
  | none => []
  | some (.list xs) => xs
  | some c => [c]

/-- `entry == {}` -/
def isEmptyObject : Json → Bool
  | .dict [] => true
  | _ => false

/-- The first arm of a `bool` that holds an empty clause. -/
def emptyArm (body : Object) : Option String :=
  ["must", "filter", "should", "must_not"].find? fun arm => (armEntries body arm).any isEmptyObject

/-- What `minimum_should_match` says of a number of `should` clauses: nothing where it is absent or
    unreadable, or where there are none. -/
def minimumOf (py : Python) (body : Object) (shoulds : Nat) : Except SearchError (Option Int) :=
  match body.get "minimum_should_match" with
  | .null => .ok none
  | spec =>
    if shoulds = 0 then .ok none
    else
      match calculateMinShouldMatch py shoulds spec with
      | .ok n => .ok (some n)
      | .error .value => .ok none
      | .error .overflow => .error .crash

/-- `min_should`: a `bool` with nothing required is a disjunction of its shoulds. -/
def minShould (must filter should : List Pred) (minimum : Option Int) : Int :=
  let floor := if !should.isEmpty && must.isEmpty && filter.isEmpty then 1 else 0
  match minimum with
  | some n => max floor n
  | none => floor

/-- The test `_build_bool` makes of its arms. -/
def boolPred (must filter should mustNot : List Pred) (minimum : Option Int) : Pred := fun rec =>
  if !must.all (· rec) then false
  else if !filter.all (· rec) then false
  else if mustNot.any (· rec) then false
  else if !should.isEmpty
      && decide ((should.countP (· rec) : Int) < minShould must filter should minimum) then false
  else true

/-- `_build_bool` -/
def buildBool (py : Python) (build : Json → Nat → Except SearchError (Pred × Nat)) (body : Object)
    (total : Nat) : Except SearchError (Pred × Nat) :=
  match emptyArm body with
  | some arm => .error (.query {
      message := s!"[bool] failed to parse field [{arm}]"
      esType := "x_content_parse_exception"
      clause := some arm
      atEnd := true
      positionInMessage := true
      causedBy := some ("illegal_argument_exception", "query malformed, empty clause found at") })
  | none => do
    let (must, total) ← collect build (armEntries body "must") total
    let (filter, total) ← collect build (armEntries body "filter") total
    let (should, total) ← collect build (armEntries body "should") total
    let (mustNot, total) ← collect build (armEntries body "must_not") total
    let minimum ← minimumOf py body should.length
    return (boolPred must filter should mustNot minimum, total)

/-- `_build_dis_max` -/
def buildDisMax (build : Json → Nat → Except SearchError (Pred × Nat)) (body : Object)
    (total : Nat) : Except SearchError (Pred × Nat) :=
  match ((Assoc.get "queries" body).getD (.list [])).iterate with
  | none => .error .crash
  | some queries => do
    let (ps, total) ← collect build queries total
    return (fun rec => ps.any (· rec), total)

/-- One query type with its body, as `_build_predicate` dispatches it. -/
def buildQuery (py : Python) (leaf : Leaf) (build : Json → Nat → Except SearchError (Pred × Nat))
    (kind : String) (body : Json) (total : Nat) : Except SearchError (Pred × Nat) :=
  if !leafKinds.contains kind && !compoundKinds.contains kind then
    .error (.query {
      message := s!"unknown query [{kind}]", clause := some kind, namedObject := true })
  else
    match body with
    | .dict body =>
      match if body.isEmpty then Assoc.get kind emptyClause else none with
      | some (text, esType) =>
        .error (.query {
          message := text
          esType
          clause := if esType = "parsing_exception" then some kind else none
          atEnd := esType = "parsing_exception" })
      | none =>
        if kind = "bool" then buildBool py build body total
        else if kind = "constant_score" then
          build ((Assoc.get "filter" body).getD (.dict [])) total
        else if kind = "dis_max" then buildDisMax build body total
        else if kind = "boosting" then
          build ((Assoc.get "positive" body).getD (.dict [])) total
        else do
          let (extra, p) ← leaf kind body
          let total ← countClauses extra total
          return (p, total)
    | _ => .error (.query { message := s!"[{kind}] query malformed, expected an object" })

/-- `_build_predicate`. The first argument is how many levels are left: `31 - _depth`, so that there
    is none where `_depth` is past the limit. The last is the count of clauses so far. -/
def buildClause (py : Python) (leaf : Leaf) :
    Nat → Json → Nat → Except SearchError (Pred × Nat)
  | 0, _, total => do
    let _ ← countClauses 1 total
    .error (.query { message := "[bool] query is nested too deeply, max depth is 30" })
  | levels + 1, clause, total => do
    let total ← countClauses 1 total
    if !clause.truthy then return (fun _ => true, total)
    else
      match clause with
      | .dict [(kind, body)] =>
        buildQuery py leaf (buildClause py leaf levels) kind body total
      | .dict fields =>
        let extra := ((fields.map Prod.fst).insertionSort (· ≤ ·)).getD 1 ""
        .error (.query {
          message := s!"[query] malformed query, expected [END_OBJECT] but found [{extra}]" })
      | clause =>
        let found := typeName clause
        .error (.query {
          message := s!"[query] malformed query, expected an object but found {found}" })

/-- `build_predicate`, on a whole query: the count starts at 0. -/
def buildPredicate (py : Python) (leaf : Leaf) (clause : Json) : Except SearchError Pred :=
  (buildClause py leaf (maxClauseDepth + 1) clause 0).map Prod.fst

end Mockdr.Elastic
