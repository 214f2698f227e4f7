import Mathlib.Algebra.Order.Floor.Ring
import Mathlib.Data.Rat.Floor
import Mockdr.Elastic.Leaf
import Mockdr.Elastic.Sort
import Mockdr.Lib.Except

/-!
# Searching

`es_search` and `es_count` (`application/es_search/queries.py`) with what they call of
`utils/es_query.py`: the checks of a search body, filtering, sorting, paging and the total that is
reported.

`Engine` is what a search uses beside the store and the model leaves open: the builders of the leaf
clauses other than those of `Mockdr.Elastic.Leaf`, the reading of dates, the check that a sort field
is mapped, the aggregations, and the column at which an empty query closes in the text of a body.

* `searchOver` is a search over records that are resolved; `matching` is what it pages over.
-/

namespace Mockdr.Elastic

/-- What a search uses and the model leaves open. -/
structure Engine where
  /-- the builders of the other leaf clauses -/
  others : Leaf
  /-- the epoch milliseconds of a string that looks like a date and parses -/
  millis : String → Option Int
  /-- the part of `_refuse_unsortable` that reads the mapping of an index -/
  refuseUnmapped : Dict String IndexEntry → String → Json → List Rec → Except SearchError Unit
  /-- `apply_aggregations` -/
  aggregate : Dict String IndexEntry → String → Json → List Rec → Except SearchError Json
  /-- `_empty_clause_column` -/
  emptyClauseColumn : Object → Nat

/-- An engine for concrete runs: it knows no other leaf clauses, reads no dates, and finds every
    field mapped. -/
def plainEngine : Engine where
  others _ _ := .error .crash
  millis _ := none
  refuseUnmapped _ _ _ _ := .ok ()
  aggregate _ _ _ _ := .ok (.dict [])
  emptyClauseColumn _ := 0

/-! ## The search body -/

/-- `_KNOWN_TOP_LEVEL` -/
def knownTopLevel : List String :=
  ["query", "size", "from", "sort", "aggs", "aggregations", "_source", "fields",
    "track_total_hits", "search_after", "highlight", "collapse", "post_filter",
    "stored_fields", "docvalue_fields", "script_fields", "min_score", "explain",
    "version", "seq_no_primary_term", "timeout", "terminate_after", "pit",
    "runtime_mappings", "suggest", "rescore", "indices_boost", "track_scores",
    "profile", "slice", "knn", "ext", "stats", "rank", "retriever"]

/-- `_OBJECT_MEMBERS` -/
def objectMembers : List String :=
  ["query", "aggs", "aggregations", "highlight", "collapse", "post_filter", "runtime_mappings",
    "suggest", "script_fields", "fields", "docvalue_fields", "rescore", "knn"]

/-- The object members that take an array too: `_ALSO_ARRAY`, and `fields` and `docvalue_fields`. -/
def alsoArray : List String := ["rescore", "knn", "fields", "docvalue_fields"]

/-- `_JSON_TOKENS` -/
def jsonToken : Json → String
  | .null => "VALUE_NULL"
  | .bool _ => "VALUE_BOOLEAN"
  | .int _ => "VALUE_NUMBER"
  | .float _ => "VALUE_NUMBER"
  | .str _ => "VALUE_STRING"
  | .list _ => "START_ARRAY"
  | .dict _ => "START_OBJECT"

/-- `_refuse_wrong_shape` -/
def refuseWrongShape (py : Python) (key : String) (value : Json) : Except SearchError Unit :=
  let token := jsonToken value
  match key, value with
  | "_source", .bool _ | "_source", .str _ | "_source", .list _ | "_source", .dict _ => .ok ()
  | "_source", _ => .error (.query {
      message := "Expected one of [VALUE_BOOLEAN, VALUE_STRING, START_ARRAY, START_OBJECT] " ++
        s!"but found [{token}]"
      clause := some key })
  | "stored_fields", .str _ | "stored_fields", .list _ => .ok ()
  | "stored_fields", _ => .error (.query {
      message := s!"Expected [VALUE_STRING] or [START_ARRAY] in [stored_fields] but found [{token}]"
      clause := some key })
  | "track_total_hits", .str text =>
    if (py.parseInt text).isSome then .ok ()
    else .error (.query {
      message := s!"For input string: \"{text}\"", esType := "number_format_exception" })
  | "explain", .bool _ => .ok ()
  | "explain", _ =>
    let text := py.toStr value
    .error (.query {
      message := s!"Failed to parse value [{text}] as only [true] or [false] are allowed."
      esType := "illegal_argument_exception" })
  | _, _ => .ok ()

/-- Whether a member of a search body is not one, or has to be an object and is not. -/
def misplaced (key : String) (value : Json) : Bool :=
  !knownTopLevel.contains key || (objectMembers.contains key && !value.isDict
    && !(alsoArray.contains key && match value with
      | .list _ => true
      | _ => false))

/-- One member of a search body, as `validate_search_body` looks at it. -/
def validateMember (py : Python) (member : String × Json) : Except SearchError Unit :=
  if misplaced member.1 member.2 then
    let token := jsonToken member.2
    let key := member.1
    .error (.query {
      message := s!"Unknown key for a {token} in [{key}].", clause := some key })
  else refuseWrongShape py member.1 member.2

/-- `_as_bound` -/
def asBound (py : Python) (value : Json) (name : String) : Except SearchError (Option Nat) :=
  let parsed : Except SearchError (Option Int) := match value with
    | .null => .ok none
    | .int n => .ok (some n)
    | .float q => .ok (some (if q < 0 then ⌈q⌉ else ⌊q⌋))
    | .str s =>
      match py.parseInt s with
      | some n => .ok (some n)
      | none => .error (.query {
          message := s!"For input string: \"{s}\"", esType := "number_format_exception" })
    | _ => .error (.query { message := s!"[{name}] must be a number" })
  match parsed with
  | .error e => .error e
  | .ok none => .ok none
  | .ok (some bound) =>
    if bound < -2147483648 ∨ 2147483647 < bound then
      let text := py.toStr value
      .error (.query {
        message := s!"Numeric value ({text}) out of range of int (-2147483648 - 2147483647)"
        esType := "x_content_parse_exception" })
    else if bound < 0 then
      .error (.query {
        message := if name = "size" then
            s!"[size] parameter cannot be negative, found [{bound}]"
          else s!"[{name}] parameter cannot be negative but was [{bound}]"
        esType := "illegal_argument_exception" })
    else .ok (some bound.toNat)

/-- `MAX_RESULT_WINDOW` -/
def maxResultWindow : Nat := 10000

/-- The check of `search_after` against the sort. -/
def validateSearchAfter (py : Python) (body : Object) : Except SearchError Unit :=
  match body.get "search_after" with
  | .null => .ok ()
  | searchAfter => do
    let keys ← sortKeysOf py (body.get "sort")
    if !emitsSortValues keys then
      .error (.query {
        message := "Sort must contain at least one field."
        esType := "illegal_argument_exception"
        shardFailure := true })
    else
      match searchAfter.iterate with
      | none => .error .crash
      | some values =>
        let found := values.length
        let wanted := keys.length
        if found ≠ wanted then
          .error (.query {
            message := s!"search_after has {found} value(s) but sort has {wanted}."
            esType := "illegal_argument_exception"
            shardFailure := true })
        else .ok ()

/-- `validate_search_body` -/
def validateSearchBody (py : Python) (body : Object) : Except SearchError Unit := do
  body.forM (validateMember py)
  match body.get "terminate_after" with
  | .int n =>
    if n < 0 then
      .error (.query {
        message := "terminateAfter must be > 0", esType := "illegal_argument_exception" })
  | _ => pure ()
  validateSearchAfter py body
  let start ← asBound py (body.get "from") "from"
  let size ← asBound py (body.get "size") "size"
  let window := start.getD 0 + size.getD 10
  if maxResultWindow < window then
    .error (.query {
      message := "Result window is too large, from + size must be less than or equal to: " ++
        s!"[{maxResultWindow}] but was [{window}]. See the scroll api for a more " ++
        "efficient way to request large data sets. This limit can be set by changing " ++
        "the [index.max_result_window] index level setting."
      esType := "illegal_argument_exception"
      shardFailure := true })

/-- `_refuse_unsortable` -/
def refuseUnsortable (py : Python) (engine : Engine) (s : EsStore) (index : String) (spec : Json)
    (records : List Rec) : Except SearchError Unit :=
  if !spec.truthy then .ok ()
  else do
    let _ ← parseSortKeys py spec
    engine.refuseUnmapped s.indices index spec records

/-- `_query_clause` -/
def queryClause (engine : Engine) (body : Object) : Except SearchError Json :=
  match body.get "query" with
  | .dict [] =>
    let column := engine.emptyClauseColumn body
    .error (.query {
      message := s!"query malformed, empty clause found at [1:{column}]"
      esType := "illegal_argument_exception" })
  | clause => .ok clause

/-- `_count_query_clause` -/
def countQueryClause (engine : Engine) (body : Object) : Except SearchError Json :=
  match body.get "query" with
  | .dict [] =>
    let column := engine.emptyClauseColumn body
    .error (.query {
      message := "Failed to parse"
      detail := some (1, column)
      causedBy := some ("illegal_argument_exception",
        s!"query malformed, empty clause found at [1:{column}]") })
  | clause => .ok clause

/-! ## Filtering, sorting and cutting a page -/

/-- Keep the records a test holds of. -/
def keep (p : Pred) (records : List Placed) : List Placed := records.filter fun d => p d.toRec

/-- `filter_es_records` -/
def filterEsRecords (py : Python) (leaf : Leaf) (body : Object) (records : List Placed) :
    Except SearchError (List Placed) :=
  let clause := body.get "query"
  if !clause.truthy then .ok records
  else do
    let p ← buildPredicate py leaf clause
    return keep p records

/-- The sort of `apply_es_query`, with the cut at `search_after`. -/
def sortEsRecords (py : Python) (millis : String → Option Int) (body : Object)
    (records : List Placed) : Except SearchError (List Placed) :=
  let spec := body.get "sort"
  if !spec.truthy then .ok records
  else do
    let sorted ← applyEsSort py spec records
    let searchAfter := body.get "search_after"
    if !searchAfter.truthy then return sorted
    else
      let keys ← parseSortKeys py spec
      match searchAfter.iterate with
      | none => .error .crash
      | some target => return applySearchAfter py millis sorted target keys

/-- `apply_es_query` before it cuts the page: the records that match, in the order of the sort. -/
def matching (py : Python) (engine : Engine) (leaf : Leaf) (body : Object) (records : List Placed) :
    Except SearchError (List Placed) := do
  let matched ← filterEsRecords py leaf body records
  sortEsRecords py engine.millis body matched

/-- The page of `apply_es_query`. -/
def cutPage (py : Python) (body : Object) (records : List Placed) :
    Except SearchError (List Placed) := do
  let offset ← asBound py ((Assoc.get "from" body).getD (.int 0)) "from"
  let size ← asBound py ((Assoc.get "size" body).getD (.int 10)) "size"
  let rest := records.drop (offset.getD 0)
  return match size with
    | some size => rest.take size
    | none => rest

/-! ## The answer -/

/-- A hit. -/
structure Hit where
  index : String
  docId : String
  /-- whether `_score` is 1.0 rather than null -/
  scored : Bool
  /-- `_source`, unless it was asked to be left out -/
  source : Option Object
  /-- `sort` -/
  sort : Option (List Json)

/-- The answer of a search. -/
structure SearchResult where
  hits : List Hit
  /-- `hits.total`: the value, and whether its relation is `gte`; absent where it is not tracked -/
  total : Option (Int × Bool)
  /-- whether `max_score` is 1.0 rather than null -/
  scored : Bool
  aggregations : Option Json

/-- `wrap_as_hits`, for one record. -/
def wrapAsHit (py : Python) (millis : String → Option Int) (index : String) (keys : List SortKey)
    (kinds : List (String × FieldKind)) (d : Placed) : Hit where
  index
  docId := givenId py d.toRec
  scored := keys.isEmpty
  source := some d.source
  sort := if keys.isEmpty then none else some (sortValues py millis keys kinds d)

/-- `_as_patterns` -/
def asPatterns (py : Python) : Json → List String
  | .str p => [p]
  | .list ps => ps.map py.toStr
  | _ => []

/-- `a or b` -/
def orElse (a b : Json) : Json := if a.truthy then a else b

/-- `_project` -/
def project (record : Object) (includes excludes : List String) : Object :=
  record.filter fun field =>
    (includes.isEmpty || includes.any (fnmatch field.1)) && !excludes.any (fnmatch field.1)

/-- `apply_source_filter`, for one hit. -/
def applySourceFilter (py : Python) (spec : Json) (hit : Hit) : Hit :=
  match spec with
  | .null | .bool true => hit
  | .bool false => { hit with source := none }
  | spec =>
    let (includes, excludes) := match spec with
      | .dict o => (asPatterns py (orElse (Object.get o "includes") (Object.get o "include")),
          asPatterns py (orElse (Object.get o "excludes") (Object.get o "exclude")))
      | spec => (asPatterns py spec, [])
    if includes.isEmpty && excludes.isEmpty then hit
    else { hit with source := some (project (hit.source.getD []) includes excludes) }

/-- `DEFAULT_TRACK_TOTAL_HITS` -/
def defaultTrackTotalHits : Int := 10000

/-- `_apply_total_hits_tracking`: what is reported of a total. -/
def trackTotalHits (tracking : Json) (total : Nat) : Option (Int × Bool) :=
  match tracking with
  | .bool false => none
  | .bool true => some (total, false)
  | tracking =>
    let limit : Int := match tracking with
      | .int n => n
      | _ => defaultTrackTotalHits
    some (if limit < total then (limit, true) else (total, false))

/-- The total of a search: what its query matches, or all records. -/
def totalHits (py : Python) (leaf : Leaf) (clause : Json) (records : List Placed) :
    Except SearchError Nat :=
  if !clause.truthy then .ok records.length
  else do
    let p ← buildPredicate py leaf clause
    return records.countP fun d => p d.toRec

/-- The aggregations of a search, over everything its query matches. -/
def searchAggregations (py : Python) (engine : Engine) (s : EsStore) (leaf : Leaf) (index : String)
    (body : Object) (records : List Placed) : Except SearchError (Option Json) :=
  let aggs := orElse (body.get "aggs") (body.get "aggregations")
  if !aggs.truthy then .ok none
  else do
    let matched ← filterEsRecords py leaf body records
    return some (← engine.aggregate s.indices index aggs (matched.map fun d => d.toRec))

/-- The hits of a page. -/
def hitsOf (py : Python) (engine : Engine) (index : String) (records : List Doc) (body : Object)
    (keys : List SortKey) (page : List Placed) : List Hit :=
  let kinds := sortFieldKinds py engine.millis (records.map Doc.toRec) keys
  page.map fun d =>
    applySourceFilter py (body.get "_source") (wrapAsHit py engine.millis index keys kinds d)

/-- `es_search` over records that are resolved. -/
def searchOver (py : Python) (engine : Engine) (s : EsStore) (index : String) (records : List Doc)
    (body : Object) : Except SearchError SearchResult := do
  let placed := docPositions records
  let leaf := searchLeaf py engine.others (termsLookup py s)
  validateSearchBody py body
  refuseUnsortable py engine s index (body.get "sort") (records.map Doc.toRec)
  let matched ← matching py engine leaf body placed
  let page ← cutPage py body matched
  let clause ← queryClause engine body
  let total ← totalHits py leaf clause placed
  let allKeys ← sortKeysOf py (body.get "sort")
  let keys := if emitsSortValues allKeys then allKeys else []
  let hits := hitsOf py engine index records body keys page
  let aggregations ← searchAggregations py engine s leaf index body placed
  return { hits
           total := trackTotalHits ((Assoc.get "track_total_hits" body).getD
             (.int defaultTrackTotalHits)) total
           scored := keys.isEmpty && !hits.isEmpty
           aggregations }

/-- `es_search` -/
def esSearch (py : Python) (engine : Engine) (s : EsStore) (index : String) (body : Object)
    (ignoreUnavailable : Bool) : Except SearchError SearchResult := do
  let (records, canonical) ← (resolveDocs py s index ignoreUnavailable).mapError .es
  searchOver py engine s canonical records body

/-- `es_count` -/
def esCount (py : Python) (engine : Engine) (s : EsStore) (index : String) (body : Object)
    (ignoreUnavailable : Bool) : Except SearchError Nat := do
  let (records, _) ← (resolveDocs py s index ignoreUnavailable).mapError .es
  let clause ← countQueryClause engine body
  totalHits py (searchLeaf py engine.others (termsLookup py s)) clause (docPositions records)

/-! ## What a search that succeeds went through -/

/-- The steps of a search over some records, and what they answered. -/
structure Searches (py : Python) (engine : Engine) (s : EsStore) (index : String)
    (records : List Doc) (body : Object) (matched page : List Placed) (total : Nat)
    (keys : List SortKey) (aggregations : Option Json) : Prop where
  valid : validateSearchBody py body = .ok ()
  sortable : refuseUnsortable py engine s index (body.get "sort") (records.map Doc.toRec) = .ok ()
  found : matching py engine (searchLeaf py engine.others (termsLookup py s)) body
    (docPositions records) = .ok matched
  cut : cutPage py body matched = .ok page
  asked : queryClause engine body = .ok (body.get "query")
  counted : totalHits py (searchLeaf py engine.others (termsLookup py s)) (body.get "query")
    (docPositions records) = .ok total
  sorted : sortKeysOf py (body.get "sort") = .ok keys
  aggregated : searchAggregations py engine s (searchLeaf py engine.others (termsLookup py s)) index
    body (docPositions records) = .ok aggregations

/-- The answer that is made of them. -/
def answerOf (py : Python) (engine : Engine) (index : String) (records : List Doc) (body : Object)
    (page : List Placed) (total : Nat) (allKeys : List SortKey) (aggregations : Option Json) :
    SearchResult :=
  let keys := if emitsSortValues allKeys then allKeys else []
  let hits := hitsOf py engine index records body keys page
  { hits
    total := trackTotalHits ((Assoc.get "track_total_hits" body).getD (.int defaultTrackTotalHits))
      total
    scored := keys.isEmpty && !hits.isEmpty
    aggregations }

lemma queryClause_eq_ok {engine : Engine} {body : Object} {clause : Json}
    (h : queryClause engine body = .ok clause) : clause = body.get "query" := by
  unfold queryClause at h
  split at h
  · cases h
  · exact (Except.ok.inj h).symm

/-- A search succeeds exactly when its steps do. -/
lemma searchOver_eq_ok_iff {py : Python} {engine : Engine} {s : EsStore} {index : String}
    {records : List Doc} {body : Object} {r : SearchResult} :
    searchOver py engine s index records body = .ok r
      ↔ ∃ matched page total keys aggregations,
        Searches py engine s index records body matched page total keys aggregations
          ∧ r = answerOf py engine index records body page total keys aggregations := by
  rw [searchOver]
  constructor
  · intro h
    obtain ⟨_, hvalid, h⟩ := bind_eq_ok_iff.1 h
    obtain ⟨_, hsortable, h⟩ := bind_eq_ok_iff.1 h
    obtain ⟨matched, hmatched, h⟩ := bind_eq_ok_iff.1 h
    obtain ⟨page, hpage, h⟩ := bind_eq_ok_iff.1 h
    obtain ⟨clause, hclause, h⟩ := bind_eq_ok_iff.1 h
    obtain rfl := queryClause_eq_ok hclause
    obtain ⟨total, htotal, h⟩ := bind_eq_ok_iff.1 h
    obtain ⟨keys, hkeys, h⟩ := bind_eq_ok_iff.1 h
    obtain ⟨aggregations, haggs, h⟩ := bind_eq_ok_iff.1 h
    exact ⟨matched, page, total, keys, aggregations,
      ⟨hvalid, hsortable, hmatched, hpage, hclause, htotal, hkeys, haggs⟩,
      (Except.ok.inj h).symm⟩
  · rintro ⟨matched, page, total, keys, aggregations, h, rfl⟩
    dsimp only
    rw [h.valid, h.sortable]
    simp only [bind, Except.bind, h.found, h.cut, h.asked, h.counted, h.sorted, h.aggregated]
    rfl

lemma totalHits_eq_ok_iff {py : Python} {leaf : Leaf} {clause : Json} {records : List Placed}
    {n : Nat} (h : clause.truthy = true) :
    totalHits py leaf clause records = .ok n
      ↔ ∃ p, buildPredicate py leaf clause = .ok p ∧ records.countP (fun d => p d.toRec) = n := by
  rw [totalHits, h, Bool.not_true, if_neg Bool.false_ne_true, bind_eq_ok_iff]
  constructor
  · rintro ⟨p, hp, hn⟩
    exact ⟨p, hp, Except.ok.inj hn⟩
  · rintro ⟨p, hp, rfl⟩
    exact ⟨p, hp, rfl⟩

lemma filterEsRecords_eq_ok_iff {py : Python} {leaf : Leaf} {body : Object}
    {records matched : List Placed} (h : (body.get "query").truthy = true) :
    filterEsRecords py leaf body records = .ok matched
      ↔ ∃ p, buildPredicate py leaf (body.get "query") = .ok p ∧ keep p records = matched := by
  rw [filterEsRecords, h, Bool.not_true, if_neg Bool.false_ne_true, bind_eq_ok_iff]
  constructor
  · rintro ⟨p, hp, hn⟩
    exact ⟨p, hp, Except.ok.inj hn⟩
  · rintro ⟨p, hp, rfl⟩
    exact ⟨p, hp, rfl⟩

/-! ## What a search counts -/

/-- The body of a search for a clause. -/
def queryBody (clause : Object) : Object :=
  [("query", .dict clause), ("track_total_hits", .bool true)]

/-- The exact total of a search whose query is a clause. -/
def searchCount (py : Python) (engine : Engine) (s : EsStore) (index : String) (records : List Doc)
    (clause : Object) : Except SearchError (Option (Int × Bool)) :=
  (searchOver py engine s index records (queryBody clause)).map SearchResult.total

/-- A search for a clause counts so many records. -/
def SearchFinds (py : Python) (engine : Engine) (s : EsStore) (index : String) (records : List Doc)
    (clause : Object) (n : Nat) : Prop :=
  searchCount py engine s index records clause = .ok (some (n, false))

section

variable {py : Python} {engine : Engine} {s : EsStore} {index : String}

lemma countP_docPositions (records : List Doc) (p : Pred) :
    (docPositions records).countP (fun d => p d.toRec) = (records.map Doc.toRec).countP p := by
  conv_rhs => rw [← docPositions_toDoc records]
  rw [List.map_map, List.countP_map]
  rfl

/-- A search for a clause counts the records it matches; an empty clause is refused. -/
lemma searchFinds_iff {records : List Doc} {clause : Object} {n : Nat} :
    SearchFinds py engine s index records clause n
      ↔ clause ≠ [] ∧ ∃ p, buildPredicate py (searchLeaf py engine.others (termsLookup py s))
          (.dict clause) = .ok p ∧ (records.map Doc.toRec).countP p = n := by
  have htruthy : ∀ h : clause ≠ [], (Object.get (queryBody clause) "query").truthy = true := by
    intro h
    change (!clause.isEmpty) = true
    simpa using h
  rw [SearchFinds, searchCount, map_eq_ok_iff]
  constructor
  · rintro ⟨r, hr, ht⟩
    obtain ⟨matched, page, total, keys, aggs, h, rfl⟩ := searchOver_eq_ok_iff.1 hr
    have hne : clause ≠ [] := by
      rintro rfl
      cases h.asked
    obtain ⟨p, hp, hcount⟩ := (totalHits_eq_ok_iff (htruthy hne)).1 h.counted
    refine ⟨hne, p, hp, ?_⟩
    have htotal : some ((total : Int), false) = some ((n : Int), false) := ht
    rw [← countP_docPositions, hcount]
    simpa using htotal
  · rintro ⟨hne, p, hp, rfl⟩
    refine ⟨_, searchOver_eq_ok_iff.2 ⟨keep p (docPositions records), _, _, [], none,
      ⟨rfl, rfl, ?_, rfl, ?_, (totalHits_eq_ok_iff (htruthy hne)).2 ⟨p, hp, rfl⟩, rfl, rfl⟩, rfl⟩,
      ?_⟩
    · rw [matching, (filterEsRecords_eq_ok_iff (htruthy hne)).2 ⟨p, hp, rfl⟩]
      rfl
    · obtain ⟨f, fs, rfl⟩ := List.exists_cons_of_ne_nil hne
      rfl
    · rw [← countP_docPositions]
      rfl

end

end Mockdr.Elastic
