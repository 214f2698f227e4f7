import Mockdr.Elastic.QuerySemantics
import Mockdr.Elastic.Search

/-!
# Aggregations that filter

The `filter`, `filters` and `missing` aggregations of `utils/es_aggs.py`, with the evaluation of an
`aggs` block around them; the other types are a parameter.

A `filter` aggregation builds its test without what a search knows beside the record, the ids
documents were given and the lookup of a `terms` clause (`aggLeaf`). `Settled` says of a leaf clause
that this makes no difference on some records, and `aggregations_agree` that an aggregation then
counts what a search finds.
-/

namespace Mockdr.Elastic

/-- `ESAggregationError`, with the members the modelled code sets. -/
structure EsAggregationError where
  message : String
  esType : String := "parsing_exception"
  clause : Option String := none
  atEnd : Bool := false

/-- What an aggregation raises. -/
inductive AggError where
  | aggregation (e : EsAggregationError)
  | search (e : SearchError)

/-- How an `aggs` block is evaluated over some records. -/
abbrev ApplyAggs := Json → List Rec → Except AggError Object

/-- The other types of aggregations: by type, body and sub-aggregations. -/
abbrev OtherAggs := ApplyAggs → String → Object → Json → List Rec → Except AggError Json

/-- `_NOTHING_SPECIFIED` -/
def nothingSpecified : String :=
  "Required one of fields [field, script], but none were specified. "

/-- `_EMPTY_AGGREGATION` -/
def emptyAggregation : List (String × String) :=
  ["terms", "date_histogram", "histogram", "range", "missing", "avg", "cardinality", "max", "min",
    "stats", "sum", "value_count"].map (·, nothingSpecified)
    ++ [("filters", "[filters] cannot be empty.")]

/-- `_split_definition`: the type of an aggregation, its body, and its sub-aggregations. -/
def splitDefinition (name : String) (definition : Object) :
    Except AggError (String × Object × Json) :=
  let sub := orElse (definition.get "aggs") (orElse (definition.get "aggregations") (.dict []))
  match definition.filter fun p => !(["aggs", "aggregations", "meta"].contains p.1) with
  | [] => .error (.aggregation {
      message := s!"Missing definition for aggregation [{name}]"
      clause := some name
      atEnd := true })
  | [(aggType, body)] => .ok (aggType, body.fields, sub)
  | (first, _) :: (second, _) :: _ => .error (.aggregation {
      message := s!"Found two aggregation type definitions in [{name}]: [{first}] and [{second}]"
      clause := some second })

/-- `_with_sub`: the results of the sub-aggregations go into the bucket. -/
def withSub (apply : ApplyAggs) (bucket : Object) (sub : Json) (members : List Rec) :
    Except AggError Json :=
  if !sub.truthy then .ok (.dict bucket)
  else do
    let results ← apply sub members
    return .dict (results.foldl (fun bucket p => Assoc.set p.1 p.2 bucket) bucket)

/-- The member of a bucket that counts its documents. -/
def docCount (n : Nat) : Object := [("doc_count", .int n)]

/-- The leaf clauses of an aggregation, which knows no ids and has no lookup. -/
def aggLeaf (py : Python) (others : Leaf) : Leaf := leafOf py others (ownId py) none

/-- A bucket of the records a clause matches. -/
def filterBucket (py : Python) (others : Leaf) (apply : ApplyAggs) (clause : Json) (sub : Json)
    (records : List Rec) : Except AggError Json := do
  let p ← (buildPredicate py (aggLeaf py others) clause).mapError .search
  let matched := records.filter p
  withSub apply (docCount matched.length) sub matched

/-- A bucket under its name. -/
def namedBucket (py : Python) (others : Leaf) (apply : ApplyAggs) (sub : Json) (records : List Rec)
    (p : String × Json) : Except AggError (String × Json) :=
  (filterBucket py others apply p.2 sub records).map (p.1, ·)

/-- `_filters` -/
def filtersAgg (py : Python) (others : Leaf) (apply : ApplyAggs) (body : Object) (sub : Json)
    (records : List Rec) : Except AggError Json :=
  match (Assoc.get "filters" body).getD (.dict []) with
  | .dict named => (named.mapM (namedBucket py others apply sub records)).map
      fun buckets => .dict [("buckets", .dict buckets)]
  | clauses =>
    match clauses.iterate with
    | none => .error (.search .crash)
    | some clauses =>
      (clauses.mapM fun clause => filterBucket py others apply clause sub records).map
        fun buckets => .dict [("buckets", .list buckets)]

/-- The `missing` arm of `_bucket`. A field that is not a string, which raises on the first record,
    is refused here. -/
def missingAgg (py : Python) (apply : ApplyAggs) (body : Object) (sub : Json) (records : List Rec) :
    Except AggError Json :=
  match (Assoc.get "field" body).getD (.str "") with
  | .str field =>
    let without := records.filter fun record =>
      match getNested py (.dict record.source) field with
      | .null => true
      | _ => false
    withSub apply (docCount without.length) sub without
  | _ => .error (.search .crash)

/-- `_evaluate` and `_bucket` -/
def evaluateAgg (py : Python) (others : Leaf) (otherAggs : OtherAggs) (apply : ApplyAggs)
    (name : String) (definition : Object) (records : List Rec) : Except AggError Json := do
  let (aggType, body, sub) ← splitDefinition name definition
  match if body.isEmpty then Assoc.get aggType emptyAggregation else none with
  | some message =>
    .error (.aggregation { message, esType := "illegal_argument_exception" })
  | none =>
    if aggType = "filter" then
      if body.isEmpty then
        .error (.search (.query {
          message := "query malformed, empty clause found at \x7bposition\x7d"
          esType := "illegal_argument_exception"
          clause := some "filter"
          atEnd := true
          positionFormat := true }))
      else filterBucket py others apply (.dict body) sub records
    else if aggType = "filters" then filtersAgg py others apply body sub records
    else if aggType = "missing" then missingAgg py apply body sub records
    else otherAggs apply aggType body sub records

/-- `apply_aggregations`. The first argument is how many levels are left: `11 - _depth`. -/
def applyAggregations (py : Python) (others : Leaf) (otherAggs : OtherAggs) : Nat → ApplyAggs
  | 0, _, _ => .error (.aggregation { message := "aggregations nested too deeply" })
  | levels + 1, .dict aggs, records => aggs.mapM fun p =>
    match p.2 with
    | .dict definition => do
      let result ← evaluateAgg py others otherAggs (applyAggregations py others otherAggs levels)
        p.1 definition records
      return (p.1, result)
    | _ =>
      let name := p.1
      .error (.aggregation { message := s!"[{name}] is not a valid aggregation definition" })
  | _ + 1, _, _ => .error (.search .crash)

section

variable {py : Python} {engine : Engine} {s : EsStore} {index : String}

/-! ## Leaf clauses that an aggregation reads as a search does -/

/-- A leaf clause selects the same records with and without what a search knows: an `ids` clause
    selects a record by the id it was given if and only if by its own, and a `terms` clause that
    looks its values up finds none that a record holds. -/
structure Settled (py : Python) (lookup : Lookup) (records : List Rec) (l : String × Object) :
    Prop where
  ids : l.1 = "ids" → ∀ values, ((Assoc.get "values" l.2).getD (.list [])).iterate = some values →
    ∀ record ∈ records, (values.map py.toStr).contains (givenId py record)
      = (values.map py.toStr).contains (ownId py record)
  terms : l.1 = "terms" → ∀ field spec rest, l.2 = (field, .dict spec) :: rest →
    ∃ values, termsValues py (some lookup) (.dict spec) = .ok values
      ∧ ∀ record ∈ records, ∀ v ∈ fieldValues py record field, py.toStr v ∉ values.map py.toStr

/-- Two builders that both build a leaf, with tests that agree, or both do not. -/
lemma leafAlike_of {leaf leaf' : Leaf} {records : List Rec} {l : String × Object}
    (h : (∃ n p p', leaf l.1 l.2 = .ok (n, p) ∧ leaf' l.1 l.2 = .ok (n, p')
        ∧ ∀ record ∈ records, p record = p' record)
      ∨ ∃ e e', leaf l.1 l.2 = .error e ∧ leaf' l.1 l.2 = .error e') :
    LeafAlike leaf leaf' records l := by
  rcases h with ⟨n, p, p', hp, hp', h⟩ | ⟨e, e', he, he'⟩
  · refine ⟨⟨fun _ => ⟨_, hp'⟩, fun _ => ⟨_, hp⟩⟩, ?_, ?_⟩
    · rw [leafExtra, leafExtra, hp, hp']
    · intro record hr
      rw [leafHolds, leafHolds, hp, hp']
      exact h record hr
  · refine ⟨⟨?_, ?_⟩, ?_, ?_⟩
    · rintro ⟨r, hr⟩
      rw [he] at hr
      cases hr
    · rintro ⟨r, hr⟩
      rw [he'] at hr
      cases hr
    · rw [leafExtra, leafExtra, he, he']
    · intro record _
      rw [leafHolds, leafHolds, he, he']

lemma leafAlike_of_eq {leaf leaf' : Leaf} {records : List Rec} {l : String × Object}
    (h : leaf l.1 l.2 = leaf' l.1 l.2) : LeafAlike leaf leaf' records l := by
  apply leafAlike_of
  cases hl : leaf' l.1 l.2 with
  | error e => exact .inr ⟨e, e, h.trans hl, rfl⟩
  | ok r => exact .inl ⟨r.1, r.2, r.2, h.trans hl, rfl, fun _ _ => rfl⟩

/-- A search and an aggregation read a settled leaf clause alike. -/
lemma Settled.alike {others : Leaf} {lookup : Lookup} {records : List Rec} {l : String × Object}
    (h : Settled py lookup records l) :
    LeafAlike (searchLeaf py others lookup) (aggLeaf py others) records l := by
  obtain ⟨kind, body⟩ := l
  by_cases hall : kind = "match_all"
  · subst hall
    exact leafAlike_of_eq rfl
  by_cases hids : kind = "ids"
  · subst hids
    apply leafAlike_of
    cases hv : ((Assoc.get "values" body).getD (.list [])).iterate with
    | none =>
      refine .inr ⟨.crash, .crash, ?_, ?_⟩ <;>
        simp only [searchLeaf, aggLeaf, leafOf, if_neg hall, if_true, buildIds, hv]
    | some values =>
      refine .inl ⟨0, fun record => (values.map py.toStr).contains (givenId py record),
        fun record => (values.map py.toStr).contains (ownId py record), ?_, ?_,
        h.ids rfl values hv⟩ <;>
        simp only [searchLeaf, aggLeaf, leafOf, if_neg hall, if_true, buildIds, hv]
  by_cases hterms : kind = "terms"
  · subst hterms
    match body with
    | [] => exact leafAlike_of_eq rfl
    | (field, .dict spec) :: rest =>
      obtain ⟨values, hvalues, hnone⟩ := h.terms rfl field spec rest rfl
      apply leafAlike_of
      refine .inl ⟨0, fun record => (fieldValues py record field).any fun v =>
          (values.map py.toStr).contains (py.toStr v), fun record =>
          (fieldValues py record field).any fun v => (List.map py.toStr []).contains (py.toStr v),
        ?_, rfl, ?_⟩
      · change buildTerms py (some lookup) ((field, .dict spec) :: rest) = _
        rw [buildTerms, hvalues]
        rfl
      · intro record hr
        have hfalse : ((fieldValues py record field).any fun v =>
            (values.map py.toStr).contains (py.toStr v)) = false := by
          rw [List.any_eq_false]
          intro v hv
          simpa using hnone record hr v hv
        exact hfalse.trans (by simp)
    | (field, .null) :: rest => exact leafAlike_of_eq rfl
    | (field, .bool b) :: rest => exact leafAlike_of_eq rfl
    | (field, .int n) :: rest => exact leafAlike_of_eq rfl
    | (field, .float q) :: rest => exact leafAlike_of_eq rfl
    | (field, .str t) :: rest => exact leafAlike_of_eq rfl
    | (field, .list xs) :: rest => exact leafAlike_of_eq rfl
  · apply leafAlike_of_eq
    simp only [searchLeaf, aggLeaf, leafOf, if_neg hall, if_neg hids, if_neg hterms]

/-! ## What an aggregation counts -/

variable {others : Leaf} {otherAggs : OtherAggs} {apply : ApplyAggs} {name : String}

lemma filterBucket_eq_ok_iff {clause bucket : Json} {records : List Rec} :
    filterBucket py others apply clause (.dict []) records = .ok bucket
      ↔ ∃ n, (∃ p, buildPredicate py (aggLeaf py others) clause = .ok p ∧ records.countP p = n)
        ∧ bucket = .dict (docCount n) := by
  rw [filterBucket, bind_eq_ok_iff]
  constructor
  · rintro ⟨p, hp, h⟩
    refine ⟨_, ⟨p, mapError_eq_ok_iff.1 hp, List.countP_eq_length_filter⟩, ?_⟩
    exact (Except.ok.inj h).symm
  · rintro ⟨n, ⟨p, hp, rfl⟩, rfl⟩
    refine ⟨p, mapError_eq_ok_iff.2 hp, ?_⟩
    rw [List.countP_eq_length_filter]
    rfl

lemma buildPredicate_settled_iff {clause : Json} {records : List Rec} {lookup : Lookup} {n : Nat}
    (h : ∀ q, Reads py clause q → ∀ l ∈ q.leaves, Settled py lookup records l) :
    (∃ p, buildPredicate py (aggLeaf py others) clause = .ok p ∧ records.countP p = n)
      ↔ ∃ p, buildPredicate py (searchLeaf py others lookup) clause = .ok p
          ∧ records.countP p = n := by
  have halike : ∀ q, Reads py clause q → ∀ l ∈ q.leaves,
      LeafAlike (searchLeaf py others lookup) (aggLeaf py others) records l :=
    fun q hq l hl => (h q hq l hl).alike
  constructor
  · rintro ⟨p, hp, rfl⟩
    obtain ⟨p', hp', heq⟩ := buildPredicate_congr (fun q hq l hl => (halike q hq l hl).symm) hp
    refine ⟨p', hp', List.countP_congr fun record hr => ?_⟩
    rw [heq record hr]
  · rintro ⟨p, hp, rfl⟩
    obtain ⟨p', hp', heq⟩ := buildPredicate_congr halike hp
    refine ⟨p', hp', List.countP_congr fun record hr => ?_⟩
    rw [heq record hr]

/-- Every leaf clause of a clause is settled on some records. -/
def SettledClause (py : Python) (s : EsStore) (records : List Doc) (clause : Object) : Prop :=
  ∀ q, Reads py (.dict clause) q →
    ∀ l ∈ q.leaves, Settled py (termsLookup py s) (records.map Doc.toRec) l

lemma filterBucket_iff_searchFinds {records : List Doc} {clause : Object} {bucket : Json}
    (hne : clause ≠ []) (h : SettledClause py s records clause) :
    filterBucket py engine.others apply (.dict clause) (.dict []) (records.map Doc.toRec)
        = .ok bucket
      ↔ ∃ n, SearchFinds py engine s index records clause n
        ∧ bucket = .dict (docCount n) := by
  rw [filterBucket_eq_ok_iff]
  apply exists_congr
  intro n
  rw [buildPredicate_settled_iff h, searchFinds_iff]
  simp only [hne, ne_eq, not_false_eq_true, true_and]

lemma evaluateAgg_filter {records : List Doc} {clause : Object} {bucket : Json}
    (h : SettledClause py s records clause) :
    evaluateAgg py engine.others otherAggs apply name [("filter", .dict clause)]
        (records.map Doc.toRec) = .ok bucket
      ↔ ∃ n, SearchFinds py engine s index records clause n
        ∧ bucket = .dict (docCount n) := by
  cases clause with
  | nil =>
    constructor
    · rintro ⟨⟩
    · rintro ⟨n, hn, -⟩
      exact absurd rfl (searchFinds_iff.1 hn).1
  | cons f fs => exact filterBucket_iff_searchFinds (List.cons_ne_nil f fs) h

lemma evaluateAgg_filters {records : List Doc} {named : List (String × Object)} {result : Json}
    (h : ∀ p ∈ named, p.2 ≠ [] ∧ SettledClause py s records p.2) :
    evaluateAgg py engine.others otherAggs apply name
        [("filters", .dict [("filters", .dict (named.map fun p => (p.1, .dict p.2)))])]
        (records.map Doc.toRec) = .ok result
      ↔ ∃ counts, List.Forall₂ (fun p n => SearchFinds py engine s index records p.2 n) named counts
        ∧ result = .dict [("buckets", .dict
            (List.zipWith (fun p n => (p.1, .dict (docCount n))) named counts))] := by
  have hbuckets : ∀ buckets, named.mapM (fun p => namedBucket py engine.others apply (.dict [])
        (records.map Doc.toRec) (p.1, .dict p.2)) = .ok buckets
      ↔ ∃ counts, List.Forall₂ (fun p n => SearchFinds py engine s index records p.2 n) named counts
        ∧ buckets = List.zipWith (fun p n => (p.1, .dict (docCount n))) named counts := by
    intro buckets
    apply mapM_eq_ok_zipWith_iff
    intro p hp b
    obtain ⟨hne, hs⟩ := h p hp
    rw [namedBucket, map_eq_ok_iff]
    constructor
    · rintro ⟨bucket, hb, rfl⟩
      obtain ⟨n, hn, rfl⟩ := (filterBucket_iff_searchFinds hne hs).1 hb
      exact ⟨n, hn, rfl⟩
    · rintro ⟨n, hn, rfl⟩
      exact ⟨_, (filterBucket_iff_searchFinds hne hs).2 ⟨n, hn, rfl⟩, rfl⟩
  change ((named.map fun p => (p.1, Json.dict p.2)).mapM
    (namedBucket py engine.others apply (.dict []) (records.map Doc.toRec))).map _ = _ ↔ _
  rw [map_eq_ok_iff, List.mapM_map]
  constructor
  · rintro ⟨bs, hbs, rfl⟩
    obtain ⟨counts, hcounts, rfl⟩ := (hbuckets bs).1 hbs
    exact ⟨counts, hcounts, rfl⟩
  · rintro ⟨counts, hcounts, rfl⟩
    exact ⟨_, (hbuckets _).2 ⟨counts, hcounts, rfl⟩, rfl⟩

lemma evaluateAgg_filters_list {records : List Doc} {clauses : List Object} {result : Json}
    (h : ∀ clause ∈ clauses, clause ≠ [] ∧ SettledClause py s records clause) :
    evaluateAgg py engine.others otherAggs apply name
        [("filters", .dict [("filters", .list (clauses.map .dict))])]
        (records.map Doc.toRec) = .ok result
      ↔ ∃ counts, List.Forall₂ (SearchFinds py engine s index records) clauses counts
        ∧ result = .dict [("buckets", .list
            (List.zipWith (fun _ n => .dict (docCount n)) clauses counts))] := by
  have hbuckets : ∀ buckets, clauses.mapM (fun clause => filterBucket py engine.others apply
        (.dict clause) (.dict []) (records.map Doc.toRec)) = .ok buckets
      ↔ ∃ counts, List.Forall₂ (SearchFinds py engine s index records) clauses counts
        ∧ buckets = List.zipWith (fun _ n => .dict (docCount n)) clauses counts := by
    intro buckets
    apply mapM_eq_ok_zipWith_iff
    intro clause hc b
    obtain ⟨hne, hs⟩ := h clause hc
    exact filterBucket_iff_searchFinds hne hs
  change ((clauses.map Json.dict).mapM (fun clause => filterBucket py engine.others apply clause
    (.dict []) (records.map Doc.toRec))).map _ = _ ↔ _
  rw [map_eq_ok_iff, List.mapM_map]
  constructor
  · rintro ⟨bs, hbs, rfl⟩
    obtain ⟨counts, hcounts, rfl⟩ := (hbuckets bs).1 hbs
    exact ⟨counts, hcounts, rfl⟩
  · rintro ⟨counts, hcounts, rfl⟩
    exact ⟨_, (hbuckets _).2 ⟨counts, hcounts, rfl⟩, rfl⟩

/-! ## Missing and existing values -/

/-- Whether a value is `None`. -/
def isNull : Json → Bool
  | .null => true
  | _ => false

lemma evaluateAgg_missing {records : List Rec} {field : String} :
    evaluateAgg py others otherAggs apply name [("missing", .dict [("field", .str field)])] records
      = .ok (.dict (docCount
          (records.countP fun record => isNull (getNested py (.dict record.source) field)))) := by
  rw [List.countP_eq_length_filter]
  rfl

lemma searchFinds_exists {records : List Doc} {field : String} :
    SearchFinds py engine s index records [("exists", .dict [("field", .str field)])]
      ((records.map Doc.toRec).countP fun record =>
        existsValue (getNested py (.dict record.source) field)) := by
  rw [searchFinds_iff]
  exact ⟨List.cons_ne_nil _ _, _, rfl, rfl⟩

lemma isNull_or_existsValue_iff {v : Json} :
    (isNull v || existsValue v) = true ↔ ∀ xs, v = .list xs → ∃ x ∈ xs, x ≠ .null := by
  cases v with
  | list xs =>
    simp only [isNull, existsValue, Bool.false_or, List.any_eq_true, Json.list.injEq, forall_eq']
    apply exists_congr
    intro x
    cases x <;> simp
  | _ => simp [isNull, existsValue]

lemma countP_missing_add {α : Type} (v : α → Json) (l : List α) :
    l.countP (fun a => isNull (v a)) + l.countP (fun a => existsValue (v a))
      = l.countP fun a => isNull (v a) || existsValue (v a) := by
  induction l with
  | nil => rfl
  | cons a l ih =>
    have hv : ¬(isNull (v a) = true ∧ existsValue (v a) = true) := by
      cases v a <;> simp [isNull, existsValue]
    rw [List.countP_cons, List.countP_cons, List.countP_cons, ← ih]
    cases hn : isNull (v a) <;> cases he : existsValue (v a) <;> simp [hn, he] at hv ⊢ <;> omega

/-- The missing and the existing values of a field are all of them exactly when none is an array
    without a value. -/
lemma countP_missing_add_iff {records : List Doc} {field : String} :
    (records.map Doc.toRec).countP (fun r => isNull (getNested py (.dict r.source) field))
        + (records.map Doc.toRec).countP
          (fun r => existsValue (getNested py (.dict r.source) field))
        = records.length
      ↔ ∀ d ∈ records, ∀ xs,
          getNested py (.dict d.source) field = .list xs → ∃ x ∈ xs, x ≠ .null := by
  rw [countP_missing_add, ← List.length_map Doc.toRec, List.countP_eq_length,
    List.forall_mem_map]
  apply forall₂_congr
  intro d _
  exact isNull_or_existsValue_iff

end

/-- Aggregations agree with queries. The `doc_count` of a `filter` aggregation built from a clause,
    and of each bucket of a `filters` aggregation, is the number of hits of a search with that
    clause over the same records, for clauses that an aggregation reads as a search does. And the
    `doc_count` of a `missing` aggregation plus the number of hits of an `exists` query is the
    number of records exactly when no record holds an array of nulls, or an empty one, for the
    field. -/
theorem aggregations_agree (py : Python) (engine : Engine) (s : EsStore) (index : String)
    (records : List Doc) (otherAggs : OtherAggs) (apply : ApplyAggs) (name : String) :
    let evaluate := fun definition =>
      evaluateAgg py engine.others otherAggs apply name definition (records.map Doc.toRec)
    let finds := SearchFinds py engine s index records
    (∀ clause, SettledClause py s records clause → ∀ bucket,
        evaluate [("filter", .dict clause)] = .ok bucket
          ↔ ∃ n, finds clause n ∧ bucket = .dict (docCount n))
      ∧ (∀ named : List (String × Object),
          (∀ p ∈ named, p.2 ≠ [] ∧ SettledClause py s records p.2) → ∀ result,
            evaluate [("filters", .dict [("filters", .dict (named.map fun p => (p.1, .dict p.2)))])]
                = .ok result
              ↔ ∃ counts, List.Forall₂ (fun p n => finds p.2 n) named counts
                ∧ result = .dict [("buckets", .dict
                    (List.zipWith (fun p n => (p.1, .dict (docCount n))) named counts))])
      ∧ (∀ clauses : List Object,
          (∀ clause ∈ clauses, clause ≠ [] ∧ SettledClause py s records clause) → ∀ result,
            evaluate [("filters", .dict [("filters", .list (clauses.map .dict))])] = .ok result
              ↔ ∃ counts, List.Forall₂ finds clauses counts
                ∧ result = .dict [("buckets", .list
                    (List.zipWith (fun _ n => .dict (docCount n)) clauses counts))])
      ∧ ∀ field, ∃ m e : Nat,
          evaluate [("missing", .dict [("field", .str field)])] = .ok (.dict (docCount m))
            ∧ finds [("exists", .dict [("field", .str field)])] e
            ∧ (m + e = records.length ↔ ∀ d ∈ records, ∀ xs,
                getNested py (.dict d.source) field = .list xs → ∃ x ∈ xs, x ≠ .null) := by
  intro evaluate finds
  refine ⟨fun _ h _ => evaluateAgg_filter h, fun _ h _ => evaluateAgg_filters h,
    fun _ h _ => evaluateAgg_filters_list h, ?_⟩
  intro field
  exact ⟨_, _, evaluateAgg_missing, searchFinds_exists, countP_missing_add_iff⟩

/-- No other type of aggregation. -/
def noOtherAggs : OtherAggs := fun _ _ _ _ _ => .error (.search .crash)

/-- A `filter` aggregation on a field that one of two records has. -/
theorem filter_exists_counts :
    let records : List Doc := [⟨⟨none, [("a", .int 1)]⟩, none⟩, ⟨⟨some "1", []⟩, some "i"⟩]
    let clause : Object := [("exists", .dict [("field", .str "a")])]
    evaluateAgg asciiPython plainEngine.others noOtherAggs
        (applyAggregations asciiPython plainEngine.others noOtherAggs 10) "n"
        [("filter", .dict clause)] (records.map Doc.toRec) = .ok (.dict (docCount 1)) := by
  intro records clause
  have hagree := aggregations_agree asciiPython plainEngine (.seeded .empty .empty) "i" records
    noOtherAggs (applyAggregations asciiPython plainEngine.others noOtherAggs 10) "n"
  refine (hagree.1 clause ?_ _).2 ⟨1, ?_, rfl⟩
  · intro q hq l hl
    have hleaf : q = .leaf ("exists", [("field", .str "a")]) :=
      hq.unique (.leaf (by decide) fun h => by cases h.1)
    subst hleaf
    rw [BoolQuery.leaves, List.mem_singleton] at hl
    subst hl
    exact ⟨fun h => absurd h (by decide), fun h => absurd h (by decide)⟩
  · rfl

/-- The record a client gave the id that an `ids` clause names is found by a search, and not counted
    by a `filter` aggregation; and a record whose field is an empty array neither misses nor has it.
    -/
theorem filter_misses_given_id :
    let finds := SearchFinds asciiPython plainEngine (.seeded .empty .empty) "i"
    let evaluate := evaluateAgg asciiPython plainEngine.others noOtherAggs
      (applyAggregations asciiPython plainEngine.others noOtherAggs 10) "n"
    (let records : List Doc := [⟨⟨some "1", []⟩, some "i"⟩]
      let clause : Object := [("ids", .dict [("values", .list [.str "1"])])]
      evaluate [("filter", .dict clause)] (records.map Doc.toRec) = .ok (.dict (docCount 0))
        ∧ finds records clause 1)
      ∧ (let records : List Doc := [⟨⟨none, [("a", .list [])]⟩, none⟩]
        evaluate [("missing", .dict [("field", .str "a")])] (records.map Doc.toRec)
            = .ok (.dict (docCount 0))
          ∧ finds records [("exists", .dict [("field", .str "a")])] 0 ∧ 0 + 0 ≠ records.length) :=
  ⟨⟨rfl, rfl⟩, rfl, rfl, by decide⟩

end Mockdr.Elastic
