import Mockdr.Elastic.Query

/-!
# The leaf clauses that depend on the search

The builders of the `ids`, `terms` and `exists` clauses, beside `match_all` (`utils/es_query.py`),
and the lookup a `terms` clause reads another document with (`application/es_search/queries.py`).
`ids` and `terms` depend on what `build_predicate` is given beside the clause, the ids of the
written documents and the lookup, which a search gives and an aggregation does not; `exists` is what
a `missing` aggregation is the other half of.

The builders of the other leaves are a parameter.
-/

namespace Mockdr.Elastic

/-- The values a `terms` lookup names: of an index, a document and a path. -/
abbrev Lookup := String → String → String → Except SearchError (List Json)

/-- The id a record answers to, as a search reads it: the one it was given, if any. -/
def givenId (py : Python) (record : Rec) : String :=
  match record.given with
  | some docId => if docId = "" then hitId py record.source else docId
  | none => hitId py record.source

/-- The id a record answers to by its own contents. -/
def ownId (py : Python) (record : Rec) : String := hitId py record.source

/-- `_field_values` -/
def fieldValues (py : Python) (record : Rec) (field : String) : List Json :=
  match getNested py (.dict record.source) field with
  | .null => []
  | .list xs => xs
  | v => [v]

/-- `_build_ids` -/
def buildIds (py : Python) (idOf : Rec → String) (body : Object) :
    Except SearchError (Nat × Pred) :=
  match ((Assoc.get "values" body).getD (.list [])).iterate with
  | none => .error .crash
  | some values => .ok (0, fun record => (values.map py.toStr).contains (idOf record))

/-- What a `terms` clause lists, or looks up. -/
def termsValues (py : Python) (lookup : Option Lookup) (values : Json) :
    Except SearchError (List Json) :=
  match values with
  | .dict spec =>
    match lookup with
    | none => .ok []
    | some lookup =>
      lookup (py.toStr ((Assoc.get "index" spec).getD (.str "")))
        (py.toStr ((Assoc.get "id" spec).getD (.str "")))
        (py.toStr ((Assoc.get "path" spec).getD (.str "")))
  | values =>
    match values.iterate with
    | none => .error .crash
    | some values => .ok values

/-- `_build_terms`: the first member of the body names the field. -/
def buildTerms (py : Python) (lookup : Option Lookup) :
    Object → Except SearchError (Nat × Pred)
  | [] => .error .crash
  | (field, values) :: _ => do
    let values ← termsValues py lookup values
    return (0, fun record => (fieldValues py record field).any fun v =>
      (values.map py.toStr).contains (py.toStr v))

/-- Whether a value is one at all: an array is if it holds one. -/
def existsValue : Json → Bool
  | .null => false
  | .list xs => xs.any fun
    | .null => false
    | _ => true
  | _ => true

/-- `_build_exists`. A field that is not a string, which raises on the first record, is refused
    here. -/
def buildExists (py : Python) (body : Object) : Except SearchError (Nat × Pred) :=
  match Assoc.get "field" body with
  | some (.str field) =>
    .ok (0, fun record => existsValue (getNested py (.dict record.source) field))
  | _ => .error .crash

/-- The builders of the leaf clauses. `_build_match_all` matches every record. -/
def leafOf (py : Python) (others : Leaf) (idOf : Rec → String) (lookup : Option Lookup) : Leaf :=
  fun kind body =>
    if kind = "match_all" then .ok (0, fun _ => true)
    else if kind = "ids" then buildIds py idOf body
    else if kind = "terms" then buildTerms py lookup body
    else if kind = "exists" then buildExists py body
    else others kind body

/-- The leaf clauses of a search, which knows the ids of the written documents and has a lookup. -/
def searchLeaf (py : Python) (others : Leaf) (lookup : Lookup) : Leaf :=
  leafOf py others (givenId py) (some lookup)

/-- `_terms_lookup` of `application/es_search/queries.py`: the values of a path of another document,
    none where there is no such document or path. -/
def termsLookup (py : Python) (s : EsStore) : Lookup := fun index docId path =>
  match missingTarget py s index with
  | some missing => .error (.es (.indexNotFound missing))
  | none => do
    let document ← (esGetDoc py s index docId).mapError .es
    return match document with
    | none => []
    | some found =>
      match getNested py (.dict found.source) path with
      | .null => []
      | .list xs => xs
      | v => [v]

end Mockdr.Elastic
