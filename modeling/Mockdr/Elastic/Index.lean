import Mathlib.Data.List.Sort
import Mathlib.Data.String.Basic
import Mockdr.Python
import Mockdr.Store
import Mockdr.Elastic.Fnmatch

/-!
# Indices, aliases and index expressions

The part of `application/es_search/queries.py` that says what an index name stands for: the registry
of the indices a client created or wrote to (`es_indices`), the aliases they carry, the index-name
prefixes the mock backs with its own collections, and the resolution of a comma-separated expression
of targets.
-/

namespace Mockdr.Elastic

/-- An entry of the `es_indices` collection. The uuid, which is a digest of the name, is left out.
    -/
structure IndexEntry where
  /-- `settings` -/
  settings : Object := []
  /-- `docs`: how many documents are filed under the index -/
  docs : Int := 0
  /-- `created` -/
  created : Int := 0
  /-- `properties`: the fields a client declared -/
  properties : Object := []
  /-- `aliases`, in the order they were added -/
  aliases : List String := []
  /-- `seq_no`: the sequence number the next write takes -/
  seqNo : Int := 0

/-- A record of the `es_documents` collection. -/
structure DocRecord where
  /-- `_version` -/
  version : Int
  /-- `_seq_no` -/
  seqNo : Int
  /-- `_source` -/
  source : Object
  /-- `_pending`: written without a refresh, and not searchable yet -/
  pending : Bool := false
  /-- `_deleted`: deleted without a refresh, and searchable still -/
  deleted : Bool := false

/-- A record of the `es_search_contexts` collection. Times are seconds. -/
structure SearchContext where
  index : String
  body : Object
  offset : Int
  kind : String
  keepAlive : Option ℚ
  accessedAt : ℚ

/-- The collections of the store that the Elasticsearch handlers read and write. -/
structure EsStore where
  /-- `es_documents`, keyed `{index}:{id}` -/
  documents : Dict String DocRecord
  /-- `es_indices`, keyed by name -/
  indices : Dict String IndexEntry
  /-- `es_search_contexts`, keyed by scroll or point-in-time id -/
  contexts : Dict String SearchContext
  /-- `es_alerts`: the mock's own alerts, keyed by id -/
  alerts : Dict String Object
  /-- `es_endpoints`: the mock's own endpoints, keyed by id -/
  endpoints : Dict String Object

/-- The store before any client wrote to it, over given seeded collections. -/
def EsStore.seeded (alerts endpoints : Dict String Object) : EsStore :=
  ⟨.empty, .empty, .empty, alerts, endpoints⟩

/-- Every collection a document write touches is below its cap. -/
def BelowCaps (s : EsStore) : Prop := s.documents.size < 100000 ∧ s.indices.size < 1000

instance (s : EsStore) : Decidable (BelowCaps s) :=
  inferInstanceAs (Decidable (s.documents.size < 100000 ∧ s.indices.size < 1000))

/-- `_ALERT_PREFIXES` -/
def alertPrefixes : List String := [".siem-signals", ".alerts-security"]

/-- `_ENDPOINT_PREFIXES` -/
def endpointPrefixes : List String := ["metrics-endpoint", "logs-endpoint"]

/-- `_KNOWN_PREFIXES` -/
def knownPrefixes : List String := alertPrefixes ++ endpointPrefixes

/-- `_pattern_hits`: whether an index expression selects any of the prefixes. -/
def patternHits (name : String) (prefixes : List String) : Bool :=
  if name = "_all" ∨ name = "*" then true
  else if hasChar '*' name then
    prefixes.any fun p => fnmatch p name || fnmatch (p ++ "-suffix") name
  else prefixes.any (startsWith name)

/-- `index_exists`: created by a client, or backed by the mock. -/
def indexExists (s : EsStore) (index : String) : Bool :=
  s.indices.contains index || knownPrefixes.any (startsWith index)

/-- `created_indices`: every index a client created, sorted. -/
def createdIndices (s : EsStore) : List String := s.indices.keys.insertionSort (· ≤ ·)

/-- The aliases an index carries. -/
def aliasesOf (s : EsStore) (index : String) : List String :=
  match s.indices.get index with
  | some entry => entry.aliases
  | none => []

/-- `indices_for_alias`: the indices an alias stands for. -/
def indicesForAlias (s : EsStore) (name : String) : List String :=
  (createdIndices s).filter fun index => (aliasesOf s index).contains name

/-- `indices_for_alias(name) or [name]`: what one name of an expression is read as. -/
def behind (s : EsStore) (name : String) : List String :=
  match indicesForAlias s name with
  | [] => [name]
  | names => names

/-- The targets of an index expression: its parts, stripped and lower-cased, empty ones left out. -/
def targets (py : Python) (pattern : String) : List String :=
  ((split ',' pattern).filter fun t => strip t ≠ "").map fun t => py.lower (strip t)

/-- `_concrete_indices`: the concrete names an expression is read as, aliases expanded. -/
def concreteIndices (py : Python) (s : EsStore) (pattern : String) : List String :=
  (targets py pattern).flatMap (behind s)

/-- `_missing_target`: the first target that cannot be resolved. -/
def missingTarget (py : Python) (s : EsStore) (index : String) : Option String :=
  (split ',' index).findSome? fun target =>
    let raw := strip target
    let name := py.lower raw
    if name = "" ∨ name = "_all" ∨ hasChar '*' name then none
    else if raw ≠ name ∨ ¬(indexExists s name ∨ indicesForAlias s name ≠ []) then some raw
    else none

/-- The key a document is filed under: `f"{index}:{doc_id}"`. -/
def docKey (index docId : String) : String := index ++ ":" ++ docId

/-- The rest of a key that starts with `f"{index}:"`. -/
def idUnder (index key : String) : Option String := cutPrefix (index ++ ":") key

lemma idUnder_eq_some_iff {index key docId : String} :
    idUnder index key = some docId ↔ key = docKey index docId :=
  cutPrefix_eq_some_iff

@[simp] lemma idUnder_docKey (index docId : String) :
    idUnder index (docKey index docId) = some docId :=
  idUnder_eq_some_iff.2 rfl

lemma docKey_inj {index docId docId' : String} :
    docKey index docId = docKey index docId' ↔ docId = docId' :=
  append_left_inj

/-- The documents filed under an index, whatever their marks. -/
def filed (s : EsStore) (index : String) : List (String × DocRecord) :=
  s.documents.entries.filterMap fun p => (idUnder index p.1).map fun docId => (docId, p.2)

lemma mem_filed_iff {s : EsStore} {index docId : String} {record : DocRecord} :
    (docId, record) ∈ filed s index ↔ s.documents.get (docKey index docId) = some record := by
  rw [filed, List.mem_filterMap]
  constructor
  · rintro ⟨⟨k, r⟩, hp, h⟩
    obtain ⟨d, hd, e⟩ := Option.map_eq_some_iff.1 h
    cases e
    rw [← idUnder_eq_some_iff.1 hd]
    exact Dict.mem_entries_iff.1 hp
  · intro h
    exact ⟨_, Dict.mem_entries_iff.2 h, by rw [idUnder_docKey]; rfl⟩

/-- `_written_documents`: the documents of an index that a search reads, with their ids. -/
def writtenDocuments (s : EsStore) (index : String) : List (String × Object) :=
  match s.indices.get index with
  | none => []
  | some entry =>
    if entry.docs = 0 then []
    else (filed s index).filterMap fun p => if p.2.pending then none else some (p.1, p.2.source)

end Mockdr.Elastic
