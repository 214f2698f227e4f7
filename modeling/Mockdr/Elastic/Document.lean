import Mockdr.Elastic.Ecs
import Mockdr.Elastic.Index

/-!
# Documents: reads and writes of one document

The single-document part of `application/es_search/queries.py`: reading a document by id, indexing,
updating and deleting one, refreshing an index and deleting one, and the check of the
`if_seq_no`/`if_primary_term` pair a conditional write carries.

A script is run by an engine the model leaves open (`Painless`). The engine works on a shallow copy
of the stored source, so that what it writes inside a nested object it writes into the stored record
too; `ScriptRun.shared` is the stored source as the script leaves it.
-/

namespace Mockdr.Elastic

/-- What the document handlers raise. -/
inductive EsError where
  /-- `IndexNotFoundError`: `no such index [index]` -/
  | indexNotFound (index : String)
  /-- `MultipleIndicesError`: `multiple indices are not allowed for this operation` -/
  | multipleIndices
  /-- `DocumentMissingError`: `[doc_id]: document missing` -/
  | documentMissing (index docId : String)
  /-- `VersionConflictError`: what was required, and what the document holds -/
  | versionConflict (docId : String) (wanted wantedTerm seqNo primaryTerm : Int)
  /-- `SeqNoWithoutTermError` -/
  | seqNoWithoutTerm
  /-- a create over a document that is there, at its current version -/
  | documentExists (docId : String) (version : Int)
  /-- `PainlessError`, with its message -/
  | painless (message : String)
  /-- an exception no handler names -/
  | crash

/-! ## Resolving an expression -/

/-- A record a search reads: its contents, and the id it was given when a client wrote it. -/
structure Rec where
  given : Option String
  source : Object

/-- The mock's own records an expression selects. -/
def seededRecords (py : Python) (s : EsStore) (idx : String) (names : List String) : List Rec :=
  let alerts :=
    if names.any (patternHits · alertPrefixes) then
      s.alerts.entries.map fun p => ⟨none, toEcsDocument py p.2 idx⟩
    else []
  let endpoints :=
    if names.any (patternHits · endpointPrefixes) then
      s.endpoints.entries.map fun p => ⟨none, p.2⟩
    else []
  alerts ++ endpoints

/-- The client-written records of a list of names, in the order of the names. -/
def writtenRecords (s : EsStore) (names : List String) : List Rec :=
  names.flatMap fun name => (writtenDocuments s name).map fun p => ⟨some p.1, p.2⟩

/-- The records an expression that is not refused stands for. -/
def collection (py : Python) (s : EsStore) (index : String) : List Rec :=
  let idx := py.lower index
  let names := concreteIndices py s idx
  seededRecords py s idx names ++ writtenRecords s names

/-- `_resolve_collection`: the records an expression stands for, and its canonical name. -/
def resolveCollection (py : Python) (s : EsStore) (index : String) (ignoreUnavailable : Bool) :
    Except EsError (List Rec × String) :=
  match if ignoreUnavailable then none else missingTarget py s index with
  | some missing => .error (.indexNotFound missing)
  | none => .ok (collection py s index, py.lower index)

/-! ## Reading -/

/-- The answer of a get that found its document. -/
structure GetResult where
  index : String
  docId : String
  version : Int
  seqNo : Int
  primaryTerm : Int
  source : Object

/-- Whether an index expression names more than one target. -/
def namesSeveral (py : Python) (index : String) : Bool :=
  hasChar ',' index || hasChar '*' index || py.lower index = "_all"

/-- `es_get_doc` -/
def esGetDoc (py : Python) (s : EsStore) (index docId : String) :
    Except EsError (Option GetResult) :=
  if namesSeveral py index then .error .multipleIndices
  else
    match s.documents.get (docKey index docId) with
    | some ⟨version, _, source, _, false⟩ => .ok (some ⟨index, docId, version, 0, 1, source⟩)
    -- Not there, or deleted and not refreshed: looked for among what a search reads.
    | _ => do
      let (records, canonical) ← resolveCollection py s index false
      return (records.find? fun rec => hitId py rec.source = docId).map
        fun rec => ⟨canonical, docId, 1, 0, 1, rec.source⟩

/-- `document_exists` -/
def documentExists (s : EsStore) (index docId : String) : Bool :=
  (s.documents.get (docKey index docId)).isSome

/-- `document_version` -/
def documentVersion (s : EsStore) (index docId : String) : Int :=
  match s.documents.get (docKey index docId) with
  | some existing => existing.version
  | none => 0

/-- `_seq_no_of` -/
def seqNoOf (s : EsStore) (index docId : String) : Int :=
  match s.documents.get (docKey index docId) with
  | some existing => existing.seqNo
  | none => -1

/-- `check_precondition` -/
def checkPrecondition (s : EsStore) (index docId : String) (ifSeqNo ifPrimaryTerm : Option Int) :
    Except EsError Unit :=
  match ifSeqNo, ifPrimaryTerm with
  | none, none => .ok ()
  | some wanted, some wantedTerm =>
    let seqNo := seqNoOf s index docId
    let primaryTerm := if documentExists s index docId then 1 else 0
    if seqNo ≠ wanted ∨ primaryTerm ≠ wantedTerm then
      .error (.versionConflict docId wanted wantedTerm seqNo primaryTerm)
    else .ok ()
  | _, _ => .error .seqNoWithoutTerm

/-! ## Writing -/

/-- The `result` a write reports. -/
inductive WriteOutcome where
  | created
  | updated
  | deleted
  | noop
  deriving DecidableEq

/-- The envelope a single-document write answers with (`_write_result`). -/
structure WriteResult where
  index : String
  docId : String
  version : Int
  result : WriteOutcome
  /-- `_shards`: total, successful, failed -/
  shards : Nat × Nat × Nat
  seqNo : Int
  primaryTerm : Int

/-- The registry entry of an index, or the one an index new to the registry starts with. -/
def entryOf (s : EsStore) (index : String) : IndexEntry := (s.indices.get index).getD {}

/-- Save the registry entry of an index. -/
def saveEntry (s : EsStore) (index : String) (entry : IndexEntry) : EsStore :=
  { s with indices := save "es_indices" index entry s.indices }

/-- Save a document record. -/
def saveDocument (s : EsStore) (key : String) (record : DocRecord) : EsStore :=
  { s with documents := save "es_documents" key record s.documents }

/-- Drop a document record. -/
def dropDocument (s : EsStore) (key : String) : EsStore :=
  { s with documents := s.documents.erase key }

/-- `_next_seq_no` -/
def nextSeqNo (s : EsStore) (index : String) : Int × EsStore :=
  let entry := entryOf s index
  (entry.seqNo, saveEntry s index { entry with seqNo := entry.seqNo + 1 })

/-- `_count_document` -/
def countDocument (s : EsStore) (index : String) (delta : Int) : EsStore :=
  let entry := entryOf s index
  saveEntry s index { entry with docs := max 0 (entry.docs + delta) }

/-- `es_index_doc` -/
def esIndexDoc (s : EsStore) (index docId : String) (body : Object) (refresh : Bool) :
    EsStore × WriteResult :=
  let key := docKey index docId
  let existing := s.documents.get key
  let version := match existing with
    | some record => record.version + 1
    | none => 1
  let (seqNo, s) := nextSeqNo s index
  let s := saveDocument s key { version, seqNo, source := body, pending := !refresh }
  let s := if existing.isNone then countDocument s index 1 else s
  (s, { index, docId, version, result := if existing.isSome then .updated else .created,
        shards := (2, 1, 0), seqNo, primaryTerm := 1 })

/-- What a script makes of a document. -/
structure ScriptRun where
  /-- the operation it asked for, or the message of the `PainlessError` it ended with -/
  outcome : Except String String
  /-- the copy it worked on -/
  document : Object
  /-- the stored source, whose nested objects the copy shares -/
  shared : Object

/-- `run_script`: the script's text, its parameters and the document. -/
abbrev Painless := String → Object → Object → ScriptRun

/-- An engine whose scripts do nothing. -/
def idleScript : Painless := fun _ _ source => ⟨.ok "index", source, source⟩

/-- `_upsert_source`: the document an update should create, if it asked to create one. -/
def upsertSource (body : Object) : Option Object :=
  match body.get "upsert" with
  | .dict upsert => some upsert
  | _ =>
    match (body.get "doc_as_upsert").truthy, body.get "doc" with
    | true, .dict doc => some doc
    | _, _ => if (body.get "scripted_upsert").truthy then some [] else none

/-- The script part of an update: what it makes of the stored source. -/
def runUpdateScript (py : Python) (painless : Painless) (body source : Object) :
    Except EsError ScriptRun :=
  match Assoc.get "script" body with
  | none => .ok ⟨.ok "index", source, source⟩
  | some (.str text) => .ok (painless text [] source)
  | some (.dict script) =>
    match py.toDict (Object.get script "params") with
    | some params =>
      .ok (painless (py.toStr ((Assoc.get "source" script).getD (.str ""))) params source)
    | none => .error .crash
  | some _ => .error .crash

/-- The document part of an update: the partial document merged in. -/
def mergeDoc (body updated : Object) : Object :=
  match body.get "doc" with
  | .dict doc => deepMerge updated doc
  | _ => updated

/-- `es_update_doc` -/
def esUpdateDoc (py : Python) (painless : Painless) (s : EsStore) (index docId : String)
    (body : Object) : EsStore × Except EsError WriteResult :=
  let key := docKey index docId
  match s.documents.get key with
  | none =>
    match upsertSource body with
    | none => (s, .error (.documentMissing index docId))
    | some upsert =>
      let (seqNo, s) := nextSeqNo s index
      let s := saveDocument s key { version := 1, seqNo, source := upsert }
      let s := countDocument s index 1
      (s, .ok ⟨index, docId, 1, .created, (2, 1, 0), seqNo, 1⟩)
  | some existing =>
    match runUpdateScript py painless body existing.source with
    | .error e => (s, .error e)
    | .ok run =>
      -- The script wrote inside the stored record's own nested objects.
      let s := saveDocument s key { existing with source := run.shared }
      match run.outcome with
      | .error message => (s, .error (.painless message))
      | .ok operation =>
        let updated := mergeDoc body run.document
        let version := existing.version
        if operation = "delete" then
          let s := countDocument (dropDocument s key) index (-1)
          let (seqNo, s) := nextSeqNo s index
          (s, .ok ⟨index, docId, version + 1, .deleted, (2, 1, 0), seqNo, 1⟩)
        else if operation = "noop" ∨ Json.eq (.dict updated) (.dict run.shared) then
          (s, .ok ⟨index, docId, version, .noop, (0, 0, 0), seqNoOf s index docId, 1⟩)
        else
          let (seqNo, s) := nextSeqNo s index
          let s := saveDocument s key { version := version + 1, seqNo, source := updated }
          (s, .ok ⟨index, docId, version + 1, .updated, (2, 1, 0), seqNo, 1⟩)

/-- `es_delete_doc`; nothing for a document that is not there. -/
def esDeleteDoc (s : EsStore) (index docId : String) (refresh : Bool) :
    EsStore × Option WriteResult :=
  let key := docKey index docId
  match s.documents.get key with
  | some existing =>
    if existing.deleted then (s, none)
    else
      let s :=
        if refresh then countDocument (dropDocument s key) index (-1)
        else saveDocument s key { existing with deleted := true }
      (s, some ⟨index, docId, existing.version + 1, .deleted, (2, 1, 0), 0, 1⟩)
  | none => (s, none)

/-- One record of `refresh_index`: a pending delete goes, a pending write becomes searchable. -/
def refreshRecord (index : String) (s : EsStore) (p : String × DocRecord) : EsStore :=
  match idUnder index p.1 with
  | none => s
  | some _ =>
    if p.2.deleted then countDocument (dropDocument s p.1) index (-1)
    else if p.2.pending then saveDocument s p.1 { p.2 with pending := false }
    else s

/-- `refresh_index` -/
def refreshIndex (s : EsStore) (index : String) : EsStore :=
  s.documents.entries.foldl (refreshRecord index) s

/-- `delete_index`; nothing for an index that is not there. -/
def deleteIndex (s : EsStore) (index : String) : Option EsStore :=
  if s.indices.contains index then
    some { s with documents := s.documents.filter fun p => (idUnder index p.1).isNone
                  indices := s.indices.erase index }
  else none

end Mockdr.Elastic
