import Mockdr.Elastic.Document
import Mockdr.Lib.Run

/-!
# Requests on one index

The routes of `api/routers/es_search.py` that read or write the documents of one index, and the
`create` action of `_bulk`, as one step function over the store.
-/

namespace Mockdr.Elastic

/-- The `if_seq_no`/`if_primary_term` pair of a conditional write. -/
structure Precondition where
  ifSeqNo : Option Int := none
  ifPrimaryTerm : Option Int := none

/-- A request on the documents of one index. `refresh` says whether the write asks to be searchable
    at once. -/
inductive Request where
  /-- `GET /{index}/_doc/{id}` -/
  | get (docId : String)
  /-- `PUT /{index}/_doc/{id}` -/
  | index (docId : String) (body : Object) (refresh : Bool) (pre : Precondition)
  /-- `PUT /{index}/_create/{id}` -/
  | create (docId : String) (body : Object) (refresh : Bool)
  /-- the `create` action of `POST /_bulk` -/
  | bulkCreate (docId : String) (body : Object) (refresh : Bool)
  /-- `POST /{index}/_update/{id}` -/
  | update (docId : String) (body : Object) (refresh : Bool) (pre : Precondition)
  /-- `DELETE /{index}/_doc/{id}` -/
  | delete (docId : String) (refresh : Bool) (pre : Precondition)
  /-- `refresh_index` -/
  | refresh
  /-- `DELETE /{index}` -/
  | deleteIndex

/-- The document a request names. -/
def Request.docId : Request → Option String
  | .get docId => some docId
  | .index docId _ _ _ => some docId
  | .create docId _ _ => some docId
  | .bulkCreate docId _ _ => some docId
  | .update docId _ _ _ => some docId
  | .delete docId _ _ => some docId
  | .refresh => none
  | .deleteIndex => none

/-- Whether a request asks its write to be searchable at once. -/
def Request.refreshes : Request → Bool
  | .index _ _ asked _ => asked
  | .create _ _ asked => asked
  | .bulkCreate _ _ asked => asked
  | .update _ _ asked _ => asked
  | .delete _ asked _ => asked
  | _ => false

/-- Whether a request indexes a document even if it is not there: an index, a create, or an update
    that brings a document to create. -/
def Request.indexes (docId : String) : Request → Prop
  | .index d _ _ _ => d = docId
  | .create d _ _ => d = docId
  | .bulkCreate d _ _ => d = docId
  | .update d body _ _ => d = docId ∧ (upsertSource body).isSome
  | _ => False

/-- What a request is answered. -/
inductive Response where
  /-- the document a get found, or `found: false` -/
  | doc (found : Option GetResult)
  /-- the envelope of a write -/
  | written (result : WriteResult)
  /-- a delete that found nothing -/
  | notFound
  /-- an exception, rendered as an error body -/
  | failed (e : EsError)
  | acknowledged

/-- Whether a response reports that a document was written or deleted. -/
def Response.performed : Response → Bool
  | .written w => w.result ≠ .noop
  | _ => false

section

variable (py : Python) (painless : Painless)

/-- `index_doc` -/
def indexDoc (s : EsStore) (index docId : String) (body : Object) (refresh : Bool)
    (pre : Precondition) : EsStore × Response :=
  match checkPrecondition s index docId pre.ifSeqNo pre.ifPrimaryTerm with
  | .error e => (s, .failed e)
  | .ok _ =>
    let (s, w) := esIndexDoc s index docId body refresh
    (s, .written w)

/-- `create_doc` -/
def createDoc (s : EsStore) (index docId : String) (body : Object) (refresh : Bool) :
    EsStore × Response :=
  match esGetDoc py s index docId with
  | .error e => (s, .failed e)
  | .ok (some existing) => (s, .failed (.documentExists docId existing.version))
  | .ok none =>
    let (s, w) := esIndexDoc s index docId body refresh
    (s, .written w)

/-- The `create` arm of `_bulk_action`. -/
def bulkCreate (s : EsStore) (index docId : String) (body : Object) (refresh : Bool) :
    EsStore × Response :=
  if documentExists s index docId then
    (s, .failed (.documentExists docId (documentVersion s index docId)))
  else
    let (s, w) := esIndexDoc s index docId body refresh
    (s, .written w)

/-- `update_doc`. The `refresh` it is asked for reaches the echo of the answer alone. -/
def updateDoc (s : EsStore) (index docId : String) (body : Object) (pre : Precondition) :
    EsStore × Response :=
  match checkPrecondition s index docId pre.ifSeqNo pre.ifPrimaryTerm with
  | .error e => (s, .failed e)
  | .ok _ =>
    match esUpdateDoc py painless s index docId body with
    | (s, .error e) => (s, .failed e)
    | (s, .ok w) => (s, .written w)

/-- `delete_doc` -/
def deleteDoc (s : EsStore) (index docId : String) (refresh : Bool) (pre : Precondition) :
    EsStore × Response :=
  match checkPrecondition s index docId pre.ifSeqNo pre.ifPrimaryTerm with
  | .error e => (s, .failed e)
  | .ok _ =>
    match esDeleteDoc s index docId refresh with
    | (s, some w) => (s, .written w)
    | (s, none) => (s, .notFound)

/-- `DELETE /{index}` -/
def deleteIndexRoute (s : EsStore) (index : String) : EsStore × Response :=
  match deleteIndex s index with
  | some s => (s, .acknowledged)
  | none => (s, .failed (.indexNotFound index))

/-- One request, on one index. -/
def answer (s : EsStore) (index : String) : Request → EsStore × Response
  | .get docId =>
    (s, match esGetDoc py s index docId with
      | .ok found => .doc found
      | .error e => .failed e)
  | .index docId body refresh pre => indexDoc s index docId body refresh pre
  | .create docId body refresh => createDoc py s index docId body refresh
  | .bulkCreate docId body refresh => bulkCreate s index docId body refresh
  | .update docId body _ pre => updateDoc py painless s index docId body pre
  | .delete docId refresh pre => deleteDoc s index docId refresh pre
  | .refresh => (refreshIndex s index, .acknowledged)
  | .deleteIndex => deleteIndexRoute s index

/-- The store after one request on a given index. -/
def stepOn (index : String) (s : EsStore) (r : Request) : EsStore :=
  (answer py painless s index r).1

/-- The store after one request, which names its index. -/
def step (s : EsStore) (r : String × Request) : EsStore := (answer py painless s r.1 r.2).1

end

end Mockdr.Elastic
