import Mockdr.Elastic.Document

/-!
# The records behind an index expression, with where they come from

`_resolve_collection` answers records whose identity the search code goes by: the id a record was
given and the position it is sorted by are kept by object. `Doc` carries what that identity stands
for, the index and the id a written record is filed under.

* `resolveDocs` is `resolveCollection` with it (`resolveDocs_toRec`).
* `docPositions` is the position each record has among the others.
-/

namespace Mockdr.Elastic

/-- A record of a resolved collection, and the index it is filed under if a client wrote it. -/
structure Doc extends Rec where
  home : Option String

/-- A record with its position in the collection. -/
structure Placed extends Doc where
  position : Nat

/-- The client-written records of a list of names. -/
def writtenDocs (s : EsStore) (names : List String) : List Doc :=
  names.flatMap fun name => (writtenDocuments s name).map fun p => ⟨⟨some p.1, p.2⟩, some name⟩

/-- The records an expression that is not refused stands for. -/
def docsOf (py : Python) (s : EsStore) (index : String) : List Doc :=
  let idx := py.lower index
  let names := concreteIndices py s idx
  (seededRecords py s idx names).map (⟨·, none⟩) ++ writtenDocs s names

/-- `_resolve_collection`, each record with the index it is filed under. -/
def resolveDocs (py : Python) (s : EsStore) (index : String) (ignoreUnavailable : Bool) :
    Except EsError (List Doc × String) :=
  match if ignoreUnavailable then none else missingTarget py s index with
  | some missing => .error (.indexNotFound missing)
  | none => .ok (docsOf py s index, py.lower index)

lemma writtenDocs_toRec (s : EsStore) (names : List String) :
    (writtenDocs s names).map Doc.toRec = writtenRecords s names := by
  simp only [writtenDocs, writtenRecords, List.map_flatMap, List.map_map, Function.comp_def]

lemma docsOf_toRec (py : Python) (s : EsStore) (index : String) :
    (docsOf py s index).map Doc.toRec = collection py s index := by
  rw [docsOf, collection, List.map_append, writtenDocs_toRec, List.map_map]
  simp [Function.comp_def]

/-- The records are those of `_resolve_collection`. -/
lemma resolveDocs_toRec (py : Python) (s : EsStore) (index : String) (ignoreUnavailable : Bool) :
    (resolveDocs py s index ignoreUnavailable).map (fun r => (r.1.map Doc.toRec, r.2))
      = resolveCollection py s index ignoreUnavailable := by
  rw [resolveDocs, resolveCollection]
  cases if ignoreUnavailable then none else missingTarget py s index with
  | some missing => rfl
  | none => rw [← docsOf_toRec]; rfl

lemma resolveDocs_eq_ok {py : Python} {s : EsStore} {index : String} {ignoreUnavailable : Bool}
    {r : List Doc × String} (h : resolveDocs py s index ignoreUnavailable = .ok r) :
    r = (docsOf py s index, py.lower index) := by
  rw [resolveDocs] at h
  split at h
  · cases h
  · exact (Except.ok.inj h).symm

/-- Whether two records are one object: only a written record can be there twice. -/
def sameObject (a b : Doc) : Bool :=
  a.home.isSome && decide (a.home = b.home) && decide (a.given = b.given)

/-- `doc_positions`: each record with its position, the last one of a record that is there twice. -/
def docPositions (records : List Doc) : List Placed :=
  records.zipIdx.map fun p =>
    ⟨p.1, ((records.zipIdx.filter fun q => sameObject p.1 q.1).map Prod.snd).getLastD p.2⟩

lemma docPositions_toDoc (records : List Doc) :
    (docPositions records).map Placed.toDoc = records := by
  rw [docPositions, List.map_map]
  exact List.zipIdx_map_fst 0 records

lemma docPositions_of_seeded {records : List Doc} (h : ∀ d ∈ records, d.home = none) :
    docPositions records = records.zipIdx.map fun p => ⟨p.1, p.2⟩ := by
  apply List.map_congr_left
  intro p hp
  have hnone : (records.zipIdx.filter fun q => sameObject p.1 q.1) = [] := by
    rw [List.filter_eq_nil_iff]
    intro q _
    simp [sameObject, h p.1 (List.fst_mem_of_mem_zipIdx hp)]
  rw [hnone]
  rfl

end Mockdr.Elastic
