import Mathlib
import Mockdr.Elastic.Effect
import Mockdr.Elastic.Resolution

/-!
# Writing by query

`_update_by_query` and `_delete_by_query` (`application/es_search/queries.py`): the documents a
query matches are deleted, or updated with a script, one after the other. The query is run over
records, and each matched record is taken back to an index by its id alone (`homeIndex`).

* `byQueryLoop` is the walk over the records; `ByQueryRun.written` are the document records it
  wrote, by key, in order.
* `byQueryWrite` is the write of one document: what it makes of the record (`get_byQueryWrite`),
  that it leaves the others alone (`get_byQueryWrite_ne`) and the names of the store
  (`sameNames_byQueryWrite`).
* `homeIndex_eq_iff`: which documents are looked up where they are filed.
-/

namespace Mockdr.Elastic

/-! ## The run -/

/-- `_home_index`: which of an expression's indices holds a document of an id. -/
def homeIndex (py : Python) (s : EsStore) (pattern docId : String) : String :=
  ((concreteIndices py s pattern).find? fun name =>
    (s.documents.get (docKey name docId)).isSome).getD pattern

/-- The script of a by-query body. -/
structure ByQueryScript where
  /-- `source_text` -/
  source : String
  params : Object
  /-- the body every document is updated with -/
  update : Object

/-- The script as `_by_query` reads it. -/
def byQueryScript (py : Python) (body : Object) : Except SearchError ByQueryScript := do
  let script ← match body.get "script" with
    | .str text => .ok [("source", .str text)]
    | .dict script => .ok script
    | v => if v.truthy then .error .crash else .ok []
  let source := py.toStr ((Assoc.get "source" script).getD (.str ""))
  match py.toDict (Object.get script "params") with
  | some params => return ⟨source, params, if source = "" then [] else [("script", .dict script)]⟩
  | none => .error .crash

/-- `_STATUS_PATHS` -/
def statusPaths : List String := ["kibana.alert.workflow_status", "signal.status"]

/-- `_written_status` -/
def writtenStatus (py : Python) (before after : Object) : Option String :=
  statusPaths.findSome? fun path =>
    match getNested py (.dict after) path with
    | .null => none
    | new => if Json.eq new (getNested py (.dict before) path) then none else some (py.toStr new)

/-- `update_alert_status` (`application/es_alerts/commands.py`), but for what it tells the other
    products: the alerts that are there get the status, and are counted. -/
def updateAlertStatus (s : EsStore) (alertIds : List String) (status : String) : EsStore × Nat :=
  alertIds.foldl
    (fun (s, updated) alertId =>
      match s.alerts.get alertId with
      | some alert =>
        let alert := Assoc.set "signal_status" (.str status)
          (Assoc.set "workflow_status" (.str status) alert)
        ({ s with alerts := save "es_alerts" alertId alert s.alerts }, updated + 1)
      | none => (s, updated))
    (s, 0)

/-- What a by-query run did. -/
structure ByQueryRun where
  store : EsStore
  /-- the document records it wrote, by key, in order -/
  written : List String := []
  /-- how many it deleted, or updated -/
  changed : Nat := 0
  noops : Nat := 0
  /-- the index and the id of every record it could not write -/
  failures : List (String × String) := []
  /-- the exception it ended with -/
  raised : Option EsError := none

section

variable (py : Python) (painless : Painless) (delete : Bool) (script : ByQueryScript)

/-- `_by_query_owned`: the write of one of the mock's own records; none if it cannot be made. -/
def byQueryOwned (s : EsStore) (record : Object) : EsStore × Option Nat :=
  if delete ∨ script.source = "" then (s, none)
  else
    let run := painless script.source script.params record
    match run.outcome with
    | .error _ => (s, none)
    | .ok _ =>
      -- The script works on a shallow copy, so that the record shares its nested objects.
      match writtenStatus py run.shared run.document with
      | none => (s, none)
      | some status =>
        let (s, updated) := updateAlertStatus s [hitId py record] status
        (s, some (if updated = 0 then 0 else 1))

/-- The write of one document: how many it changed, and how many it found to be so already. -/
def byQueryWrite (s : EsStore) (home docId : String) : EsStore × Except EsError (Nat × Nat) :=
  if delete then
    (countDocument (dropDocument s (docKey home docId)) home (-1), .ok (1, 0))
  else
    let (s, result) := esUpdateDoc py painless s home docId script.update
    (s, result.map fun w =>
      (if w.result = .updated then 1 else 0, if w.result = .noop then 1 else 0))

/-- The walk of `_by_query` over the records that matched. -/
def byQueryLoop (canonical : String) (s : EsStore) : List Doc → ByQueryRun
  | [] => { store := s }
  | d :: rest =>
    match d.given with
    | none =>
      let (s, outcome) := byQueryOwned py painless delete script s d.source
      let run := byQueryLoop canonical s rest
      match outcome with
      | none => { run with failures := (canonical, hitId py d.source) :: run.failures }
      | some n => { run with changed := n + run.changed, noops := 1 - n + run.noops }
    | some docId =>
      let home := homeIndex py s canonical docId
      match byQueryWrite py painless delete script s home docId with
      | (s, .error e) => { store := s, raised := some e }
      | (s, .ok (changed, noops)) =>
        let run := byQueryLoop canonical s rest
        { run with written := docKey home docId :: run.written
                   changed := changed + run.changed
                   noops := noops + run.noops }

end

/-- The records of a collection that a clause keeps: all of them where there is none. -/
def matchedDocs (py : Python) (leaf : Leaf) (clause : Json) (records : List Doc) :
    Except SearchError (List Doc) :=
  if !clause.truthy then .ok records
  else do
    let p ← buildPredicate py leaf clause
    return records.filter fun d => p d.toRec

/-- `_by_query` -/
def byQuery (py : Python) (engine : Engine) (painless : Painless) (s : EsStore) (index : String)
    (body : Object) (delete : Bool) : Except SearchError ByQueryRun := do
  let (records, canonical) ← (resolveDocs py s index false).mapError .es
  let clause ← queryClause engine body
  let leaf := searchLeaf py engine.others (termsLookup py s)
  let matched ← matchedDocs py leaf clause records
  let script ← byQueryScript py body
  return byQueryLoop py painless delete script canonical s matched

/-- `es_update_by_query` -/
def esUpdateByQuery (py : Python) (engine : Engine) (painless : Painless) (s : EsStore)
    (index : String) (body : Object) : Except SearchError ByQueryRun :=
  byQuery py engine painless s index body false

/-- `es_delete_by_query` -/
def esDeleteByQuery (py : Python) (engine : Engine) (painless : Painless) (s : EsStore)
    (index : String) (body : Object) : Except SearchError ByQueryRun :=
  byQuery py engine painless s index body true

/-! ## The names of a store -/

/-- Two stores have the same indices, which carry the same aliases. -/
structure SameNames (s t : EsStore) : Prop where
  keys : t.indices.keys = s.indices.keys
  aliases : ∀ index, aliasesOf t index = aliasesOf s index

namespace SameNames

variable {s t u : EsStore}

lemma refl (s : EsStore) : SameNames s s := ⟨rfl, fun _ => rfl⟩

lemma trans (h : SameNames s t) (h' : SameNames t u) : SameNames s u :=
  ⟨h'.keys.trans h.keys, fun index => (h'.aliases index).trans (h.aliases index)⟩

lemma of_indices (h : t.indices = s.indices) : SameNames s t := by
  refine ⟨by rw [h], ?_⟩
  intro index
  rw [aliasesOf, aliasesOf, h]

lemma concreteIndices (h : SameNames s t) (py : Python) (pattern : String) :
    Elastic.concreteIndices py t pattern = Elastic.concreteIndices py s pattern := by
  have hbehind : behind t = behind s := by
    funext name
    rw [behind, behind, indicesForAlias, indicesForAlias, createdIndices, createdIndices, h.keys]
    simp only [h.aliases]
  rw [Elastic.concreteIndices, Elastic.concreteIndices, hbehind]

lemma registered (h : SameNames s t) {index : String} (hr : (s.indices.get index).isSome) :
    (t.indices.get index).isSome := by
  rw [← Dict.mem_keys_iff] at hr ⊢
  rwa [h.keys]

end SameNames

lemma sameNames_saveEntry {s : EsStore} {index : String} {entry : IndexEntry}
    (hr : (s.indices.get index).isSome) (ha : entry.aliases = (entryOf s index).aliases) :
    SameNames s (saveEntry s index entry) := by
  obtain ⟨old, hold⟩ := Option.isSome_iff_exists.1 hr
  have hi : (saveEntry s index entry).indices = s.indices.set index entry :=
    saveEntry_indices entry (.inl hr)
  refine ⟨by rw [hi, Dict.keys_set_of_some entry hold], ?_⟩
  intro name
  rw [aliasesOf, aliasesOf, hi, Dict.get_set]
  by_cases e : name = index
  · rw [if_pos e, e, hold]
    exact ha.trans (by rw [entryOf_of_get hold])
  · rw [if_neg e]

lemma sameNames_countDocument {s : EsStore} {index : String} (hr : (s.indices.get index).isSome)
    (delta : Int) : SameNames s (countDocument s index delta) :=
  sameNames_saveEntry hr rfl

lemma sameNames_nextSeqNo {s : EsStore} {index : String} (hr : (s.indices.get index).isSome) :
    SameNames s (nextSeqNo s index).2 :=
  sameNames_saveEntry hr rfl

/-! ## One write -/

/-- A document record, but for its sequence number. -/
def DocRecord.unnumbered (record : DocRecord) : DocRecord := { record with seqNo := 0 }

section

variable (py : Python) (painless : Painless) (delete : Bool) (script : ByQueryScript)

/-- The operation a script asks for on a document. -/
def operationOn (source : Object) : Except EsError String := do
  let run ← runUpdateScript py painless script.update source
  run.outcome.mapError .painless

/-- Whether a by-query write takes a document away. -/
def takesAway (source : Object) : Prop :=
  delete = true ∨ operationOn py painless script source = .ok "delete"

end

section

variable {py : Python} {painless : Painless} {delete : Bool} {script : ByQueryScript}
  {s t : EsStore} {name docId key : String} {record : DocRecord}

/-- The change a by-query write of a document makes. -/
def writeChange (py : Python) (painless : Painless) (delete : Bool) (script : ByQueryScript)
    (s : EsStore) (name docId : String) : Change :=
  if delete then .remove docId false else planUpdate py painless s name docId script.update

lemma byQueryWrite_fst :
    (byQueryWrite py painless delete script s name docId).1
      = (writeChange py painless delete script s name docId).apply s name := by
  cases delete with
  | true => rfl
  | false => exact (esUpdateDoc_change py painless s name docId script.update).1

lemma writeChange_congr
    (h : t.documents.get (docKey name docId) = s.documents.get (docKey name docId)) :
    writeChange py painless delete script t name docId
      = writeChange py painless delete script s name docId := by
  rw [writeChange, writeChange, planUpdate, planUpdate, h]

/-- What can become of a document that is there. -/
lemma writeChange_cases (py : Python) (painless : Painless) (delete : Bool)
    (script : ByQueryScript) (hk : s.documents.get (docKey name docId) = some record) :
    (∃ numbered, writeChange py painless delete script s name docId = .remove docId numbered
        ∧ takesAway py painless delete script record.source)
      ∨ ((∃ version source, writeChange py painless delete script s name docId
            = .put docId version source false)
          ∨ (∃ source, writeChange py painless delete script s name docId = .share docId source)
          ∨ writeChange py painless delete script s name docId = .keep)
        ∧ ¬ takesAway py painless delete script record.source := by
  cases delete with
  | true => exact .inl ⟨false, rfl, .inl rfl⟩
  | false =>
    rw [writeChange, if_neg Bool.false_ne_true, planUpdate, hk, takesAway, operationOn]
    dsimp only
    cases hr : runUpdateScript py painless script.update record.source with
    | error e =>
      refine .inr ⟨.inr (.inr rfl), ?_⟩
      rintro (h | h)
      · cases h
      · cases h
    | ok run =>
      dsimp only
      cases ho : run.outcome with
      | error message =>
        refine .inr ⟨.inr (.inl ⟨run.shared, rfl⟩), ?_⟩
        rintro (h | h)
        · cases h
        · change run.outcome.mapError _ = _ at h
          rw [ho] at h
          cases h
      | ok operation =>
        have hop : (run.outcome.mapError EsError.painless) = .ok operation := by rw [ho]; rfl
        dsimp only
        by_cases hd : operation = "delete"
        · rw [if_pos hd]
          exact .inl ⟨true, rfl, .inr (by rw [← hd]; exact hop)⟩
        · rw [if_neg hd]
          refine .inr ⟨?_, ?_⟩
          · split_ifs with hn
            · exact .inr (.inl ⟨run.shared, rfl⟩)
            · exact .inl ⟨record.version + 1, mergeDoc script.update run.document, rfl⟩
          · rintro (h | h)
            · cases h
            · exact hd (Except.ok.inj (hop.symm.trans h))

lemma writeChange_hasRoom (hk : s.documents.get (docKey name docId) = some record) :
    (writeChange py painless delete script s name docId).HasRoom s name := by
  obtain ⟨_, h, -⟩ | ⟨⟨_, _, h⟩ | ⟨_, h⟩ | h, -⟩ := writeChange_cases py painless
    delete script hk
  · rw [h]
    trivial
  · rw [h]
    exact .inl (by rw [hk]; rfl)
  · rw [h]
    trivial
  · rw [h]
    trivial

/-- What a key reads after the write of a document that is there. -/
lemma get_byQueryWrite (hk : s.documents.get (docKey name docId) = some record) (k : String) :
    (byQueryWrite py painless delete script s name docId).1.documents.get k
      = (writeChange py painless delete script s name docId).atKey name (entryOf s name).seqNo k
          (s.documents.get k) := by
  rw [byQueryWrite_fst, get_documents_apply (writeChange_hasRoom hk)]

/-- A write leaves every other record alone. -/
lemma get_byQueryWrite_ne (hk : s.documents.get (docKey name docId) = some record)
    (hne : key ≠ docKey name docId) :
    (byQueryWrite py painless delete script s name docId).1.documents.get key
      = s.documents.get key := by
  rw [get_byQueryWrite hk]
  obtain ⟨_, h, -⟩ | ⟨⟨_, _, h⟩ | ⟨_, h⟩ | h, -⟩ := writeChange_cases py painless
    delete script hk
  · rw [h, Change.atKey, if_neg hne]
  · rw [h, Change.atKey, if_neg hne]
  · rw [h, Change.atKey, if_neg hne]
  · rw [h, Change.atKey]

lemma get_byQueryWrite_eq_none_iff (hk : s.documents.get (docKey name docId) = some record) :
    (byQueryWrite py painless delete script s name docId).1.documents.get (docKey name docId) = none
      ↔ takesAway py painless delete script record.source := by
  rw [get_byQueryWrite hk, hk]
  obtain ⟨_, h, ht⟩ | ⟨⟨_, _, h⟩ | ⟨_, h⟩ | h, ht⟩ := writeChange_cases py painless
    delete script hk
  · simp [h, ht, Change.atKey]
  · simp [h, ht, Change.atKey]
  · simp [h, ht, Change.atKey]
  · simp [h, ht, Change.atKey]

lemma Change.atKey_unnumbered (c : Change) (index key : String) (m n : Int)
    (record : Option DocRecord) :
    (c.atKey index m key record).map DocRecord.unnumbered
      = (c.atKey index n key record).map DocRecord.unnumbered := by
  cases c with
  | put docId version source pending =>
    rw [Change.atKey, Change.atKey]
    split_ifs
    · rfl
    · rfl
  | _ => rfl

lemma byQueryWrite_unnumbered (hk : s.documents.get (docKey name docId) = some record)
    (h : t.documents.get (docKey name docId) = s.documents.get (docKey name docId)) :
    ((byQueryWrite py painless delete script t name docId).1.documents.get
        (docKey name docId)).map DocRecord.unnumbered
      = ((byQueryWrite py painless delete script s name docId).1.documents.get
        (docKey name docId)).map DocRecord.unnumbered := by
  rw [get_byQueryWrite (h.trans hk), get_byQueryWrite hk, writeChange_congr h, h]
  exact Change.atKey_unnumbered _ _ _ _ _ _

/-- A write keeps the names of the store. -/
lemma sameNames_byQueryWrite (hr : (s.indices.get name).isSome)
    (hk : s.documents.get (docKey name docId) = some record) :
    SameNames s (byQueryWrite py painless delete script s name docId).1 := by
  have hcount : SameNames s (countDocument (dropDocument s (docKey name docId)) name (-1)) :=
    .trans (t := dropDocument s (docKey name docId)) (.of_indices rfl)
      (sameNames_countDocument (s := dropDocument s (docKey name docId)) hr (-1))
  rw [byQueryWrite_fst]
  obtain ⟨numbered, h, -⟩ | ⟨⟨_, _, h⟩ | ⟨_, h⟩ | h, -⟩ := writeChange_cases py painless
    delete script hk
  · rw [h]
    cases numbered with
    | false => exact hcount
    | true => exact hcount.trans (sameNames_nextSeqNo (hcount.registered hr))
  · have hsome : (s.documents.get (docKey name docId)).isNone = false := by rw [hk]; rfl
    rw [h, Change.apply, putDocument, hsome, if_neg Bool.false_ne_true]
    exact (sameNames_nextSeqNo hr).trans (.of_indices rfl)
  · rw [h]
    exact .of_indices (amendDocument_indices _ _)
  · rw [h]
    exact .refl s

/-- A write succeeds exactly when it is a delete or its script does. -/
lemma byQueryWrite_ok_iff (hk : s.documents.get (docKey name docId) = some record) :
    (∃ n, (byQueryWrite py painless delete script s name docId).2 = .ok n)
      ↔ (delete = false → ∃ op, operationOn py painless script record.source = .ok op) := by
  cases delete with
  | true => exact ⟨fun _ h => (by cases h), fun _ => ⟨(1, 0), rfl⟩⟩
  | false =>
    have hres : (∃ n, (byQueryWrite py painless false script s name docId).2 = .ok n)
        ↔ ∃ w, (esUpdateDoc py painless s name docId script.update).2 = .ok w := by
      rw [byQueryWrite, if_neg Bool.false_ne_true]
      dsimp only
      cases (esUpdateDoc py painless s name docId script.update).2 with
      | error e =>
        constructor
        · rintro ⟨_, h⟩
          cases h
        · rintro ⟨_, h⟩
          cases h
      | ok w => exact ⟨fun _ => ⟨w, rfl⟩, fun _ => ⟨_, rfl⟩⟩
    rw [hres, esUpdateDoc, hk, operationOn]
    dsimp only
    cases hr : runUpdateScript py painless script.update record.source with
    | error e =>
      constructor
      · rintro ⟨_, h⟩
        cases h
      · intro h
        obtain ⟨_, h⟩ := h rfl
        cases h
    | ok run =>
      change _ ↔ (false = false → ∃ op, run.outcome.mapError EsError.painless = .ok op)
      dsimp only
      cases ho : run.outcome with
      | error message =>
        constructor
        · rintro ⟨_, h⟩
          cases h
        · intro h
          obtain ⟨_, h⟩ := h rfl
          cases h
      | ok operation =>
        refine ⟨fun _ _ => ⟨operation, rfl⟩, fun _ => ?_⟩
        dsimp only
        split_ifs
        · exact ⟨_, rfl⟩
        · exact ⟨_, rfl⟩
        · exact ⟨_, rfl⟩

end

/-! ## Looking an index up by id -/

lemma find?_eq_some_iff_takeWhile {α : Type} [DecidableEq α] {p : α → Bool} {l : List α} {a : α}
    (ha : a ∈ l) (hp : p a = true) :
    l.find? p = some a ↔ ∀ b ∈ l.takeWhile (· ≠ a), p b = false := by
  induction l with
  | nil => cases ha
  | cons b l ih =>
    rw [List.find?_cons, List.takeWhile_cons]
    by_cases hb : b = a
    · simp [hb, hp]
    · have hal : a ∈ l := (List.mem_cons.1 ha).resolve_left (Ne.symm hb)
      rw [if_pos (by simpa using hb), List.forall_mem_cons, ← ih hal]
      cases hpb : p b with
      | true => simp [hb]
      | false => simp

/-- A document is looked up in the index it is filed under when no index before holds its id. -/
lemma homeIndex_eq_iff {py : Python} {s : EsStore} {pattern name docId : String}
    (hm : name ∈ concreteIndices py s pattern)
    (hk : (s.documents.get (docKey name docId)).isSome) :
    homeIndex py s pattern docId = name
      ↔ ∀ n ∈ (concreteIndices py s pattern).takeWhile (· ≠ name),
          s.documents.get (docKey n docId) = none := by
  have hfind := find?_eq_some_iff_takeWhile
    (p := fun n => (s.documents.get (docKey n docId)).isSome) hm hk
  simp only [Option.isSome_eq_false_iff, Option.isNone_iff_eq_none] at hfind
  rw [← hfind, homeIndex]
  cases h : (concreteIndices py s pattern).find? _ with
  | none => exact absurd hk (List.find?_eq_none.1 h name hm)
  | some n => rw [Option.getD_some, Option.some_inj]

end Mockdr.Elastic
