import Mockdr.Elastic.Request

/-!
# What a request does to the store

A request ends in one of seven changes to the store (`Change`). `change` says which, from the
request and the store it meets, and `answer_change` that the handlers do just that: the handlers
refine the machine whose steps are `Change.apply`. The invariants of the following modules are case
splits over the seven changes and never unfold a handler.

* `Makes` lists which request can make which change, and `Change.Fits` is what the store a change is
  made on has: a record to mark, an index to drop.
* `Change.atKey` is what a change does to the record under one key, and `get_documents_apply` that
  it does it, below the caps. `get_indices_apply_ne` is the frame for the registry.
* `refreshIndex_induct` reduces a refresh to its single records.
-/

namespace Mockdr.Elastic

/-! ## Saving -/

@[simp] lemma saveEntry_documents (s : EsStore) (index : String) (entry : IndexEntry) :
    (saveEntry s index entry).documents = s.documents := rfl

@[simp] lemma saveDocument_indices (s : EsStore) (key : String) (record : DocRecord) :
    (saveDocument s key record).indices = s.indices := rfl

@[simp] lemma dropDocument_indices (s : EsStore) (key : String) :
    (dropDocument s key).indices = s.indices := rfl

@[simp] lemma dropDocument_documents (s : EsStore) (key : String) :
    (dropDocument s key).documents = s.documents.erase key := rfl

@[simp] lemma nextSeqNo_documents (s : EsStore) (index : String) :
    (nextSeqNo s index).2.documents = s.documents := rfl

@[simp] lemma countDocument_documents (s : EsStore) (index : String) (delta : Int) :
    (countDocument s index delta).documents = s.documents := rfl

/-- An index can be saved in the registry without evicting another. -/
def Registers (s : EsStore) (index : String) : Prop :=
  (s.indices.get index).isSome ∨ s.indices.size < 1000

lemma BelowCaps.registers {s : EsStore} (h : BelowCaps s) (index : String) : Registers s index :=
  .inr h.2

lemma saveEntry_indices {s : EsStore} {index : String} (entry : IndexEntry)
    (h : Registers s index) : (saveEntry s index entry).indices = s.indices.set index entry := by
  have hc : Assoc.get "es_indices" CAPS = some 1000 := rfl
  exact save_eq_set entry hc h

lemma registers_saveEntry {s : EsStore} {index : String} (entry : IndexEntry)
    (h : Registers s index) : Registers (saveEntry s index entry) index := by
  left
  rw [saveEntry_indices entry h, Dict.get_set_self]
  rfl

lemma saveDocument_documents {s : EsStore} {key : String} (record : DocRecord)
    (h : (s.documents.get key).isSome ∨ s.documents.size < 100000) :
    (saveDocument s key record).documents = s.documents.set key record := by
  have hc : Assoc.get "es_documents" CAPS = some 100000 := rfl
  exact save_eq_set record hc h

lemma entryOf_of_get {s : EsStore} {index : String} {entry : IndexEntry}
    (h : s.indices.get index = some entry) : entryOf s index = entry := by
  rw [entryOf, h, Option.getD_some]

/-! ## The changes -/

/-- What a request does to the documents of one index. -/
inductive Change where
  | keep
  /-- a record is filed under a document, at the next sequence number -/
  | put (docId : String) (version : Int) (source : Object) (pending : Bool)
  /-- a script wrote inside the stored source, and nothing else was written -/
  | share (docId : String) (source : Object)
  /-- a record is marked deleted -/
  | mark (docId : String)
  /-- a record is taken out; the delete of a script takes a sequence number too -/
  | remove (docId : String) (numbered : Bool)
  /-- the index is refreshed -/
  | refresh
  /-- the index is deleted, with its documents -/
  | drop

/-- File a record under a document: the next sequence number, and one more document if it is new. -/
def putDocument (s : EsStore) (index docId : String) (version : Int) (source : Object)
    (pending : Bool) : EsStore :=
  let t := saveDocument (nextSeqNo s index).2 (docKey index docId)
    { version, seqNo := (nextSeqNo s index).1, source, pending }
  if (s.documents.get (docKey index docId)).isNone then countDocument t index 1 else t

/-- Change a record in place. -/
def amendDocument (s : EsStore) (key : String) (f : DocRecord → DocRecord) : EsStore :=
  match s.documents.get key with
  | some record => saveDocument s key (f record)
  | none => s

/-- Take a record out, and one document off the count. -/
def removeDocument (s : EsStore) (index docId : String) : EsStore :=
  countDocument (dropDocument s (docKey index docId)) index (-1)

/-- Drop an index and every record filed under it. -/
def dropIndex (s : EsStore) (index : String) : EsStore :=
  { s with documents := s.documents.filter fun p => (idUnder index p.1).isNone
           indices := s.indices.erase index }

/-- The store after a change to an index. -/
def Change.apply (s : EsStore) (index : String) : Change → EsStore
  | .keep => s
  | .put docId version source pending => putDocument s index docId version source pending
  | .share docId source => amendDocument s (docKey index docId) ({ · with source })
  | .mark docId => amendDocument s (docKey index docId) ({ · with deleted := true })
  | .remove docId false => removeDocument s index docId
  | .remove docId true => (nextSeqNo (removeDocument s index docId) index).2
  | .refresh => refreshIndex s index
  | .drop => dropIndex s index

/-- Whether a change is a write or a delete of a document. -/
def Change.performs : Change → Bool
  | .put .. => true
  | .mark _ => true
  | .remove .. => true
  | _ => false

/-- The version the next index of a document gets. -/
def nextVersion (s : EsStore) (index docId : String) : Int :=
  match s.documents.get (docKey index docId) with
  | some record => record.version + 1
  | none => 1

section

variable (py : Python) (painless : Painless)

/-- What an update does with the record it finds, or with none. -/
def planUpdate (s : EsStore) (index docId : String) (body : Object) : Change :=
  match s.documents.get (docKey index docId) with
  | none =>
    match upsertSource body with
    | none => .keep
    | some upsert => .put docId 1 upsert false
  | some existing =>
    match runUpdateScript py painless body existing.source with
    | .error _ => .keep
    | .ok run =>
      match run.outcome with
      | .error _ => .share docId run.shared
      | .ok operation =>
        if operation = "delete" then .remove docId true
        else if operation = "noop" ∨ Json.eq (.dict (mergeDoc body run.document)) (.dict run.shared)
        then .share docId run.shared
        else .put docId (existing.version + 1) (mergeDoc body run.document) false

/-- What a delete does with the record it finds. -/
def planDelete (s : EsStore) (index docId : String) (refresh : Bool) : Change :=
  match s.documents.get (docKey index docId) with
  | some existing =>
    if existing.deleted then .keep else if refresh then .remove docId false else .mark docId
  | none => .keep

/-- Whether the precondition of a write holds. -/
def Precondition.holds (pre : Precondition) (s : EsStore) (index docId : String) : Bool :=
  match checkPrecondition s index docId pre.ifSeqNo pre.ifPrimaryTerm with
  | .ok _ => true
  | .error _ => false

/-- Whether a get answers that a document is not there. -/
def getFindsNone (s : EsStore) (index docId : String) : Bool :=
  match esGetDoc py s index docId with
  | .ok none => true
  | _ => false

/-- What a request does to the store it meets. -/
def change (s : EsStore) (index : String) : Request → Change
  | .get _ => .keep
  | .index docId body refresh pre =>
    if pre.holds s index docId then .put docId (nextVersion s index docId) body (!refresh)
    else .keep
  | .create docId body refresh =>
    if getFindsNone py s index docId then .put docId (nextVersion s index docId) body (!refresh)
    else .keep
  | .bulkCreate docId body refresh =>
    if documentExists s index docId then .keep
    else .put docId (nextVersion s index docId) body (!refresh)
  | .update docId body _ pre =>
    if pre.holds s index docId then planUpdate py painless s index docId body else .keep
  | .delete docId refresh pre =>
    if pre.holds s index docId then planDelete s index docId refresh else .keep
  | .refresh => .refresh
  | .deleteIndex => if s.indices.contains index then .drop else .keep

end

/-! ## The handlers make these changes -/

/-- `es_index_doc` files a record and reports a write. -/
lemma esIndexDoc_change (s : EsStore) (index docId : String) (body : Object) (refresh : Bool) :
    (esIndexDoc s index docId body refresh).1
        = putDocument s index docId (nextVersion s index docId) body (!refresh)
      ∧ (Response.written (esIndexDoc s index docId body refresh).2).performed = true := by
  refine ⟨rfl, ?_⟩
  cases h : s.documents.get (docKey index docId) <;> simp [esIndexDoc, Response.performed, h]

lemma saveDocument_saveDocument {s : EsStore} {key : String} (r r' : DocRecord)
    (h : (s.documents.get key).isSome) :
    saveDocument (saveDocument s key r) key r' = saveDocument s key r' := by
  have h' : ((saveDocument s key r).documents.get key).isSome := by
    rw [saveDocument_documents r (.inl h), Dict.get_set_self]
    rfl
  have e : (saveDocument (saveDocument s key r) key r').documents
      = (saveDocument s key r').documents := by
    rw [saveDocument_documents r' (.inl h'), saveDocument_documents r (.inl h),
      saveDocument_documents r' (.inl h), Dict.set_set]
  calc saveDocument (saveDocument s key r) key r'
      = { s with documents := (saveDocument (saveDocument s key r) key r').documents } := rfl
    _ = { s with documents := (saveDocument s key r').documents } := by rw [e]
    _ = saveDocument s key r' := rfl

lemma dropDocument_saveDocument {s : EsStore} {key : String} (r : DocRecord)
    (h : (s.documents.get key).isSome) :
    dropDocument (saveDocument s key r) key = dropDocument s key := by
  have e : (saveDocument s key r).documents.erase key = s.documents.erase key := by
    rw [saveDocument_documents r (.inl h), Dict.erase_set]
  calc dropDocument (saveDocument s key r) key
      = { s with documents := (saveDocument s key r).documents.erase key } := rfl
    _ = { s with documents := s.documents.erase key } := by rw [e]
    _ = dropDocument s key := rfl

lemma nextSeqNo_saveDocument (s : EsStore) (index key : String) (r : DocRecord) :
    nextSeqNo (saveDocument s key r) index
      = ((nextSeqNo s index).1, saveDocument (nextSeqNo s index).2 key r) := rfl

/-- The outcome of an update, as a response. -/
def updateResponse (r : Except EsError WriteResult) : Response :=
  match r with
  | .error e => .failed e
  | .ok w => .written w

/-- `es_update_doc` does what `planUpdate` says, and reports a write exactly when it made one. -/
lemma esUpdateDoc_change (py : Python) (painless : Painless) (s : EsStore) (index docId : String)
    (body : Object) :
    (esUpdateDoc py painless s index docId body).1
        = (planUpdate py painless s index docId body).apply s index
      ∧ (updateResponse (esUpdateDoc py painless s index docId body).2).performed
        = (planUpdate py painless s index docId body).performs := by
  cases hk : s.documents.get (docKey index docId) with
  | none =>
    cases hu : upsertSource body with
    | none => simp [esUpdateDoc, planUpdate, hk, hu, Change.apply, Change.performs, updateResponse,
        Response.performed]
    | some upsert =>
      simp only [esUpdateDoc, planUpdate, hk, hu, Change.apply, Change.performs, updateResponse,
        putDocument, Option.isNone_none, if_true]
      exact ⟨trivial, rfl⟩
  | some existing =>
    have hs : (s.documents.get (docKey index docId)).isSome := by rw [hk]; rfl
    cases hr : runUpdateScript py painless body existing.source with
    | error e => simp [esUpdateDoc, planUpdate, hk, hr, Change.apply, Change.performs,
        updateResponse, Response.performed]
    | ok run =>
      cases ho : run.outcome with
      | error message => simp [esUpdateDoc, planUpdate, hk, hr, ho, Change.apply, Change.performs,
          updateResponse, Response.performed, amendDocument]
      | ok operation =>
        simp only [esUpdateDoc, planUpdate, hk, hr, ho]
        by_cases hd : operation = "delete"
        · -- What the script shared is dropped with the record.
          simp only [hd, if_true, dropDocument_saveDocument _ hs]
          exact ⟨rfl, rfl⟩
        · simp only [hd, if_false]
          by_cases hn : operation = "noop" ∨
              Json.eq (.dict (mergeDoc body run.document)) (.dict run.shared)
          · simp only [hn, if_true, Change.apply, amendDocument, hk]
            exact ⟨trivial, rfl⟩
          · simp only [hn, if_false, Change.apply, putDocument, hk, Option.isNone_some,
              Bool.false_eq_true, nextSeqNo_saveDocument]
            refine ⟨?_, rfl⟩
            -- What the script shared is overwritten by the write.
            exact saveDocument_saveDocument _ _ (by rw [nextSeqNo_documents]; exact hs)

/-- `es_delete_doc` does what `planDelete` says, and reports a delete exactly when it made one. -/
lemma esDeleteDoc_change (s : EsStore) (index docId : String) (refresh : Bool) :
    (esDeleteDoc s index docId refresh).1 = (planDelete s index docId refresh).apply s index
      ∧ (esDeleteDoc s index docId refresh).2.isSome
        = (planDelete s index docId refresh).performs := by
  cases hk : s.documents.get (docKey index docId) with
  | none => simp [esDeleteDoc, planDelete, hk, Change.apply, Change.performs]
  | some existing =>
    cases hd : existing.deleted with
    | true => simp [esDeleteDoc, planDelete, hk, hd, Change.apply, Change.performs]
    | false =>
      cases refresh with
      | true => simp [esDeleteDoc, planDelete, hk, hd, Change.apply, Change.performs,
          removeDocument]
      | false => simp [esDeleteDoc, planDelete, hk, hd, Change.apply, Change.performs,
          amendDocument]

lemma esDeleteDoc_result {s : EsStore} {index docId : String} {refresh : Bool} {w : WriteResult}
    (h : (esDeleteDoc s index docId refresh).2 = some w) : w.result = .deleted := by
  rw [esDeleteDoc] at h
  split at h
  · split at h
    · cases h
    · cases h
      rfl
  · cases h

/-- The handlers refine the change machine: a request does what `change` says, and answers that a
    document was written or deleted exactly when the change is one. -/
theorem answer_change (py : Python) (painless : Painless) (s : EsStore) (index : String)
    (r : Request) :
    (answer py painless s index r).1 = (change py painless s index r).apply s index
      ∧ (answer py painless s index r).2.performed = (change py painless s index r).performs := by
  cases r with
  | get docId =>
    refine ⟨rfl, ?_⟩
    simp only [answer, change, Change.performs]
    cases esGetDoc py s index docId <;> rfl
  | index docId body refresh pre =>
    cases h : checkPrecondition s index docId pre.ifSeqNo pre.ifPrimaryTerm with
    | error e =>
      have hp : pre.holds s index docId = false := by rw [Precondition.holds, h]
      simp only [answer, indexDoc, change, h, hp]
      exact ⟨rfl, rfl⟩
    | ok _ =>
      have hp : pre.holds s index docId = true := by rw [Precondition.holds, h]
      simp only [answer, indexDoc, change, h, hp]
      exact esIndexDoc_change s index docId body refresh
  | create docId body refresh =>
    cases h : esGetDoc py s index docId with
    | error e =>
      have hn : getFindsNone py s index docId = false := by rw [getFindsNone, h]
      simp only [answer, createDoc, change, h, hn]
      exact ⟨rfl, rfl⟩
    | ok found =>
      cases found with
      | some existing =>
        have hn : getFindsNone py s index docId = false := by rw [getFindsNone, h]
        simp only [answer, createDoc, change, h, hn]
        exact ⟨rfl, rfl⟩
      | none =>
        have hn : getFindsNone py s index docId = true := by rw [getFindsNone, h]
        simp only [answer, createDoc, change, h, hn]
        exact esIndexDoc_change s index docId body refresh
  | bulkCreate docId body refresh =>
    cases h : documentExists s index docId with
    | true =>
      simp only [answer, bulkCreate, change, h]
      exact ⟨rfl, rfl⟩
    | false =>
      simp only [answer, bulkCreate, change, h]
      exact esIndexDoc_change s index docId body refresh
  | update docId body refresh pre =>
    cases h : checkPrecondition s index docId pre.ifSeqNo pre.ifPrimaryTerm with
    | error e =>
      have hp : pre.holds s index docId = false := by rw [Precondition.holds, h]
      simp only [answer, updateDoc, change, h, hp]
      exact ⟨rfl, rfl⟩
    | ok _ =>
      have hp : pre.holds s index docId = true := by rw [Precondition.holds, h]
      have hu := esUpdateDoc_change py painless s index docId body
      simp only [answer, updateDoc, change, h, hp]
      cases e : esUpdateDoc py painless s index docId body with
      | mk t result =>
        rw [e] at hu
        cases result with
        | error e => exact hu
        | ok w => exact hu
  | delete docId refresh pre =>
    cases h : checkPrecondition s index docId pre.ifSeqNo pre.ifPrimaryTerm with
    | error e =>
      have hp : pre.holds s index docId = false := by rw [Precondition.holds, h]
      simp only [answer, deleteDoc, change, h, hp]
      exact ⟨rfl, rfl⟩
    | ok _ =>
      have hp : pre.holds s index docId = true := by rw [Precondition.holds, h]
      obtain ⟨hs, hd⟩ := esDeleteDoc_change s index docId refresh
      have hres := @esDeleteDoc_result s index docId refresh
      simp only [answer, deleteDoc, change, h, hp]
      cases e : esDeleteDoc s index docId refresh with
      | mk t result =>
        rw [e] at hs hd hres
        cases result with
        | none => exact ⟨hs, hd⟩
        | some w =>
          refine ⟨hs, Eq.trans ?_ hd⟩
          simp [Response.performed, hres rfl]
  | refresh => exact ⟨rfl, rfl⟩
  | deleteIndex =>
    cases h : s.indices.contains index with
    | true =>
      simp only [answer, deleteIndexRoute, deleteIndex, change, h]
      exact ⟨rfl, rfl⟩
    | false =>
      simp only [answer, deleteIndexRoute, deleteIndex, change, h]
      exact ⟨rfl, rfl⟩

/-! ## Which request makes which change -/

/-- The changes a request can make in the store it meets. -/
inductive Makes (s : EsStore) (index : String) : Request → Change → Prop
  | keep {r : Request} (hr : r ≠ .refresh)
      (hd : r = .deleteIndex → s.indices.get index = none) : Makes s index r .keep
  | put {r : Request} {docId : String} {version : Int} {source : Object} {pending : Bool}
      (hd : r.docId = some docId) (hp : r.refreshes = true → pending = false)
      (hi : r.indexes docId ∨ (s.documents.get (docKey index docId)).isSome) :
      Makes s index r (.put docId version source pending)
  | share {r : Request} {docId : String} {source : Object} (hd : r.docId = some docId)
      (hk : (s.documents.get (docKey index docId)).isSome) : Makes s index r (.share docId source)
  | mark {docId : String} {pre : Precondition} {record : DocRecord}
      (hp : pre.holds s index docId = true)
      (hk : s.documents.get (docKey index docId) = some record) (hd : record.deleted = false) :
      Makes s index (.delete docId false pre) (.mark docId)
  | remove {r : Request} {docId : String} {numbered : Bool} (hd : r.docId = some docId)
      (hk : (s.documents.get (docKey index docId)).isSome) :
      Makes s index r (.remove docId numbered)
  | refresh : Makes s index .refresh .refresh
  | drop (h : (s.indices.get index).isSome) : Makes s index .deleteIndex .drop

lemma planUpdate_makes (py : Python) (painless : Painless) (s : EsStore) (index docId : String)
    (body : Object) (asked : Bool) (pre : Precondition) :
    Makes s index (.update docId body asked pre) (planUpdate py painless s index docId body) := by
  have hkeep : Makes s index (.update docId body asked pre) .keep :=
    .keep (fun e => by cases e) (fun e => by cases e)
  unfold planUpdate
  split
  next =>
    split
    · exact hkeep
    next upsert hu => exact .put rfl (fun _ => rfl) (.inl ⟨rfl, by rw [hu]; rfl⟩)
  next existing hk =>
    have hs : (s.documents.get (docKey index docId)).isSome := by rw [hk]; rfl
    split
    · exact hkeep
    · split
      · exact .share rfl hs
      · split_ifs
        · exact .remove rfl hs
        · exact .share rfl hs
        · exact .put rfl (fun _ => rfl) (.inr hs)

lemma planDelete_makes {s : EsStore} {index docId : String} {pre : Precondition}
    (hp : pre.holds s index docId = true) (asked : Bool) :
    Makes s index (.delete docId asked pre) (planDelete s index docId asked) := by
  have hkeep : Makes s index (.delete docId asked pre) .keep :=
    .keep (fun e => by cases e) (fun e => by cases e)
  unfold planDelete
  split
  next existing hk =>
    split_ifs with hd hr
    · exact hkeep
    · exact .remove rfl (by rw [hk]; rfl)
    · rw [Bool.not_eq_true] at hd hr
      subst hr
      exact .mark hp hk hd
  next => exact hkeep

/-- A request makes one of these changes. -/
theorem change_makes (py : Python) (painless : Painless) (s : EsStore) (index : String)
    (r : Request) : Makes s index r (change py painless s index r) := by
  cases r with
  | get docId => exact .keep (fun e => by cases e) (fun e => by cases e)
  | index docId body asked pre =>
    simp only [change]
    split_ifs
    · exact .put rfl (fun h => by simpa [Request.refreshes] using h) (.inl rfl)
    · exact .keep (fun e => by cases e) (fun e => by cases e)
  | create docId body asked =>
    simp only [change]
    split_ifs
    · exact .put rfl (fun h => by simpa [Request.refreshes] using h) (.inl rfl)
    · exact .keep (fun e => by cases e) (fun e => by cases e)
  | bulkCreate docId body asked =>
    simp only [change]
    split_ifs
    · exact .keep (fun e => by cases e) (fun e => by cases e)
    · exact .put rfl (fun h => by simpa [Request.refreshes] using h) (.inl rfl)
  | update docId body asked pre =>
    simp only [change]
    split_ifs
    · exact planUpdate_makes py painless s index docId body asked pre
    · exact .keep (fun e => by cases e) (fun e => by cases e)
  | delete docId asked pre =>
    simp only [change]
    split_ifs with hp
    · exact planDelete_makes hp asked
    · exact .keep (fun e => by cases e) (fun e => by cases e)
  | refresh => exact .refresh
  | deleteIndex =>
    simp only [change]
    split_ifs with h
    · exact .drop h
    · exact .keep (fun e => by cases e) (fun _ => by simpa [Dict.contains] using h)

/-- What the store has when a change is made on it. -/
def Change.Fits (s : EsStore) (index : String) : Change → Prop
  | .share docId _ => (s.documents.get (docKey index docId)).isSome
  | .mark docId => (s.documents.get (docKey index docId)).isSome
  | .remove docId _ => (s.documents.get (docKey index docId)).isSome
  | .drop => (s.indices.get index).isSome
  | _ => True

lemma Makes.fits {s : EsStore} {index : String} {r : Request} {c : Change}
    (h : Makes s index r c) : c.Fits s index := by
  cases h with
  | keep => trivial
  | put => trivial
  | share _ hk => exact hk
  | mark _ hk => rw [Change.Fits, hk]; rfl
  | remove _ hk => exact hk
  | refresh => trivial
  | drop h => exact h

end Mockdr.Elastic
