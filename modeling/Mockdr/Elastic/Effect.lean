import Mockdr.Elastic.Change

/-!
# What a change leaves in the store

For each change: what a document key reads afterwards (`get_documents_apply`, by `Change.atKey`),
what the registry reads under the other indices (`get_indices_apply_ne`) and which sequence number
the index gives out next (`seqNo_apply`). All below the caps, where a save evicts nothing.

A refresh is a loop over the records; `get_documents_refreshIndex` says what it leaves under a key,
and `refreshIndex_induct` reduces an invariant of it to its single records.
-/

namespace Mockdr.Elastic

variable {s t : EsStore} {index key docId : String}

/-! ## The registry -/

lemma get_indices_nextSeqNo (h : Registers s index) (j : String) :
    (nextSeqNo s index).2.indices.get j
      = if j = index then some { entryOf s index with seqNo := (entryOf s index).seqNo + 1 }
        else s.indices.get j := by
  rw [nextSeqNo, saveEntry_indices _ h, Dict.get_set]

lemma get_indices_countDocument (h : Registers s index) (delta : Int) (j : String) :
    (countDocument s index delta).indices.get j
      = if j = index then
          some { entryOf s index with docs := max 0 ((entryOf s index).docs + delta) }
        else s.indices.get j := by
  rw [countDocument, saveEntry_indices _ h, Dict.get_set]

lemma registers_nextSeqNo (h : Registers s index) : Registers (nextSeqNo s index).2 index :=
  registers_saveEntry _ h

lemma registers_countDocument (h : Registers s index) (delta : Int) :
    Registers (countDocument s index delta) index :=
  registers_saveEntry _ h

lemma entryOf_nextSeqNo (h : Registers s index) :
    entryOf (nextSeqNo s index).2 index
      = { entryOf s index with seqNo := (entryOf s index).seqNo + 1 } := by
  apply entryOf_of_get
  rw [get_indices_nextSeqNo h, if_pos rfl]

lemma entryOf_countDocument (h : Registers s index) (delta : Int) :
    entryOf (countDocument s index delta) index
      = { entryOf s index with docs := max 0 ((entryOf s index).docs + delta) } := by
  apply entryOf_of_get
  rw [get_indices_countDocument h, if_pos rfl]

lemma entryOf_removeDocument (h : Registers s index) (docId : String) :
    entryOf (removeDocument s index docId) index
      = { entryOf s index with docs := max 0 ((entryOf s index).docs - 1) } := by
  have h' : Registers (dropDocument s (docKey index docId)) index := h
  rw [removeDocument, entryOf_countDocument h']
  rfl

lemma registers_removeDocument (h : Registers s index) (docId : String) :
    Registers (removeDocument s index docId) index := by
  have h' : Registers (dropDocument s (docKey index docId)) index := h
  exact registers_countDocument h' (-1)

lemma entryOf_putDocument (h : BelowCaps s) (version : Int) (source : Object) (pending : Bool) :
    entryOf (putDocument s index docId version source pending) index
      = { entryOf s index with
          seqNo := (entryOf s index).seqNo + 1
          docs := if (s.documents.get (docKey index docId)).isNone
            then max 0 ((entryOf s index).docs + 1) else (entryOf s index).docs } := by
  have hr := h.registers index
  have hn : ∀ r, entryOf (saveDocument (nextSeqNo s index).2 (docKey index docId) r) index
      = { entryOf s index with seqNo := (entryOf s index).seqNo + 1 } :=
    fun _ => entryOf_nextSeqNo hr
  have hr' : ∀ r, Registers (saveDocument (nextSeqNo s index).2 (docKey index docId) r) index :=
    fun _ => registers_nextSeqNo hr
  rw [putDocument]
  split
  · rw [entryOf_countDocument (hr' _), hn]
  · rw [hn]

/-! ## One key -/

lemma documents_putDocument
    (h : (s.documents.get (docKey index docId)).isSome ∨ s.documents.size < 100000)
    (version : Int) (source : Object) (pending : Bool) :
    (putDocument s index docId version source pending).documents
      = s.documents.set (docKey index docId)
          ⟨version, (entryOf s index).seqNo, source, pending, false⟩ := by
  have hd : ∀ r, (saveDocument (nextSeqNo s index).2 (docKey index docId) r).documents
      = s.documents.set (docKey index docId) r := by
    intro r
    rw [saveDocument_documents r (by rw [nextSeqNo_documents]; exact h), nextSeqNo_documents]
  rw [putDocument]
  split
  · rw [countDocument_documents, hd]
    rfl
  · exact hd _

@[simp] lemma documents_removeDocument (docId : String) :
    (removeDocument s index docId).documents = s.documents.erase (docKey index docId) := rfl

@[simp] lemma amendDocument_indices (key : String) (f : DocRecord → DocRecord) :
    (amendDocument s key f).indices = s.indices := by
  rw [amendDocument]
  split <;> rfl

lemma get_documents_amendDocument (f : DocRecord → DocRecord) (k : String) :
    (amendDocument s key f).documents.get k
      = if k = key then (s.documents.get k).map f else s.documents.get k := by
  rw [amendDocument]
  cases h : s.documents.get key with
  | none =>
    by_cases e : k = key
    · rw [if_pos e, e, h]
      rfl
    · rw [if_neg e]
  | some record =>
    have hd := @saveDocument_documents s key (f record) (.inl (by rw [h]; rfl))
    simp only [hd, Dict.get_set]
    by_cases e : k = key
    · rw [if_pos e, if_pos e, e, h]
      rfl
    · rw [if_neg e, if_neg e]

/-! ## A refresh -/

/-- What a refresh makes of a record: one that is marked deleted goes, any other is searchable. -/
def DocRecord.settled (record : DocRecord) : Option DocRecord :=
  if record.deleted then none else some { record with pending := false }

/-- One record of a refresh changes that record alone. -/
lemma get_documents_refreshRecord {record : DocRecord} (hk : t.documents.get key = some record)
    (k : String) :
    (refreshRecord index t (key, record)).documents.get k
      = if k = key ∧ (idUnder index key).isSome then record.settled else t.documents.get k := by
  rw [refreshRecord]
  cases hu : idUnder index key with
  | none => simp
  | some docId =>
    simp only [Option.isSome_some, and_true]
    by_cases hd : record.deleted
    · simp only [hd, if_true, countDocument_documents, dropDocument_documents, Dict.get_erase,
        DocRecord.settled]
    · by_cases hp : record.pending
      · simp only [hd, hp, if_true, DocRecord.settled, Bool.false_eq_true, if_false]
        rw [saveDocument_documents _ (.inl (by rw [hk]; rfl)), Dict.get_set]
      · have hs : record.settled = some record := by
          cases record
          simp only [Bool.not_eq_true] at hd hp
          subst hd hp
          rfl
        simp only [hd, hp, hs, Bool.false_eq_true, if_false]
        by_cases e : k = key
        · rw [if_pos e, e, hk]
        · rw [if_neg e]

lemma get_refreshRecord_of_mem {rest : List (String × DocRecord)} {p : String × DocRecord}
    (nd : ((p :: rest).map Prod.fst).Nodup)
    (hl : ∀ q ∈ p :: rest, t.documents.get q.1 = some q.2) :
    ∀ q ∈ rest, (refreshRecord index t p).documents.get q.1 = some q.2 := by
  intro q hq
  have hne : q.1 ≠ p.1 := by
    intro e
    rw [List.map_cons, List.nodup_cons] at nd
    exact nd.1 (List.mem_map.2 ⟨q, hq, e⟩)
  rw [get_documents_refreshRecord (hl p List.mem_cons_self), if_neg (fun h => hne h.1)]
  exact hl q (List.mem_cons_of_mem _ hq)

lemma get_documents_refreshRecords {l : List (String × DocRecord)} (nd : (l.map Prod.fst).Nodup)
    (hl : ∀ p ∈ l, t.documents.get p.1 = some p.2) (k : String) :
    (l.foldl (refreshRecord index) t).documents.get k
      = if k ∈ l.map Prod.fst ∧ (idUnder index k).isSome
        then (t.documents.get k).bind DocRecord.settled else t.documents.get k := by
  induction l generalizing t with
  | nil => simp
  | cons p rest ih =>
    obtain ⟨j, record⟩ := p
    have hj := hl (j, record) List.mem_cons_self
    rw [List.foldl_cons, ih (List.nodup_cons.1 nd).2 (get_refreshRecord_of_mem nd hl),
      get_documents_refreshRecord hj]
    by_cases e : k = j
    · subst e
      have hn : k ∉ rest.map Prod.fst := (List.nodup_cons.1 nd).1
      simp only [hn, false_and, if_false, true_and, List.map_cons, List.mem_cons, true_or, hj,
        Option.bind_some]
    · simp only [e, false_and, if_false, List.map_cons, List.mem_cons, false_or]

/-- What a refresh leaves under a key. -/
lemma get_documents_refreshIndex (k : String) :
    (refreshIndex s index).documents.get k
      = if (idUnder index k).isSome then (s.documents.get k).bind DocRecord.settled
        else s.documents.get k := by
  rw [refreshIndex, get_documents_refreshRecords s.documents.nodup
    (fun p hp => Dict.mem_entries_iff.1 hp)]
  by_cases hm : k ∈ s.documents.entries.map Prod.fst
  · simp only [hm, true_and]
  · have hn : s.documents.get k = none := Assoc.get_eq_none_iff.2 hm
    simp [hm, hn]

/-- What every record of a refresh preserves, the refresh preserves. -/
lemma refreshIndex_induct {motive : EsStore → Prop} (h : motive s)
    (hstep : ∀ t p, motive t → t.documents.get p.1 = some p.2 → motive (refreshRecord index t p)) :
    motive (refreshIndex s index) := by
  have hl : ∀ p ∈ s.documents.entries, s.documents.get p.1 = some p.2 :=
    fun p hp => Dict.mem_entries_iff.1 hp
  have nd := s.documents.nodup
  rw [refreshIndex]
  generalize s.documents.entries = l at hl nd
  induction l generalizing s with
  | nil => exact h
  | cons p rest ih =>
    exact ih (hstep s p h (hl p List.mem_cons_self)) (get_refreshRecord_of_mem nd hl)
      (List.nodup_cons.1 nd).2

/-! ## One change -/

/-- What a change does to the record under one key; `seqNo` is the index's next sequence number. -/
def Change.atKey (index : String) (seqNo : Int) (key : String) (record : Option DocRecord) :
    Change → Option DocRecord
  | .keep => record
  | .put docId version source pending =>
    if key = docKey index docId then some ⟨version, seqNo, source, pending, false⟩ else record
  | .share docId source =>
    if key = docKey index docId then record.map ({ · with source }) else record
  | .mark docId =>
    if key = docKey index docId then record.map ({ · with deleted := true }) else record
  | .remove docId _ => if key = docKey index docId then none else record
  | .refresh => if (idUnder index key).isSome then record.bind DocRecord.settled else record
  | .drop => if (idUnder index key).isSome then none else record

/-- A change evicts no record: the one it files is there already, or the collection is below its
    cap. -/
def Change.HasRoom (s : EsStore) (index : String) : Change → Prop
  | .put docId _ _ _ =>
    (s.documents.get (docKey index docId)).isSome ∨ s.documents.size < 100000
  | _ => True

lemma BelowCaps.hasRoom (h : BelowCaps s) (c : Change) : c.HasRoom s index := by
  cases c with
  | put => exact .inr h.1
  | _ => trivial

/-- A change that has room does to every record what `Change.atKey` says. -/
theorem get_documents_apply {c : Change} (h : c.HasRoom s index) (k : String) :
    (c.apply s index).documents.get k
      = c.atKey index (entryOf s index).seqNo k (s.documents.get k) := by
  cases c with
  | keep => rfl
  | put docId version source pending =>
    simp only [Change.apply, documents_putDocument h, Dict.get_set, Change.atKey]
  | share docId source => exact get_documents_amendDocument _ k
  | mark docId => exact get_documents_amendDocument _ k
  | remove docId numbered =>
    have e : ((Change.remove docId numbered).apply s index).documents
        = s.documents.erase (docKey index docId) := by cases numbered <;> rfl
    rw [e, Dict.get_erase]
    rfl
  | refresh => exact get_documents_refreshIndex k
  | drop =>
    simp only [Change.apply, dropIndex, Dict.get_filter, Change.atKey]
    cases s.documents.get k with
    | none => simp
    | some record => cases idUnder index k <;> simp [Option.filter]

/-- The sequence number an index gives out after a change. -/
def Change.nextSeqNo (seqNo : Int) : Change → Int
  | .put .. => seqNo + 1
  | .remove _ true => seqNo + 1
  | .drop => 0
  | _ => seqNo

/-- One record of a refresh leaves the registry entries of other indices and all sequence numbers.
    -/
lemma refreshRecord_registry (h : Registers t index) (p : String × DocRecord) :
    Registers (refreshRecord index t p) index
      ∧ (entryOf (refreshRecord index t p) index).seqNo = (entryOf t index).seqNo
      ∧ ∀ j, j ≠ index → (refreshRecord index t p).indices.get j = t.indices.get j := by
  rw [refreshRecord]
  split
  · exact ⟨h, rfl, fun _ _ => rfl⟩
  · split_ifs
    · have h' : Registers (dropDocument t p.1) index := h
      refine ⟨registers_countDocument h' (-1), ?_, ?_⟩
      · rw [entryOf_countDocument h']
        rfl
      · intro j hj
        rw [get_indices_countDocument h', if_neg hj, dropDocument_indices]
    · exact ⟨h, rfl, fun _ _ => rfl⟩
    · exact ⟨h, rfl, fun _ _ => rfl⟩

lemma refreshIndex_registry (h : Registers s index) :
    Registers (refreshIndex s index) index
      ∧ (entryOf (refreshIndex s index) index).seqNo = (entryOf s index).seqNo
      ∧ ∀ j, j ≠ index → (refreshIndex s index).indices.get j = s.indices.get j := by
  refine refreshIndex_induct
    (motive := fun t => Registers t index ∧ (entryOf t index).seqNo = (entryOf s index).seqNo
      ∧ ∀ j, j ≠ index → t.indices.get j = s.indices.get j)
    ⟨h, rfl, fun _ _ => rfl⟩ ?_
  intro t p ⟨hr, hs, hj⟩ _
  obtain ⟨hr', hs', hj'⟩ := refreshRecord_registry hr p
  exact ⟨hr', hs'.trans hs, fun j hne => (hj' j hne).trans (hj j hne)⟩

/-- A change to an index leaves the registry entries of the others. -/
theorem get_indices_apply_ne (h : BelowCaps s) (c : Change) {j : String} (hj : j ≠ index) :
    (c.apply s index).indices.get j = s.indices.get j := by
  have hr := h.registers index
  cases c with
  | keep => rfl
  | put docId version source pending =>
    have hn : (nextSeqNo s index).2.indices.get j = s.indices.get j := by
      rw [get_indices_nextSeqNo hr, if_neg hj]
    simp only [Change.apply, putDocument]
    split
    · have hr' : ∀ r, Registers (saveDocument (nextSeqNo s index).2 (docKey index docId) r) index :=
        fun _ => registers_nextSeqNo hr
      rw [get_indices_countDocument (hr' _), if_neg hj]
      exact hn
    · exact hn
  | share docId source => rw [Change.apply, amendDocument_indices]
  | mark docId => rw [Change.apply, amendDocument_indices]
  | remove docId numbered =>
    have hd : (removeDocument s index docId).indices.get j = s.indices.get j := by
      have hr' : Registers (dropDocument s (docKey index docId)) index := hr
      rw [removeDocument, get_indices_countDocument hr', if_neg hj, dropDocument_indices]
    cases numbered with
    | false => exact hd
    | true =>
      rw [Change.apply, get_indices_nextSeqNo (registers_removeDocument hr docId), if_neg hj, hd]
  | refresh => exact (refreshIndex_registry hr).2.2 j hj
  | drop => exact Dict.get_erase_ne _ hj

/-- The sequence number an index gives out after a change to it. -/
theorem seqNo_apply (h : BelowCaps s) (c : Change) :
    (entryOf (c.apply s index) index).seqNo = c.nextSeqNo (entryOf s index).seqNo := by
  have hr := h.registers index
  cases c with
  | keep => rfl
  | put docId version source pending => rw [Change.apply, entryOf_putDocument h]; rfl
  | share docId source => rw [Change.apply, entryOf, amendDocument_indices]; rfl
  | mark docId => rw [Change.apply, entryOf, amendDocument_indices]; rfl
  | remove docId numbered =>
    cases numbered with
    | false => rw [Change.apply, entryOf_removeDocument hr]; rfl
    | true =>
      rw [Change.apply, entryOf_nextSeqNo (registers_removeDocument hr docId),
        entryOf_removeDocument hr]
      rfl
  | refresh => exact (refreshIndex_registry hr).2.1
  | drop =>
    have e : ((Change.drop).apply s index).indices.get index = none := Dict.get_erase_self _ _
    rw [entryOf, e]
    rfl

end Mockdr.Elastic
