import Mockdr.Elastic.Counter

/-!
# Near-real-time visibility

What a search reads of an index should be the documents that were live at its last refresh, changed
since then only by the writes and deletes that asked for a refresh themselves (`published`). The
code keeps one record a document, with a `_pending` and a `_deleted` mark, and no copy of what was
there before an unrefreshed write.

* `searchable` is what a search reads of a document and `live` what a get does;
  `mem_writtenDocuments_iff` connects the first to `_written_documents`.
* `Seamless` says of a request that what the code does to the record and what a search should read
  of it agree.
* `written_iff_published`: a search reads what it should at every moment of a run exactly when every
  request of the run is `Seamless`.
-/

namespace Mockdr.Elastic

variable {s : EsStore} {index docId : String}

/-! ## What is read of a document -/

/-- What a search reads of a record. -/
def searchedOf : Option DocRecord → Option Object
  | some record => if record.pending then none else some record.source
  | none => none

/-- What a get reads of a record. -/
def liveOf : Option DocRecord → Option Object
  | some record => if record.deleted then none else some record.source
  | none => none

/-- What a search reads of a document. -/
def searchable (s : EsStore) (index docId : String) : Option Object :=
  searchedOf (s.documents.get (docKey index docId))

/-- What a get reads of a document that a client wrote. -/
def live (s : EsStore) (index docId : String) : Option Object :=
  liveOf (s.documents.get (docKey index docId))

lemma searchedOf_settled (record : Option DocRecord) :
    searchedOf (record.bind DocRecord.settled) = liveOf record := by
  cases record with
  | none => rfl
  | some record =>
    rw [Option.bind_some, DocRecord.settled]
    by_cases hd : record.deleted <;> simp [hd, searchedOf, liveOf]

lemma Counted.get_eq_none (hc : Counted s index) (h : (entryOf s index).docs = 0) (docId : String) :
    s.documents.get (docKey index docId) = none := by
  cases hk : s.documents.get (docKey index docId) with
  | none => rfl
  | some record =>
    exfalso
    rw [Counted, h, eq_comm, Nat.cast_eq_zero, Dict.countP, List.countP_eq_zero] at hc
    have hm : docKey index docId ∈ s.documents.keys := by
      rw [Dict.mem_keys_iff, hk]
      rfl
    exact hc _ hm (by rw [idUnder_docKey]; rfl)

/-- `_written_documents` reads of an index what is searchable of it. -/
lemma mem_writtenDocuments_iff (hc : Counted s index) {source : Object} :
    (docId, source) ∈ writtenDocuments s index ↔ searchable s index docId = some source := by
  have hz : (entryOf s index).docs = 0 → searchable s index docId = none := by
    intro h
    rw [searchable, hc.get_eq_none h]
    rfl
  rw [writtenDocuments]
  cases he : s.indices.get index with
  | none => simp [hz (by rw [entryOf, he]; rfl)]
  | some entry =>
    dsimp only
    split_ifs with hd
    · simp [hz (by rw [entryOf_of_get he]; exact hd)]
    · rw [List.mem_filterMap, searchable]
      constructor
      · rintro ⟨⟨d, record⟩, hm, h⟩
        rw [mem_filed_iff] at hm
        dsimp only at h
        split_ifs at h with hp
        · cases h
          rw [hm, searchedOf, if_neg hp]
      · intro h
        cases hk : s.documents.get (docKey index docId) with
        | none => rw [hk] at h; cases h
        | some record =>
          rw [hk, searchedOf] at h
          split_ifs at h with hp
          · refine ⟨(docId, record), mem_filed_iff.2 hk, ?_⟩
            rw [if_neg hp]
            exact congrArg (fun x => x.map (docId, ·)) h

/-! ## What should be read -/

section

variable (py : Python) (painless : Painless)

/-- What a search should read of an index after a request: the live documents once it is refreshed,
    and else what it read before, but for a document that was written or deleted with a refresh. -/
def published (index : String) (s : EsStore) (before : String → Option Object) (r : Request) :
    String → Option Object :=
  match r with
  | .refresh => live s index
  | .deleteIndex => fun _ => none
  | r =>
    match r.docId with
    | some docId =>
      if r.refreshes && (answer py painless s index r).2.performed then
        Function.update before docId (live (stepOn py painless index s r) index docId)
      else before
    | none => before

/-- The code and what a search should read agree on a request. A write or delete that does not ask
    for a refresh must leave what a search reads of the document as it was: a pending record is read
    as none, so the document must not be searchable yet, and a record that is not pending is read at
    once. A script that reports no write must leave what is stored as it was, too. -/
def Seamless (index : String) (s : EsStore) (r : Request) : Prop :=
  match change py painless s index r with
  | .put docId _ source pending =>
    r.refreshes = true ∨ searchable s index docId = if pending then none else some source
  | .share docId source =>
    searchable s index docId = none ∨ searchable s index docId = some source
  | .remove docId _ => r.refreshes = true ∨ searchable s index docId = none
  | _ => True

end

lemma searchable_apply (h : BelowCaps s) (c : Change) :
    searchable (c.apply s index) index docId
      = searchedOf (c.atKey index (entryOf s index).seqNo (docKey index docId)
          (s.documents.get (docKey index docId))) := by
  rw [searchable, get_documents_apply (h.hasRoom _)]

lemma searchable_apply_update (h : BelowCaps s) {c : Change} {x : Option Object}
    (hself : searchable (c.apply s index) index docId = x)
    (hne : ∀ d, d ≠ docId → ∀ n record, c.atKey index n (docKey index d) record = record) :
    searchable (c.apply s index) index = Function.update (searchable s index) docId x := by
  funext d
  by_cases e : d = docId
  · rw [e, Function.update_self, hself]
  · rw [Function.update_of_ne e, searchable_apply h, hne d e]
    rfl

/-- A request that is about a document and asks for no refresh, or writes nothing, publishes
    nothing. -/
lemma published_of_not (py : Python) (painless : Painless) {r : Request}
    {before : String → Option Object} (hr : r ≠ .refresh) (hd : r ≠ .deleteIndex)
    (h : (r.refreshes && (answer py painless s index r).2.performed) = false) :
    published py painless index s before r = before := by
  cases r with
  | refresh => exact absurd rfl hr
  | deleteIndex => exact absurd rfl hd
  | _ => simp only [published, Request.docId, h, Bool.false_eq_true, if_false]

lemma published_of_performed (py : Python) (painless : Painless) {r : Request}
    {before : String → Option Object} (hd : r.docId = some docId)
    (h : (r.refreshes && (answer py painless s index r).2.performed) = true) :
    published py painless index s before r
      = Function.update before docId (live (stepOn py painless index s r) index docId) := by
  cases r with
  | refresh => cases hd
  | deleteIndex => cases hd
  | _ =>
    cases hd
    simp only [published, Request.docId, h, if_true]

lemma ne_refresh_of_docId {r : Request} (h : r.docId = some docId) : r ≠ .refresh := by
  intro e
  rw [e] at h
  cases h

lemma ne_deleteIndex_of_docId {r : Request} (h : r.docId = some docId) : r ≠ .deleteIndex := by
  intro e
  rw [e] at h
  cases h

lemma update_eq_published_iff (py : Python) (painless : Painless) {r : Request} {x : Option Object}
    (hd : r.docId = some docId) (hp : (answer py painless s index r).2.performed = true)
    (hx : r.refreshes = true → live (stepOn py painless index s r) index docId = x) :
    Function.update (searchable s index) docId x
        = published py painless index s (searchable s index) r
      ↔ r.refreshes = true ∨ searchable s index docId = x := by
  by_cases hr : r.refreshes = true
  · rw [published_of_performed py painless hd (by rw [hr, hp]; rfl), hx hr]
    simp [hr]
  · rw [Bool.not_eq_true] at hr
    rw [published_of_not py painless (ne_refresh_of_docId hd) (ne_deleteIndex_of_docId hd)
      (by rw [hr]; rfl), Function.update_eq_self_iff]
    simp [hr, eq_comm]

/-- One request: what a search reads afterwards is what it should exactly when the request is
    seamless. -/
lemma searchable_stepOn_iff (py : Python) (painless : Painless) (h : BelowCaps s)
    (hc : Counted s index) (r : Request) :
    searchable (stepOn py painless index s r) index
        = published py painless index s (searchable s index) r
      ↔ Seamless py painless index s r := by
  have hm := change_makes py painless s index r
  obtain ⟨hs, hp⟩ := answer_change py painless s index r
  have hstep : stepOn py painless index s r = (change py painless s index r).apply s index := hs
  have hother : ∀ {a b : String}, a ≠ b → docKey index a ≠ docKey index b :=
    fun hne e => hne (docKey_inj.1 e)
  rw [Seamless]
  revert hm hp hstep
  generalize change py painless s index r = c
  intro hm hp hstep
  rw [hstep]
  cases hm with
  | keep hr hd =>
    rw [iff_true]
    by_cases hdel : r = .deleteIndex
    · -- An index that is not there holds nothing to delete.
      subst hdel
      funext d
      have hz : (entryOf s index).docs = 0 := by
        rw [entryOf, hd rfl]
        rfl
      simp only [Change.apply, searchable, hc.get_eq_none hz]
      rfl
    · rw [published_of_not py painless hr hdel (by rw [hp]; exact Bool.and_false _)]
      rfl
  | @put _ docId version source pending hd hpend _ =>
    have hself : searchable ((Change.put docId version source pending).apply s index) index docId
        = if pending then none else some source := by
      rw [searchable_apply h, Change.atKey, if_pos rfl, searchedOf]
    rw [searchable_apply_update h hself
      (fun d hne n record => by rw [Change.atKey, if_neg (hother hne)])]
    refine update_eq_published_iff py painless hd hp ?_
    intro hr
    rw [hstep, live, get_documents_apply (h.hasRoom _), Change.atKey, if_pos rfl, hpend hr]
    rfl
  | @share _ docId source hd hk =>
    obtain ⟨record, hrec⟩ := Option.isSome_iff_exists.1 hk
    have hself : searchable ((Change.share docId source).apply s index) index docId
        = if record.pending then none else some source := by
      rw [searchable_apply h, Change.atKey, if_pos rfl, hrec]
      rfl
    rw [searchable_apply_update h hself
      (fun d hne n record => by rw [Change.atKey, if_neg (hother hne)]),
      published_of_not py painless (ne_refresh_of_docId hd) (ne_deleteIndex_of_docId hd)
        (by rw [hp]; exact Bool.and_false _), Function.update_eq_self_iff]
    have hbefore : searchable s index docId
        = if record.pending then none else some record.source := by
      rw [searchable, hrec]
      rfl
    simp only [hbefore]
    by_cases hpe : record.pending <;> simp [hpe, eq_comm]
  | @mark docId pre record _ hk hd =>
    rw [iff_true, published_of_not py painless (fun e => by cases e) (fun e => by cases e) rfl]
    funext d
    rw [searchable_apply h, Change.atKey]
    by_cases e : docKey index d = docKey index docId
    · rw [if_pos e, searchable, e, hk]
      rfl
    · rw [if_neg e]
      rfl
  | @remove _ docId numbered hd hk =>
    have hself : searchable ((Change.remove docId numbered).apply s index) index docId = none := by
      rw [searchable_apply h, Change.atKey, if_pos rfl]
      rfl
    rw [searchable_apply_update h hself
      (fun d hne n record => by rw [Change.atKey, if_neg (hother hne)])]
    refine update_eq_published_iff py painless hd hp ?_
    intro hr
    rw [hstep, live, get_documents_apply (h.hasRoom _), Change.atKey, if_pos rfl]
    rfl
  | refresh =>
    rw [iff_true]
    funext d
    rw [searchable_apply h, Change.atKey, idUnder_docKey, if_pos Option.isSome_some,
      searchedOf_settled]
    rfl
  | drop hreg =>
    rw [iff_true]
    funext d
    rw [searchable_apply h, Change.atKey, idUnder_docKey, if_pos Option.isSome_some]
    rfl

/-- What a search should read of an index after a run, from the start of the store. -/
def publishedAfter (py : Python) (painless : Painless) (index : String) (s : EsStore)
    (run : List Request) : String → Option Object :=
  (runFrom (specify (stepOn py painless index) (published py painless index))
    (s, fun _ => none) run).2

lemma counted_stepOn (py : Python) (painless : Painless) (h : BelowCaps s) (hc : Counted s index)
    (r : Request) : Counted (stepOn py painless index s r) index := by
  rw [stepOn, (answer_change py painless s index r).1]
  exact hc.apply_self h (change_makes py painless s index r).fits

/-- Near-real-time visibility: at every moment of a run of requests on an index, a search reads of
    it the documents that were live at its last refresh, changed only by the writes and deletes made
    with a refresh since, if and only if every request of the run is seamless. -/
theorem written_iff_published (py : Python) (painless : Painless) (index : String)
    (alerts endpoints : Dict String Object) (run : List Request)
    (hcaps : Along (stepOn py painless index) (fun s _ => BelowCaps s)
      (.seeded alerts endpoints) run) :
    (∀ pre, pre <+: run → ∀ docId source,
        (docId, source) ∈ writtenDocuments
            (runFrom (stepOn py painless index) (.seeded alerts endpoints) pre) index
          ↔ publishedAfter py painless index (.seeded alerts endpoints) pre docId = some source)
      ↔ Along (stepOn py painless index) (Seamless py painless index)
          (.seeded alerts endpoints) run := by
  have hstep : ∀ (s : EsStore) (r : Request), BelowCaps s → Counted s index →
      Counted (stepOn py painless index s r) index :=
    fun s r h hc => counted_stepOn py painless h hc r
  have h0 : Counted (.seeded alerts endpoints) index := rfl
  rw [← hcaps.congr (I := fun s => Counted s index) hstep
    (fun s r h hc => searchable_stepOn_iff py painless h hc r) h0,
    ← Along.tracks_iff (fun s => searchable s index)]
  apply forall_congr'
  intro pre
  apply imp_congr_right
  intro hpre
  have hc : Counted (runFrom (stepOn py painless index) (.seeded alerts endpoints) pre) index := by
    obtain ⟨post, rfl⟩ := hpre
    exact (Along.append_iff.1 hcaps).1.invariant (I := fun s => Counted s index) hstep h0
  simp only [mem_writtenDocuments_iff hc]
  constructor
  · intro h
    funext d
    exact Option.ext fun source => h d source
  · intro h d source
    rw [h]
    rfl

/-- A document written with a refresh, deleted without one and refreshed: a search reads it until
    the refresh. -/
theorem written_iff_published_delete :
    let run : List Request := [.index "1" [("x", .int 1)] true {}, .delete "1" false {}, .refresh]
    ∀ pre, pre <+: run → ∀ docId source,
      (docId, source) ∈ writtenDocuments
          (runFrom (stepOn asciiPython idleScript "a") (.seeded .empty .empty) pre) "a"
        ↔ publishedAfter asciiPython idleScript "a" (.seeded .empty .empty) pre docId
          = some source := by
  refine (written_iff_published asciiPython idleScript "a" .empty .empty
    [.index "1" [("x", .int 1)] true {}, .delete "1" false {}, .refresh] (by decide)).2 ?_
  exact ⟨.inl rfl, trivial, trivial, trivial⟩

/-- A searchable document overwritten without a refresh disappears from the search, where its old
    content should be read until the next one. -/
theorem overwritten_not_published :
    let run : List Request :=
      [.index "1" [("x", .int 1)] true {}, .index "1" [("x", .int 2)] false {}]
    let s := runFrom (stepOn asciiPython idleScript "a") (.seeded .empty .empty) run
    writtenDocuments s "a" = []
      ∧ publishedAfter asciiPython idleScript "a" (.seeded .empty .empty) run "1"
        = some [("x", .int 1)]
      ∧ ¬ ∀ docId source, (docId, source) ∈ writtenDocuments s "a"
          ↔ publishedAfter asciiPython idleScript "a" (.seeded .empty .empty) run docId
            = some source := by
  refine ⟨rfl, rfl, ?_⟩
  intro h
  exact absurd ((h "1" [("x", .int 1)]).2 rfl) List.not_mem_nil

end Mockdr.Elastic
