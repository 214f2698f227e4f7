import Mockdr.Elastic.ByQuery

/-!
# A write by query writes what the query finds

* `WritesMatched`: a run wrote the documents that matched, where they are filed, each once.
* `Dealt` is the invariant of the walk: what it made of the records it dealt with so far.
* `by_query_exact`: a run writes what matched exactly when no document is matched twice, no script
  fails, and no index of the expression that is asked before the one a document is filed under holds
  a document of the same id (`FoundById`).
-/

namespace Mockdr.Elastic

/-! ## What a run should write -/

/-- The key of the document a record is, if a client wrote it. -/
def Doc.key (d : Doc) : Option String :=
  match d.home, d.given with
  | some name, some docId => some (docKey name docId)
  | _, _ => none

section

variable (py : Python) (painless : Painless) (delete : Bool) (script : ByQueryScript)

/-- A run wrote the documents that matched, where they are filed, each once, and no other: a delete
    removed each, and an update left of each what an update of it alone would, but for the sequence
    number. -/
structure WritesMatched (s : EsStore) (matched : List Doc) (run : ByQueryRun) : Prop where
  each : run.written = matched.filterMap Doc.key
  once : run.written.Nodup
  removed : delete = true → ∀ key ∈ run.written, run.store.documents.get key = none
  rewritten : delete = false → ∀ d ∈ matched, ∀ name docId, d.home = some name →
    d.given = some docId →
      (run.store.documents.get (docKey name docId)).map DocRecord.unnumbered
        = ((esUpdateDoc py painless s name docId script.update).1.documents.get
            (docKey name docId)).map DocRecord.unnumbered
  others : ∀ key, key ∉ run.written → run.store.documents.get key = s.documents.get key

/-- The script does not fail on a document, and, once the records before it are dealt with, none of
    the indices that are asked before its own holds a document of its id. -/
def TurnsUp (s : EsStore) (canonical : String) (before : List Doc) (d : Doc) : Prop :=
  ∀ name docId, d.home = some name → d.given = some docId →
    (delete = false → ∃ op, operationOn py painless script d.source = .ok op)
      ∧ ∀ n ∈ (concreteIndices py s canonical).takeWhile (· ≠ name),
          s.documents.get (docKey n docId) = none
            ∨ ∃ e ∈ before, e.key = some (docKey n docId)
              ∧ takesAway py painless delete script e.source

/-- No document is matched twice, and each turns up where it is filed. -/
structure FoundById (s : EsStore) (canonical : String) (matched : List Doc) : Prop where
  distinct : (matched.filterMap Doc.key).Nodup
  turns : ∀ before d after, matched = before ++ d :: after →
    TurnsUp py painless delete script s canonical before d

end

/-! ## The walk -/

/-- A record a query can match: one of the mock's own, or a document the store holds. -/
inductive Held (s : EsStore) : Doc → Prop
  | own (source : Object) : Held s ⟨⟨none, source⟩, none⟩
  | document {name docId : String} {record : DocRecord} (hr : (s.indices.get name).isSome)
      (hk : s.documents.get (docKey name docId) = some record) :
      Held s ⟨⟨some docId, record.source⟩, some name⟩

section

variable {py : Python} {painless : Painless} {delete : Bool} {script : ByQueryScript}
  {s t : EsStore} {canonical name docId key : String} {record : DocRecord} {pre docs : List Doc}

/-- The write of one of the mock's own records leaves the documents and the indices alone. -/
lemma byQueryOwned_frame (py : Python) (painless : Painless) (delete : Bool)
    (script : ByQueryScript) (s : EsStore) (source : Object) :
    (byQueryOwned py painless delete script s source).1.documents = s.documents
      ∧ (byQueryOwned py painless delete script s source).1.indices = s.indices := by
  have hstatus : ∀ ids status, (updateAlertStatus s ids status).1.documents = s.documents
      ∧ (updateAlertStatus s ids status).1.indices = s.indices := by
    intro ids status
    refine List.foldlRecOn (motive := fun r : EsStore × Nat =>
      r.1.documents = s.documents ∧ r.1.indices = s.indices) ids _ ⟨rfl, rfl⟩ ?_
    intro r hr id _
    dsimp only
    cases r.1.alerts.get id with
    | none => exact hr
    | some alert => exact hr
  rw [byQueryOwned]
  split_ifs
  · exact ⟨rfl, rfl⟩
  · dsimp only
    cases (painless script.source script.params source).outcome with
    | error _ => exact ⟨rfl, rfl⟩
    | ok _ =>
      dsimp only
      cases writtenStatus py (painless script.source script.params source).shared
          (painless script.source script.params source).document with
      | none => exact ⟨rfl, rfl⟩
      | some status => exact hstatus _ status

/-- What a walk made of the records it dealt with so far. -/
structure Dealt (py : Python) (painless : Painless) (delete : Bool) (script : ByQueryScript)
    (s : EsStore) (pre : List Doc) (t : EsStore) : Prop where
  names : SameNames s t
  each : ∀ e ∈ pre, ∀ name docId, e.home = some name → e.given = some docId →
    (t.documents.get (docKey name docId)).map DocRecord.unnumbered
      = ((byQueryWrite py painless delete script s name docId).1.documents.get
          (docKey name docId)).map DocRecord.unnumbered
  others : ∀ key, key ∉ pre.filterMap Doc.key → t.documents.get key = s.documents.get key

lemma Dealt.nil : Dealt py painless delete script s [] s :=
  ⟨.refl s, fun _ h => absurd h List.not_mem_nil, fun _ _ => rfl⟩

lemma Dealt.own (h : Dealt py painless delete script s pre t) (source : Object) :
    Dealt py painless delete script s (pre ++ [⟨⟨none, source⟩, none⟩])
      (byQueryOwned py painless delete script t source).1 := by
  obtain ⟨hd, hi⟩ := byQueryOwned_frame py painless delete script t source
  refine ⟨h.names.trans (.of_indices hi), ?_, ?_⟩
  · intro e he name docId hn hg
    rcases List.mem_append.1 he with he | he
    · rw [hd]
      exact h.each e he name docId hn hg
    · rw [List.mem_singleton.1 he] at hn
      cases hn
  · intro key hkey
    rw [hd]
    apply h.others
    simpa [Doc.key] using hkey

lemma Dealt.document (h : Dealt py painless delete script s pre t)
    (hr : (s.indices.get name).isSome) (hk : s.documents.get (docKey name docId) = some record)
    (hnew : docKey name docId ∉ pre.filterMap Doc.key) :
    Dealt py painless delete script s (pre ++ [⟨⟨some docId, record.source⟩, some name⟩])
      (byQueryWrite py painless delete script t name docId).1 := by
  have hsame := h.others _ hnew
  have hkt := hsame.trans hk
  refine ⟨h.names.trans (sameNames_byQueryWrite (h.names.registered hr) hkt), ?_, ?_⟩
  · intro e he n i hn hi
    rcases List.mem_append.1 he with he | he
    · have hne : docKey n i ≠ docKey name docId := by
        intro heq
        refine hnew (List.mem_filterMap.2 ⟨e, he, ?_⟩)
        rw [Doc.key, hn, hi, ← heq]
      rw [get_byQueryWrite_ne hkt hne]
      exact h.each e he n i hn hi
    · rw [List.mem_singleton.1 he] at hn hi
      cases hn
      cases hi
      exact byQueryWrite_unnumbered hk hsame
  · intro key hkey
    rw [List.filterMap_append, List.mem_append, not_or] at hkey
    rw [get_byQueryWrite_ne hkt (fun e => hkey.2 (by simp [Doc.key, e]))]
    exact h.others key hkey.1

lemma Dealt.get_eq_none_iff_takesAway (h : Dealt py painless delete script s pre t)
    (hk : s.documents.get (docKey name docId) = some record)
    (he : (⟨⟨some docId, record.source⟩, some name⟩ : Doc) ∈ pre) :
    t.documents.get (docKey name docId) = none
      ↔ takesAway py painless delete script record.source := by
  rw [← get_byQueryWrite_eq_none_iff hk, ← Option.map_eq_none_iff (f := DocRecord.unnumbered),
    h.each _ he name docId rfl rfl, Option.map_eq_none_iff]

/-- Nothing is under a key when there was nothing, or a document was taken away from there. -/
lemma Dealt.get_eq_none_iff (h : Dealt py painless delete script s pre t)
    (hpre : ∀ e ∈ pre, Held s e) :
    t.documents.get key = none
      ↔ s.documents.get key = none
        ∨ ∃ e ∈ pre, e.key = some key ∧ takesAway py painless delete script e.source := by
  constructor
  · intro ht
    by_cases hkey : key ∈ pre.filterMap Doc.key
    · obtain ⟨e, he, hek⟩ := List.mem_filterMap.1 hkey
      refine .inr ⟨e, he, hek, ?_⟩
      cases hpre e he with
      | own source => cases hek
      | document hr hk =>
        cases hek
        exact (h.get_eq_none_iff_takesAway hk he).1 ht
    · exact .inl (h.others key hkey ▸ ht)
  · rintro (hs | ⟨e, he, hek, htake⟩)
    · rw [h.others key ?_, hs]
      intro hkey
      obtain ⟨e, he, hek⟩ := List.mem_filterMap.1 hkey
      cases hpre e he with
      | own source => cases hek
      | document hr hk =>
        cases hek
        rw [hs] at hk
        cases hk
    · cases hpre e he with
      | own source => cases hek
      | document hr hk =>
        cases hek
        exact (h.get_eq_none_iff_takesAway hk he).2 htake

/-- A walk that looks every document up where it is filed, and fails on none. -/
def WalksHome (py : Python) (painless : Painless) (delete : Bool) (script : ByQueryScript)
    (canonical : String) : EsStore → List Doc → Prop
  | _, [] => True
  | s, d :: rest =>
    match d.home, d.given with
    | some name, some docId =>
      homeIndex py s canonical docId = name
        ∧ (∃ n, (byQueryWrite py painless delete script s name docId).2 = .ok n)
        ∧ WalksHome py painless delete script canonical
          (byQueryWrite py painless delete script s name docId).1 rest
    | _, _ =>
      WalksHome py painless delete script canonical
        (byQueryOwned py painless delete script s d.source).1 rest

lemma docKey_left_inj {a b docId : String} : docKey a docId = docKey b docId ↔ a = b := by
  constructor
  · intro h
    have hl : a.toList ++ ':' :: docId.toList = b.toList ++ ':' :: docId.toList := by
      simpa [docKey, String.toList_append] using congrArg String.toList h
    exact String.ext (List.append_cancel_right hl)
  · intro h
    rw [h]

lemma byQueryLoop_own (source : Object) :
    (byQueryLoop py painless delete script canonical t (⟨⟨none, source⟩, none⟩ :: docs)).written
        = (byQueryLoop py painless delete script canonical
            (byQueryOwned py painless delete script t source).1 docs).written
      ∧ (byQueryLoop py painless delete script canonical t (⟨⟨none, source⟩, none⟩ :: docs)).store
        = (byQueryLoop py painless delete script canonical
            (byQueryOwned py painless delete script t source).1 docs).store := by
  rw [byQueryLoop]
  dsimp only
  cases (byQueryOwned py painless delete script t source).2 with
  | none => exact ⟨rfl, rfl⟩
  | some n => exact ⟨rfl, rfl⟩

/-- A document whose write succeeds, in a walk. -/
lemma byQueryLoop_document {source : Object} {n : Nat × Nat}
    (h : (byQueryWrite py painless delete script t (homeIndex py t canonical docId) docId).2
      = .ok n) :
    (byQueryLoop py painless delete script canonical t
            (⟨⟨some docId, source⟩, some name⟩ :: docs)).written
        = docKey (homeIndex py t canonical docId) docId
          :: (byQueryLoop py painless delete script canonical
              (byQueryWrite py painless delete script t (homeIndex py t canonical docId) docId).1
              docs).written
      ∧ (byQueryLoop py painless delete script canonical t
            (⟨⟨some docId, source⟩, some name⟩ :: docs)).store
        = (byQueryLoop py painless delete script canonical
            (byQueryWrite py painless delete script t (homeIndex py t canonical docId) docId).1
            docs).store := by
  rw [byQueryLoop]
  dsimp only
  generalize byQueryWrite py painless delete script t (homeIndex py t canonical docId) docId = w
    at h
  obtain ⟨u, r⟩ := w
  obtain rfl : r = .ok n := h
  exact ⟨rfl, rfl⟩

lemma byQueryLoop_failed {source : Object} {e : EsError}
    (h : (byQueryWrite py painless delete script t (homeIndex py t canonical docId) docId).2
      = .error e) :
    (byQueryLoop py painless delete script canonical t
      (⟨⟨some docId, source⟩, some name⟩ :: docs)).written = [] := by
  rw [byQueryLoop]
  dsimp only
  generalize byQueryWrite py painless delete script t (homeIndex py t canonical docId) docId = w
    at h
  obtain ⟨u, r⟩ := w
  obtain rfl : r = .error e := h
  rfl

/-- A walk writes the keys of the documents it is given exactly when it looks each up where it is
    filed. -/
lemma byQueryLoop_written_iff (hdocs : ∀ d ∈ docs, Held s d) :
    (byQueryLoop py painless delete script canonical t docs).written = docs.filterMap Doc.key
      ↔ WalksHome py painless delete script canonical t docs := by
  induction docs generalizing t with
  | nil => exact ⟨fun _ => trivial, fun _ => rfl⟩
  | cons d docs ih =>
    have hrest := fun u => @ih u fun e he => hdocs e (List.mem_cons_of_mem d he)
    cases hdocs d List.mem_cons_self with
    | own source =>
      rw [byQueryLoop_own source |>.1]
      exact hrest _
    | @document name docId record hr hk =>
      rw [WalksHome, List.filterMap_cons]
      dsimp only [Doc.key]
      cases hw : (byQueryWrite py painless delete script t (homeIndex py t canonical docId)
        docId).2 with
      | error e =>
        rw [byQueryLoop_failed hw]
        constructor
        · rintro ⟨⟩
        · rintro ⟨hhome, ⟨n, hn⟩, -⟩
          rw [hhome, hn] at hw
          cases hw
      | ok n =>
        rw [(byQueryLoop_document hw).1, List.cons_eq_cons, docKey_left_inj]
        constructor
        · rintro ⟨hhome, htail⟩
          rw [hhome] at hw htail
          exact ⟨hhome, ⟨n, hw⟩, (hrest _).1 htail⟩
        · rintro ⟨hhome, -, htail⟩
          rw [hhome]
          exact ⟨rfl, (hrest _).2 htail⟩

lemma key_notMem {d : Doc} (hnd : ((pre ++ [d] ++ docs).filterMap Doc.key).Nodup)
    (hd : d.key = some key) : key ∉ pre.filterMap Doc.key := by
  rw [List.filterMap_append, List.filterMap_append] at hnd
  have hdisj := List.disjoint_of_nodup_append hnd.of_append_left
  intro hmem
  exact hdisj hmem (List.mem_filterMap.2 ⟨d, List.mem_singleton_self d, hd⟩)

/-- A walk that looks every document up where it is filed deals with all of them. -/
lemma Dealt.byQueryLoop (h : Dealt py painless delete script s pre t)
    (hdocs : ∀ d ∈ docs, Held s d) (hnd : ((pre ++ docs).filterMap Doc.key).Nodup)
    (hw : WalksHome py painless delete script canonical t docs) :
    Dealt py painless delete script s (pre ++ docs)
      (byQueryLoop py painless delete script canonical t docs).store := by
  induction docs generalizing pre t with
  | nil =>
    rw [List.append_nil]
    exact h
  | cons d docs ih =>
    rw [List.append_cons] at hnd ⊢
    have hrest : ∀ e ∈ docs, Held s e := fun e he => hdocs e (List.mem_cons_of_mem d he)
    cases hdocs d List.mem_cons_self with
    | own source =>
      rw [(byQueryLoop_own source).2]
      exact ih (h.own source) hrest hnd hw
    | @document name docId record hr hk =>
      obtain ⟨hhome, ⟨n, hn⟩, hwalk⟩ := hw
      have hn' := hn
      rw [← hhome] at hn'
      rw [(byQueryLoop_document hn').2, hhome]
      exact ih (h.document hr hk (key_notMem hnd rfl)) hrest hnd hwalk

lemma forall_place_cons_iff {α : Type} {P : List α → α → Prop} {pre l : List α} {x : α} :
    (∀ mid d post, x :: l = mid ++ d :: post → P (pre ++ mid) d)
      ↔ P pre x ∧ ∀ mid d post, l = mid ++ d :: post → P (pre ++ [x] ++ mid) d := by
  constructor
  · intro h
    refine ⟨by simpa using h [] x l rfl, ?_⟩
    intro mid d post hl
    rw [List.append_assoc]
    exact h (x :: mid) d post (by rw [hl]; rfl)
  · rintro ⟨hx, hl⟩ mid d post heq
    cases mid with
    | nil =>
      cases heq
      simpa using hx
    | cons y mid =>
      cases heq
      simpa using hl mid d post rfl

lemma Dealt.turnsUp_iff (h : Dealt py painless delete script s pre t) (hpre : ∀ e ∈ pre, Held s e)
    (hm : name ∈ concreteIndices py s canonical)
    (hk : s.documents.get (docKey name docId) = some record)
    (hnew : docKey name docId ∉ pre.filterMap Doc.key) :
    homeIndex py t canonical docId = name
        ∧ (∃ n, (byQueryWrite py painless delete script t name docId).2 = .ok n)
      ↔ TurnsUp py painless delete script s canonical pre
          ⟨⟨some docId, record.source⟩, some name⟩ := by
  have hkt := (h.others _ hnew).trans hk
  have hnames := h.names.concreteIndices py canonical
  rw [homeIndex_eq_iff (by rwa [hnames]) (by rw [hkt]; rfl), byQueryWrite_ok_iff hkt, hnames]
  simp only [h.get_eq_none_iff hpre]
  constructor
  · rintro ⟨hhome, hrun⟩ n i hn hi
    cases hn
    cases hi
    exact ⟨hrun, hhome⟩
  · intro hturn
    obtain ⟨hrun, hhome⟩ := hturn name docId rfl rfl
    exact ⟨hhome, hrun⟩

/-- A walk looks every document up where it is filed when each turns up there. -/
lemma Dealt.walksHome_iff (h : Dealt py painless delete script s pre t)
    (hpre : ∀ e ∈ pre, Held s e) (hdocs : ∀ d ∈ docs, Held s d)
    (hm : ∀ d ∈ docs, ∀ name, d.home = some name → name ∈ concreteIndices py s canonical)
    (hnd : ((pre ++ docs).filterMap Doc.key).Nodup) :
    WalksHome py painless delete script canonical t docs
      ↔ ∀ mid d post, docs = mid ++ d :: post →
          TurnsUp py painless delete script s canonical (pre ++ mid) d := by
  induction docs generalizing pre t with
  | nil =>
    refine ⟨fun _ mid d post hl => ?_, fun _ => trivial⟩
    exact absurd hl.symm (by simp)
  | cons d docs ih =>
    rw [List.append_cons] at hnd
    have hheld := hdocs d List.mem_cons_self
    have hpre' : ∀ e ∈ pre ++ [d], Held s e := by
      intro e he
      rcases List.mem_append.1 he with he | he
      · exact hpre e he
      · rw [List.mem_singleton.1 he]
        exact hheld
    have hrest := fun u (hu : Dealt py painless delete script s (pre ++ [d]) u) =>
      ih hu hpre' (fun e he => hdocs e (List.mem_cons_of_mem d he))
        (fun e he => hm e (List.mem_cons_of_mem d he)) hnd
    rw [forall_place_cons_iff]
    cases hheld with
    | own source =>
      have hturn : TurnsUp py painless delete script s canonical pre ⟨⟨none, source⟩, none⟩ := by
        rintro name docId ⟨⟩
      rw [WalksHome]
      dsimp only
      rw [hrest _ (h.own source)]
      exact (and_iff_right hturn).symm
    | document hr hk =>
      have hnew := key_notMem hnd rfl
      rw [← h.turnsUp_iff hpre (hm _ List.mem_cons_self _ rfl) hk hnew,
        ← hrest _ (h.document hr hk hnew), and_assoc]
      rfl

/-- A walk over records the store holds writes what matched exactly when each is found by its id. -/
lemma writesMatched_byQueryLoop_iff (hdocs : ∀ d ∈ docs, Held s d)
    (hm : ∀ d ∈ docs, ∀ name, d.home = some name → name ∈ concreteIndices py s canonical) :
    WritesMatched py painless delete script s docs
        (byQueryLoop py painless delete script canonical s docs)
      ↔ FoundById py painless delete script s canonical docs := by
  have hstart : Dealt py painless delete script s [] s := .nil
  have hwalk := fun hnd => hstart.walksHome_iff (fun _ h => absurd h List.not_mem_nil) hdocs hm hnd
  constructor
  · intro h
    have hnd : (docs.filterMap Doc.key).Nodup := h.each ▸ h.once
    exact ⟨hnd, (hwalk hnd).1 ((byQueryLoop_written_iff hdocs).1 h.each)⟩
  · intro h
    have hhome := (hwalk h.distinct).2 h.turns
    have heach := (byQueryLoop_written_iff hdocs).2 hhome
    have hdealt := hstart.byQueryLoop hdocs h.distinct hhome
    refine ⟨heach, heach ▸ h.distinct, ?_, ?_, ?_⟩
    · intro hdelete key hkey
      obtain ⟨d, hd, hdk⟩ := List.mem_filterMap.1 (heach ▸ hkey)
      cases hdocs d hd with
      | own source => cases hdk
      | document hr hk =>
        cases hdk
        exact (hdealt.get_eq_none_iff_takesAway hk hd).2 (.inl hdelete)
    · rintro rfl d hd name docId hn hi
      exact hdealt.each d hd name docId hn hi
    · intro key hkey
      rw [heach] at hkey
      exact hdealt.others key hkey

end

/-! ## The search of the same query -/

/-- The query of a body, as the body of a search. -/
def queryOf (body : Object) : Object := body.filter fun member => member.1 = "query"

lemma get_queryOf (body : Object) (key : String) :
    (queryOf body).get key = if key = "query" then body.get "query" else .null := by
  have hget : Assoc.get key (queryOf body)
      = if key = "query" then Assoc.get "query" body else none := by
    induction body with
    | nil => split_ifs <;> rfl
    | cons member body ih =>
      obtain ⟨k, v⟩ := member
      rw [queryOf, List.filter_cons]
      by_cases hk : k = "query"
      · rw [if_pos (by simpa using hk), Assoc.get_cons, Assoc.get_cons, if_pos hk, ← queryOf, ih,
          hk]
        by_cases hkey : key = "query"
        · rw [if_pos hkey.symm, if_pos hkey]
        · rw [if_neg (Ne.symm hkey), if_neg hkey, if_neg hkey]
      · rw [if_neg (by simpa using hk), Assoc.get_cons, if_neg hk, ← queryOf, ih]
  rw [Object.get, hget]
  split_ifs <;> rfl

section

variable {py : Python} {engine : Engine} {s : EsStore} {index : String} {body : Object}

/-- A search for the query pages over the records the by-query walk is given. -/
lemma matchedDocs_of_matching {leaf : Leaf} {records : List Doc} {matched : List Placed}
    (h : matching py engine leaf (queryOf body) (docPositions records) = .ok matched) :
    matchedDocs py leaf (body.get "query") records = .ok (matched.map Placed.toDoc) := by
  obtain ⟨filtered, hfilter, hsort⟩ := bind_eq_ok_iff.1 h
  -- There is no sort, and so nothing to sort by.
  have hnosort : (queryOf body).get "sort" = .null := get_queryOf body "sort"
  rw [sortEsRecords, hnosort] at hsort
  obtain rfl : filtered = matched := Except.ok.inj hsort
  rw [filterEsRecords, get_queryOf, if_pos rfl] at hfilter
  rw [matchedDocs]
  by_cases htrue : (body.get "query").truthy = true
  · rw [htrue, Bool.not_true, if_neg Bool.false_ne_true] at hfilter ⊢
    obtain ⟨p, hp, hkeep⟩ := bind_eq_ok_iff.1 hfilter
    obtain rfl : keep p (docPositions records) = filtered := Except.ok.inj hkeep
    refine bind_eq_ok_iff.2 ⟨p, hp, ?_⟩
    conv_lhs => rw [← docPositions_toDoc records]
    rw [List.filter_map]
    rfl
  · rw [Bool.not_eq_true] at htrue
    rw [htrue, Bool.not_false, if_pos rfl] at hfilter ⊢
    obtain rfl : docPositions records = filtered := Except.ok.inj hfilter
    rw [docPositions_toDoc]

lemma mem_of_matchedDocs {leaf : Leaf} {clause : Json} {records matched : List Doc} {d : Doc}
    (h : matchedDocs py leaf clause records = .ok matched) (hd : d ∈ matched) : d ∈ records := by
  rw [matchedDocs] at h
  split_ifs at h
  · exact Except.ok.inj h ▸ hd
  · obtain ⟨p, -, hp⟩ := bind_eq_ok_iff.1 h
    rw [← Except.ok.inj hp] at hd
    exact List.mem_of_mem_filter hd

lemma queryClause_of_queryOf {clause : Json} (h : queryClause engine (queryOf body) = .ok clause) :
    queryClause engine body = .ok clause := by
  rw [queryClause, get_queryOf, if_pos rfl] at h
  rw [queryClause]
  split at h
  · cases h
  · exact h

/-- A record an expression stands for is held by the store. -/
lemma held_of_mem_docsOf {d : Doc} (hd : d ∈ docsOf py s index) : Held s d := by
  rw [docsOf, List.mem_append] at hd
  rcases hd with hd | hd
  · obtain ⟨r, hr, rfl⟩ := List.mem_map.1 hd
    have hgiven : r.given = none := by
      rw [seededRecords, List.mem_append] at hr
      rcases hr with hr | hr
      · split_ifs at hr
        · obtain ⟨p, -, rfl⟩ := List.mem_map.1 hr
          rfl
        · cases hr
      · split_ifs at hr
        · obtain ⟨p, -, rfl⟩ := List.mem_map.1 hr
          rfl
        · cases hr
    obtain ⟨given, source⟩ := r
    cases hgiven
    exact .own source
  · obtain ⟨name, -, hd⟩ := List.mem_flatMap.1 hd
    obtain ⟨⟨docId, source⟩, hp, rfl⟩ := List.mem_map.1 hd
    rw [writtenDocuments] at hp
    cases hreg : s.indices.get name with
    | none =>
      rw [hreg] at hp
      cases hp
    | some entry =>
      rw [hreg] at hp
      dsimp only at hp
      split_ifs at hp
      · cases hp
      · obtain ⟨⟨i, record⟩, hfiled, hrec⟩ := List.mem_filterMap.1 hp
        dsimp only at hrec
        split_ifs at hrec
        cases hrec
        exact .document (by rw [hreg]; rfl) (mem_filed_iff.1 hfiled)

/-- Two documents of one id, `a/1` and `b/1`, of which the second has an `x`. -/
def oneIdTwice : EsStore :=
  (esIndexDoc (esIndexDoc (.seeded .empty .empty) "a" "1" [] true).1 "b" "1" [("x", .int 1)] true).1

/-- The query for the documents that have an `x`. -/
def whereX : Object := [("query", .dict [("exists", .dict [("field", .str "x")])])]

end

end Mockdr.Elastic
