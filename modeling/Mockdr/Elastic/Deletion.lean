import Mockdr.Elastic.Concurrency

/-!
# Deletion

Once a document is deleted, every operation that looks at its id should treat it as absent until an
index operation writes it again (`TreatedAsAbsent`).

A delete without a refresh keeps the record under a `_deleted` mark that `document_exists`,
`es_update_doc` and `check_precondition` do not look at; and `es_get_doc` falls back on any record
of the index that carries the id in its own contents (`StandIn`). `deletion_final` says exactly what
is left of the law: the states it holds in are those where the record is gone and nothing stands in.
-/

namespace Mockdr.Elastic

variable {s : EsStore} {index docId : String}

/-- Every operation treats the document as absent; `seqNo` is the number it was deleted at. -/
structure TreatedAsAbsent (py : Python) (painless : Painless) (s : EsStore) (index docId : String)
    (seqNo : Int) : Prop where
  /-- a get reports `found: false` -/
  get : esGetDoc py s index docId = .ok none
  exists_false : documentExists s index docId = false
  /-- an update that brings nothing to create fails and leaves the store as it is -/
  update : ∀ body, upsertSource body = none →
    esUpdateDoc py painless s index docId body = (s, .error (.documentMissing index docId))
  /-- a second delete reports `not_found` and leaves the store as it is -/
  delete : ∀ asked, esDeleteDoc s index docId asked = (s, none)
  /-- a create succeeds, alone or in a bulk -/
  create : ∀ body asked, (createDoc py s index docId body asked).2.performed = true
    ∧ (bulkCreate s index docId body asked).2.performed = true
  /-- a write on the condition of the deleted document's number is refused -/
  conditional : ∀ term, checkPrecondition s index docId (some seqNo) (some term) ≠ .ok ()

/-- What a get of a document without a live record answers in its place: the index is not one it
    refuses, it is there, and one of the records it stands for carries the id. -/
def StandIn (py : Python) (s : EsStore) (index docId : String) : Prop :=
  namesSeveral py index = true ∨ (missingTarget py s index).isSome
    ∨ ∃ rec ∈ collection py s index, hitId py rec.source = docId

lemma esGetDoc_eq_none_iff {py : Python} (hk : s.documents.get (docKey index docId) = none) :
    esGetDoc py s index docId = .ok none ↔ ¬ StandIn py s index docId := by
  rw [esGetDoc, StandIn]
  cases namesSeveral py index with
  | true => simp
  | false =>
    simp only [Bool.false_eq_true, if_false, hk, resolveCollection, false_or]
    cases missingTarget py s index with
    | some missing => simp [bind, Except.bind]
    | none =>
      simp only [Option.isSome_none, Bool.false_eq_true, false_or]
      simp only [bind, Except.bind, pure, Except.pure]
      rw [Except.ok.injEq, Option.map_eq_none_iff, List.find?_eq_none]
      simp

/-- A document with no record is treated as absent exactly when nothing stands in for it. -/
lemma treatedAsAbsent_iff {py : Python} {painless : Painless} {seqNo : Int} (h0 : 0 ≤ seqNo)
    (hk : s.documents.get (docKey index docId) = none) :
    TreatedAsAbsent py painless s index docId seqNo ↔ ¬ StandIn py s index docId := by
  rw [← esGetDoc_eq_none_iff hk]
  constructor
  · intro h
    exact h.get
  · intro hget
    have hexists : documentExists s index docId = false := by rw [documentExists, hk]; rfl
    refine ⟨hget, hexists, ?_, ?_, ?_, ?_⟩
    · intro body hu
      simp only [esUpdateDoc, hk, hu]
    · intro asked
      simp only [esDeleteDoc, hk]
    · intro body asked
      have hw := (esIndexDoc_change s index docId body asked).2
      refine ⟨?_, ?_⟩
      · simp only [createDoc, hget]
        exact hw
      · simp only [bulkCreate, hexists]
        exact hw
    · intro term h
      have hs := (checkPrecondition_eq_ok_iff.1 h).1
      rw [seqNoOf, hk] at hs
      dsimp only at hs
      omega

lemma not_treatedAsAbsent {py : Python} {painless : Painless} {seqNo : Int}
    (hk : (s.documents.get (docKey index docId)).isSome) :
    ¬ TreatedAsAbsent py painless s index docId seqNo := by
  intro h
  have he := h.exists_false
  rw [documentExists, hk] at he
  cases he

section

variable {py : Python} {painless : Painless}

/-- A document that is gone stays gone until a request indexes it. -/
lemma get_eq_none_stepOn (h : BelowCaps s) {r : Request} (hr : ¬ r.indexes docId)
    (hk : s.documents.get (docKey index docId) = none) :
    (stepOn py painless index s r).documents.get (docKey index docId) = none := by
  have hm := change_makes py painless s index r
  rw [stepOn, (answer_change py painless s index r).1, get_documents_apply (h.hasRoom _), hk]
  revert hm
  generalize change py painless s index r = c
  intro hm
  cases hm with
  | keep => rfl
  | @put _ d version source pending _ _ hi =>
    rw [Change.atKey, if_neg]
    intro e
    rw [← docKey_inj.1 e, hk] at hi
    rcases hi with hi | hi
    · exact hr hi
    · cases hi
  | share => rw [Change.atKey]; split_ifs <;> rfl
  | mark => rw [Change.atKey]; split_ifs <;> rfl
  | remove => rw [Change.atKey]; split_ifs <;> rfl
  | refresh => rw [Change.atKey]; split_ifs <;> rfl
  | drop => rw [Change.atKey]; split_ifs <;> rfl

/-- A delete that is performed takes the record out if it asks for a refresh, and marks it if not.
    -/
lemma get_after_delete (h : BelowCaps s) {asked : Bool} {pre : Precondition}
    (hp : (answer py painless s index (.delete docId asked pre)).2.performed = true) :
    ∃ record, s.documents.get (docKey index docId) = some record ∧
      (stepOn py painless index s (.delete docId asked pre)).documents.get (docKey index docId)
        = if asked then none else some { record with deleted := true } := by
  obtain ⟨hs, hperf⟩ := answer_change py painless s index (.delete docId asked pre)
  rw [hperf, change] at hp
  rw [stepOn, hs, get_documents_apply (h.hasRoom _), change]
  cases hpre : pre.holds s index docId with
  | false =>
    rw [hpre] at hp
    cases hp
  | true =>
    rw [hpre, if_pos rfl] at hp
    rw [if_pos rfl]
    cases hk : s.documents.get (docKey index docId) with
    | none =>
      rw [planDelete, hk] at hp
      cases hp
    | some record =>
      refine ⟨record, rfl, ?_⟩
      rw [planDelete, hk] at hp ⊢
      cases hd : record.deleted with
      | true =>
        simp only [hd, if_true] at hp
        cases hp
      | false =>
        cases asked with
        | true => simp [Change.atKey, hd]
        | false => simp [Change.atKey, hd]

end

section

variable {py : Python} {painless : Painless}

/-- In every state a run reaches without indexing a document that is gone, the document is treated
    as absent exactly when nothing stands in for it. -/
lemma treatedAsAbsent_run_iff {seqNo : Int} {after : List Request} (h0 : 0 ≤ seqNo)
    (hk : s.documents.get (docKey index docId) = none)
    (hcaps : Along (stepOn py painless index) (fun s _ => BelowCaps s) s after)
    (hafter : ∀ r ∈ after, ¬ r.indexes docId) {mid : List Request} (hmid : mid <+: after) :
    TreatedAsAbsent py painless (runFrom (stepOn py painless index) s mid) index docId seqNo
      ↔ ¬ StandIn py (runFrom (stepOn py painless index) s mid) index docId := by
  obtain ⟨rest, rfl⟩ := hmid
  have hg : Along (stepOn py painless index) (fun s r => BelowCaps s ∧ ¬ r.indexes docId) s
      mid := by
    rw [Along.and_iff]
    exact ⟨(Along.append_iff.1 hcaps).1,
      .of_forall fun r hr => hafter r (List.mem_append_left rest hr)⟩
  have hgone :
      (runFrom (stepOn py painless index) s mid).documents.get (docKey index docId) = none :=
    hg.invariant (I := fun s => s.documents.get (docKey index docId) = none)
      (fun _ _ h hk => get_eq_none_stepOn h.1 h.2 hk) hk
  exact treatedAsAbsent_iff h0 hgone

/-- The document has no record, or one that is marked deleted. -/
def Buried (s : EsStore) (index docId : String) : Prop :=
  ∀ record, s.documents.get (docKey index docId) = some record → record.deleted = true

/-- A document stays buried while no request names it. -/
lemma Buried.stepOn (hb : Buried s index docId) (h : BelowCaps s) {r : Request}
    (hr : r.docId ≠ some docId) : Buried (stepOn py painless index s r) index docId := by
  have hm := change_makes py painless s index r
  intro record hk
  rw [Elastic.stepOn, (answer_change py painless s index r).1,
    get_documents_apply (h.hasRoom _)] at hk
  revert hm hk
  generalize change py painless s index r = c
  intro hm hk
  have hother : ∀ {d : String}, r.docId = some d → docKey index docId ≠ docKey index d := by
    intro d hd e
    rw [docKey_inj] at e
    exact hr (e ▸ hd)
  cases hm with
  | keep => exact hb record hk
  | put hd => rw [Change.atKey, if_neg (hother hd)] at hk; exact hb record hk
  | share hd => rw [Change.atKey, if_neg (hother hd)] at hk; exact hb record hk
  | mark => rw [Change.atKey, if_neg (hother rfl)] at hk; exact hb record hk
  | remove hd => rw [Change.atKey, if_neg (hother hd)] at hk; exact hb record hk
  | refresh =>
    rw [Change.atKey, idUnder_docKey, if_pos Option.isSome_some] at hk
    obtain ⟨record', hk', hs⟩ := Option.bind_eq_some_iff.1 hk
    rw [DocRecord.settled, hb record' hk', if_pos rfl] at hs
    cases hs
  | drop =>
    rw [Change.atKey, idUnder_docKey, if_pos Option.isSome_some] at hk
    cases hk

lemma Buried.get_refresh (hb : Buried s index docId) (h : BelowCaps s) :
    (Elastic.stepOn py painless index s .refresh).documents.get (docKey index docId) = none := by
  rw [Elastic.stepOn, (answer_change py painless s index .refresh).1,
    get_documents_apply (h.hasRoom _), change,
    Change.atKey, idUnder_docKey, if_pos Option.isSome_some, Option.bind_eq_none_iff]
  intro record hk
  rw [DocRecord.settled, hb record hk, if_pos rfl]

end

/-- Deletion is final until re-creation: after a delete of a document in a reachable store, in every
    state from there on that is reached without indexing it again the document is treated as absent,
    if and only if the delete asked for a refresh and nothing stands in for the document. And a
    delete without a refresh is final from the refresh of the index on, if nobody named the document
    before it. -/
theorem deletion_final (py : Python) (painless : Painless) (index docId : String)
    (alerts endpoints : Dict String Object) (before : List Request) (asked : Bool)
    (pre : Precondition) (after : List Request)
    (hcaps : Along (stepOn py painless index) (fun s _ => BelowCaps s)
      (.seeded alerts endpoints) (before ++ .delete docId asked pre :: after))
    (hdel : (answer py painless
      (runFrom (stepOn py painless index) (.seeded alerts endpoints) before)
      index (.delete docId asked pre)).2.performed = true)
    (hafter : ∀ r ∈ after, ¬ r.indexes docId) :
    let s := runFrom (stepOn py painless index) (.seeded alerts endpoints) before
    let t := stepOn py painless index s (.delete docId asked pre)
    ((∀ mid, mid <+: after → TreatedAsAbsent py painless (runFrom (stepOn py painless index) t mid)
          index docId (seqNoOf s index docId))
        ↔ asked = true
          ∧ ∀ mid, mid <+: after →
              ¬ StandIn py (runFrom (stepOn py painless index) t mid) index docId)
      ∧ ∀ quiet rest, after = quiet ++ .refresh :: rest → (∀ r ∈ quiet, r.docId ≠ some docId) →
          let u := runFrom (stepOn py painless index) t (quiet ++ [.refresh])
          ∀ mid, mid <+: rest →
            (TreatedAsAbsent py painless (runFrom (stepOn py painless index) u mid) index docId
                (seqNoOf s index docId)
              ↔ ¬ StandIn py (runFrom (stepOn py painless index) u mid) index docId) := by
  intro s t
  obtain ⟨hbefore, hs, hrest⟩ := Along.append_iff.1 hcaps
  have hn : Numbered s index :=
    hbefore.invariant (I := fun s => Numbered s index) (fun _ r h hn => hn.stepOn py painless h r)
      (numbered_seeded alerts endpoints index)
  obtain ⟨record, hk, ht⟩ := get_after_delete hs hdel
  have h0 : 0 ≤ seqNoOf s index docId := by
    rw [seqNoOf, hk]
    exact (hn.record hk).1
  refine ⟨?_, ?_⟩
  · cases asked with
    | true =>
      have hgone : t.documents.get (docKey index docId) = none := ht
      have hiff := fun mid (hmid : mid <+: after) =>
        treatedAsAbsent_run_iff h0 hgone hrest hafter hmid
      exact ⟨fun h => ⟨rfl, fun mid hmid => (hiff mid hmid).1 (h mid hmid)⟩,
        fun h mid hmid => (hiff mid hmid).2 (h.2 mid hmid)⟩
    | false =>
      -- Right after the delete the marked record is still seen.
      have hmarked : (t.documents.get (docKey index docId)).isSome := by rw [ht]; rfl
      refine ⟨fun h => absurd (h [] List.nil_prefix) (not_treatedAsAbsent hmarked), ?_⟩
      intro h
      cases h.1
  · intro quiet rest hsplit hquiet u mid hmid
    subst hsplit
    obtain ⟨hcq, hcr, hrest'⟩ := Along.append_iff.1 hrest
    have hb : Buried t index docId := by
      intro record' hk'
      have e := hk'.symm.trans ht
      cases asked with
      | true => cases e
      | false => cases e; rfl
    have hbq : Buried (runFrom (stepOn py painless index) t quiet) index docId := by
      have hg : Along (stepOn py painless index)
          (fun s r => BelowCaps s ∧ r.docId ≠ some docId) t quiet := by
        rw [Along.and_iff]
        exact ⟨hcq, .of_forall hquiet⟩
      exact hg.invariant (I := fun s => Buried s index docId) (fun _ _ h hb => hb.stepOn h.1 h.2) hb
    have hu : u = stepOn py painless index (runFrom (stepOn py painless index) t quiet) .refresh :=
      runFrom_append _ _ _ _
    have hgone : u.documents.get (docKey index docId) = none := by
      rw [hu]
      exact hbq.get_refresh hcr
    rw [← hu] at hrest'
    refine treatedAsAbsent_run_iff h0 hgone hrest' ?_ hmid
    intro r hr
    exact hafter r (List.mem_append_right quiet (List.mem_cons_of_mem _ hr))

/-- A document deleted with a refresh is treated as absent, and still is after a second delete. -/
theorem deletion_final_refreshed :
    let t := runFrom (stepOn asciiPython idleScript "a") (.seeded .empty .empty)
      [.index "1" [] true {}, .delete "1" true {}]
    ∀ mid, mid <+: [.delete "1" false {}] →
      TreatedAsAbsent asciiPython idleScript (runFrom (stepOn asciiPython idleScript "a") t mid)
        "a" "1" 0 := by
  intro t
  have hd := deletion_final asciiPython idleScript "a" "1" .empty .empty
    [.index "1" [] true {}] true
    {} [.delete "1" false {}] (by decide) rfl
    (fun r hr => by rw [List.mem_singleton.1 hr]; exact id)
  refine hd.1.2 ⟨rfl, ?_⟩
  have hstand : ¬ StandIn asciiPython t "a" "1" := by
    have hc : collection asciiPython t "a" = [] := rfl
    rintro (h | h | ⟨rec, hrec, -⟩)
    · cases h
    · cases h
    · rw [hc] at hrec
      cases hrec
  intro mid hmid
  rcases List.prefix_cons_iff.1 hmid with rfl | ⟨mid', rfl, hmid'⟩
  · exact hstand
  · rw [List.prefix_nil.1 hmid']
    exact hstand

/-- A document deleted without a refresh: it still exists, an update brings it back, and a write on
    the condition of its number is accepted. -/
theorem unrefreshed_delete_not_final :
    let t := runFrom (stepOn asciiPython idleScript "a") (.seeded .empty .empty)
      [.index "1" [] true {}, .delete "1" false {}]
    ¬ TreatedAsAbsent asciiPython idleScript t "a" "1" 0
      ∧ documentExists t "a" "1" = true
      ∧ checkPrecondition t "a" "1" (some 0) (some 1) = .ok () := by
  refine ⟨not_treatedAsAbsent rfl, rfl, rfl⟩

end Mockdr.Elastic
