import Mockdr.Elastic.Counter

/-!
# Optimistic concurrency

A client reads a document (`es_get_doc`), and later writes it on the condition that it still carries
the sequence number and primary term of the read (`check_precondition`). The write should be
accepted exactly when nobody wrote or deleted the document in between.

* `Numbered`: stored sequence numbers are below the one the index gives out next, so that a write is
  never filed under a number the document carried before.
* `es_get_doc` answers sequence number 0 whatever is stored, and a delete without a refresh leaves
  the stored number in place. `accepted_iff_quiet` is the law for the reads of a document stored
  under 0, over runs in which no delete of it leaves its record behind, and that it fails for every
  other read.
-/

namespace Mockdr.Elastic

variable {s : EsStore} {index docId : String}

/-! ## Sequence numbers -/

/-- The sequence numbers of an index start at 0 and are taken in order. -/
structure Numbered (s : EsStore) (index : String) : Prop where
  next : 0 ≤ (entryOf s index).seqNo
  record : ∀ {docId record}, s.documents.get (docKey index docId) = some record →
    0 ≤ record.seqNo ∧ record.seqNo < (entryOf s index).seqNo

lemma numbered_seeded (alerts endpoints : Dict String Object) (index : String) :
    Numbered (.seeded alerts endpoints) index :=
  ⟨le_refl 0, fun h => by cases h⟩

lemma seqNo_of_settled {record record' : DocRecord} (h : record.settled = some record') :
    record'.seqNo = record.seqNo := by
  rw [DocRecord.settled] at h
  split_ifs at h
  cases h
  rfl

/-- A record is left with the number it had, or is filed under the next one. -/
lemma Change.seqNo_atKey {c : Change} {n : Int} {key : String} {record : Option DocRecord}
    {record' : DocRecord} (h : c.atKey index n key record = some record') :
    (∃ r, record = some r ∧ record'.seqNo = r.seqNo)
      ∨ record'.seqNo = n ∧ c.nextSeqNo n = n + 1 := by
  have hmap : ∀ f : DocRecord → DocRecord, record.map f = some record' →
      (∀ r, (f r).seqNo = r.seqNo) → ∃ r, record = some r ∧ record'.seqNo = r.seqNo := by
    intro f hm hf
    obtain ⟨r, hr, e⟩ := Option.map_eq_some_iff.1 hm
    exact ⟨r, hr, by rw [← e, hf]⟩
  cases c with
  | keep => exact .inl ⟨record', h, rfl⟩
  | put docId version source pending =>
    rw [Change.atKey] at h
    split_ifs at h
    · cases h
      exact .inr ⟨rfl, rfl⟩
    · exact .inl ⟨record', h, rfl⟩
  | share docId source =>
    rw [Change.atKey] at h
    split_ifs at h
    · exact .inl (hmap _ h (fun _ => rfl))
    · exact .inl ⟨record', h, rfl⟩
  | mark docId =>
    rw [Change.atKey] at h
    split_ifs at h
    · exact .inl (hmap _ h (fun _ => rfl))
    · exact .inl ⟨record', h, rfl⟩
  | remove docId numbered =>
    rw [Change.atKey] at h
    split_ifs at h
    exact .inl ⟨record', h, rfl⟩
  | refresh =>
    rw [Change.atKey] at h
    split_ifs at h
    · obtain ⟨r, hr, e⟩ := Option.bind_eq_some_iff.1 h
      exact .inl ⟨r, hr, seqNo_of_settled e⟩
    · exact .inl ⟨record', h, rfl⟩
  | drop =>
    rw [Change.atKey] at h
    split_ifs at h
    exact .inl ⟨record', h, rfl⟩

lemma Change.le_nextSeqNo (c : Change) (hc : c ≠ .drop) (n : Int) : n ≤ c.nextSeqNo n := by
  cases c with
  | drop => exact absurd rfl hc
  | put docId version source pending => simp [Change.nextSeqNo]
  | remove docId numbered => cases numbered <;> simp [Change.nextSeqNo]
  | _ => exact le_refl n

/-- A change keeps the numbers of an index in order. -/
lemma Numbered.apply (hn : Numbered s index) (h : BelowCaps s) (c : Change) :
    Numbered (c.apply s index) index := by
  by_cases hd : c = .drop
  · subst hd
    refine ⟨?_, ?_⟩
    · rw [seqNo_apply h]
      exact le_refl 0
    · intro docId record hk
      rw [get_documents_apply (h.hasRoom _), Change.atKey, idUnder_docKey,
        if_pos Option.isSome_some] at hk
      cases hk
  · have hle := c.le_nextSeqNo hd (entryOf s index).seqNo
    refine ⟨?_, ?_⟩
    · rw [seqNo_apply h]
      exact le_trans hn.next hle
    · intro docId record hk
      rw [get_documents_apply (h.hasRoom _)] at hk
      rw [seqNo_apply h]
      rcases Change.seqNo_atKey hk with ⟨r, hr, e⟩ | ⟨e, hnext⟩
      · have hb := hn.record hr
        rw [e]
        exact ⟨hb.1, lt_of_lt_of_le hb.2 hle⟩
      · rw [e, hnext]
        exact ⟨hn.next, lt_add_one _⟩

lemma Numbered.stepOn (py : Python) (painless : Painless) (hn : Numbered s index) (h : BelowCaps s)
    (r : Request) : Numbered (stepOn py painless index s r) index := by
  rw [Elastic.stepOn, (answer_change py painless s index r).1]
  exact hn.apply h _

/-! ## Between a read and a conditional write -/

section

variable (py : Python) (painless : Painless)

/-- A request does not write or delete the document. -/
def Quiet (index docId : String) (s : EsStore) (r : Request) : Prop :=
  r.docId = some docId → (answer py painless s index r).2.performed = false

end

/-- A read or a write of one document, which does not delete the given one without a refresh. -/
def Ordinary (index docId : String) (s : EsStore) (r : Request) : Prop :=
  BelowCaps s ∧ r ≠ .refresh ∧ r ≠ .deleteIndex
    ∧ ∀ pre, r = .delete docId false pre → pre.holds s index docId = true →
        ∀ record, s.documents.get (docKey index docId) = some record → record.deleted = true

/-- The document is stored under number 0. -/
def AtStart (s : EsStore) (index docId : String) : Prop :=
  ∃ record, s.documents.get (docKey index docId) = some record ∧ record.seqNo = 0

/-- The document has left number 0 for good. -/
def Moved (s : EsStore) (index docId : String) : Prop :=
  0 < (entryOf s index).seqNo
    ∧ ∀ record, s.documents.get (docKey index docId) = some record → 0 < record.seqNo

/-- A conditional write is accepted when the document is there under the number and term it names.
    -/
lemma checkPrecondition_eq_ok_iff {n term : Int} :
    checkPrecondition s index docId (some n) (some term) = .ok ()
      ↔ seqNoOf s index docId = n ∧ (if documentExists s index docId then 1 else 0) = term := by
  rw [checkPrecondition]
  by_cases h : seqNoOf s index docId ≠ n ∨ (if documentExists s index docId then 1 else 0) ≠ term
  · rw [if_pos h]
    constructor
    · intro e
      cases e
    · intro ⟨h1, h2⟩
      rcases h with h | h
      · exact absurd h1 h
      · exact absurd h2 h
  · rw [if_neg h]
    rw [not_or, not_not, not_not] at h
    exact ⟨fun _ => h, fun _ => rfl⟩

/-- What a get answers is accepted exactly while the document is stored under number 0. -/
lemma accepted_iff_atStart {py : Python} {t : EsStore} {g : GetResult}
    (hread : esGetDoc py s index docId = .ok (some g)) :
    checkPrecondition t index docId (some g.seqNo) (some g.primaryTerm) = .ok ()
      ↔ AtStart t index docId := by
  have hg : g.seqNo = 0 ∧ g.primaryTerm = 1 := by
    rw [esGetDoc] at hread
    split_ifs at hread
    split at hread
    · cases hread
      exact ⟨rfl, rfl⟩
    · cases hres : resolveCollection py s index false with
      | error e => rw [hres] at hread; cases hread
      | ok p =>
        rw [hres] at hread
        obtain ⟨rec, -, e⟩ := Option.map_eq_some_iff.1 (Except.ok.inj hread)
        cases e
        exact ⟨rfl, rfl⟩
  rw [checkPrecondition_eq_ok_iff, hg.1, hg.2, seqNoOf, documentExists, AtStart]
  cases t.documents.get (docKey index docId) with
  | none => simp
  | some record => simp

lemma AtStart.not_moved (h : AtStart s index docId) : ¬ Moved s index docId := by
  obtain ⟨record, hk, h0⟩ := h
  intro hm
  have hlt := hm.2 record hk
  omega

section

variable {py : Python} {painless : Painless} {r : Request}

lemma Moved.stepOn (hm : Moved s index docId) (ho : Ordinary index docId s r) :
    Moved (stepOn py painless index s r) index docId := by
  obtain ⟨h, -, hdel, -⟩ := ho
  have hnd : change py painless s index r ≠ .drop := by
    intro e
    have hmk := change_makes py painless s index r
    rw [e] at hmk
    cases hmk
    exact hdel rfl
  rw [Elastic.stepOn, (answer_change py painless s index r).1]
  refine ⟨?_, ?_⟩
  · rw [seqNo_apply h]
    exact lt_of_lt_of_le hm.1 (Change.le_nextSeqNo _ hnd _)
  · intro record hk
    rw [get_documents_apply (h.hasRoom _)] at hk
    rcases Change.seqNo_atKey hk with ⟨r', hr', e⟩ | ⟨e, -⟩
    · rw [e]
      exact hm.2 r' hr'
    · rw [e]
      exact hm.1

/-- A request leaves the document under number 0 if it is quiet, and moves it off if it is not. -/
lemma AtStart.stepOn (hs : AtStart s index docId) (hn : Numbered s index)
    (ho : Ordinary index docId s r) :
    (Quiet py painless index docId s r → AtStart (stepOn py painless index s r) index docId)
      ∧ (¬ Quiet py painless index docId s r →
        Moved (stepOn py painless index s r) index docId) := by
  obtain ⟨record, hk, h0⟩ := hs
  obtain ⟨h, href, hdel, hhide⟩ := ho
  have hpos : 0 < (entryOf s index).seqNo := by
    have hb := hn.record hk
    omega
  obtain ⟨hst, hp⟩ := answer_change py painless s index r
  have hm := change_makes py painless s index r
  rw [Quiet, Elastic.stepOn, hst, hp]
  revert hm
  generalize change py painless s index r = c
  intro hm
  -- A change that leaves the number of the record is a quiet one.
  have hquiet : (∃ record', c.atKey index (entryOf s index).seqNo (docKey index docId)
        (some record) = some record' ∧ record'.seqNo = 0) →
      (r.docId = some docId → c.performs = false) →
      ((r.docId = some docId → c.performs = false) → AtStart (c.apply s index) index docId)
        ∧ (¬ (r.docId = some docId → c.performs = false) →
            Moved (c.apply s index) index docId) := by
    intro ⟨record', hrec, h0'⟩ hq
    refine ⟨fun _ => ⟨record', ?_, h0'⟩, fun hnq => absurd hq hnq⟩
    rw [get_documents_apply (h.hasRoom _), hk, hrec]
  have hother : ∀ {d : String}, r.docId = some d → d ≠ docId →
      docKey index docId ≠ docKey index d ∧ (r.docId = some docId → c.performs = false) := by
    intro d hd hne
    refine ⟨fun e => hne (docKey_inj.1 e).symm, ?_⟩
    intro hd'
    rw [hd] at hd'
    exact absurd (Option.some.inj hd') hne
  cases hm with
  | keep => exact hquiet ⟨record, rfl, h0⟩ (fun _ => rfl)
  | @put _ d version source pending hd =>
    by_cases e : d = docId
    · subst e
      refine ⟨fun hq => absurd (hq hd) (by simp [Change.performs]), fun _ => ⟨?_, ?_⟩⟩
      · rw [seqNo_apply h, Change.nextSeqNo]
        omega
      · intro record' hrec
        rw [get_documents_apply (h.hasRoom _), Change.atKey, if_pos rfl] at hrec
        cases hrec
        exact hpos
    · obtain ⟨hkey, hq⟩ := hother hd e
      exact hquiet ⟨record, by rw [Change.atKey, if_neg hkey], h0⟩ hq
  | @share _ d source hd =>
    by_cases e : d = docId
    · subst e
      exact hquiet ⟨{ record with source }, by rw [Change.atKey, if_pos rfl]; rfl, h0⟩
          (fun _ => rfl)
    · obtain ⟨hkey, hq⟩ := hother hd e
      exact hquiet ⟨record, by rw [Change.atKey, if_neg hkey], h0⟩ hq
  | @mark d pre record' hpre hk' hd' =>
    by_cases e : d = docId
    · subst e
      have hmarked := hhide pre rfl hpre record' hk'
      rw [hd'] at hmarked
      cases hmarked
    · obtain ⟨hkey, hq⟩ := hother rfl e
      exact hquiet ⟨record, by rw [Change.atKey, if_neg hkey], h0⟩ hq
  | @remove _ d numbered hd =>
    by_cases e : d = docId
    · subst e
      refine ⟨fun hq => absurd (hq hd) (by simp [Change.performs]), fun _ => ⟨?_, ?_⟩⟩
      · rw [seqNo_apply h]
        exact lt_of_lt_of_le hpos (Change.le_nextSeqNo _ (fun e => by cases e) _)
      · intro record' hrec
        rw [get_documents_apply (h.hasRoom _), Change.atKey, if_pos rfl] at hrec
        cases hrec
    · obtain ⟨hkey, hq⟩ := hother hd e
      exact hquiet ⟨record, by rw [Change.atKey, if_neg hkey], h0⟩ hq
  | refresh => exact absurd rfl href
  | drop => exact absurd rfl hdel

lemma atStart_run_iff {mid : List Request} (hs : AtStart s index docId) (hn : Numbered s index)
    (ho : Along (stepOn py painless index) (Ordinary index docId) s mid) :
    AtStart (runFrom (stepOn py painless index) s mid) index docId
      ↔ Along (stepOn py painless index) (Quiet py painless index docId) s mid := by
  induction mid generalizing s with
  | nil => exact iff_of_true hs trivial
  | cons r mid ih =>
    have hn' := hn.stepOn py painless ho.1.1 r
    have hstep : (Quiet py painless index docId s r →
          AtStart (Elastic.stepOn py painless index s r) index docId)
        ∧ (¬ Quiet py painless index docId s r →
          Moved (Elastic.stepOn py painless index s r) index docId) := hs.stepOn hn ho.1
    obtain ⟨hquiet, hmoves⟩ := hstep
    by_cases hq : Quiet py painless index docId s r
    · rw [Along, runFrom_cons, ih (hquiet hq) hn' ho.2]
      exact ⟨fun h => ⟨hq, h⟩, fun h => h.2⟩
    · have hm : Moved (runFrom (Elastic.stepOn py painless index) s (r :: mid)) index docId :=
        ho.2.invariant (I := fun s => Moved s index docId) (fun s r ho hm => hm.stepOn ho)
          (hmoves hq)
      exact ⟨fun h => absurd hm h.not_moved, fun h => absurd h.1 hq⟩

end

/-- Optimistic concurrency: a client that reads a document in a reachable store and later writes it
    on the condition it read is accepted exactly when nobody wrote or deleted the document in
    between, whatever ordinary requests came in between, if and only if the document it read was
    stored under sequence number 0, the one a get answers. -/
theorem accepted_iff_quiet (py : Python) (painless : Painless) (index docId : String)
    (alerts endpoints : Dict String Object) (run : List Request)
    (hcaps : Along (stepOn py painless index) (fun s _ => BelowCaps s)
      (.seeded alerts endpoints) run)
    (g : GetResult)
    (hread : esGetDoc py (runFrom (stepOn py painless index) (.seeded alerts endpoints) run)
      index docId = .ok (some g)) :
    let s := runFrom (stepOn py painless index) (.seeded alerts endpoints) run
    (∀ mid, Along (stepOn py painless index) (Ordinary index docId) s mid →
        (checkPrecondition (runFrom (stepOn py painless index) s mid) index docId
            (some g.seqNo) (some g.primaryTerm) = .ok ()
          ↔ Along (stepOn py painless index) (Quiet py painless index docId) s mid))
      ↔ AtStart s index docId := by
  intro s
  have hn : Numbered s index :=
    hcaps.invariant (I := fun s => Numbered s index) (fun _ r h hn => hn.stepOn py painless h r)
      (numbered_seeded alerts endpoints index)
  constructor
  · intro h
    rw [← accepted_iff_atStart hread]
    exact (h [] trivial).2 trivial
  · intro hs mid ho
    rw [accepted_iff_atStart hread]
    exact atStart_run_iff hs hn ho

/-- The first document of an index, read, written by another client, and written on the condition of
    the read: refused. -/
theorem accepted_iff_quiet_first :
    let s := runFrom (stepOn asciiPython idleScript "a") (.seeded .empty .empty)
      [.index "0" [] true {}]
    ∀ mid, Along (stepOn asciiPython idleScript "a") (Ordinary "a" "0") s mid →
      (checkPrecondition (runFrom (stepOn asciiPython idleScript "a") s mid) "a" "0"
          (some 0) (some 1) = .ok ()
        ↔ Along (stepOn asciiPython idleScript "a") (Quiet asciiPython idleScript "a" "0") s mid) :=
  (accepted_iff_quiet asciiPython idleScript "a" "0" .empty .empty [.index "0" [] true {}]
    (by decide) ⟨"a", "0", 1, 0, 1, []⟩ rfl).2 ⟨_, rfl, rfl⟩

/-- The second document of an index is read under number 0 and stored under 1: with no write in
    between, the conditional write is refused. -/
theorem second_document_refused :
    let s := runFrom (stepOn asciiPython idleScript "a") (.seeded .empty .empty)
      [.index "0" [] true {}, .index "1" [] true {}]
    esGetDoc asciiPython s "a" "1" = .ok (some ⟨"a", "1", 1, 0, 1, []⟩)
      ∧ ¬ (checkPrecondition s "a" "1" (some 0) (some 1) = .ok ()
        ↔ Along (stepOn asciiPython idleScript "a") (Quiet asciiPython idleScript "a" "1") s
          []) := by
  refine ⟨rfl, ?_⟩
  intro h
  cases h.2 trivial

end Mockdr.Elastic
