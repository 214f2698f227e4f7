import Mockdr.Elastic.ByQueryWalk

/-!
# What a write by query reports

The response of `_update_by_query` and `_delete_by_query` (`_by_query_response` in
`application/es_search/queries.py`) counts what became of the documents that matched.

* `turns` are the matched records, each with the store that its turn finds, and `fate` is what the
  turn makes of the stored state of the record.
* `Accounted` says of a response that it counts every record once, and each under its fate.
* `turn_update` and `turn_delete` balance the counters of one turn, `walk_update` and `walk_delete`
  those of the whole walk, and `by_query_accounted_iff` says when a response is right.
-/

namespace Mockdr.Elastic

/-! ## The response -/

/-- The response of a write by query, but for its constant members. -/
structure ByQueryResponse where
  total : Nat
  /-- `updated`, which `_delete_by_query` does not report -/
  updated : Option Nat
  deleted : Nat
  batches : Nat
  versionConflicts : Nat
  noops : Nat
  failures : List (String × String)

/-- `_by_query_response` -/
def byQueryResponse (total : Nat) (run : ByQueryRun) (delete : Bool) : ByQueryResponse where
  total := total
  updated := if delete then none else some run.changed
  deleted := if delete then run.changed else 0
  batches := if total = 0 then 0 else 1
  versionConflicts := 0
  noops := run.noops
  failures := run.failures

/-- The records that a write by query goes through. -/
def byQueryMatched (py : Python) (engine : Engine) (s : EsStore) (index : String) (body : Object) :
    Except SearchError (List Doc) := do
  let (records, _) ← (resolveDocs py s index false).mapError .es
  let clause ← queryClause engine body
  matchedDocs py (searchLeaf py engine.others (termsLookup py s)) clause records

/-! ## What becomes of a record -/

/-- What can become of the stored state of a record. -/
inductive Fate where
  | updated
  | deleted
  | kept
  deriving DecidableEq

open Classical in
/-- What became of a stored state. -/
noncomputable def Fate.of {α : Type} (before after : Option α) : Fate :=
  if after = before then .kept else if after = none then .deleted else .updated

section

variable (py : Python) (painless : Painless) (delete : Bool) (script : ByQueryScript)
  (canonical : String)

/-- The store after the turn of a record. -/
def turn (s : EsStore) (d : Doc) : EsStore :=
  match d.given with
  | none => (byQueryOwned py painless delete script s d.source).1
  | some docId =>
    (byQueryWrite py painless delete script s (homeIndex py s canonical docId) docId).1

/-- The records of a walk, each with the store that its turn finds. -/
def turns : EsStore → List Doc → List (EsStore × Doc)
  | _, [] => []
  | s, d :: rest =>
    (s, d) :: turns (turn py painless delete script canonical s d) rest

/-- What the turn of a record makes of its stored state: of the document it is, or of the alert. -/
noncomputable def fate (s : EsStore) (d : Doc) : Fate :=
  let t := turn py painless delete script canonical s d
  match d.key with
  | some key => .of (s.documents.get key) (t.documents.get key)
  | none => .of (s.alerts.get (hitId py d.source)) (t.alerts.get (hitId py d.source))

/-- How many records of a walk met a fate. -/
noncomputable def metBy (kind : Fate) (walk : List (EsStore × Doc)) : Nat :=
  walk.countP fun t => fate py painless delete script canonical t.1 t.2 = kind

/-- A response counts every record once, and each under what became of its stored state. -/
structure Accounted (walk : List (EsStore × Doc)) (answer : ByQueryResponse) : Prop where
  total : answer.total = answer.updated.getD 0 + answer.deleted + answer.noops
    + answer.failures.length + answer.versionConflicts
  updated : answer.updated.getD 0 = metBy py painless delete script canonical .updated walk
  deleted : answer.deleted = metBy py painless delete script canonical .deleted walk
  kept : answer.noops + answer.failures.length + answer.versionConflicts
    = metBy py painless delete script canonical .kept walk

/-! ## Where the counters go wrong -/

/-- What an update with the script comes to, on a stored source. -/
def outcomeOn (source : Object) : Except EsError WriteOutcome := do
  let run ← runUpdateScript py painless script.update source
  let operation ← run.outcome.mapError .painless
  if operation = "delete" then return .deleted
  else if operation = "noop"
      ∨ Json.eq (.dict (mergeDoc script.update run.document)) (.dict run.shared) then
    return .noop
  else return .updated

/-- What the script leaves of a stored source that it works on a copy of. -/
def sharedOn (source : Object) : Object :=
  match runUpdateScript py painless script.update source with
  | .ok run => run.shared
  | .error _ => source

/-- The status that a script gives one of the mock's own records, if it gives one. -/
def ownStatus (source : Object) : Option String :=
  if delete ∨ script.source = "" then none
  else
    let run := painless script.source script.params source
    match run.outcome with
    | .error _ => none
    | .ok _ => writtenStatus py run.shared run.document

/-- An alert with a status. -/
def withStatus (status : String) (alert : Object) : Object :=
  Assoc.set "signal_status" (.str status) (Assoc.set "workflow_status" (.str status) alert)

/-- A document to be deleted is where the walk looks for it. -/
def Found (s : EsStore) (d : Doc) : Prop :=
  ∀ name docId, d.home = some name → d.given = some docId →
    homeIndex py s canonical docId = name ∧ (s.documents.get (docKey name docId)).isSome

/-- The script asks for the document to be deleted. -/
def AsksDelete (s : EsStore) (d : Doc) : Prop :=
  ∃ docId record, d.given = some docId
    ∧ s.documents.get (docKey (homeIndex py s canonical docId) docId) = some record
    ∧ outcomeOn py painless script record.source = .ok .deleted

/-- The document of another index is written in the place of this one, or an alert is given the
    status that it has. -/
def Overcounted (s : EsStore) (d : Doc) : Prop :=
  (∃ name docId record, d.home = some name ∧ d.given = some docId
      ∧ homeIndex py s canonical docId ≠ name
      ∧ s.documents.get (docKey (homeIndex py s canonical docId) docId) = some record
      ∧ outcomeOn py painless script record.source = .ok .updated)
    ∨ d.given = none ∧ ∃ status alert, ownStatus py painless false script d.source = some status
        ∧ s.alerts.get (hitId py d.source) = some alert ∧ withStatus status alert = alert

/-- The update comes to nothing, and the script wrote into the stored document. -/
def Undercounted (s : EsStore) (d : Doc) : Prop :=
  ∃ name docId record, d.home = some name ∧ d.given = some docId
    ∧ homeIndex py s canonical docId = name
    ∧ s.documents.get (docKey name docId) = some record
    ∧ outcomeOn py painless script record.source = .ok .noop
    ∧ sharedOn py painless script record.source ≠ record.source

end

/-! ## The counters of one turn -/

/-- What the turn of a record adds to the counters: changes, noops and failures. Nothing where it
    raises. -/
def countedAs (py : Python) (painless : Painless) (delete : Bool) (script : ByQueryScript)
    (canonical : String) (s : EsStore) (d : Doc) : Option (Nat × Nat × Nat) :=
  match d.given with
  | none =>
    match (byQueryOwned py painless delete script s d.source).2 with
    | none => some (0, 0, 1)
    | some n => some (n, 1 - n, 0)
  | some docId =>
    match (byQueryWrite py painless delete script s (homeIndex py s canonical docId) docId).2 with
    | .ok (changed, noops) => some (changed, noops, 0)
    | .error _ => none

section

variable {py : Python} {painless : Painless} {delete : Bool} {script : ByQueryScript}
  {canonical : String} {s : EsStore} {name docId home : String} {record : DocRecord} {d : Doc}

lemma Fate.of_self {α : Type} (a : Option α) : Fate.of a a = .kept := if_pos rfl

lemma Fate.of_none {α : Type} (a : α) : Fate.of (some a) none = .deleted := by
  rw [Fate.of, if_neg (by simp), if_pos rfl]

lemma Fate.of_ne {α : Type} {a b : α} (h : b ≠ a) : Fate.of (some a) (some b) = .updated := by
  rw [Fate.of, if_neg (by simpa using h), if_neg (by simp)]

lemma Fate.of_some_ne_deleted {α : Type} (a b : α) : Fate.of (some a) (some b) ≠ .deleted := by
  rw [Fate.of]
  split_ifs with hsame hnone
  · simp
  · cases hnone
  · simp

lemma outcomeOn_eq_ok {source : Object} {w : WriteOutcome}
    (h : outcomeOn py painless script source = .ok w) :
    ∃ run operation, runUpdateScript py painless script.update source = .ok run
      ∧ run.outcome = .ok operation
      ∧ w = if operation = "delete" then .deleted
          else if operation = "noop"
            ∨ Json.eq (.dict (mergeDoc script.update run.document)) (.dict run.shared) then .noop
          else .updated := by
  rw [outcomeOn] at h
  obtain ⟨run, hrun, h⟩ := bind_eq_ok_iff.1 h
  obtain ⟨operation, hoperation, h⟩ := bind_eq_ok_iff.1 h
  refine ⟨run, operation, hrun, mapError_eq_ok_iff.1 hoperation, ?_⟩
  split_ifs at h ⊢
  · exact (Except.ok.inj h).symm
  · exact (Except.ok.inj h).symm
  · exact (Except.ok.inj h).symm

lemma byQueryWrite_error {e : EsError}
    (hk : s.documents.get (docKey home docId) = some record)
    (h : outcomeOn py painless script record.source = .error e) :
    ∃ e, (byQueryWrite py painless false script s home docId).2 = .error e := by
  rw [byQueryWrite, if_neg Bool.false_ne_true, esUpdateDoc, hk]
  simp only
  cases hrun : runUpdateScript py painless script.update record.source with
  | error e => exact ⟨e, rfl⟩
  | ok run =>
    simp only
    cases hoperation : run.outcome with
    | error message => exact ⟨.painless message, rfl⟩
    | ok operation =>
      rw [outcomeOn, hrun] at h
      simp only [bind, Except.bind, hoperation, Except.mapError] at h
      split_ifs at h
      · cases h
      · cases h
      · cases h

/-- What a write counts and does, where its update comes to something. -/
lemma byQueryWrite_ok {w : WriteOutcome}
    (hk : s.documents.get (docKey home docId) = some record)
    (h : outcomeOn py painless script record.source = .ok w) :
    (byQueryWrite py painless false script s home docId).2
        = .ok (if w = .updated then 1 else 0, if w = .noop then 1 else 0)
      ∧ match w with
        | .deleted =>
          (byQueryWrite py painless false script s home docId).1.documents.get (docKey home docId)
            = none
        | .noop =>
          (byQueryWrite py painless false script s home docId).1.documents.get (docKey home docId)
            = some { record with source := sharedOn py painless script record.source }
        | .updated =>
          ∃ r, (byQueryWrite py painless false script s home docId).1.documents.get
              (docKey home docId) = some r
            ∧ r.version = record.version + 1
        | .created => False := by
  obtain ⟨run, operation, hrun, hoperation, hw⟩ := outcomeOn_eq_ok h
  have hshared : sharedOn py painless script record.source = run.shared := by
    rw [sharedOn, hrun]
  rw [byQueryWrite, if_neg Bool.false_ne_true, esUpdateDoc, hk, hshared]
  simp only [hrun, hoperation]
  split_ifs at hw with hdelete hnoop
  · subst hw
    rw [if_pos hdelete]
    refine ⟨rfl, ?_⟩
    simp
  · subst hw
    rw [if_neg hdelete, if_pos hnoop]
    exact ⟨rfl, get_save_self _ _ _ _⟩
  · subst hw
    rw [if_neg hdelete, if_neg hnoop]
    exact ⟨rfl, _, get_save_self _ _ _ _, rfl⟩

lemma updateAlertStatus_singleton (s : EsStore) (id status : String) :
    updateAlertStatus s [id] status
      = match s.alerts.get id with
        | some alert =>
          ({ s with alerts := save "es_alerts" id (withStatus status alert) s.alerts }, 1)
        | none => (s, 0) := by
  rw [updateAlertStatus, List.foldl_cons, List.foldl_nil]
  rfl

/-- The write of one of the mock's own records, by the status that the script gives it. -/
lemma byQueryOwned_eq (s : EsStore) (source : Object) :
    byQueryOwned py painless delete script s source
      = match ownStatus py painless delete script source with
        | none => (s, none)
        | some status =>
          match s.alerts.get (hitId py source) with
          | some alert =>
            ({ s with
                alerts := save "es_alerts" (hitId py source) (withStatus status alert) s.alerts },
              some 1)
          | none => (s, some 0) := by
  rw [byQueryOwned, ownStatus]
  split_ifs
  · rfl
  · simp only
    cases (painless script.source script.params source).outcome with
    | error _ => rfl
    | ok _ =>
      simp only
      cases writtenStatus py (painless script.source script.params source).shared
          (painless script.source script.params source).document with
      | none => rfl
      | some status =>
        simp only [updateAlertStatus_singleton]
        obtain hnone | ⟨alert, halert⟩ := Option.eq_none_or_eq_some (s.alerts.get (hitId py source))
        · simp only [hnone]
          rfl
        · simp only [halert]
          rfl

open Classical in
/-- What a turn of an update counts: every record once, unless its script asks for it to be deleted,
    and as a change what changes, but for what is counted too much or too little. -/
structure BalancedUpdate (py : Python) (painless : Painless) (script : ByQueryScript)
    (canonical : String) (s : EsStore) (d : Doc) (c n f : Nat) : Prop where
  once : c + n + f + (if AsksDelete py painless script canonical s d then 1 else 0) = 1
  changes : c + (if Undercounted py painless script canonical s d then 1 else 0)
    = (if fate py painless false script canonical s d = .updated then 1 else 0)
      + (if Overcounted py painless script canonical s d then 1 else 0)
  deleted : fate py painless false script canonical s d = .deleted →
    AsksDelete py painless script canonical s d

open Classical in
/-- A record of the mock's own is counted as a change where its alert changes, or is given the
    status that it has. -/
lemma turn_update_own {source : Object} {c n f : Nat}
    (h : countedAs py painless false script canonical s ⟨⟨none, source⟩, none⟩ = some (c, n, f)) :
    BalancedUpdate py painless script canonical s ⟨⟨none, source⟩, none⟩ c n f := by
  have hfate : fate py painless false script canonical s ⟨⟨none, source⟩, none⟩
      = .of (s.alerts.get (hitId py source))
          ((byQueryOwned py painless false script s source).1.alerts.get (hitId py source)) := rfl
  have hover : Overcounted py painless script canonical s ⟨⟨none, source⟩, none⟩
      ↔ ∃ status alert, ownStatus py painless false script source = some status
          ∧ s.alerts.get (hitId py source) = some alert ∧ withStatus status alert = alert := by
    constructor
    · rintro (⟨_, _, _, hhome, -⟩ | ⟨-, hown⟩)
      · cases hhome
      · exact hown
    · exact fun hown => .inr ⟨rfl, hown⟩
  have hasks : ¬AsksDelete py painless script canonical s ⟨⟨none, source⟩, none⟩ := by
    rintro ⟨_, _, hgiven, -⟩
    cases hgiven
  have hunder : ¬Undercounted py painless script canonical s ⟨⟨none, source⟩, none⟩ := by
    rintro ⟨_, _, _, hhome, -⟩
    cases hhome
  suffices hcounts : c + n + f = 1
      ∧ fate py painless false script canonical s ⟨⟨none, source⟩, none⟩ ≠ .deleted
      ∧ c = (if fate py painless false script canonical s ⟨⟨none, source⟩, none⟩ = .updated
            then 1 else 0)
          + (if Overcounted py painless script canonical s ⟨⟨none, source⟩, none⟩
            then 1 else 0) by
    obtain ⟨honce, hdeleted, hchanges⟩ := hcounts
    exact ⟨by rw [if_neg hasks]; exact honce, by rw [if_neg hunder]; exact hchanges,
      fun h => absurd h hdeleted⟩
  rw [hfate, hover]
  rw [countedAs] at h
  simp only [byQueryOwned_eq] at h ⊢
  cases hstatus : ownStatus py painless false script source with
  | none =>
    rw [hstatus] at h
    cases h
    simp [Fate.of_self]
  | some status =>
    rw [hstatus] at h
    simp only at h ⊢
    cases halert : s.alerts.get (hitId py source) with
    | none =>
      rw [halert] at h
      cases h
      simp [Fate.of_self, halert]
    | some alert =>
      rw [halert] at h
      cases h
      simp only [get_save_self]
      by_cases hsame : withStatus status alert = alert
      · simp [hsame, Fate.of_self]
      · simp [hsame, Fate.of_ne hsame]

section Document

variable {source : Object} {w : WriteOutcome}
  (hk : s.documents.get (docKey (homeIndex py s canonical docId) docId) = some record)
  (hw : outcomeOn py painless script record.source = .ok w)

include hk hw

lemma asksDelete_iff :
    AsksDelete py painless script canonical s ⟨⟨some docId, source⟩, some name⟩
      ↔ w = .deleted := by
  constructor
  · rintro ⟨_, r, hgiven, hr, houtcome⟩
    obtain rfl := Option.some.inj hgiven
    obtain rfl := Option.some.inj (hk.symm.trans hr)
    exact Except.ok.inj (hw.symm.trans houtcome)
  · rintro rfl
    exact ⟨docId, record, rfl, hk, hw⟩

lemma overcounted_iff :
    Overcounted py painless script canonical s ⟨⟨some docId, source⟩, some name⟩
      ↔ homeIndex py s canonical docId ≠ name ∧ w = .updated := by
  constructor
  · rintro (⟨_, _, r, hhome, hgiven, hne, hr, houtcome⟩ | ⟨hgiven, -⟩)
    · obtain rfl := Option.some.inj hhome
      obtain rfl := Option.some.inj hgiven
      obtain rfl := Option.some.inj (hk.symm.trans hr)
      exact ⟨hne, Except.ok.inj (hw.symm.trans houtcome)⟩
    · cases hgiven
  · rintro ⟨hne, rfl⟩
    exact .inl ⟨name, docId, record, rfl, rfl, hne, hk, hw⟩

lemma undercounted_iff :
    Undercounted py painless script canonical s ⟨⟨some docId, source⟩, some name⟩
      ↔ homeIndex py s canonical docId = name ∧ w = .noop
        ∧ sharedOn py painless script record.source ≠ record.source := by
  constructor
  · rintro ⟨_, _, r, hhome, hgiven, heq, hr, houtcome, hshared⟩
    obtain rfl := Option.some.inj hhome
    obtain rfl := Option.some.inj hgiven
    rw [← heq] at hr
    obtain rfl := Option.some.inj (hk.symm.trans hr)
    exact ⟨heq, Except.ok.inj (hw.symm.trans houtcome), hshared⟩
  · rintro ⟨heq, rfl, hshared⟩
    exact ⟨name, docId, record, rfl, rfl, heq, heq ▸ hk, hw, hshared⟩

/-- What becomes of a document in an update. -/
lemma fate_document :
    fate py painless false script canonical s ⟨⟨some docId, source⟩, some name⟩
      = if homeIndex py s canonical docId ≠ name then .kept
        else match w with
          | .deleted => .deleted
          | .noop => .of (some record)
              (some { record with source := sharedOn py painless script record.source })
          | _ => .updated := by
  obtain ⟨-, hdone⟩ := byQueryWrite_ok hk hw
  have hfate : fate py painless false script canonical s ⟨⟨some docId, source⟩, some name⟩
      = .of (s.documents.get (docKey name docId))
          ((byQueryWrite py painless false script s (homeIndex py s canonical docId)
            docId).1.documents.get (docKey name docId)) := rfl
  rw [hfate]
  split_ifs with hne
  · have hkey : docKey name docId ≠ docKey (homeIndex py s canonical docId) docId :=
      fun heq => hne (docKey_left_inj.1 heq).symm
    rw [get_byQueryWrite_ne hk hkey, Fate.of_self]
  · rw [not_not] at hne
    rw [hne] at hk hdone ⊢
    rw [hk]
    cases w with
    | deleted => rw [hdone, Fate.of_none]
    | noop => rw [hdone]
    | created => exact hdone.elim
    | updated =>
      obtain ⟨r, hr, hversion⟩ := hdone
      rw [hr]
      refine Fate.of_ne fun heq => ?_
      rw [heq] at hversion
      omega

end Document

open Classical in
/-- A document in an update. -/
lemma turn_update_document {source : Object} {c n f : Nat}
    (hupsert : upsertSource script.update = none)
    (h : countedAs py painless false script canonical s ⟨⟨some docId, source⟩, some name⟩
      = some (c, n, f)) :
    BalancedUpdate py painless script canonical s ⟨⟨some docId, source⟩, some name⟩ c n f := by
  rw [countedAs] at h
  simp only at h
  cases hk : s.documents.get (docKey (homeIndex py s canonical docId) docId) with
  | none =>
    -- There is nothing to update, and the script of a by-query body has no upsert.
    rw [byQueryWrite, if_neg Bool.false_ne_true, esUpdateDoc, hk] at h
    simp only [hupsert, Except.map] at h
    cases h
  | some record =>
    cases hw : outcomeOn py painless script record.source with
    | error e =>
      obtain ⟨e', he'⟩ := byQueryWrite_error hk hw
      rw [he'] at h
      cases h
    | ok w =>
      rw [(byQueryWrite_ok hk hw).1] at h
      cases h
      refine ⟨?_, ?_, ?_⟩
      · rw [asksDelete_iff hk hw]
        cases w with
        | created => exact (byQueryWrite_ok hk hw).2.elim
        | updated => simp
        | deleted => simp
        | noop => simp
      · rw [fate_document hk hw, overcounted_iff hk hw, undercounted_iff hk hw]
        by_cases hhome : homeIndex py s canonical docId = name
        · cases w with
          | created => exact (byQueryWrite_ok hk hw).2.elim
          | updated => simp [hhome]
          | deleted => simp [hhome]
          | noop =>
            by_cases hshared : sharedOn py painless script record.source = record.source
            · simp [hhome, hshared, Fate.of_self]
            · have hne : ({ record with source := sharedOn py painless script record.source } :
                  DocRecord) ≠ record := fun heq => hshared (congrArg DocRecord.source heq)
              simp [hhome, hshared, Fate.of_ne hne]
        · cases w with
          | created => exact (byQueryWrite_ok hk hw).2.elim
          | updated => simp [hhome]
          | deleted => simp [hhome]
          | noop => simp [hhome]
      · rw [fate_document hk hw, asksDelete_iff hk hw]
        intro hdeleted
        split_ifs at hdeleted
        cases w with
        | deleted => rfl
        | created => cases hdeleted
        | updated => cases hdeleted
        | noop => exact absurd hdeleted (Fate.of_some_ne_deleted _ _)

/-- The records a walk is given: a document has the index it is filed under. -/
def Shaped (d : Doc) : Prop := d.home.isSome = d.given.isSome

lemma Held.shaped (h : Held s d) : Shaped d := by
  cases h with
  | own source => rfl
  | document _ _ => rfl

/-- A turn of an update is balanced. -/
lemma turn_update {c n f : Nat} (hd : Shaped d) (hupsert : upsertSource script.update = none)
    (h : countedAs py painless false script canonical s d = some (c, n, f)) :
    BalancedUpdate py painless script canonical s d c n f := by
  obtain ⟨⟨given, source⟩, place⟩ := d
  cases given with
  | none =>
    cases place with
    | none => exact turn_update_own h
    | some name => cases hd
  | some docId =>
    cases place with
    | none => cases hd
    | some name => exact turn_update_document hupsert h

open Classical in
/-- A turn of a delete counts what it finds, and counts a document as deleted that is not where it
    looks for it. -/
lemma turn_delete {c n f : Nat} (hd : Shaped d)
    (h : countedAs py painless true script canonical s d = some (c, n, f)) :
    c + f = 1 ∧ n = 0
      ∧ c = (if fate py painless true script canonical s d = .deleted then 1 else 0)
          + (if Found py canonical s d then 0 else 1)
      ∧ fate py painless true script canonical s d ≠ .updated := by
  obtain ⟨⟨given, source⟩, place⟩ := d
  cases given with
  | none =>
    cases place with
    | some name => cases hd
    | none =>
      have hown : byQueryOwned py painless true script s source = (s, none) := by
        rw [byQueryOwned, if_pos (.inl rfl)]
      have hfate : fate py painless true script canonical s ⟨⟨none, source⟩, none⟩ = .kept := by
        have heq : fate py painless true script canonical s ⟨⟨none, source⟩, none⟩
            = .of (s.alerts.get (hitId py source))
              ((byQueryOwned py painless true script s source).1.alerts.get (hitId py source)) :=
          rfl
        rw [heq, hown, Fate.of_self]
      have hfound : Found py canonical s ⟨⟨none, source⟩, none⟩ := by
        intro name docId hhome
        cases hhome
      rw [countedAs] at h
      simp only [hown] at h
      cases h
      rw [hfate, if_pos hfound]
      exact ⟨rfl, rfl, rfl, by simp⟩
  | some docId =>
    cases place with
    | none => cases hd
    | some name =>
      cases h
      refine ⟨rfl, rfl, ?_⟩
      have hfate : fate py painless true script canonical s ⟨⟨some docId, source⟩, some name⟩
          = .of (s.documents.get (docKey name docId))
              ((s.documents.erase (docKey (homeIndex py s canonical docId) docId)).get
                (docKey name docId)) := rfl
      rw [hfate]
      by_cases hhome : homeIndex py s canonical docId = name
      · rw [hhome, Dict.get_erase_self]
        cases hk : s.documents.get (docKey name docId) with
        | none =>
          have hfound : ¬Found py canonical s ⟨⟨some docId, source⟩, some name⟩ := by
            intro hfound
            have hsome := (hfound name docId rfl rfl).2
            rw [hk] at hsome
            cases hsome
          rw [Fate.of_self, if_neg hfound]
          exact ⟨rfl, by simp⟩
        | some record =>
          have hfound : Found py canonical s ⟨⟨some docId, source⟩, some name⟩ := by
            intro name' docId' hname hid
            obtain rfl := Option.some.inj hname
            obtain rfl := Option.some.inj hid
            exact ⟨hhome, by rw [hk]; rfl⟩
          rw [Fate.of_none, if_pos hfound]
          exact ⟨rfl, by simp⟩
      · have hfound : ¬Found py canonical s ⟨⟨some docId, source⟩, some name⟩ :=
          fun hfound => hhome (hfound name docId rfl rfl).1
        have hkey : docKey name docId ≠ docKey (homeIndex py s canonical docId) docId :=
          fun heq => hhome (docKey_left_inj.1 heq).symm
        rw [Dict.get_erase_ne _ hkey, Fate.of_self, if_neg hfound]
        exact ⟨rfl, by simp⟩

/-! ## The counters of a walk -/

/-- A walk that does not raise adds up what its turns count. -/
lemma byQueryLoop_turn {docs : List Doc}
    (h : (byQueryLoop py painless delete script canonical s (d :: docs)).raised = none) :
    ∃ c n f, countedAs py painless delete script canonical s d = some (c, n, f)
      ∧ (byQueryLoop py painless delete script canonical
          (turn py painless delete script canonical s d) docs).raised = none
      ∧ (byQueryLoop py painless delete script canonical s (d :: docs)).changed
        = c + (byQueryLoop py painless delete script canonical
            (turn py painless delete script canonical s d) docs).changed
      ∧ (byQueryLoop py painless delete script canonical s (d :: docs)).noops
        = n + (byQueryLoop py painless delete script canonical
            (turn py painless delete script canonical s d) docs).noops
      ∧ (byQueryLoop py painless delete script canonical s (d :: docs)).failures.length
        = f + (byQueryLoop py painless delete script canonical
            (turn py painless delete script canonical s d) docs).failures.length := by
  obtain ⟨⟨given, source⟩, place⟩ := d
  cases given with
  | none =>
    rw [byQueryLoop] at h ⊢
    rw [countedAs, turn]
    simp only at h ⊢
    cases hown : (byQueryOwned py painless delete script s source).2 with
    | none =>
      rw [hown] at h
      exact ⟨0, 0, 1, rfl, h, (Nat.zero_add _).symm, (Nat.zero_add _).symm, Nat.add_comm _ 1⟩
    | some n =>
      rw [hown] at h
      exact ⟨n, 1 - n, 0, rfl, h, rfl, rfl, (Nat.zero_add _).symm⟩
  | some docId =>
    rw [byQueryLoop] at h ⊢
    rw [countedAs, turn]
    simp only at h ⊢
    generalize byQueryWrite py painless delete script s (homeIndex py s canonical docId) docId
      = write at h ⊢
    obtain ⟨t, result⟩ := write
    cases result with
    | error e => cases h
    | ok counts =>
      exact ⟨counts.1, counts.2, 0, rfl, h, rfl, rfl, (Nat.zero_add _).symm⟩

open Classical in
/-- What an update counts. -/
lemma walk_update {docs : List Doc} (hdocs : ∀ d ∈ docs, Shaped d)
    (hupsert : upsertSource script.update = none)
    (h : (byQueryLoop py painless false script canonical s docs).raised = none) :
    let run := byQueryLoop py painless false script canonical s docs
    let walk := turns py painless false script canonical s docs
    run.changed + run.noops + run.failures.length
        + walk.countP (fun t => AsksDelete py painless script canonical t.1 t.2) = docs.length
      ∧ run.changed + walk.countP (fun t => Undercounted py painless script canonical t.1 t.2)
        = metBy py painless false script canonical .updated walk
          + walk.countP (fun t => Overcounted py painless script canonical t.1 t.2)
      ∧ metBy py painless false script canonical .deleted walk
        ≤ walk.countP (fun t => AsksDelete py painless script canonical t.1 t.2) := by
  induction docs generalizing s with
  | nil => exact ⟨rfl, rfl, Nat.le_refl 0⟩
  | cons d docs ih =>
    obtain ⟨hd, hdocs⟩ := List.forall_mem_cons.1 hdocs
    obtain ⟨c, n, f, hcounted, hraised, hchanged, hnoops, hfailures⟩ := byQueryLoop_turn h
    obtain ⟨hrest, hbalance, hdeleted⟩ := ih hdocs hraised
    have hturn := turn_update hd hupsert hcounted
    have honce := hturn.once
    have hchanges := hturn.changes
    simp only [metBy] at hbalance hdeleted ⊢
    rw [hchanged, hnoops, hfailures, turns]
    simp only [List.countP_cons, List.length_cons, decide_eq_true_eq]
    refine ⟨by omega, by omega, ?_⟩
    by_cases hfate : fate py painless false script canonical s d = .deleted
    · rw [if_pos hfate, if_pos (hturn.deleted hfate)]
      omega
    · rw [if_neg hfate]
      omega

open Classical in
/-- What a delete counts. -/
lemma walk_delete {docs : List Doc} (hdocs : ∀ d ∈ docs, Shaped d)
    (h : (byQueryLoop py painless true script canonical s docs).raised = none) :
    let run := byQueryLoop py painless true script canonical s docs
    let walk := turns py painless true script canonical s docs
    run.changed + run.failures.length = docs.length ∧ run.noops = 0
      ∧ run.changed = metBy py painless true script canonical .deleted walk
        + walk.countP (fun t => ¬Found py canonical t.1 t.2)
      ∧ metBy py painless true script canonical .updated walk = 0 := by
  induction docs generalizing s with
  | nil => exact ⟨rfl, rfl, rfl, rfl⟩
  | cons d docs ih =>
    obtain ⟨hd, hdocs⟩ := List.forall_mem_cons.1 hdocs
    obtain ⟨c, n, f, hcounted, hraised, hchanged, hnoops, hfailures⟩ := byQueryLoop_turn h
    obtain ⟨hrest, hnone, hbalance, hupdated⟩ := ih hdocs hraised
    obtain ⟨honce, hnoop, hturn, hfate⟩ := turn_delete hd hcounted
    simp only [metBy] at hbalance hupdated ⊢
    rw [hchanged, hnoops, hfailures, turns]
    simp only [List.countP_cons, List.length_cons, decide_eq_true_eq]
    rw [if_neg hfate]
    refine ⟨by omega, by omega, ?_, by omega⟩
    by_cases hfound : Found py canonical s d
    · rw [if_pos hfound] at hturn
      rw [if_neg (not_not.2 hfound)]
      omega
    · rw [if_neg hfound] at hturn
      rw [if_pos hfound]
      omega

lemma metBy_add (py : Python) (painless : Painless) (delete : Bool) (script : ByQueryScript)
    (canonical : String) (walk : List (EsStore × Doc)) :
    metBy py painless delete script canonical .updated walk
        + metBy py painless delete script canonical .deleted walk
        + metBy py painless delete script canonical .kept walk = walk.length := by
  simp only [metBy]
  induction walk with
  | nil => rfl
  | cons t walk ih =>
    simp only [List.countP_cons, List.length_cons, decide_eq_true_eq]
    cases fate py painless delete script canonical t.1 t.2 with
    | updated => simp; omega
    | deleted => simp; omega
    | kept => simp; omega

lemma length_turns (docs : List Doc) :
    (turns py painless delete script canonical s docs).length = docs.length := by
  induction docs generalizing s with
  | nil => rfl
  | cons d docs ih => rw [turns, List.length_cons, List.length_cons, ih]

/-- The script of a by-query body makes no document where there is none. -/
lemma upsertSource_byQueryScript {body : Object} (h : byQueryScript py body = .ok script) :
    upsertSource script.update = none := by
  have hupdate : ∀ (fields : Object) (source : String),
      upsertSource (if source = "" then [] else [("script", .dict fields)]) = none := by
    intro fields source
    split_ifs
    · rfl
    · rfl
  unfold byQueryScript at h
  simp only [bind, Except.bind, pure, Except.pure] at h
  split at h
  · split at h
    · obtain rfl := Except.ok.inj h
      exact hupdate _ _
    · cases h
  · split at h
    · obtain rfl := Except.ok.inj h
      exact hupdate _ _
    · cases h
  · split at h
    · cases h
    · split at h
      · obtain rfl := Except.ok.inj h
        exact hupdate [] (py.toStr ((Assoc.get "source" ([] : Object)).getD (.str "")))
      · cases h

end

/-! ## When the response is right -/

open Classical in
/-- What the turns of a walk meet with where its counters are right: a delete finds every document
    where it looks for it, and no script of an update asks for a document to be deleted, and as many
    records are counted as changes that do not change as change and are not counted. -/
def Accountable (py : Python) (painless : Painless) (delete : Bool) (script : ByQueryScript)
    (canonical : String) (walk : List (EsStore × Doc)) : Prop :=
  if delete then ∀ t ∈ walk, Found py canonical t.1 t.2
  else
    (∀ t ∈ walk, ¬AsksDelete py painless script canonical t.1 t.2)
      ∧ walk.countP (fun t => Overcounted py painless script canonical t.1 t.2)
        = walk.countP (fun t => Undercounted py painless script canonical t.1 t.2)

section

variable {py : Python} {painless : Painless} {script : ByQueryScript} {canonical : String}
  {s : EsStore} {docs : List Doc}

open Classical in
/-- The response of an update. -/
lemma accounted_update_iff (hdocs : ∀ d ∈ docs, Shaped d)
    (hupsert : upsertSource script.update = none)
    (h : (byQueryLoop py painless false script canonical s docs).raised = none) :
    Accounted py painless false script canonical
        (turns py painless false script canonical s docs)
        (byQueryResponse docs.length (byQueryLoop py painless false script canonical s docs) false)
      ↔ Accountable py painless false script canonical
          (turns py painless false script canonical s docs) := by
  obtain ⟨honce, hbalance, hdeleted⟩ := walk_update hdocs hupsert h
  have hfates := metBy_add py painless false script canonical
    (turns py painless false script canonical s docs)
  rw [length_turns] at hfates
  have hasks : (∀ t ∈ turns py painless false script canonical s docs,
        ¬AsksDelete py painless script canonical t.1 t.2)
      ↔ (turns py painless false script canonical s docs).countP
          (fun t => AsksDelete py painless script canonical t.1 t.2) = 0 := by
    rw [List.countP_eq_zero]
    simp only [decide_eq_true_eq]
  rw [Accountable, if_neg Bool.false_ne_true, hasks]
  constructor
  · rintro ⟨htotal, hupdated, -, -⟩
    simp only [byQueryResponse, Bool.false_eq_true, if_false, Option.getD_some] at htotal hupdated
    omega
  · rintro ⟨hnone, hequal⟩
    constructor
    all_goals simp only [byQueryResponse, Bool.false_eq_true, if_false, Option.getD_some]
    all_goals omega

open Classical in
/-- The response of a delete. -/
lemma accounted_delete_iff (hdocs : ∀ d ∈ docs, Shaped d)
    (h : (byQueryLoop py painless true script canonical s docs).raised = none) :
    Accounted py painless true script canonical
        (turns py painless true script canonical s docs)
        (byQueryResponse docs.length (byQueryLoop py painless true script canonical s docs) true)
      ↔ Accountable py painless true script canonical
          (turns py painless true script canonical s docs) := by
  obtain ⟨honce, hnoops, hbalance, hupdated⟩ := walk_delete hdocs h
  have hfates := metBy_add py painless true script canonical
    (turns py painless true script canonical s docs)
  rw [length_turns] at hfates
  have hfound : (∀ t ∈ turns py painless true script canonical s docs,
        Found py canonical t.1 t.2)
      ↔ (turns py painless true script canonical s docs).countP
          (fun t => ¬Found py canonical t.1 t.2) = 0 := by
    rw [List.countP_eq_zero]
    simp only [decide_eq_true_eq, not_not]
  rw [Accountable, if_pos rfl, hfound]
  constructor
  · rintro ⟨-, -, hdeleted, -⟩
    simp only [byQueryResponse, if_true] at hdeleted
    omega
  · intro hnone
    constructor
    all_goals simp only [byQueryResponse, if_true, Option.getD_none]
    all_goals omega

end

/-- A write by query that answers counts every record once, and under what became of it, exactly
    where a delete finds every document where it looks for it, and where no script of an update asks
    for a document to be deleted and as many records are counted that do not change as change and
    are not counted. -/
theorem by_query_accounted_iff (py : Python) (engine : Engine) (painless : Painless) (s : EsStore)
    (index : String) (body : Object) (delete : Bool) {run : ByQueryRun}
    (h : byQuery py engine painless s index body delete = .ok run) (hanswers : run.raised = none) :
    ∃ matched script, byQueryMatched py engine s index body = .ok matched
      ∧ byQueryScript py body = .ok script
      ∧ (Accounted py painless delete script (py.lower index)
            (turns py painless delete script (py.lower index) s matched)
            (byQueryResponse matched.length run delete)
          ↔ Accountable py painless delete script (py.lower index)
              (turns py painless delete script (py.lower index) s matched)) := by
  obtain ⟨r, hresolve, h⟩ := bind_eq_ok_iff.1 h
  obtain rfl := resolveDocs_eq_ok (mapError_eq_ok_iff.1 hresolve)
  obtain ⟨clause, hclause, h⟩ := bind_eq_ok_iff.1 h
  obtain ⟨matched, hmatched, h⟩ := bind_eq_ok_iff.1 h
  obtain ⟨script, hscript, h⟩ := bind_eq_ok_iff.1 h
  obtain rfl := Except.ok.inj h
  have hshaped : ∀ d ∈ matched, Shaped d := fun d hd =>
    (held_of_mem_docsOf (mem_of_matchedDocs hmatched hd)).shaped
  refine ⟨matched, script, bind_eq_ok_iff.2 ⟨_, hresolve, bind_eq_ok_iff.2 ⟨_, hclause, hmatched⟩⟩,
    hscript, ?_⟩
  cases delete with
  | false => exact accounted_update_iff hshaped (upsertSource_byQueryScript hscript) hanswers
  | true => exact accounted_delete_iff hshaped hanswers

/-- A delete of everything in an index that holds one document. -/
theorem by_query_accounted_one :
    ∃ run, esDeleteByQuery asciiPython plainEngine idleScript oneDocument "a" [] = .ok run
      ∧ ∃ matched script, byQueryMatched asciiPython plainEngine oneDocument "a" [] = .ok matched
        ∧ Accounted asciiPython idleScript true script "a"
            (turns asciiPython idleScript true script "a" oneDocument matched)
            (byQueryResponse matched.length run true) := by
  have hrun : esDeleteByQuery asciiPython plainEngine idleScript oneDocument "a" [] = .ok _ := rfl
  refine ⟨_, hrun, ?_⟩
  obtain ⟨matched, script, hmatched, -, hiff⟩ :=
    by_query_accounted_iff asciiPython plainEngine idleScript oneDocument "a" [] true hrun rfl
  have hone : byQueryMatched asciiPython plainEngine oneDocument "a" []
      = .ok [⟨⟨some "1", []⟩, some "a"⟩] := rfl
  obtain rfl := Except.ok.inj (hone.symm.trans hmatched)
  refine ⟨_, script, hmatched, hiff.2 ?_⟩
  rw [Accountable, if_pos rfl]
  intro t ht
  obtain rfl := List.mem_singleton.1 ht
  rintro name docId ⟨⟩ ⟨⟩
  exact ⟨by decide, by decide⟩

/-- An engine that carries out a script that asks for a delete. -/
def deletingScript : Painless := fun source _ document =>
  if source = "ctx.op = 'delete'" then ⟨.ok "delete", document, document⟩
  else ⟨.ok "index", document, document⟩

/-- An update whose script deletes the one document of an index: the document is gone, and nothing
    is counted. -/
theorem deleted_by_script_not_counted :
    ∃ run, esUpdateByQuery asciiPython plainEngine deletingScript oneDocument "a"
        [("script", .str "ctx.op = 'delete'")] = .ok run
      ∧ run.raised = none ∧ run.store.documents.keys = []
      ∧ (byQueryResponse 1 run false).updated = some 0
      ∧ (byQueryResponse 1 run false).deleted = 0 ∧ (byQueryResponse 1 run false).noops = 0
      ∧ (byQueryResponse 1 run false).failures = []
      ∧ byQueryMatched asciiPython plainEngine oneDocument "a"
          [("script", .str "ctx.op = 'delete'")]
        = .ok [⟨⟨some "1", []⟩, some "a"⟩]
      ∧ ∀ script, ¬Accounted asciiPython deletingScript false script "a"
          (turns asciiPython deletingScript false script "a" oneDocument
            [⟨⟨some "1", []⟩, some "a"⟩])
          (byQueryResponse 1 run false) := by
  refine ⟨_, rfl, rfl, by decide, rfl, rfl, rfl, rfl, rfl, fun script haccounted => ?_⟩
  exact absurd haccounted.total (by decide)

end Mockdr.Elastic
