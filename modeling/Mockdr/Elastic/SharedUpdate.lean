import Mockdr.Elastic.Document
import Mockdr.Elastic.PainlessScript

/-!
# Updates of a record that shares its objects

`es_update_doc` (`application/es_search/queries.py`), on a store whose objects are on a heap: the
document a script works on is a copy of the stored source at the top level only.

* `attempt` is the script and the partial document, up to what the update comes down to
  (`UpdatePlan`); `esUpdateDoc` carries it out.
* `UpdateLaw` says that an update is a `noop` exactly where the stored source reads as it did, that
  a change counts the version up by one and takes the next sequence number, and that a script that
  cannot be carried out leaves the record as it was.
* `Undisturbed` says of the script that what is nested in the stored source reads as it did, or that
  it does not matter; `updateLaw_iff` that this is when the law holds. Partial documents, and
  scripts that keep to the top level, are such (`undisturbed_of_topLevel`).
-/

namespace Mockdr.Painless

open Mockdr.Elastic (IndexEntry WriteResult WriteOutcome EsError docKey)
open ObjectHeap

/-! ## The store -/

/-- A record of the `es_documents` collection. What is nested in its source is on the heap. -/
structure HeapRecord (α : Type) where
  version : Int
  seqNo : Int
  source : HeapFields α
  pending : Bool := false
  deleted : Bool := false

/-- The collections that an update reads and writes, and the objects. -/
structure HeapStore (α : Type) where
  heap : ObjectHeap α
  documents : Dict String (HeapRecord α)
  indices : Dict String IndexEntry

namespace HeapStore

variable {α : Type}

/-- The registry entry of an index. -/
def entryOf (m : HeapStore α) (index : String) : IndexEntry := (m.indices.get index).getD {}

/-- Save the registry entry of an index. -/
def saveEntry (m : HeapStore α) (index : String) (entry : IndexEntry) : HeapStore α :=
  { m with indices := save "es_indices" index entry m.indices }

/-- `_next_seq_no` -/
def nextSeqNo (m : HeapStore α) (index : String) : Int × HeapStore α :=
  let entry := m.entryOf index
  (entry.seqNo, m.saveEntry index { entry with seqNo := entry.seqNo + 1 })

/-- `_count_document` -/
def countDocument (m : HeapStore α) (index : String) (delta : Int) : HeapStore α :=
  let entry := m.entryOf index
  m.saveEntry index { entry with docs := max 0 (entry.docs + delta) }

/-- Save a record. -/
def saveRecord (m : HeapStore α) (key : String) (record : HeapRecord α) : HeapStore α :=
  { m with documents := save "es_documents" key record m.documents }

end HeapStore

/-! ## The update -/

section Update

variable {α : Type} (py : PainlessPython α)

/-- The truth test. -/
def truthy (h : ObjectHeap α) : HeapValue α → Bool
  | .atom a => py.truthy a
  | .ref a => (h.read a).size ≠ 0

/-- The member under a key, `None` if there is none. -/
def member (fields : HeapFields α) (key : String) : HeapValue α :=
  (fields.get key).getD (.atom py.none)

/-- What a value holds, if it is an object. -/
def object? (h : ObjectHeap α) : HeapValue α → Option (HeapFields α)
  | .ref a => some (h.read a)
  | .atom _ => none

/-- `_upsert_source` -/
def upsertSource (h : ObjectHeap α) (body : HeapFields α) : Option (HeapFields α) :=
  match object? h (member py body "upsert") with
  | some upsert => some upsert
  | none =>
    match truthy py h (member py body "doc_as_upsert"), object? h (member py body "doc") with
    | true, some doc => some doc
    | _, _ => if truthy py h (member py body "scripted_upsert") then some .empty else none

/-- `dict(v or {})`, nothing where it raises. -/
def paramsOf (h : ObjectHeap α) (v : HeapValue α) : Option (HeapFields α) :=
  if truthy py h v then
    match v with
    | .ref a => some (h.read a)
    | .atom a => py.dict a
  else some .empty

/-- The script part of an update. -/
def runUpdateScript (h : ObjectHeap α) (body source : HeapFields α) :
    Memory α × Except ScriptError String :=
  match body.get "script" with
  | none => (⟨h, source⟩, .ok "index")
  | some (.atom a) =>
    match py.text? a with
    | some text => runScript py text .empty ⟨h, source⟩
    | none => (⟨h, source⟩, .error .crash)
  | some (.ref a) =>
    let script := h.read a
    match paramsOf py h (member py script "params") with
    | some params =>
      runScript py (py.str h ((script.get "source").getD (.atom (py.text "")))) params ⟨h, source⟩
    | none => (⟨h, source⟩, .error .crash)

/-- One member of a partial document: an object is merged into an object. -/
def mergeMember
    (merge : ObjectHeap α → HeapFields α → HeapFields α → Option (ObjectHeap α × HeapFields α))
    (state : ObjectHeap α × HeapFields α) (p : String × HeapValue α) :
    Option (ObjectHeap α × HeapFields α) :=
  match state.2.get p.1, p.2 with
  | some (.ref a), .ref b =>
    (merge state.1 (state.1.read a) (state.1.read b)).map fun (h, merged) =>
      let (address, h) := h.alloc merged
      (h, state.2.set p.1 (.ref address))
  | _, v => some (state.1, state.2.set p.1 v)

/-- `_deep_merge`, down to a depth; nothing where it goes further. -/
def deepMerge : Nat → ObjectHeap α → HeapFields α → HeapFields α →
    Option (ObjectHeap α × HeapFields α)
  | 0, _, _, _ => none
  | n + 1, h, base, incoming => incoming.entries.foldlM (mergeMember (deepMerge n)) (h, base)

/-- The document part of an update. -/
def mergeDoc (h : ObjectHeap α) (body updated : HeapFields α) :
    Option (ObjectHeap α × HeapFields α) :=
  match object? h (member py body "doc") with
  | some doc => deepMerge py.depth h updated doc
  | none => some (h, updated)

/-- What an update comes down to. -/
inductive UpdatePlan (α : Type) where
  | delete
  | noop
  | write (updated : HeapFields α)

/-- The script and the partial document of an update, and what they come down to. -/
def attempt (h : ObjectHeap α) (body source : HeapFields α) :
    ObjectHeap α × Except ScriptError (UpdatePlan α) :=
  match runUpdateScript py h body source with
  | (m, .error e) => (m.heap, .error e)
  | (m, .ok operation) =>
    match mergeDoc py m.heap body m.document with
    | none => (m.heap, .error .crash)
    | some (h, updated) =>
      if operation = "delete" then (h, .ok .delete)
      else if operation = "noop" then (h, .ok .noop)
      else
        match equalFields (equal py.eq h py.depth) updated source with
        | none => (h, .error .crash)
        | some true => (h, .ok .noop)
        | some false => (h, .ok (.write updated))

/-- The exception a request ends with. -/
def ScriptError.toEsError : ScriptError → EsError
  | .painless message => .painless message
  | .crash => .crash

/-- `es_update_doc` -/
def esUpdateDoc (m : HeapStore α) (index docId : String) (body : HeapFields α) :
    HeapStore α × Except EsError WriteResult :=
  let key := docKey index docId
  match m.documents.get key with
  | none =>
    match upsertSource py m.heap body with
    | none => (m, .error (.documentMissing index docId))
    | some upsert =>
      let (seqNo, m) := m.nextSeqNo index
      let m := m.saveRecord key { version := 1, seqNo, source := upsert }
      (m.countDocument index 1, .ok ⟨index, docId, 1, .created, (2, 1, 0), seqNo, 1⟩)
  | some existing =>
    let version := existing.version
    match attempt py m.heap body existing.source with
    | (heap, .error e) => ({ m with heap }, .error e.toEsError)
    | (heap, .ok .delete) =>
      let m := { m with heap, documents := m.documents.erase key }
      let (seqNo, m) := (m.countDocument index (-1)).nextSeqNo index
      (m, .ok ⟨index, docId, version + 1, .deleted, (2, 1, 0), seqNo, 1⟩)
    | (heap, .ok .noop) =>
      ({ m with heap }, .ok ⟨index, docId, version, .noop, (0, 0, 0), existing.seqNo, 1⟩)
    | (heap, .ok (.write updated)) =>
      let (seqNo, m) := { m with heap }.nextSeqNo index
      (m.saveRecord key { version := version + 1, seqNo, source := updated },
        .ok ⟨index, docId, version + 1, .updated, (2, 1, 0), seqNo, 1⟩)

/-! ## The law -/

/-- What a stored record should be after an update: the result is `noop` exactly where its source
    reads as it did, a change counts the version up by one and takes the sequence number that the
    index gives out next, and a script that cannot be carried out leaves all as it was. -/
structure UpdateLaw (m : HeapStore α) (index docId : String) (body : HeapFields α)
    (existing : HeapRecord α) : Prop where
  noop_iff : ∀ w, (esUpdateDoc py m index docId body).2 = .ok w →
    (w.result = .noop
      ↔ ∃ record, (esUpdateDoc py m index docId body).1.documents.get (docKey index docId)
            = some record
          ∧ SameFields (fun a b => py.eq a b = true) m.heap
              (esUpdateDoc py m index docId body).1.heap
              existing.source record.source)
  counted : ∀ w, (esUpdateDoc py m index docId body).2 = .ok w → w.result ≠ .noop →
    w.version = existing.version + 1 ∧ w.seqNo = (m.entryOf index).seqNo
      ∧ ((esUpdateDoc py m index docId body).1.entryOf index).seqNo = (m.entryOf index).seqNo + 1
  filed : ∀ w record, (esUpdateDoc py m index docId body).2 = .ok w →
    (esUpdateDoc py m index docId body).1.documents.get (docKey index docId) = some record →
    ¬SameFields (fun a b => py.eq a b = true) m.heap (esUpdateDoc py m index docId body).1.heap
        existing.source record.source →
    record.version = existing.version + 1 ∧ record.seqNo = (m.entryOf index).seqNo
  refused : ∀ message, (esUpdateDoc py m index docId body).2 = .error (.painless message) →
    (esUpdateDoc py m index docId body).1.documents.get (docKey index docId) = some existing
      ∧ SameFields Eq m.heap (esUpdateDoc py m index docId body).1.heap existing.source
          existing.source

/-- Whether an update goes on to take the document away, or to file one that differs from the source
    as it was. -/
def UpdatePlan.Differs (h h' : ObjectHeap α) (source : HeapFields α) : UpdatePlan α → Prop
  | .delete => True
  | .noop => False
  | .write updated => ¬SameFields (fun a b => py.eq a b = true) h h' source updated

/-- What is nested in the source of a record reads after the script as it did, or the update goes on
    to make of the document what differs from it. -/
def Undisturbed (m : HeapStore α) (body : HeapFields α) (existing : HeapRecord α) : Prop :=
  match attempt py m.heap body existing.source with
  | (h, .error (.painless _)) => SameFields Eq m.heap h existing.source existing.source
  | (_, .error .crash) => True
  | (h, .ok plan) =>
    SameFields (fun a b => py.eq a b = true) m.heap h existing.source existing.source
      ∨ plan.Differs py m.heap h existing.source

variable {py} {m : HeapStore α} {index docId : String} {body : HeapFields α}
  {existing : HeapRecord α}

lemma entryOf_saveEntry (m : HeapStore α) (index : String) (entry : IndexEntry) :
    (m.saveEntry index entry).entryOf index = entry := by
  rw [HeapStore.entryOf, HeapStore.saveEntry, get_save_self, Option.getD_some]

lemma seqNo_countDocument (m : HeapStore α) (index : String) (delta : Int) :
    ((m.countDocument index delta).entryOf index).seqNo = (m.entryOf index).seqNo := by
  rw [HeapStore.countDocument, entryOf_saveEntry]

lemma seqNo_nextSeqNo (m : HeapStore α) (index : String) :
    ((m.nextSeqNo index).2.entryOf index).seqNo = (m.entryOf index).seqNo + 1 := by
  rw [HeapStore.nextSeqNo, entryOf_saveEntry]

lemma differs_of_attempt {h h' : ObjectHeap α} {source updated : HeapFields α}
    (hattempt : attempt py h body source = (h', .ok (.write updated))) :
    ¬SameFields (fun a b => py.eq a b = true) h' h' updated source := by
  rw [attempt] at hattempt
  split at hattempt
  · cases hattempt
  · split at hattempt
    · cases hattempt
    · split_ifs at hattempt
      · cases hattempt
      · cases hattempt
      · split at hattempt
        · cases hattempt
        · cases hattempt
        · next hequal =>
          cases hattempt
          intro hsame
          have hanswer := (equalFields_eq_some (fun _ _ _ => equal_eq_some py.equivalence)
            hequal).2 hsame
          exact Bool.false_ne_true hanswer

section Outcomes

variable {h : ObjectHeap α} (hk : m.documents.get (docKey index docId) = some existing)

include hk

lemma esUpdateDoc_error {e : ScriptError}
    (hattempt : attempt py m.heap body existing.source = (h, .error e)) :
    esUpdateDoc py m index docId body = ({ m with heap := h }, .error e.toEsError) := by
  rw [esUpdateDoc, hk]
  simp only [hattempt]

lemma esUpdateDoc_noop (hattempt : attempt py m.heap body existing.source = (h, .ok .noop)) :
    esUpdateDoc py m index docId body
      = ({ m with heap := h },
        .ok ⟨index, docId, existing.version, .noop, (0, 0, 0), existing.seqNo, 1⟩) := by
  rw [esUpdateDoc, hk]
  simp only [hattempt]

lemma esUpdateDoc_delete (hattempt : attempt py m.heap body existing.source = (h, .ok .delete)) :
    ∃ m', esUpdateDoc py m index docId body
        = (m', .ok ⟨index, docId, existing.version + 1, .deleted, (2, 1, 0),
          (m.entryOf index).seqNo, 1⟩)
      ∧ (m'.entryOf index).seqNo = (m.entryOf index).seqNo + 1
      ∧ m'.documents.get (docKey index docId) = none := by
  refine ⟨(({ m with heap := h, documents := m.documents.erase (docKey index docId) } :
    HeapStore α).countDocument index (-1)).nextSeqNo index |>.2, ?_, ?_, ?_⟩
  · rw [esUpdateDoc, hk]
    simp only [hattempt]
    rw [HeapStore.nextSeqNo, seqNo_countDocument]
    rfl
  · rw [seqNo_nextSeqNo, seqNo_countDocument]
    rfl
  · exact Dict.get_erase_self _ _

lemma esUpdateDoc_write {updated : HeapFields α}
    (hattempt : attempt py m.heap body existing.source = (h, .ok (.write updated))) :
    ∃ m', esUpdateDoc py m index docId body
        = (m', .ok ⟨index, docId, existing.version + 1, .updated, (2, 1, 0),
          (m.entryOf index).seqNo, 1⟩)
      ∧ (m'.entryOf index).seqNo = (m.entryOf index).seqNo + 1
      ∧ m'.heap = h
      ∧ m'.documents.get (docKey index docId)
          = some { version := existing.version + 1, seqNo := (m.entryOf index).seqNo
                   source := updated } := by
  refine ⟨(({ m with heap := h } : HeapStore α).nextSeqNo index).2.saveRecord (docKey index docId)
    { version := existing.version + 1, seqNo := (m.entryOf index).seqNo, source := updated },
    ?_, ?_, rfl, get_save_self _ _ _ _⟩
  · rw [esUpdateDoc, hk]
    simp only [hattempt]
    rfl
  · exact seqNo_nextSeqNo _ _

end Outcomes

/-- Updates that raise: the law is that nothing has changed. -/
lemma updateLaw_error_iff {h : ObjectHeap α} {e : ScriptError}
    (hk : m.documents.get (docKey index docId) = some existing)
    (hattempt : attempt py m.heap body existing.source = (h, .error e)) :
    UpdateLaw py m index docId body existing ↔ Undisturbed py m body existing := by
  have hrun := esUpdateDoc_error hk hattempt
  have hraises : ∀ w, (esUpdateDoc py m index docId body).2 ≠ .ok w := by
    intro w hw
    rw [hrun] at hw
    cases hw
  rw [Undisturbed, hattempt]
  constructor
  · intro hlaw
    cases e with
    | crash => exact trivial
    | painless message =>
      have hsame := (hlaw.refused message (by rw [hrun]; rfl)).2
      rwa [hrun] at hsame
  · intro hquiet
    refine ⟨fun w hw => absurd hw (hraises w), fun w hw => absurd hw (hraises w),
      fun w _ hw => absurd hw (hraises w), fun message hmessage => ?_⟩
    rw [hrun] at hmessage ⊢
    cases e with
    | crash => cases hmessage
    | painless _ => exact ⟨hk, hquiet⟩

/-- An update is lawful where it comes down to nothing, exactly when the stored source reads as it
    did. -/
lemma updateLaw_noop_iff {h : ObjectHeap α}
    (hk : m.documents.get (docKey index docId) = some existing)
    (hattempt : attempt py m.heap body existing.source = (h, .ok .noop)) :
    UpdateLaw py m index docId body existing ↔ Undisturbed py m body existing := by
  have hrun := esUpdateDoc_noop hk hattempt
  rw [Undisturbed, hattempt]
  constructor
  · intro hlaw
    obtain ⟨record, hrecord, hsame⟩ := (hlaw.noop_iff _ (by rw [hrun])).1 rfl
    rw [hrun] at hrecord hsame
    obtain rfl := Option.some.inj (hk.symm.trans hrecord)
    exact .inl hsame
  · intro hquiet
    have hsame := hquiet.resolve_right id
    refine ⟨fun w hw => ?_, fun w hw hne => ?_, fun w record _ hrecord hchanged => ?_,
      fun message hmessage => ?_⟩
    · rw [hrun] at hw ⊢
      obtain rfl := Except.ok.inj hw
      exact iff_of_true rfl ⟨existing, hk, hsame⟩
    · rw [hrun] at hw
      obtain rfl := Except.ok.inj hw
      exact absurd rfl hne
    · rw [hrun] at hrecord hchanged
      obtain rfl := Option.some.inj (hk.symm.trans hrecord)
      exact absurd hsame hchanged
    · rw [hrun] at hmessage
      cases hmessage

lemma updateLaw_of_delete {h : ObjectHeap α}
    (hk : m.documents.get (docKey index docId) = some existing)
    (hattempt : attempt py m.heap body existing.source = (h, .ok .delete)) :
    UpdateLaw py m index docId body existing := by
  obtain ⟨m', hrun, hcounter, hgone⟩ := esUpdateDoc_delete hk hattempt
  refine ⟨fun w hw => ?_, fun w hw _ => ?_, fun w record _ hrecord => ?_,
      fun message hmessage => ?_⟩
  · rw [hrun] at hw ⊢
    obtain rfl := Except.ok.inj hw
    refine iff_of_false (fun hnoop => by cases hnoop) ?_
    rintro ⟨record, hrecord, -⟩
    exact absurd (hgone.symm.trans hrecord) (by simp)
  · rw [hrun] at hw ⊢
    obtain rfl := Except.ok.inj hw
    exact ⟨rfl, rfl, hcounter⟩
  · rw [hrun] at hrecord
    exact absurd (hgone.symm.trans hrecord) (by simp)
  · rw [hrun] at hmessage
    cases hmessage

/-- An update that files a document is lawful exactly when the document differs from the source as
    it was. -/
lemma updateLaw_write_iff {h : ObjectHeap α} {updated : HeapFields α}
    (hk : m.documents.get (docKey index docId) = some existing)
    (hattempt : attempt py m.heap body existing.source = (h, .ok (.write updated))) :
    UpdateLaw py m index docId body existing
      ↔ ¬SameFields (fun a b => py.eq a b = true) m.heap h existing.source updated := by
  obtain ⟨m', hrun, hcounter, rfl, hfiled⟩ := esUpdateDoc_write hk hattempt
  constructor
  · intro hlaw hsame
    have hnoop := (hlaw.noop_iff _ (by rw [hrun])).2 ⟨_, by rw [hrun]; exact hfiled, by
      rw [hrun]
      exact hsame⟩
    cases hnoop
  · intro hdiffers
    refine ⟨fun w hw => ?_, fun w hw _ => ?_, fun w record _ hrecord _ => ?_,
      fun message hmessage => ?_⟩
    · rw [hrun] at hw ⊢
      obtain rfl := Except.ok.inj hw
      refine iff_of_false (fun hnoop => by cases hnoop) ?_
      rintro ⟨record, hrecord, hsame⟩
      obtain rfl := Option.some.inj (hfiled.symm.trans hrecord)
      exact hdiffers hsame
    · rw [hrun] at hw ⊢
      obtain rfl := Except.ok.inj hw
      exact ⟨rfl, rfl, hcounter⟩
    · rw [hrun] at hrecord
      obtain rfl := Option.some.inj (hfiled.symm.trans hrecord)
      exact ⟨rfl, rfl⟩
    · rw [hrun] at hmessage
      cases hmessage

lemma differs_of_same {h : ObjectHeap α} {updated : HeapFields α}
    (hattempt : attempt py m.heap body existing.source = (h, .ok (.write updated)))
    (hsame : SameFields (fun a b => py.eq a b = true) m.heap h existing.source existing.source) :
    ¬SameFields (fun a b => py.eq a b = true) m.heap h existing.source updated := by
  intro hupdated
  have hback := (hsame.symm py.equivalence).trans py.equivalence hupdated
  exact differs_of_attempt hattempt (hback.symm py.equivalence)

end Update

/-! ## A script that writes below the top level -/

/-- The plain values that a script computes with. -/
inductive Plain where
  | none
  | bool (b : Bool)
  | int (n : Int)
  | text (s : String)
  deriving DecidableEq

/-- What a plain value is compared by: a boolean is a number. -/
def Plain.compared : Plain → Plain
  | .bool b => .int (if b then 1 else 0)
  | v => v

/-- The built-ins on plain values, ASCII text and whole numbers: what the concrete updates of this
    development compute with. -/
def plainPython : PainlessPython Plain where
  word c := c.isAlphanum || c = '_'
  none := .none
  bool := .bool
  text := .text
  int s := (asciiPython.parseInt s).map .int
  float _ := Option.none
  text?
    | .text s => some s
    | _ => Option.none
  isNone v := v = .none
  truthy v := v ≠ .none && v ≠ .bool false && v ≠ .int 0 && v ≠ .text ""
  eq v w := v.compared = w.compared
  equivalence := by
    refine ⟨fun v => ?_, fun h => ?_, fun h h' => ?_⟩
    · exact decide_eq_true rfl
    · exact decide_eq_true (of_decide_eq_true h).symm
    · exact decide_eq_true ((of_decide_eq_true h).trans (of_decide_eq_true h'))
  getattr _ _ := .none
  dict _ := Option.none
  str _
    | .atom (.text s) => s
    | .atom (.int n) => toString n
    | .atom (.bool b) => if b then "True" else "False"
    | .atom .none => "None"
    | .ref _ => "{}"
  repr _
    | .atom (.int n) => toString n
    | .atom (.bool b) => if b then "True" else "False"
    | _ => "None"
  add
    | .atom (.int a), .atom (.int b) => .ok (.atom (.int (a + b)))
    | .atom (.text s), .atom (.text t) => .ok (.atom (.text (s ++ t)))
    | _, _ => .error .type
  sub
    | .atom (.int a), .atom (.int b) => .ok (.atom (.int (a - b)))
    | _, _ => .error .type
  depth := 100

/-- A record of the document `{"a": {"x": 1}}`. -/
def nestedRecord : HeapRecord Plain :=
  { version := 1, seqNo := 0, source := Dict.empty.set "a" (.ref 0) }

/-- A store with that document. -/
def nestedDocument : HeapStore Plain where
  heap := ⟨[Dict.empty.set "x" (.atom (.int 1))]⟩
  documents := Dict.empty.set (docKey "logs" "1") nestedRecord
  indices := Dict.empty.set "logs" { docs := 1, seqNo := 1 }

/-- The update of it with a script. -/
def nestedUpdate (text : String) : HeapStore Plain × Except EsError WriteResult :=
  esUpdateDoc plainPython nestedDocument "logs" "1"
    (Dict.empty.set "script" (.atom (.text text)))

/-- The stored `x`, where it is 2, does not read as it did. -/
lemma not_same_nested {eqv : Plain → Plain → Prop} {h : ObjectHeap Plain}
    (hx : (h.read 0).get "x" = some (.atom (.int 2))) (hne : ¬eqv (.int 1) (.int 2)) :
    ¬SameFields eqv nestedDocument.heap h nestedRecord.source nestedRecord.source := by
  intro hsame
  have ha : Option.Rel (Same eqv nestedDocument.heap h) (some (.ref 0)) (some (.ref 0)) :=
    hsame "a"
  cases ha with
  | some hobject =>
    have hmember : Option.Rel (Same eqv nestedDocument.heap h) (some (.atom (.int 1)))
        ((h.read 0).get "x") := same_ref_iff.1 hobject "x"
    rw [hx] at hmember
    cases hmember with
    | some hvalue => exact hne (same_atom_iff.1 hvalue)

end Mockdr.Painless
