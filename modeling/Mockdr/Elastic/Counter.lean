import Mockdr.Elastic.Effect

/-!
# The document counter of an index

`_count_document` keeps, in the registry, how many documents an index holds. `Counted` says that it
is the number of records filed under the index, and `docs_count` that this holds in every state a
run of requests reaches. A document deleted without a refresh keeps its record, and its place in the
count, until the refresh.

Documents of all indices live in one collection under the keys `{index}:{id}`. An index name may
itself hold a colon, so that a key of `a:b` can be read as one of `a`; the results are about sets of
names that are `Separate`.
-/

namespace Mockdr.Elastic

variable {s : EsStore} {index key : String}

/-! ## Names that do not run into each other -/

/-- None of the names is another one followed by a colon and more. -/
def Separate (names : Set String) : Prop :=
  ∀ a ∈ names, ∀ b ∈ names, ∀ t, b ≠ docKey a t

/-- Two names with a common key: they are one, or one extends the other past a colon. -/
lemma eq_or_extends_of_docKey_eq {a b t docId : String} (e : docKey b docId = docKey a t) :
    a = b ∨ (∃ u, a = docKey b u) ∨ ∃ u, b = docKey a u := by
  have hl : b.toList ++ ':' :: docId.toList = a.toList ++ ':' :: t.toList := by
    simpa [docKey, String.toList_append] using congrArg String.toList e
  have key : ∀ {x y : String} {l d r : List Char}, x.toList = y.toList ++ l →
      ':' :: d = l ++ r → x = y ∨ ∃ u, x = docKey y u := by
    intro x y l d r hx hr
    cases l with
    | nil => exact .inl (String.toList_injective (by simpa using hx))
    | cons c l' =>
      have hc : ':' = c := List.head_eq_of_cons_eq hr
      refine .inr ⟨String.ofList l', String.toList_injective ?_⟩
      rw [hx, ← hc]
      simp [docKey, String.toList_append]
  rcases List.append_eq_append_iff.1 hl with ⟨l, h1, h2⟩ | ⟨l, h1, h2⟩
  · rcases key h1 h2 with h | h
    · exact .inl h
    · exact .inr (.inl h)
  · rcases key h1 h2 with h | h
    · exact .inl h.symm
    · exact .inr (.inr h)

lemma separate_of_no_colon {names : Set String} (h : ∀ a ∈ names, hasChar ':' a = false) :
    Separate names := by
  intro a _ b hb t e
  have hc := h b hb
  rw [e] at hc
  simp [hasChar, docKey, String.toList_append] at hc

lemma Separate.idUnder_eq_none {names : Set String} (h : Separate names) {a b : String}
    (ha : a ∈ names) (hb : b ∈ names) (hne : a ≠ b) (hk : (idUnder b key).isSome) :
    idUnder a key = none := by
  obtain ⟨docId, hd⟩ := Option.isSome_iff_exists.1 hk
  cases e : idUnder a key with
  | none => rfl
  | some t =>
    exfalso
    rw [idUnder_eq_some_iff] at hd e
    rcases eq_or_extends_of_docKey_eq (hd.symm.trans e) with he | ⟨u, hu⟩ | ⟨u, hu⟩
    · exact hne he
    · exact h b hb a ha u hu
    · exact h a ha b hb u hu

lemma Change.atKey_of_not_under (c : Change) (seqNo : Int) (record : Option DocRecord)
    (hk : idUnder index key = none) : c.atKey index seqNo key record = record := by
  have hne : ∀ docId, key ≠ docKey index docId := by
    intro docId e
    rw [e, idUnder_docKey] at hk
    cases hk
  cases c <;> simp [Change.atKey, hne, hk]

/-! ## The count -/

/-- The registry's count of an index is the number of records filed under it. -/
def Counted (s : EsStore) (index : String) : Prop :=
  (entryOf s index).docs = (s.documents.countP fun k => (idUnder index k).isSome : Nat)

lemma length_filed (s : EsStore) (index : String) :
    (filed s index).length = s.documents.countP fun k => (idUnder index k).isSome := by
  rw [filed, Dict.countP, Dict.keys]
  induction s.documents.entries with
  | nil => rfl
  | cons p rest ih =>
    rw [List.filterMap_cons, List.map_cons, List.countP_cons]
    cases idUnder index p.1 with
    | none => simpa using ih
    | some docId => simpa using ih

/-- A change that leaves the entry of an index, and which of its records are there, leaves the count
    right. -/
lemma Counted.congr {t : EsStore} (hc : Counted s index)
    (hd : (entryOf t index).docs = (entryOf s index).docs)
    (hk : ∀ k, (idUnder index k).isSome →
      (t.documents.get k).isSome = (s.documents.get k).isSome) : Counted t index := by
  rw [Counted, hd, hc, Dict.countP_congr hk]

lemma Counted.removeDocument (hc : Counted s index) (hr : Registers s index) {docId : String}
    (hk : (s.documents.get (docKey index docId)).isSome) :
    Counted (removeDocument s index docId) index := by
  have he := Dict.countP_erase s.documents (fun k => (idUnder index k).isSome) (docKey index docId)
  simp only [hk, idUnder_docKey, Option.isSome_some, Bool.and_self, if_true] at he
  rw [Counted] at hc ⊢
  rw [entryOf_removeDocument hr, documents_removeDocument]
  dsimp only
  rw [hc]
  omega

/-- A refresh leaves the count right. -/
lemma Counted.refreshIndex (hc : Counted s index) (hr : Registers s index) :
    Counted (refreshIndex s index) index := by
  have h : Registers (Elastic.refreshIndex s index) index
      ∧ Counted (Elastic.refreshIndex s index) index := by
    refine refreshIndex_induct (motive := fun t => Registers t index ∧ Counted t index) ⟨hr, hc⟩ ?_
    intro t ⟨k, record⟩ ⟨hr, hc⟩ hk
    refine ⟨(refreshRecord_registry hr _).1, ?_⟩
    rw [refreshRecord]
    cases hu : idUnder index k with
    | none => exact hc
    | some docId =>
      dsimp only at hk ⊢
      rw [idUnder_eq_some_iff] at hu
      subst hu
      split_ifs
      · exact hc.removeDocument hr (by rw [hk]; rfl)
      · refine hc.congr rfl ?_
        intro j _
        rw [saveDocument_documents _ (.inl (by rw [hk]; rfl)), Dict.get_set]
        by_cases e : j = docKey index docId
        · rw [if_pos e, e, hk]
          rfl
        · rw [if_neg e]
      · exact hc
  exact h.2

/-- A change to an index leaves its own count right. -/
lemma Counted.apply_self (hc : Counted s index) (h : BelowCaps s) {c : Change}
    (hf : c.Fits s index) : Counted (c.apply s index) index := by
  have hr := h.registers index
  have hamend : ∀ k f, Counted (amendDocument s k f) index := by
    intro k f
    refine hc.congr (by rw [entryOf, amendDocument_indices]; rfl) ?_
    intro j _
    rw [get_documents_amendDocument]
    split <;> simp
  cases c with
  | keep => exact hc
  | put docId version source pending =>
    have he := Dict.countP_set s.documents (fun k => (idUnder index k).isSome) (docKey index docId)
      ⟨version, (entryOf s index).seqNo, source, pending, false⟩
    simp only [idUnder_docKey, Option.isSome_some, Bool.and_true] at he
    rw [Counted] at hc ⊢
    rw [Change.apply, entryOf_putDocument h, documents_putDocument (.inr h.1), he, hc]
    split
    · simp only [Nat.cast_add, Nat.cast_one]
      omega
    · simp
  | share docId source => exact hamend _ _
  | mark docId => exact hamend _ _
  | remove docId numbered =>
    have hm := hc.removeDocument hr hf
    cases numbered with
    | false => exact hm
    | true =>
      refine hm.congr ?_ (fun _ _ => rfl)
      rw [Change.apply, entryOf_nextSeqNo (registers_removeDocument hr docId)]
  | refresh => exact hc.refreshIndex hr
  | drop =>
    have e : (Change.drop.apply s index).indices.get index = none := Dict.get_erase_self _ _
    have hz : (Change.drop.apply s index).documents.countP (fun k => (idUnder index k).isSome)
        = 0 := by
      apply Dict.countP_eq_zero
      intro k hk
      rw [get_documents_apply (h.hasRoom _), Change.atKey, if_pos hk]
    rw [Counted, hz, entryOf, e]
    rfl

lemma Counted.apply_ne {names : Set String} (hn : Separate names) {j : String} (hj : j ∈ names)
    (hi : index ∈ names) (hne : j ≠ index) (hc : Counted s j) (h : BelowCaps s) (c : Change) :
    Counted (c.apply s index) j := by
  refine hc.congr (by rw [entryOf, get_indices_apply_ne h c hne]; rfl) ?_
  intro k hk
  rw [get_documents_apply (h.hasRoom _),
    c.atKey_of_not_under _ _ (hn.idUnder_eq_none hi hj hne.symm hk)]

lemma Counted.step (py : Python) (painless : Painless) {names : Set String} (hn : Separate names)
    (h : BelowCaps s) {r : String × Request} (hr : r.1 ∈ names) (hc : ∀ j ∈ names, Counted s j) :
    ∀ j ∈ names, Counted (step py painless s r) j := by
  intro j hj
  rw [Elastic.step, (answer_change py painless s r.1 r.2).1]
  by_cases e : j = r.1
  · subst e
    exact (hc _ hj).apply_self h (change_makes py painless s r.1 r.2).fits
  · exact (hc j hj).apply_ne hn hj hr e h _

/-- Neither the records filed under an index nor its registry entry differ between two stores. -/
def Untouched (s t : EsStore) (index : String) : Prop :=
  (∀ docId, t.documents.get (docKey index docId) = s.documents.get (docKey index docId))
    ∧ t.indices.get index = s.indices.get index

lemma untouched_step (py : Python) (painless : Painless) {names : Set String} (hn : Separate names)
    (h : BelowCaps s) {r : String × Request} (hr : r.1 ∈ names) {j : String} (hj : j ∈ names)
    (hne : j ≠ r.1) : Untouched s (step py painless s r) j := by
  rw [step, (answer_change py painless s r.1 r.2).1]
  refine ⟨?_, get_indices_apply_ne h _ hne⟩
  intro docId
  have hk : idUnder r.1 (docKey j docId) = none :=
    hn.idUnder_eq_none hr hj hne.symm (by rw [idUnder_docKey]; rfl)
  rw [get_documents_apply (h.hasRoom _), Change.atKey_of_not_under _ _ _ hk]

/-- The document counter: after any run of requests over separate names, the registry counts for
    each index the documents filed under it, those deleted without a refresh among them until the
    refresh; and a request on one index leaves the documents and the entry of every other alone. -/
theorem docs_count (py : Python) (painless : Painless) {names : Set String} (hn : Separate names)
    (alerts endpoints : Dict String Object) (run : List (String × Request))
    (hr : ∀ r ∈ run, r.1 ∈ names)
    (hcaps : Along (step py painless) (fun s _ => BelowCaps s) (.seeded alerts endpoints) run) :
    let s := runFrom (step py painless) (.seeded alerts endpoints) run
    (∀ j ∈ names, (entryOf s j).docs = (filed s j).length)
      ∧ (BelowCaps s → ∀ r : String × Request, r.1 ∈ names → ∀ j ∈ names, j ≠ r.1 →
          Untouched s (step py painless s r) j) := by
  refine ⟨?_, fun h r hr j hj hne => untouched_step py painless hn h hr hj hne⟩
  have hg : Along (step py painless) (fun s r => BelowCaps s ∧ r.1 ∈ names)
      (.seeded alerts endpoints) run := by
    rw [Along.and_iff]
    exact ⟨hcaps, .of_forall hr⟩
  have hi : ∀ j ∈ names, Counted (runFrom (step py painless) (.seeded alerts endpoints) run) j :=
    hg.invariant (I := fun s => ∀ j ∈ names, Counted s j)
      (fun s r h hc => Counted.step py painless hn h.1 h.2 hc) (fun _ _ => rfl)
  intro j hj
  rw [length_filed]
  exact hi j hj

/-- The run of `docs_count` on two indices: a document written, deleted without a refresh and
    counted until the refresh, while another index keeps its own. -/
theorem docs_count_two_indices :
    let run : List (String × Request) :=
      [("a", .index "1" [] true {}), ("b", .index "1" [] false {}), ("a", .delete "1" false {}),
        ("a", .refresh)]
    let s := runFrom (step asciiPython idleScript) (.seeded .empty .empty) run
    (entryOf s "a").docs = (filed s "a").length ∧ (entryOf s "b").docs = (filed s "b").length := by
  have hn : Separate {"a", "b"} := by
    apply separate_of_no_colon
    rintro a (rfl | rfl) <;> decide
  have h := docs_count asciiPython idleScript hn .empty .empty
    [("a", .index "1" [] true {}), ("b", .index "1" [] false {}), ("a", .delete "1" false {}),
      ("a", .refresh)] (by simp) (by decide)
  exact ⟨h.1 "a" (by simp), h.1 "b" (by simp)⟩

/-- The documents of an index that are not marked deleted. -/
def liveDocuments (s : EsStore) (index : String) : List (String × DocRecord) :=
  (filed s index).filter fun p => !p.2.deleted

/-- A document deleted without a refresh is not live, and counted. -/
theorem docs_ne_live :
    let s := runFrom (step asciiPython idleScript) (.seeded .empty .empty)
      [("a", .index "1" [] true {}), ("a", .delete "1" false {})]
    (entryOf s "a").docs = 1 ∧ (liveDocuments s "a").length = 0
      ∧ (entryOf s "a").docs ≠ (liveDocuments s "a").length := by
  decide

end Mockdr.Elastic
