import Mathlib
import Mockdr.Dev.Import

/-!
# Whether an import is all or nothing

Nothing is raised and left uncaught while the typed, the binary and the mapping collections are
loaded. What is raised while a raw collection or the order of the activities is, comes after the
store has been cleared.

* `Loads`: the snapshots that are loaded to their end.
* `all_or_nothing_iff`: an import goes through or leaves every store as it was, exactly when the
  snapshot is refused before anything is cleared, or is loaded to its end.
-/

namespace Mockdr

namespace Dev

/-- Every record in a list under a raw collection has an id that can be a key, or none. -/
def HashableIds (snapshot : Snapshot) : Prop :=
  ∀ collection ∈ RAW_COLLECTIONS, ∀ records,
    snapshot.others collection = some (.json (.list records)) →
      ∀ record, Json.dict record ∈ records → (rawId collection record).truthy →
        (hashKey (rawId collection record)).isSome

/-- The snapshot has an order for its activities, or needs none, or one can be made: their creation
    times can be sorted and each has an id. -/
def OrderRestorable (snapshot : Snapshot) : Prop :=
  (∃ first rest, snapshot.activityOrder = some (.list (first :: rest)))
    ∨ snapshot.activities = [] ∨ (rebuiltOrder snapshot.activities).isSome

/-- The snapshots that are loaded to their end. -/
def Loads (snapshot : Snapshot) : Prop := HashableIds snapshot ∧ OrderRestorable snapshot

variable (py : DevPython) (classes : Classes) (egress : Egress)

/-- An import goes through, or leaves the store as it was. -/
def AllOrNothing (s : Store) (snapshot : Snapshot) : Prop :=
  (∃ counts, (importState py classes egress s snapshot).2 = .ok counts)
    ∨ (importState py classes egress s snapshot).1 = s

variable {py classes egress}

/-! ## What is raised and not caught -/

lemma construct_names {fields : List (String × Option Value)} {record obj : Fields}
    (h : construct fields record = some obj) : obj.map Prod.fst = fields.map Prod.fst := by
  rw [construct] at h
  split at h
  · next hall =>
    clear hall
    induction fields generalizing obj with
    | nil =>
      cases h
      rfl
    | cons field fields ih =>
      rw [List.mapM_cons] at h
      obtain ⟨v, hv, h⟩ := Option.bind_eq_some_iff.1 h
      obtain ⟨rest, hrest, h⟩ := Option.bind_eq_some_iff.1 h
      obtain ⟨w, -, rfl⟩ := Option.map_eq_some_iff.1 hv
      cases h
      rw [List.map_cons, List.map_cons, ih hrest]
  · cases h

lemma getAttribute_ok {obj : Fields} {name : String} (h : name ∈ obj.map Prod.fst) :
    ∃ v, getAttribute obj name = .ok v := by
  rw [getAttribute]
  cases hget : Assoc.get name obj with
  | some v => exact ⟨v, rfl⟩
  | none => exact absurd h (Assoc.get_eq_none_iff.1 hget)

/-- An object that has the attributes its key is made of has a key, or is skipped. -/
lemma keyOf_ne_uncaught {obj : Fields} {rule : KeyRule}
    (h : ∀ name ∈ rule.names, name ∈ obj.map Prod.fst) :
    rule.keyOf py obj ≠ .error .uncaught := by
  cases rule with
  | attr name =>
    obtain ⟨v, hv⟩ := getAttribute_ok (h name List.mem_cons_self)
    rw [KeyRule.keyOf, hv]
    rintro ⟨⟩
  | joined sep names =>
    obtain ⟨vs, hvs⟩ : ∃ vs, names.mapM (getAttribute obj) = .ok vs := by
      rw [KeyRule.names] at h
      induction names with
      | nil => exact ⟨[], rfl⟩
      | cons name names ih =>
        obtain ⟨hname, hnames⟩ := List.forall_mem_cons.1 h
        obtain ⟨v, hv⟩ := getAttribute_ok hname
        obtain ⟨vs, hvs⟩ := ih hnames
        exact ⟨v :: vs, mapM_eq_ok_iff.2 (.cons hv (mapM_eq_ok_iff.1 hvs))⟩
    rw [KeyRule.keyOf, hvs]
    rintro ⟨⟩
  | member name key =>
    obtain ⟨v, hv⟩ := getAttribute_ok (h name List.mem_cons_self)
    rw [KeyRule.keyOf, hv]
    intro hraised
    rcases v with ⟨_ | _ | _ | _ | _ | _ | members⟩ | b
    case json.dict =>
      dsimp only [bind, Except.bind] at hraised
      split at hraised
      · cases hraised
      · cases hraised
    all_goals cases hraised

lemma readRecord_ne_uncaught {collection : String} {record : Fields}
    (h : collection ∈ typedNames) : readRecord py classes collection record ≠ .error .uncaught := by
  rw [readRecord]
  cases hobj : construct (classes.fields collection) record with
  | none => rintro ⟨⟩
  | some obj =>
    have hkey : storeKey py collection obj ≠ .error .uncaught := by
      refine keyOf_ne_uncaught ?_
      rw [construct_names hobj]
      exact classes.keyed collection h
    intro hraised
    cases hstore : storeKey py collection obj with
    | ok key =>
      simp only [hstore] at hraised
      cases hraised
    | error e =>
      simp only [hstore, Except.map] at hraised
      rw [Except.error.inj hraised] at hstore
      exact hkey hstore

lemma loadRecord_ok {collection : String} (h : collection ∈ typedNames) (l : Loading)
    (record : Option Fields) : ∃ l', loadRecord py classes collection l record = .ok l' := by
  cases record with
  | none => exact ⟨_, rfl⟩
  | some record =>
    rw [loadRecord]
    cases hread : readRecord py classes collection (migrateRecord py collection record).1 with
    | ok read => exact ⟨_, rfl⟩
    | error e =>
      cases e with
      | skipped => exact ⟨_, rfl⟩
      | uncaught => exact absurd hread (readRecord_ne_uncaught h)

lemma loadTyped_ok {snapshot : Snapshot} {collection : String} (h : collection ∈ typedNames)
    (l : Loading) : ∃ l', loadTyped py classes snapshot l collection = .ok l' :=
  (foldlM_ok_iff (P := fun _ => True) fun l record =>
    iff_of_true (loadRecord_ok h l record) trivial).2 fun _ _ => trivial

lemma loadRawRecord_ok_iff (collection : String) (l : Loading) (record : Json) :
    (∃ l', loadRawRecord collection l record = .ok l')
      ↔ ∀ members, record = .dict members → (rawId collection members).truthy →
        (hashKey (rawId collection members)).isSome := by
  cases record
  case dict members =>
    simp only [Json.dict.injEq, forall_eq', loadRawRecord]
    cases htruthy : (rawId collection members).truthy with
    | false => simp
    | true =>
      cases hashKey (rawId collection members) with
      | none => simp
      | some key => simp
  all_goals
    refine iff_of_true ⟨_, rfl⟩ ?_
    rintro members ⟨⟩

/-- A raw collection is loaded to its end unless a listed id cannot be a key. -/
lemma importRaw_ok_iff (snapshot : Snapshot) (collection : String) (l : Loading) :
    (∃ l', importRaw snapshot l collection = .ok l')
      ↔ ∀ records, snapshot.others collection = some (.json (.list records)) →
        ∀ record, Json.dict record ∈ records → (rawId collection record).truthy →
          (hashKey (rawId collection record)).isSome := by
  rw [importRaw]
  split
  · next records hrecords =>
    rw [hrecords, foldlM_ok_iff (fun l record => loadRawRecord_ok_iff collection l record)]
    constructor
    · intro h records' hsame record hmem
      cases hsame
      exact h _ hmem record rfl
    · rintro h _ hmem record rfl
      exact h records rfl record hmem
  · next m hnot hm =>
    refine iff_of_true ⟨_, rfl⟩ ?_
    intro records hrecords
    rw [hm] at hrecords
    cases hrecords
    exact (hnot records rfl).elim
  · next hnone =>
    refine iff_of_true ⟨_, rfl⟩ ?_
    intro records hrecords
    rw [hnone] at hrecords
    cases hrecords

lemma restoreOrder_ok_iff (snapshot : Snapshot) (l : Loading) :
    (∃ l', restoreOrder snapshot l = .ok l') ↔ OrderRestorable snapshot := by
  rw [restoreOrder, OrderRestorable]
  split
  · next first rest horder => exact iff_of_true ⟨_, rfl⟩ (.inl ⟨first, rest, horder⟩)
  · next hnot =>
    have hnone : ¬ ∃ first rest, snapshot.activityOrder = some (.list (first :: rest)) := by
      rintro ⟨first, rest, h⟩
      exact hnot first rest h
    rw [or_iff_right hnone]
    split
    · next hempty => exact iff_of_true ⟨_, rfl⟩ (.inl hempty)
    · next hne =>
      rw [or_iff_right hne]
      cases rebuiltOrder snapshot.activities with
      | some order => exact iff_of_true ⟨_, rfl⟩ rfl
      | none =>
        refine iff_of_false ?_ ?_
        · rintro ⟨l', ⟨⟩⟩
        · rintro ⟨⟩

/-- Which snapshots are loaded to their end does not depend on the store. -/
lemma loadSnapshot_ok_iff (s : Store) (snapshot : Snapshot) :
    (∃ l, loadSnapshot py classes egress s snapshot = .ok l) ↔ Loads snapshot := by
  have hraw : ∀ l, (∃ l', RAW_COLLECTIONS.foldlM (importRaw snapshot) l = .ok l')
      ↔ HashableIds snapshot := fun l =>
    foldlM_ok_iff fun l collection => importRaw_ok_iff snapshot collection l
  have htyped : ∃ l, typedNames.foldlM (loadTyped py classes snapshot) ⟨s.clearAll, 0, 0, 0⟩
      = .ok l := by
    refine foldlM_ok_of_mem ?_ _
    intro l collection hmem
    exact loadTyped_ok hmem l
  obtain ⟨l, hl⟩ := htyped
  rw [loadSnapshot, Loads, ← hraw l]
  constructor
  · rintro ⟨_, h⟩
    obtain ⟨l₁, h₁, h⟩ := bind_eq_ok_iff.1 h
    rw [hl] at h₁
    cases h₁
    obtain ⟨l₂, h₂, h⟩ := bind_eq_ok_iff.1 h
    obtain ⟨l₃, h₃, -⟩ := bind_eq_ok_iff.1 h
    exact ⟨⟨l₂, h₂⟩, (restoreOrder_ok_iff snapshot _).1 ⟨l₃, h₃⟩⟩
  · rintro ⟨⟨l₂, h₂⟩, horder⟩
    obtain ⟨l₃, h₃⟩ := (restoreOrder_ok_iff snapshot
      (MAPPING_COLLECTIONS.foldl (loadMapping snapshot)
        (BINARY_COLLECTIONS.foldl (loadBinary py snapshot) l₂))).2 horder
    exact ⟨_, bind_eq_ok_iff.2 ⟨l, hl, bind_eq_ok_iff.2 ⟨l₂, h₂, bind_eq_ok_iff.2 ⟨l₃, h₃, rfl⟩⟩⟩⟩

/-! ## What is left when something is raised -/

/-- What holds of the store when a load goes on, and when something is raised. -/
def Leaves (P : Store → Prop) : Except Store Loading → Prop
  | .ok l => P l.store
  | .error s => P s

lemma Leaves.bind {P : Store → Prop} {x : Except Store Loading}
    {f : Loading → Except Store Loading} (hx : Leaves P x)
    (hf : ∀ l, P l.store → Leaves P (f l)) : Leaves P (x >>= f) := by
  cases x with
  | ok l => exact hf l hx
  | error s => exact hx

lemma Leaves.foldlM {α : Type} {P : Store → Prop} {f : Loading → α → Except Store Loading}
    {as : List α} (hf : ∀ l, ∀ a ∈ as, P l.store → Leaves P (f l a)) {l : Loading}
    (hl : P l.store) : Leaves P (as.foldlM f l) := by
  induction as generalizing l with
  | nil => exact hl
  | cons a as ih =>
    rw [List.foldlM_cons]
    refine Leaves.bind (hf l a List.mem_cons_self hl) ?_
    intro l' hl'
    exact ih (fun l b hb => hf l b (List.mem_cons_of_mem a hb)) hl'

/-- The search contexts of the cluster, which no snapshot has, are gone. -/
def ContextsGone (s : Store) : Prop := s.collections "es_search_contexts" = .empty

lemma ContextsGone.save {s : Store} (h : ContextsGone s) {collection : String} (key : Key)
    (record : Stored) (hne : collection ≠ "es_search_contexts") :
    ContextsGone (s.save collection key record) := (if_neg hne.symm).trans h

lemma contextsGone_loadRecord {collection : String} {l : Loading} (h : ContextsGone l.store)
    (hne : collection ≠ "es_search_contexts") (record : Option Fields) :
    Leaves ContextsGone (loadRecord py classes collection l record) := by
  cases record with
  | none => exact h
  | some record =>
    rw [loadRecord]
    dsimp only
    split
    · exact h.save _ _ hne
    · exact h
    · exact h

lemma contextsGone_loadEntries {collection : String} {l : Loading} (h : ContextsGone l.store)
    (hne : collection ≠ "es_search_contexts") (entries : List (Key × Stored)) :
    ContextsGone (loadEntries collection l entries).store := by
  rw [loadEntries]
  induction entries generalizing l with
  | nil => exact h
  | cons p entries ih => exact ih (h.save p.1 p.2 hne)

lemma contextsGone_importRaw {snapshot : Snapshot} {collection : String} {l : Loading}
    (h : ContextsGone l.store) (hne : collection ≠ "es_search_contexts") :
    Leaves ContextsGone (importRaw snapshot l collection) := by
  rw [importRaw]
  split
  · refine Leaves.foldlM ?_ h
    intro l record _ hl
    cases record
    case dict members =>
      rw [loadRawRecord]
      split
      · exact hl
      · split
        · exact hl.save _ _ hne
        · exact hl
    all_goals exact hl
  · exact contextsGone_loadEntries h hne _
  · exact h

lemma contextsGone_restoreOrder {snapshot : Snapshot} {l : Loading} (h : ContextsGone l.store) :
    Leaves ContextsGone (restoreOrder snapshot l) := by
  rw [restoreOrder]
  split
  · exact h
  · split
    · exact h
    · split
      · exact h
      · exact h

lemma contextsGone_loadSnapshot (s : Store) (snapshot : Snapshot) :
    Leaves ContextsGone (loadSnapshot py classes egress s snapshot) := by
  have hnames : ∀ collection ∈ registered, collection ≠ "es_search_contexts" := by
    decide +kernel
  have htyped := fun c hc => hnames c
    (List.mem_append_left _ (List.mem_append_left _ (List.mem_append_left _ hc)))
  have hraw := fun c hc => hnames c
    (List.mem_append_left _ (List.mem_append_left _ (List.mem_append_right _ hc)))
  rw [loadSnapshot]
  refine Leaves.bind (Leaves.foldlM ?_ rfl) ?_
  · intro l collection hmem hl
    exact Leaves.foldlM (fun l record _ hl => contextsGone_loadRecord hl (htyped _ hmem) record) hl
  · intro l hl
    refine Leaves.bind (Leaves.foldlM ?_ hl) ?_
    · intro l collection hmem hl
      exact contextsGone_importRaw hl (hraw _ hmem)
    · intro l hl
      have hbinary : ContextsGone (BINARY_COLLECTIONS.foldl (loadBinary py snapshot) l).store :=
        contextsGone_loadEntries hl (by decide) _
      have hmapping : ∀ cs : List String, (∀ c ∈ cs, c ≠ "es_search_contexts") →
          ∀ l : Loading, ContextsGone l.store →
            ContextsGone (cs.foldl (loadMapping snapshot) l).store := by
        intro cs hcs
        induction cs with
        | nil => exact fun l hl => hl
        | cons c cs ih =>
          obtain ⟨hc, hcs⟩ := List.forall_mem_cons.1 hcs
          exact fun l hl => ih hcs _ (contextsGone_loadEntries hl hc _)
      refine Leaves.bind (contextsGone_restoreOrder (hmapping _ ?_ _ hbinary)) ?_
      · exact fun c hc => hnames c (List.mem_append_right _ hc)
      · intro l hl
        change ContextsGone (restoreSettings py egress snapshot l).store
        rw [restoreSettings]
        split
        · exact hl
        · exact hl

/-! ## The snapshots that are all or nothing -/

/-- A store in which the cluster holds a search. -/
def searching (proxy : ProxyConfig) : Store where
  collections := fun name =>
    if name = "es_search_contexts" then Dict.empty.set (.str "scroll") (.value (.json (.dict [])))
    else .empty
  activityOrder := []
  proxy := proxy

/-- An import goes through or leaves the store as it was, whatever the store, exactly when the
    snapshot is refused before anything is cleared or is loaded to its end. -/
theorem all_or_nothing_iff (snapshot : Snapshot) :
    (∀ s, AllOrNothing py classes egress s snapshot)
      ↔ (refusal snapshot).isSome ∨ Loads snapshot := by
  cases hrefusal : refusal snapshot with
  | some message =>
    refine iff_of_true ?_ (.inl rfl)
    intro s
    refine .inr ?_
    rw [importState, hrefusal]
  | none =>
    rw [or_iff_right (by rintro ⟨⟩)]
    constructor
    · intro h
      by_contra hloads
      rcases h (searching .off) with ⟨counts, hcounts⟩ | hsame
      · rw [importState, hrefusal] at hcounts
        dsimp only at hcounts
        split at hcounts
        · next l hl => exact hloads ((loadSnapshot_ok_iff _ snapshot).1 ⟨l, hl⟩)
        · cases hcounts
      · have hgone : Leaves ContextsGone
            (loadSnapshot py classes egress (searching .off) snapshot) :=
          contextsGone_loadSnapshot _ snapshot
        rw [importState, hrefusal] at hsame
        dsimp only at hsame
        split at hsame
        · next l hl => exact hloads ((loadSnapshot_ok_iff _ snapshot).1 ⟨l, hl⟩)
        · next left hleft =>
          rw [hleft] at hgone
          subst hsame
          cases congrArg (fun d : Dict Key Stored => d.entries) hgone
    · intro hloads s
      obtain ⟨l, hl⟩ : ∃ l, loadSnapshot py classes egress s snapshot = .ok l :=
        (loadSnapshot_ok_iff s snapshot).2 hloads
      refine .inl ⟨(l.total, l.skipped, l.migrated), ?_⟩
      rw [importState, hrefusal, hl]

/-- A list of blocked hashes one of which has a list for its id: the store is left cleared. -/
theorem listed_id_leaves_store_cleared :
    ¬ ∀ (s : Store) (o : Object),
        AllOrNothing asciiDevPython keyClasses ⟨false, fun _ => true⟩ s (Snapshot.ofJson o) := by
  intro h
  rcases h (searching .off) [("blocklist", .list [.dict [("id", .list [.int 1])]])]
    with ⟨counts, hcounts⟩ | hsame
  · cases hcounts
  · have hcount := congrArg (fun s : Store => (s.collections "es_search_contexts").size) hsame
    exact absurd hcount (by decide +kernel)

end Dev

end Mockdr
