import Mathlib.Data.List.Dedup
import Mockdr.Dev.AllOrNothing

/-!
# What an import restores of an export

* `RoundTrips`: an import of its own export goes through and leaves every registered collection, the
  order of the activities and the next export as they were.
* `Filed`: a record of a typed collection is what an import makes of it, under the key it is under.
* `roundTrips_iff`: which stores within their caps round trip.
-/

namespace Mockdr

namespace Dev

variable (py : DevPython) (classes : Classes) (egress : Egress)

/-- An import of its own export leaves a store as it is. -/
def RoundTrips (s : Store) : Prop :=
  ∃ snapshot s' counts, exportState s = some snapshot
    ∧ importState py classes egress s snapshot = (s', .ok counts)
    ∧ (∀ collection ∈ registered, s'.collections collection = s.collections collection)
    ∧ s'.activityOrder = s.activityOrder ∧ exportState s' = some snapshot

/-- A store within its caps. -/
structure WithinCaps (s : Store) : Prop where
  capped : ∀ collection cap, Assoc.get collection CAPS = some cap →
    (s.collections collection).size ≤ cap
  order : s.activityOrder.length ≤ 10000

/-- A record of a typed collection that an import makes of itself, under the key that it gives it:
    an object of the class that the rewriting of older records leaves alone. -/
def Filed (collection : String) (id : String) (record : Stored) : Prop :=
  ∃ fields, record = .object fields
    ∧ fields.map Prod.fst = (classes.fields collection).map Prod.fst
    ∧ (migrateRecord py collection fields).1 = fields ∧ storeKey py collection fields = .ok id

/-- What an import makes of a record of an export. -/
def reload (collection : String) (record : Fields) : Option (Key × Stored) :=
  match readRecord py classes collection (migrateRecord py collection record).1 with
  | .ok read => some (.str read.1, .object read.2)
  | .error _ => none

/-- What an import makes of an entry of a typed collection. -/
def reloadEntry (collection : String) (p : Key × Stored) : Option (Key × Stored) :=
  (recordDict p.2).bind (reload py classes collection)

/-- An entry of a binary collection is one of bytes, or is left out. -/
def bytesEntry : Key × Stored → Option (Key × Stored)
  | (key, .value (.bytes b)) => some (key, .value (.bytes b))
  | _ => none

/-- The entries that an import of a store's own export saves. -/
def reloaded (s : Store) (collection : String) : List (Key × Stored) :=
  let entries := (s.collections collection).entries
  if collection ∈ typedNames then entries.filterMap (reloadEntry py classes collection)
  else if collection ∈ BINARY_COLLECTIONS then entries.filterMap bytesEntry
  else entries

variable {py classes egress}

/-! ## Saving entries one after the other -/

/-- Save entries one after the other. -/
def Store.saveAll (s : Store) (collection : String) (entries : List (Key × Stored)) : Store :=
  entries.foldl (fun s p => s.save collection p.1 p.2) s

lemma saveAll_proxy (s : Store) (collection : String) (entries : List (Key × Stored)) :
    (s.saveAll collection entries).proxy = s.proxy
      ∧ (s.saveAll collection entries).activityOrder = s.activityOrder := by
  induction entries generalizing s with
  | nil => exact ⟨rfl, rfl⟩
  | cons p entries ih => exact ih (s.save collection p.1 p.2)

lemma saveAll_ne (s : Store) {collection name : String} (entries : List (Key × Stored))
    (h : name ≠ collection) : (s.saveAll collection entries).collections name
      = s.collections name := by
  induction entries generalizing s with
  | nil => rfl
  | cons p entries ih => exact (ih (s.save collection p.1 p.2)).trans (if_neg h)

lemma saveAll_self (s : Store) (collection : String) (entries : List (Key × Stored)) :
    (s.saveAll collection entries).collections collection
      = entries.foldl (fun d p => saveRecord collection p.1 p.2 d) (s.collections collection) := by
  induction entries generalizing s with
  | nil => rfl
  | cons p entries ih =>
    rw [List.foldl_cons]
    refine (ih (s.save collection p.1 p.2)).trans ?_
    exact congrArg (List.foldl _ · entries) (if_pos rfl)

/-- While there is room for every key, saving is writing. -/
lemma foldl_saveRecord_of_keys {collection : String} {entries : List (Key × Stored)}
    {d : Dict Key Stored} (h : ∀ cap, Assoc.get collection CAPS = some cap →
      (d.keys ++ entries.map Prod.fst).dedup.length ≤ cap) :
    entries.foldl (fun d p => saveRecord collection p.1 p.2 d) d
      = entries.foldl (fun d p => d.set p.1 p.2) d := by
  induction entries generalizing d with
  | nil => rfl
  | cons p entries ih =>
    have hmem : ∀ {k : Key}, k ∈ d.keys ∨ k = p.1 ∨ k ∈ entries.map Prod.fst →
        k ∈ (d.keys ++ (p :: entries).map Prod.fst).dedup := by
      intro k hk
      rw [List.mem_dedup, List.mem_append, List.map_cons, List.mem_cons]
      exact hk
    have hwrite : saveRecord collection p.1 p.2 d = d.set p.1 p.2 := by
      rw [saveRecord]
      split
      · next cap hcap =>
        refine if_neg ?_
        rw [Bool.and_eq_true, Bool.not_eq_true', decide_eq_true_eq, Dict.contains]
        rintro ⟨hnew, hfull⟩
        rw [Option.isSome_eq_false_iff, Option.isNone_iff_eq_none, Dict.get_eq_none_iff] at hnew
        have hle : (p.1 :: d.keys).length ≤ cap := by
          refine le_trans ?_ (h cap hcap)
          refine (List.nodup_cons.2 ⟨hnew, d.nodup_keys⟩).length_le_of_subset ?_
          rintro k hk
          rcases List.mem_cons.1 hk with rfl | hk
          · exact hmem (.inr (.inl rfl))
          · exact hmem (.inl hk)
        rw [List.length_cons, Dict.keys, List.length_map] at hle
        rw [Dict.size] at hfull
        omega
      · rfl
    rw [List.foldl_cons, List.foldl_cons, hwrite]
    refine ih ?_
    intro cap hcap
    refine le_trans ((List.nodup_dedup _).length_le_of_subset ?_) (h cap hcap)
    intro k hk
    rw [List.mem_dedup, List.mem_append, Dict.mem_keys_iff, Dict.get_set] at hk
    rcases hk with hk | hk
    · split at hk
      · next heq => exact hmem (.inr (.inl heq))
      · exact hmem (.inl (Dict.mem_keys_iff.2 hk))
    · exact hmem (.inr (.inr hk))

lemma foldl_saveRecord {collection : String} {entries : List (Key × Stored)}
    {d : Dict Key Stored} (h : ∀ cap, Assoc.get collection CAPS = some cap →
      d.size + entries.length ≤ cap) :
    entries.foldl (fun d p => saveRecord collection p.1 p.2 d) d
      = entries.foldl (fun d p => d.set p.1 p.2) d := by
  refine foldl_saveRecord_of_keys ?_
  intro cap hcap
  have hle := (List.dedup_sublist (d.keys ++ entries.map Prod.fst)).length_le
  rw [List.length_append, List.length_map, Dict.keys, List.length_map] at hle
  exact le_trans hle (h cap hcap)

/-- Saving at most as many entries as a collection within its cap has, makes that collection exactly
    when the entries are its own. -/
lemma foldl_saveRecord_eq_iff {collection : String} {entries : List (Key × Stored)}
    {d : Dict Key Stored} (hcap : ∀ cap, Assoc.get collection CAPS = some cap → d.size ≤ cap)
    (hlen : entries.length ≤ d.size) :
    entries.foldl (fun d p => saveRecord collection p.1 p.2 d) .empty = d
      ↔ entries = d.entries := by
  have hroom : ∀ cap, Assoc.get collection CAPS = some cap →
      (Dict.empty : Dict Key Stored).size + entries.length ≤ cap := by
    intro cap hc
    have hle := hcap cap hc
    have hempty : (Dict.empty : Dict Key Stored).size = 0 := rfl
    omega
  rw [foldl_saveRecord hroom]
  constructor
  · intro h
    obtain ⟨hle, heq⟩ := Dict.foldl_set entries (Dict.empty : Dict Key Stored)
    rw [h] at hle heq
    have hempty : (Dict.empty : Dict Key Stored).size = 0 := rfl
    exact (heq (by omega)).symm
  · rintro rfl
    exact Dict.ext (Dict.entries_foldl_set (d := .empty) d.nodup)

/-! ## Loading an export -/

lemma recordsOf_export {s : Store} {snapshot : Snapshot} (h : exportState s = some snapshot)
    {collection : String} (hc : collection ∈ typedNames) :
    ∃ rs, exportTyped s collection = some rs ∧ snapshot.recordsOf collection
        = some (rs.map some) := by
  rw [exportState] at h
  split at h
  · next hall =>
    cases h
    obtain ⟨rs, hrs⟩ := Option.isSome_iff_exists.1 (List.all_eq_true.1 hall collection hc)
    refine ⟨rs, hrs, ?_⟩
    simp only [Snapshot.recordsOf, if_pos hc, hrs, Option.map_some]
    rfl
  · cases h

lemma loadRecord_some {collection : String} (hc : collection ∈ typedNames) (l : Loading)
    (record : Fields) : ∃ l', loadRecord py classes collection l (some record) = .ok l'
      ∧ l'.store = l.store.saveAll collection (reload py classes collection record).toList := by
  rw [loadRecord, reload]
  cases hread : readRecord py classes collection (migrateRecord py collection record).1 with
  | ok read => exact ⟨_, rfl, rfl⟩
  | error e =>
    cases e with
    | skipped => exact ⟨_, rfl, rfl⟩
    | uncaught => exact absurd hread (readRecord_ne_uncaught hc)

lemma saveAll_append (s : Store) (collection : String) (es es' : List (Key × Stored)) :
    s.saveAll collection (es ++ es') = (s.saveAll collection es).saveAll collection es' :=
  List.foldl_append

lemma foldlM_loadRecord {collection : String} (hc : collection ∈ typedNames) (l : Loading)
    (rs : List Fields) : ∃ l', (rs.map some).foldlM (loadRecord py classes collection) l = .ok l'
      ∧ l'.store = l.store.saveAll collection (rs.filterMap (reload py classes collection)) := by
  induction rs generalizing l with
  | nil => exact ⟨l, rfl, rfl⟩
  | cons record rs ih =>
    obtain ⟨l₁, hl₁, hstore₁⟩ := loadRecord_some hc l record
    obtain ⟨l₂, hl₂, hstore₂⟩ := ih l₁
    refine ⟨l₂, ?_, ?_⟩
    · rw [List.map_cons, List.foldlM_cons]
      exact bind_eq_ok_iff.2 ⟨l₁, hl₁, hl₂⟩
    · rw [hstore₂, hstore₁, ← saveAll_append]
      cases hreload : reload py classes collection record with
      | none => rw [List.filterMap_cons_none hreload, Option.toList_none, List.nil_append]
      | some p => rw [List.filterMap_cons_some hreload, Option.toList_some, List.singleton_append]

lemma filterMap_reload {s : Store} {collection : String} {rs : List Fields}
    (h : exportTyped s collection = some rs) :
    rs.filterMap (reload py classes collection)
      = (s.collections collection).entries.filterMap (reloadEntry py classes collection) := by
  rw [exportTyped] at h
  generalize (s.collections collection).entries = entries at h ⊢
  induction entries generalizing rs with
  | nil =>
    cases h
    rfl
  | cons p entries ih =>
    rw [List.mapM_cons] at h
    obtain ⟨record, hrecord, h⟩ := Option.bind_eq_some_iff.1 h
    obtain ⟨rest, hrest, h⟩ := Option.bind_eq_some_iff.1 h
    cases h
    have hentry : reloadEntry py classes collection p = reload py classes collection record := by
      rw [reloadEntry, hrecord, Option.bind_some]
    rw [List.filterMap_cons, List.filterMap_cons, hentry, ih hrest]

lemma loadTyped_export {s : Store} {snapshot : Snapshot} (h : exportState s = some snapshot)
    {collection : String} (hc : collection ∈ typedNames) (l : Loading) :
    ∃ l', loadTyped py classes snapshot l collection = .ok l'
      ∧ l'.store = l.store.saveAll collection (reloaded py classes s collection) := by
  obtain ⟨rs, hrs, hrecords⟩ := recordsOf_export h hc
  rw [loadTyped, hrecords, reloaded, if_pos hc, ← filterMap_reload hrs]
  exact foldlM_loadRecord hc l rs

lemma loadEntries_store (collection : String) (l : Loading) (entries : List (Key × Stored)) :
    (loadEntries collection l entries).store = l.store.saveAll collection entries := by
  rw [loadEntries]
  induction entries generalizing l with
  | nil => rfl
  | cons p entries ih => exact ih _

/-- A name as a number, byte by byte. Two numbers are compared faster than two names. -/
def nameCode (name : String) : Nat :=
  name.toByteArray.data.toList.foldl (fun n b => n * 256 + b.toNat) 0

lemma nodup_registered : registered.Nodup := by
  have hcodes : (registered.map nameCode).Nodup := by decide +kernel
  exact hcodes.of_map

lemma kinds_apart : (∀ c ∈ RAW_COLLECTIONS, c ∉ typedNames ∧ c ∉ BINARY_COLLECTIONS)
    ∧ (∀ c ∈ MAPPING_COLLECTIONS, c ∉ typedNames ∧ c ∉ BINARY_COLLECTIONS)
    ∧ ∀ c ∈ BINARY_COLLECTIONS, c ∉ typedNames := by
  obtain ⟨hthree, -, hmapping⟩ := List.nodup_append.1 nodup_registered
  obtain ⟨htwo, -, hbinary⟩ := List.nodup_append.1 hthree
  obtain ⟨-, -, hraw⟩ := List.nodup_append.1 htwo
  refine ⟨?_, ?_, ?_⟩
  · intro c hc
    exact ⟨fun h => hraw c h c hc rfl,
      fun h => hbinary c (List.mem_append_right typedNames hc) c h rfl⟩
  · intro c hc
    exact ⟨fun h => hmapping c
        (List.mem_append_left _ (List.mem_append_left RAW_COLLECTIONS h)) c hc rfl,
      fun h => hmapping c (List.mem_append_right _ h) c hc rfl⟩
  · intro c hc h
    exact hbinary c (List.mem_append_left RAW_COLLECTIONS h) c hc rfl

lemma others_export {s : Store} {snapshot : Snapshot} (h : exportState s = some snapshot)
    (collection : String) :
    snapshot.others collection
      = if collection ∈ BINARY_COLLECTIONS then
          some (.entries ((s.collections collection).entries.filterMap encodedEntry))
        else if collection ∈ RAW_COLLECTIONS ∨ collection ∈ MAPPING_COLLECTIONS then
          some (.entries (s.collections collection).entries)
        else none := by
  rw [exportState] at h
  split at h
  · cases h
    rfl
  · cases h

lemma importRaw_export {s : Store} {snapshot : Snapshot} (h : exportState s = some snapshot)
    {collection : String} (hc : collection ∈ RAW_COLLECTIONS) (l : Loading) :
    ∃ l', importRaw snapshot l collection = .ok l'
      ∧ l'.store = l.store.saveAll collection (reloaded py classes s collection) := by
  obtain ⟨hraw, -⟩ := kinds_apart
  obtain ⟨htyped, hbinary⟩ := hraw collection hc
  have hothers := others_export h collection
  rw [if_neg hbinary, if_pos (.inl hc)] at hothers
  refine ⟨loadEntries collection l (s.collections collection).entries, ?_, ?_⟩
  · rw [importRaw, hothers]
    rfl
  · rw [loadEntries_store, reloaded, if_neg htyped, if_neg hbinary]

lemma loadMapping_export {s : Store} {snapshot : Snapshot} (h : exportState s = some snapshot)
    {collection : String} (hc : collection ∈ MAPPING_COLLECTIONS) (l : Loading) :
    (loadMapping snapshot l collection).store
      = l.store.saveAll collection (reloaded py classes s collection) := by
  obtain ⟨-, hmapping, -⟩ := kinds_apart
  obtain ⟨htyped, hbinary⟩ := hmapping collection hc
  have hothers := others_export h collection
  rw [if_neg hbinary, if_pos (.inr hc)] at hothers
  rw [loadMapping, hothers, loadEntries_store, reloaded, if_neg htyped, if_neg hbinary]
  rfl

lemma loadBinary_export {s : Store} {snapshot : Snapshot} (h : exportState s = some snapshot)
    {collection : String} (hc : collection ∈ BINARY_COLLECTIONS) (l : Loading) :
    (loadBinary py snapshot l collection).store
      = l.store.saveAll collection (reloaded py classes s collection) := by
  obtain ⟨-, -, hbinary⟩ := kinds_apart
  have hothers := others_export h collection
  rw [if_pos hc] at hothers
  have hentries : ((s.collections collection).entries.filterMap encodedEntry).filterMap
      (fun p => (b64decode (p.2.toStr py)).map fun b => (p.1, Stored.value (.bytes b)))
      = (s.collections collection).entries.filterMap bytesEntry := by
    rw [List.filterMap_filterMap]
    refine List.filterMap_congr ?_
    rintro ⟨key, record⟩ -
    cases record with
    | object fields => rfl
    | value v =>
      cases v with
      | json v => rfl
      | bytes b =>
        change (b64decode (String.ofList (Base64.encode b))).map _ = _
        rw [b64decode_encode]
        rfl
  rw [loadBinary, hothers, loadEntries_store, reloaded, if_neg (hbinary collection hc), if_pos hc,
    ← hentries]
  rfl

lemma foldl_saveAll_self {plan : String → List (Key × Stored)} {cs : List String} (hcs : cs.Nodup)
    (s : Store) (name : String) :
    (cs.foldl (fun s c => s.saveAll c (plan c)) s).collections name
      = if name ∈ cs then
          (plan name).foldl (fun d p => saveRecord name p.1 p.2 d) (s.collections name)
        else s.collections name := by
  induction cs generalizing s with
  | nil => rfl
  | cons c cs ih =>
    obtain ⟨hc, hrest⟩ := List.nodup_cons.1 hcs
    rw [List.foldl_cons, ih hrest]
    by_cases hname : name = c
    · subst hname
      rw [if_neg hc, if_pos List.mem_cons_self, saveAll_self]
    · rw [saveAll_ne s (plan c) hname]
      simp only [List.mem_cons, hname, false_or]

lemma foldl_saveAll_proxy {plan : String → List (Key × Stored)} {cs : List String} (s : Store) :
    (cs.foldl (fun s c => s.saveAll c (plan c)) s).proxy = s.proxy
      ∧ (cs.foldl (fun s c => s.saveAll c (plan c)) s).activityOrder = s.activityOrder := by
  induction cs generalizing s with
  | nil => exact ⟨rfl, rfl⟩
  | cons c cs ih =>
    obtain ⟨hproxy, horder⟩ := saveAll_proxy s c (plan c)
    obtain ⟨hproxy', horder'⟩ := ih (s.saveAll c (plan c))
    exact ⟨hproxy'.trans hproxy, horder'.trans horder⟩

lemma foldlM_saveAll (plan : String → List (Key × Stored))
    {f : Loading → String → Except Store Loading} {cs : List String}
    (h : ∀ l, ∀ c ∈ cs, ∃ l', f l c = .ok l' ∧ l'.store = l.store.saveAll c (plan c))
    (l : Loading) : ∃ l', cs.foldlM f l = .ok l'
      ∧ l'.store = cs.foldl (fun s c => s.saveAll c (plan c)) l.store := by
  induction cs generalizing l with
  | nil => exact ⟨l, rfl, rfl⟩
  | cons c cs ih =>
    obtain ⟨l₁, hl₁, hstore₁⟩ := h l c List.mem_cons_self
    obtain ⟨l₂, hl₂, hstore₂⟩ := ih (fun l b hb => h l b (List.mem_cons_of_mem c hb)) l₁
    refine ⟨l₂, ?_, ?_⟩
    · rw [List.foldlM_cons]
      exact bind_eq_ok_iff.2 ⟨l₁, hl₁, hl₂⟩
    · rw [hstore₂, hstore₁, List.foldl_cons]

lemma foldl_saveAll (plan : String → List (Key × Stored)) {f : Loading → String → Loading}
    {cs : List String} (h : ∀ l, ∀ c ∈ cs, (f l c).store = l.store.saveAll c (plan c))
    (l : Loading) :
    (cs.foldl f l).store = cs.foldl (fun s c => s.saveAll c (plan c)) l.store := by
  induction cs generalizing l with
  | nil => rfl
  | cons c cs ih =>
    rw [List.foldl_cons, List.foldl_cons,
      ih (fun l b hb => h l b (List.mem_cons_of_mem c hb)), h l c List.mem_cons_self]

/-- The collections as an import of a store's own export loads them, before the order of the
    activities and the settings of the proxy are restored. -/
def reloadedStore (py : DevPython) (classes : Classes) (s : Store) : Store :=
  registered.foldl (fun st c => st.saveAll c (reloaded py classes s c)) s.clearAll

lemma loadSnapshot_export (py : DevPython) (classes : Classes) (egress : Egress) {s : Store}
    {snapshot : Snapshot} (h : exportState s = some snapshot) :
    ∃ l : Loading, l.store = reloadedStore py classes s
      ∧ loadSnapshot py classes egress s snapshot
        = (restoreOrder snapshot l).map (restoreSettings py egress snapshot) := by
  obtain ⟨l₁, hl₁, hstore₁⟩ := foldlM_saveAll (reloaded py classes s)
    (fun l c hc => loadTyped_export h hc l) (⟨s.clearAll, 0, 0, 0⟩ : Loading)
  obtain ⟨l₂, hl₂, hstore₂⟩ := foldlM_saveAll (reloaded py classes s)
    (fun l c hc => importRaw_export h hc l) l₁
  have hstore₃ := foldl_saveAll (reloaded py classes s)
    (fun l c hc => loadBinary_export h hc l) l₂
  have hstore₄ := foldl_saveAll (reloaded py classes s)
    (fun l c hc => loadMapping_export h hc l) (BINARY_COLLECTIONS.foldl (loadBinary py snapshot) l₂)
  refine ⟨MAPPING_COLLECTIONS.foldl (loadMapping snapshot)
    (BINARY_COLLECTIONS.foldl (loadBinary py snapshot) l₂), ?_, ?_⟩
  · rw [hstore₄, hstore₃, hstore₂, hstore₁, reloadedStore, registered, List.foldl_append,
      List.foldl_append, List.foldl_append]
  · rw [loadSnapshot, hl₁]
    change (do
      let l ← RAW_COLLECTIONS.foldlM (importRaw snapshot) l₁
      let l := BINARY_COLLECTIONS.foldl (loadBinary py snapshot) l
      let l := MAPPING_COLLECTIONS.foldl (loadMapping snapshot) l
      let l ← restoreOrder snapshot l
      Except.ok (restoreSettings py egress snapshot l)) = _
    rw [hl₂]
    rfl

/-! ## The order of the activities -/

lemma bounded_eq_self {α : Type} {order : List α} (h : order.length ≤ 10000) :
    InMemoryStore.bounded order = order := by
  rw [InMemoryStore.bounded, List.take_of_length_le, List.reverse_reverse]
  rw [List.length_reverse]
  exact h

lemma bounded_eq_nil_iff {α : Type} {order : List α} :
    InMemoryStore.bounded order = [] ↔ order = [] := by
  rw [InMemoryStore.bounded, List.reverse_eq_nil_iff, List.take_eq_nil_iff]
  simp

lemma insertDescending_ne_nil {key : Fields → Value} {record : Fields} {l sorted : List Fields}
    (h : insertDescending key record l = some sorted) : sorted ≠ [] := by
  cases l with
  | nil =>
    cases h
    exact List.cons_ne_nil _ _
  | cons other rest =>
    rw [insertDescending] at h
    obtain ⟨b, -, h⟩ := Option.bind_eq_some_iff.1 h
    cases b with
    | true =>
      cases h
      exact List.cons_ne_nil _ _
    | false =>
      obtain ⟨rest', -, h⟩ := Option.bind_eq_some_iff.1 h
      cases h
      exact List.cons_ne_nil _ _

/-- An order that is rebuilt names the activities there are. -/
lemma rebuiltOrder_ne_nil {activities : List Fields} {order : List Json}
    (h : rebuiltOrder activities = some order) (hne : activities ≠ []) : order ≠ [] := by
  rw [rebuiltOrder] at h
  obtain ⟨sorted, hsorted, h⟩ := Option.bind_eq_some_iff.1 h
  have hkeeps : ∀ rest before : List Fields, rest ≠ [] ∨ before ≠ [] →
      rest.foldlM (fun sorted record => insertDescending createdAt record sorted) before
        = some sorted → sorted ≠ [] := by
    intro rest
    induction rest with
    | nil =>
      rintro before (h | h) hfold
      · exact absurd rfl h
      · cases hfold
        exact h
    | cons record rest ih =>
      intro before _ hfold
      rw [List.foldlM_cons] at hfold
      obtain ⟨next, hnext, hfold⟩ := Option.bind_eq_some_iff.1 hfold
      exact ih next (.inr (insertDescending_ne_nil hnext)) hfold
  cases hlist : sorted with
  | nil => exact absurd hlist (hkeeps activities [] (.inl hne) hsorted)
  | cons first rest =>
    rw [hlist, List.mapM_cons] at h
    obtain ⟨v, -, h⟩ := Option.bind_eq_some_iff.1 h
    obtain ⟨vs, -, h⟩ := Option.bind_eq_some_iff.1 h
    cases h
    exact List.cons_ne_nil _ _

lemma activities_mem_typedNames : "activities" ∈ typedNames := by decide +kernel

lemma activities_export {s : Store} {snapshot : Snapshot} (h : exportState s = some snapshot) :
    snapshot.activities = [] ↔ (s.collections "activities").entries = [] := by
  obtain ⟨rs, hrs, hrecords⟩ := recordsOf_export h activities_mem_typedNames
  have hactivities : snapshot.activities = rs := by
    rw [Snapshot.activities, hrecords, Option.getD_some]
    exact (List.filterMap_map ..).trans List.filterMap_some
  rw [hactivities]
  rw [exportTyped] at hrs
  cases hentries : (s.collections "activities").entries with
  | nil =>
    rw [hentries] at hrs
    cases hrs
    exact iff_of_true rfl rfl
  | cons p entries =>
    rw [hentries, List.mapM_cons] at hrs
    obtain ⟨v, -, hrs⟩ := Option.bind_eq_some_iff.1 hrs
    obtain ⟨vs, -, hrs⟩ := Option.bind_eq_some_iff.1 hrs
    cases hrs
    exact iff_of_false (List.cons_ne_nil _ _) (List.cons_ne_nil _ _)

lemma order_export {s : Store} {snapshot : Snapshot} (h : exportState s = some snapshot) :
    snapshot.activityOrder = some (.list s.activityOrder)
      ∧ snapshot.proxyConfig = some (.dict s.proxy.recordDict) := by
  rw [exportState] at h
  split at h
  · cases h
    exact ⟨rfl, rfl⟩
  · cases h

lemma restoreOrder_export {s : Store} {snapshot : Snapshot} (h : exportState s = some snapshot)
    (hlen : s.activityOrder.length ≤ 10000)
    (horder : s.activityOrder = [] → (s.collections "activities").entries = []) {l : Loading}
    (hl : l.store.activityOrder = []) :
    restoreOrder snapshot l
      = .ok { l with store := { l.store with activityOrder := s.activityOrder } } := by
  obtain ⟨hsnapshot, -⟩ := order_export h
  rw [restoreOrder, hsnapshot]
  cases hlist : s.activityOrder with
  | nil =>
    have hnone := (activities_export h).2 (horder hlist)
    simp only [hnone]
    rw [← hl]
  | cons first rest =>
    simp only
    rw [← hlist, bounded_eq_self hlen]

lemma activities_eq_nil_of_restoreOrder {s : Store} {snapshot : Snapshot}
    (h : exportState s = some snapshot) (hnil : s.activityOrder = []) {l l' : Loading}
    (hl' : restoreOrder snapshot l = .ok l') (hsame : l'.store.activityOrder = []) :
    (s.collections "activities").entries = [] := by
  obtain ⟨hsnapshot, -⟩ := order_export h
  rw [← activities_export h]
  rw [restoreOrder, hsnapshot, hnil] at hl'
  simp only at hl'
  split at hl'
  · next hnone => exact hnone
  · next hne =>
    split at hl'
    · next order horder =>
      cases hl'
      exact absurd (bounded_eq_nil_iff.1 hsame) (rebuiltOrder_ne_nil horder hne)
    · cases hl'

lemma restoreOrder_frame {snapshot : Snapshot} {l l' : Loading}
    (h : restoreOrder snapshot l = .ok l') :
    l'.store.collections = l.store.collections ∧ l'.store.proxy = l.store.proxy := by
  rw [restoreOrder] at h
  split at h
  · cases h
    exact ⟨rfl, rfl⟩
  · split at h
    · cases h
      exact ⟨rfl, rfl⟩
    · split at h
      · cases h
        exact ⟨rfl, rfl⟩
      · cases h

lemma restoreSettings_frame (py : DevPython) (egress : Egress) (snapshot : Snapshot) (l : Loading) :
    (restoreSettings py egress snapshot l).store.collections = l.store.collections
      ∧ (restoreSettings py egress snapshot l).store.activityOrder = l.store.activityOrder := by
  rw [restoreSettings]
  split
  · exact ⟨rfl, rfl⟩
  · exact ⟨rfl, rfl⟩

/-! ## The credentials that are put back -/

lemma putBack_frame (issued s : Store) : (putBack issued s).proxy = s.proxy
    ∧ (putBack issued s).activityOrder = s.activityOrder
    ∧ ∀ name, name ∉ PRESERVED_ACROSS_IMPORT →
      (putBack issued s).collections name = s.collections name := by
  have hentries : ∀ (name : String) (entries : List (Key × Stored)) (s : Store),
      let s' := entries.foldl (fun s p => if missing s name p.1 then s.save name p.1 p.2 else s) s
      s'.proxy = s.proxy ∧ s'.activityOrder = s.activityOrder
        ∧ ∀ other, other ≠ name → s'.collections other = s.collections other := by
    intro name entries
    induction entries with
    | nil => exact fun s => ⟨rfl, rfl, fun _ _ => rfl⟩
    | cons p entries ih =>
      intro s
      rw [List.foldl_cons]
      obtain ⟨hproxy, horder, hothers⟩ := ih (if missing s name p.1 then s.save name p.1 p.2 else s)
      refine ⟨hproxy.trans ?_, horder.trans ?_, ?_⟩
      · split
        · rfl
        · rfl
      · split
        · rfl
        · rfl
      · intro other hother
        refine (hothers other hother).trans ?_
        split
        · exact if_neg hother
        · rfl
  rw [putBack]
  generalize PRESERVED_ACROSS_IMPORT = names
  induction names generalizing s with
  | nil => exact ⟨rfl, rfl, fun _ _ => rfl⟩
  | cons name names ih =>
    rw [List.foldl_cons]
    obtain ⟨hproxy, horder, hothers⟩ := hentries name (issued.collections name).entries s
    obtain ⟨hproxy', horder', hothers'⟩ := ih ((issued.collections name).entries.foldl
      (fun s p => if missing s name p.1 then s.save name p.1 p.2 else s) s)
    refine ⟨hproxy'.trans hproxy, horder'.trans horder, ?_⟩
    intro other hother
    rw [List.mem_cons, not_or] at hother
    exact (hothers' other hother.2).trans (hothers other hother.1)

/-- Credentials that are there as they were issued are left alone. -/
lemma putBack_of_same {issued s : Store}
    (h : ∀ name ∈ PRESERVED_ACROSS_IMPORT, s.collections name = issued.collections name) :
    putBack issued s = s := by
  have hentries : ∀ name, s.collections name = issued.collections name →
      ∀ entries : List (Key × Stored), (∀ p ∈ entries, p ∈ (issued.collections name).entries) →
        entries.foldl (fun s p => if missing s name p.1 then s.save name p.1 p.2 else s) s = s := by
    intro name hname entries
    induction entries with
    | nil => exact fun _ => rfl
    | cons p entries ih =>
      intro hmem
      obtain ⟨hp, hrest⟩ := List.forall_mem_cons.1 hmem
      have hget : (s.collections name).get p.1 = some p.2 := by
        rw [hname]
        exact Dict.mem_entries_iff.1 hp
      have hsave : s.save name p.1 p.2 = s := by
        have hcontains : (!(s.collections name).contains p.1) = false := by
          rw [Dict.contains, hget]
          rfl
        have hrecord : saveRecord name p.1 p.2 (s.collections name) = s.collections name := by
          rw [saveRecord]
          split
          · rw [hcontains, Bool.false_and, if_neg Bool.false_ne_true]
            exact Dict.set_of_get hget
          · exact Dict.set_of_get hget
        rw [Store.save, hrecord]
        have hcollections : (fun other => if other = name then s.collections name
            else s.collections other) = s.collections := by
          funext other
          split
          · next he => rw [he]
          · rfl
        rw [hcollections]
      rw [List.foldl_cons, hsave, ite_self]
      exact ih hrest
  rw [putBack]
  generalize PRESERVED_ACROSS_IMPORT = names at h ⊢
  induction names with
  | nil => rfl
  | cons name names ih =>
    obtain ⟨hname, hnames⟩ := List.forall_mem_cons.1 h
    rw [List.foldl_cons, hentries name hname _ fun _ hp => hp]
    exact ih hnames

/-! ## The stores that round trip -/

lemma refusal_export {s : Store} {snapshot : Snapshot} (h : exportState s = some snapshot) :
    refusal snapshot = none := by
  have hrecords : (typedNames.find? fun c => (snapshot.recordsOf c).isNone) = none := by
    rw [List.find?_eq_none]
    intro c hc
    obtain ⟨rs, -, hrs⟩ := recordsOf_export h hc
    rw [hrs]
    simp
  obtain ⟨rs, -, hrs⟩ := recordsOf_export h activities_mem_typedNames
  have hdicts : ((snapshot.recordsOf "activities").getD []).any Option.isNone = false := by
    rw [hrs, Option.getD_some, List.any_map]
    exact List.any_eq_false.2 fun _ _ => by simp
  rw [refusal, hrecords, (order_export h).1]
  simp only [hdicts, Bool.not_true, Bool.or_false, Bool.false_eq_true, if_false]

/-- An export is made of the registered collections, the order and the settings. -/
lemma exportState_congr {s s' : Store}
    (h : ∀ collection ∈ registered, s'.collections collection = s.collections collection)
    (horder : s'.activityOrder = s.activityOrder) (hproxy : s'.proxy = s.proxy) :
    exportState s' = exportState s := by
  have htyped : ∀ c ∈ typedNames, exportTyped s' c = exportTyped s c := by
    intro c hc
    rw [exportTyped, exportTyped,
      h c (List.mem_append_left _ (List.mem_append_left _ (List.mem_append_left _ hc)))]
  have hall : (typedNames.all fun c => (exportTyped s' c).isSome)
      = typedNames.all fun c => (exportTyped s c).isSome := by
    rw [Bool.eq_iff_iff, List.all_eq_true, List.all_eq_true]
    exact forall₂_congr fun c hc => by rw [htyped c hc]
  have hmembers : (fun c => if c ∈ typedNames then (exportTyped s' c).map TypedMember.records
      else none) = fun c => if c ∈ typedNames then (exportTyped s c).map TypedMember.records
      else none := by
    funext c
    split
    · next hc => rw [htyped c hc]
    · rfl
  have hothers : (fun c =>
      if c ∈ BINARY_COLLECTIONS then
        some (EntryMember.entries ((s'.collections c).entries.filterMap encodedEntry))
      else if c ∈ RAW_COLLECTIONS ∨ c ∈ MAPPING_COLLECTIONS then
        some (.entries (s'.collections c).entries)
      else none) = fun c =>
      if c ∈ BINARY_COLLECTIONS then
        some (EntryMember.entries ((s.collections c).entries.filterMap encodedEntry))
      else if c ∈ RAW_COLLECTIONS ∨ c ∈ MAPPING_COLLECTIONS then
        some (.entries (s.collections c).entries)
      else none := by
    funext c
    split
    · next hc => rw [h c (List.mem_append_left _ (List.mem_append_right _ hc))]
    · split
      · next hc =>
        rcases hc with hc | hc
        · rw [h c (List.mem_append_left _ (List.mem_append_left _ (List.mem_append_right _ hc)))]
        · rw [h c (List.mem_append_right _ hc)]
      · rfl
  rw [exportState, exportState, hall, hmembers, hothers, horder, hproxy]

lemma length_reloaded_le (s : Store) (collection : String) :
    (reloaded py classes s collection).length ≤ (s.collections collection).size := by
  rw [reloaded]
  split
  · exact List.length_filterMap_le _ _
  · split
    · exact List.length_filterMap_le _ _
    · exact Nat.le_refl _

lemma reloadedStore_eq_iff {s : Store} (hcaps : WithinCaps s) {collection : String}
    (hc : collection ∈ registered) :
    (reloadedStore py classes s).collections collection = s.collections collection
      ↔ reloaded py classes s collection = (s.collections collection).entries := by
  rw [reloadedStore, foldl_saveAll_self nodup_registered, if_pos hc]
  exact foldl_saveRecord_eq_iff (hcaps.capped collection) (length_reloaded_le s collection)

lemma preserved_subset_raw : ∀ c ∈ PRESERVED_ACROSS_IMPORT, c ∈ RAW_COLLECTIONS := by
  decide +kernel

lemma reloaded_of_raw (s : Store) {collection : String} (hc : collection ∈ RAW_COLLECTIONS) :
    reloaded py classes s collection = (s.collections collection).entries := by
  obtain ⟨hraw, -⟩ := kinds_apart
  obtain ⟨htyped, hbinary⟩ := hraw collection hc
  rw [reloaded, if_neg htyped, if_neg hbinary]

/-- Which stores within their caps an import of their own export leaves as they are. -/
theorem roundTrips_iff {s : Store} (hcaps : WithinCaps s) (hproxy : Settled egress s.proxy) :
    RoundTrips py classes egress s
      ↔ (exportState s).isSome
        ∧ (∀ collection ∈ registered,
          reloaded py classes s collection = (s.collections collection).entries)
        ∧ (s.activityOrder = [] → (s.collections "activities").entries = []) := by
  have hpreserved : ∀ name ∈ PRESERVED_ACROSS_IMPORT,
      (reloadedStore py classes s).collections name = s.collections name := by
    intro name hname
    have hraw := preserved_subset_raw name hname
    refine (reloadedStore_eq_iff hcaps ?_).2 (reloaded_of_raw s hraw)
    exact List.mem_append_left _ (List.mem_append_left _ (List.mem_append_right _ hraw))
  have hcleared : (reloadedStore py classes s).proxy = s.proxy
      ∧ (reloadedStore py classes s).activityOrder = [] := foldl_saveAll_proxy s.clearAll
  constructor
  · rintro ⟨snapshot, s', counts, hexport, himport, hsame, horder, -⟩
    obtain ⟨l, hl, hload⟩ := loadSnapshot_export py classes egress hexport
    rw [importState, refusal_export hexport, hload] at himport
    cases hrestore : restoreOrder snapshot l with
    | error left =>
      rw [hrestore] at himport
      cases himport
    | ok l' =>
      rw [hrestore] at himport
      have hs' : putBack s (restoreSettings py egress snapshot l').store = s' :=
        congrArg Prod.fst himport
      obtain ⟨-, hputOrder, hputOthers⟩ := putBack_frame s
        (restoreSettings py egress snapshot l').store
      obtain ⟨hcollections, -⟩ := restoreOrder_frame hrestore
      obtain ⟨hcollections', horder'⟩ := restoreSettings_frame py egress snapshot l'
      rw [hcollections', hcollections, hl, hs'] at hputOthers
      rw [horder', hs', horder] at hputOrder
      refine ⟨by rw [hexport]; rfl, ?_, ?_⟩
      · intro collection hc
        by_cases hissued : collection ∈ PRESERVED_ACROSS_IMPORT
        · exact reloaded_of_raw s (preserved_subset_raw collection hissued)
        · rw [← reloadedStore_eq_iff hcaps hc, ← hputOthers collection hissued]
          exact hsame collection hc
      · intro hnil
        refine activities_eq_nil_of_restoreOrder hexport hnil hrestore ?_
        rw [← hputOrder, hnil]
  · rintro ⟨hexports, hreloaded, hordered⟩
    obtain ⟨snapshot, hexport⟩ := Option.isSome_iff_exists.1 hexports
    obtain ⟨l, hl, hload⟩ := loadSnapshot_export py classes egress hexport
    have hrestore := restoreOrder_export hexport hcaps.order hordered
      (by rw [hl]; exact hcleared.2)
    have hcollections : ∀ collection ∈ registered,
        l.store.collections collection = s.collections collection := by
      intro collection hc
      rw [hl]
      exact (reloadedStore_eq_iff hcaps hc).2 (hreloaded collection hc)
    have hsettings : restoreProxy py.toPython egress l.store.proxy (.dict s.proxy.recordDict)
        = s.proxy := by
      rw [hl, hcleared.1]
      exact restoreProxy_recordDict hproxy
    have hput : putBack s { l.store with activityOrder := s.activityOrder, proxy := s.proxy }
        = { l.store with activityOrder := s.activityOrder, proxy := s.proxy } := by
      refine putBack_of_same ?_
      intro name hname
      have hraw := preserved_subset_raw name hname
      exact hcollections name
        (List.mem_append_left _ (List.mem_append_left _ (List.mem_append_right _ hraw)))
    refine ⟨snapshot, { l.store with activityOrder := s.activityOrder, proxy := s.proxy },
      (l.total, l.skipped, l.migrated), hexport, ?_, hcollections, rfl, ?_⟩
    · rw [importState, refusal_export hexport, hload, hrestore]
      simp only [Except.map, restoreSettings, (order_export hexport).2, hsettings, hput]
    · rw [← hexport]
      exact exportState_congr hcollections rfl rfl

/-! ## The records that are reloaded as they are -/

lemma filterMap_eq_self_iff {α : Type} {f : α → Option α} {l : List α} :
    l.filterMap f = l ↔ ∀ a ∈ l, f a = some a := by
  induction l with
  | nil => simp
  | cons a l ih =>
    rw [List.forall_mem_cons, ← ih]
    cases hfa : f a with
    | none =>
      refine iff_of_false ?_ ?_
      · intro h
        rw [List.filterMap_cons_none hfa] at h
        have hlen := List.length_filterMap_le f l
        rw [h, List.length_cons] at hlen
        omega
      · rintro ⟨⟨⟩, -⟩
    | some b => rw [List.filterMap_cons_some hfa, List.cons.injEq, Option.some.injEq]

/-- Rewriting a record of an older release keeps its fields. -/
lemma migrateRecord_names (collection : String) (record : Fields) :
    (migrateRecord py collection record).1.map Prod.fst = record.map Prod.fst := by
  have hset : ∀ {name : String} {old : Value} (new : Value), Assoc.get name record = some old →
      (Assoc.set name new record).map Prod.fst = record.map Prod.fst :=
    fun new h => Assoc.map_fst_set_of_get_some new h
  rw [migrateRecord]
  split
  · rw [xdrEndpoint]
    split
    · next old hold =>
      split
      · exact hset _ hold
      · rfl
    · rfl
  · split
    · rw [threat]
      split
      · next info hinfo =>
        split
        · exact hset _ hinfo
        · rfl
      · rfl
    · split
      · rw [xqlQuery]
        split
        · next status hstatus =>
          split
          · exact hset _ hstatus
          · rfl
        · rfl
      · split
        · rw [xdrAlert]
          split
          · next old hold => exact hset _ hold
          · rfl
        · rfl

/-- An object of a class is made again of its own fields. -/
lemma construct_self {fields : List (String × Option Value)} {record : Fields}
    (hnodup : (fields.map Prod.fst).Nodup)
    (h : record.map Prod.fst = fields.map Prod.fst) : construct fields record = some record := by
  have hknown : (record.all fun p => (fields.map Prod.fst).contains p.1) = true := by
    rw [List.all_eq_true]
    intro p hp
    rw [List.contains_iff_mem, ← h]
    exact List.mem_map_of_mem hp
  have hvalues : ∀ fs : List (String × Option Value), ∀ rs : Fields,
      rs.map Prod.fst = fs.map Prod.fst → (∀ p ∈ rs, Assoc.get p.1 record = some p.2) →
      fs.mapM (fun p : String × Option Value =>
        ((Assoc.get p.1 record).or p.2).map (p.1, ·)) = some rs := by
    intro fs
    induction fs with
    | nil =>
      intro rs hnames _
      rw [List.map_nil, List.map_eq_nil_iff] at hnames
      rw [hnames]
      rfl
    | cons f fs ih =>
      intro rs hnames hget
      cases rs with
      | nil => cases hnames
      | cons p rs =>
        obtain ⟨hp, hrest⟩ := List.forall_mem_cons.1 hget
        obtain ⟨hname, hnames⟩ := List.cons.inj hnames
        rw [List.mapM_cons, ← hname, hp, ih rs hnames hrest]
        rfl
  rw [construct, if_pos hknown]
  refine hvalues fields record h ?_
  intro p hp
  exact Assoc.get_of_mem (h ▸ hnodup) hp

/-- An entry of a typed collection is reloaded as it is exactly when it is filed. -/
lemma reloadEntry_eq_self_iff {collection : String} {p : Key × Stored} :
    reloadEntry py classes collection p = some p
      ↔ ∃ id, p.1 = .str id ∧ Filed py classes collection id p.2 := by
  obtain ⟨key, record⟩ := p
  cases record with
  | value v =>
    refine iff_of_false ?_ ?_
    · rintro ⟨⟩
    · rintro ⟨id, -, fields, ⟨⟩, -⟩
  | object fields =>
    rw [reloadEntry, recordDict, Option.bind_some, reload]
    constructor
    · intro h
      split at h
      · next read hread =>
        rw [Option.some.injEq, Prod.mk.injEq, Stored.object.injEq] at h
        obtain ⟨rfl, hfields⟩ := h
        rw [readRecord] at hread
        cases hobj : construct (classes.fields collection)
            (migrateRecord py collection fields).1 with
        | none =>
          rw [hobj] at hread
          cases hread
        | some obj =>
          simp only [hobj] at hread
          obtain ⟨key, hkey, rfl⟩ := map_eq_ok_iff.1 hread
          rw [show obj = fields from hfields] at hobj hkey
          have hnames := construct_names hobj
          rw [construct_self (classes.nodup collection)
            ((migrateRecord_names collection fields).trans hnames)] at hobj
          exact ⟨key, rfl, fields, rfl, hnames, Option.some.inj hobj, hkey⟩
      · cases h
    · rintro ⟨id, rfl, fields', hfields, hnames, hmigrated, hkey⟩
      cases hfields
      have hread : readRecord py classes collection (migrateRecord py collection fields).1
          = .ok (id, fields) := by
        rw [hmigrated, readRecord, construct_self (classes.nodup collection) hnames]
        simp only [hkey, Except.map]
      rw [hread]

/-- Which stores within their caps round trip: those whose typed records are filed and whose binary
    ones are bytes, and that have an order for their activities. -/
theorem roundTrips_iff_filed {s : Store} (hcaps : WithinCaps s) (hproxy : Settled egress s.proxy) :
    RoundTrips py classes egress s
      ↔ (∀ collection ∈ typedNames, ∀ p ∈ (s.collections collection).entries,
          ∃ id, p.1 = .str id ∧ Filed py classes collection id p.2)
        ∧ (∀ collection ∈ BINARY_COLLECTIONS, ∀ p ∈ (s.collections collection).entries,
          ∃ b, p.2 = .value (.bytes b))
        ∧ (s.activityOrder = [] → (s.collections "activities").entries = []) := by
  obtain ⟨hraw, hmapping, hbinary⟩ := kinds_apart
  have hbytes : ∀ p : Key × Stored, bytesEntry p = some p ↔ ∃ b, p.2 = .value (.bytes b) := by
    rintro ⟨key, record⟩
    rcases record with ⟨v | b⟩ | fields
    · simp [bytesEntry]
    · simp [bytesEntry]
    · simp [bytesEntry]
  rw [roundTrips_iff hcaps hproxy, ← and_assoc, ← and_assoc]
  refine and_congr_left fun _ => ?_
  constructor
  · rintro ⟨-, hreloaded⟩
    refine ⟨?_, ?_⟩
    · intro collection hc p hp
      have hentries := hreloaded collection
        (List.mem_append_left _ (List.mem_append_left _ (List.mem_append_left _ hc)))
      rw [reloaded, if_pos hc, filterMap_eq_self_iff] at hentries
      exact reloadEntry_eq_self_iff.1 (hentries p hp)
    · intro collection hc p hp
      have hentries := hreloaded collection
        (List.mem_append_left _ (List.mem_append_right _ hc))
      rw [reloaded, if_neg (hbinary collection hc), if_pos hc, filterMap_eq_self_iff] at hentries
      exact (hbytes p).1 (hentries p hp)
  · rintro ⟨htyped, hbinaries⟩
    refine ⟨?_, ?_⟩
    · have hall : (typedNames.all fun c => (exportTyped s c).isSome) = true := by
        rw [List.all_eq_true]
        intro c hc
        have hfiled := htyped c hc
        rw [exportTyped]
        generalize (s.collections c).entries = entries at hfiled ⊢
        induction entries with
        | nil => rfl
        | cons p entries ih =>
          obtain ⟨⟨id, -, fields, hfields, -⟩, hrest⟩ := List.forall_mem_cons.1 hfiled
          obtain ⟨rest, hrest⟩ := Option.isSome_iff_exists.1 (ih hrest)
          rw [List.mapM_cons, hfields, hrest]
          rfl
      rw [exportState, if_pos hall]
      rfl
    · intro collection hc
      rcases List.mem_append.1 hc with hc | hc
      · rcases List.mem_append.1 hc with hc | hc
        · rcases List.mem_append.1 hc with hc | hc
          · rw [reloaded, if_pos hc, filterMap_eq_self_iff]
            exact fun p hp => reloadEntry_eq_self_iff.2 (htyped collection hc p hp)
          · exact reloaded_of_raw s hc
        · rw [reloaded, if_neg (hbinary collection hc), if_pos hc, filterMap_eq_self_iff]
          exact fun p hp => (hbytes p).2 (hbinaries collection hc p hp)
      · obtain ⟨htyped', hbinary'⟩ := hmapping collection hc
        rw [reloaded, if_neg htyped', if_neg hbinary']

end Dev

end Mockdr
