import Mathlib
import Mockdr.Dev.Restore

/-!
# What a load leaves of a snapshot

* `recordsIn`: the records under each name of a snapshot, each with what is filed for it, if
  anything is.
* `loadSnapshot_loaded`: the collections and the counts of a load that goes through.
* `found_iff`: when everything that was filed is found in a collection afterwards.
-/

namespace Mockdr

namespace Dev

/-- The names in a snapshot that are no collections. -/
def METADATA : List String := ["_activity_order", "_version", "_proxy_config"]

/-- What is filed for an element of a list under a raw collection. -/
def rawEntry (collection : String) : Json → Option (Key × Stored)
  | .dict record =>
    if (rawId collection record).truthy then
      (hashKey (rawId collection record)).map (·, .value (.json (.dict record)))
    else none
  | _ => none

/-- What is filed for an element of a list under a collection that is not typed. -/
def elementIn (collection : String) (v : Json) : Option (Key × Stored) :=
  if collection ∈ RAW_COLLECTIONS then rawEntry collection v else none

variable (py : DevPython) (classes : Classes) (egress : Egress)

/-- What is filed for an entry of a binary collection. -/
def binaryEntry (p : Key × Stored) : Option (Key × Stored) :=
  (b64decode (p.2.toStr py)).map fun b => (p.1, .value (.bytes b))

/-- What is filed for an entry of a dictionary under a collection that is not typed. -/
def entryIn (collection : String) (p : Key × Stored) : Option (Key × Stored) :=
  if collection ∈ RAW_COLLECTIONS ∨ collection ∈ MAPPING_COLLECTIONS then some p
  else if collection ∈ BINARY_COLLECTIONS then binaryEntry py p
  else none

/-- The records under a name of a snapshot, each with what is filed for it. What is neither a list
    nor a dictionary has none. -/
def recordsIn (snapshot : Snapshot) (collection : String) : List (Option (Key × Stored)) :=
  if collection ∈ typedNames then
    ((snapshot.recordsOf collection).getD []).map fun record =>
      record.bind (reload py classes collection)
  else if collection ∈ METADATA then []
  else
    match snapshot.others collection with
    | some (.json (.list records)) => records.map (elementIn collection)
    | some m => (m.asDict.getD []).map (entryIn py collection)
    | none => []

/-- What is filed under a collection. -/
def filed (snapshot : Snapshot) (collection : String) : List (Key × Stored) :=
  (recordsIn py classes snapshot collection).reduceOption

/-- The records of a typed collection that are skipped. -/
def skips (snapshot : Snapshot) (collection : String) : Nat :=
  if collection ∈ typedNames then (recordsIn py classes snapshot collection).countP Option.isNone
  else 0

/-- A load of the records of some collections, with its counts. -/
structure LoadsAll (snapshot : Snapshot) (cs : List String) (l l' : Loading) : Prop where
  store : l'.store = cs.foldl (fun s c => s.saveAll c (filed py classes snapshot c)) l.store
  total : l'.total = l.total + (cs.map fun c => (filed py classes snapshot c).length).sum
  skipped : l'.skipped = l.skipped + (cs.map (skips py classes snapshot)).sum

variable {py classes egress} {snapshot : Snapshot}

/-! ## One collection after the other -/

lemma LoadsAll.nil (l : Loading) :
    LoadsAll py classes snapshot [] l l where
  store := rfl
  total := rfl
  skipped := rfl

lemma LoadsAll.append {cs cs' : List String} {l l' l'' : Loading}
    (h : LoadsAll py classes snapshot cs l l') (h' : LoadsAll py classes snapshot cs' l' l'') :
    LoadsAll py classes snapshot (cs ++ cs') l l'' where
  store := by rw [h'.store, h.store, List.foldl_append]
  total := by rw [h'.total, h.total, List.map_append, List.sum_append, Nat.add_assoc]
  skipped := by rw [h'.skipped, h.skipped, List.map_append, List.sum_append, Nat.add_assoc]

lemma LoadsAll.foldlM {f : Loading → String → Except Store Loading} {cs : List String}
    (h : ∀ c ∈ cs, ∀ l l', f l c = .ok l' → LoadsAll py classes snapshot [c] l l')
    {l l' : Loading} (hl : cs.foldlM f l = .ok l') : LoadsAll py classes snapshot cs l l' := by
  induction cs generalizing l with
  | nil =>
    cases hl
    exact .nil _
  | cons c cs ih =>
    rw [List.foldlM_cons] at hl
    obtain ⟨l₁, h₁, hl⟩ := bind_eq_ok_iff.1 hl
    exact (h c List.mem_cons_self l l₁ h₁).append
      (ih (fun b hb => h b (List.mem_cons_of_mem c hb)) hl)

lemma LoadsAll.foldl {f : Loading → String → Loading} {cs : List String}
    (h : ∀ c ∈ cs, ∀ l, LoadsAll py classes snapshot [c] l (f l c)) (l : Loading) :
    LoadsAll py classes snapshot cs l (cs.foldl f l) := by
  induction cs generalizing l with
  | nil => exact .nil l
  | cons c cs ih =>
    exact (h c List.mem_cons_self l).append (ih (fun b hb => h b (List.mem_cons_of_mem c hb)) _)

lemma LoadsAll.single {c : String} {l l' : Loading}
    (store : l'.store = l.store.saveAll c (filed py classes snapshot c))
    (total : l'.total = l.total + (filed py classes snapshot c).length)
    (skipped : l'.skipped = l.skipped + skips py classes snapshot c) :
    LoadsAll py classes snapshot [c] l l' where
  store := store
  total := by rw [total, List.map_singleton, List.sum_singleton]
  skipped := by rw [skipped, List.map_singleton, List.sum_singleton]

/-! ## The kinds of collections -/

/-- A record of a typed collection is filed and counted, or counted as skipped. -/
lemma loadRecord_counts {collection : String} (hc : collection ∈ typedNames) {l l' : Loading}
    {record : Option Fields} (h : loadRecord py classes collection l record = .ok l') :
    let entry := record.bind (reload py classes collection)
    l'.store = l.store.saveAll collection entry.toList ∧ l'.total = l.total + entry.toList.length
      ∧ l'.skipped = l.skipped + [entry].countP Option.isNone := by
  cases record with
  | none =>
    cases h
    exact ⟨rfl, rfl, rfl⟩
  | some record =>
    rw [loadRecord] at h
    rw [Option.bind_some, reload]
    cases hread : readRecord py classes collection (migrateRecord py collection record).1 with
    | ok read =>
      rw [hread] at h
      cases h
      exact ⟨rfl, rfl, rfl⟩
    | error e =>
      rw [hread] at h
      cases e with
      | skipped =>
        cases h
        exact ⟨rfl, rfl, rfl⟩
      | uncaught => exact absurd hread (readRecord_ne_uncaught hc)

lemma loadsAll_loadTyped {collection : String} (hc : collection ∈ typedNames) {l l' : Loading}
    (h : loadTyped py classes snapshot l collection = .ok l') :
    LoadsAll py classes snapshot [collection] l l' := by
  have hall : ∀ records : List (Option Fields), ∀ l : Loading,
      records.foldlM (loadRecord py classes collection) l = .ok l' →
      let entries := records.map fun record => record.bind (reload py classes collection)
      l'.store = l.store.saveAll collection entries.reduceOption
        ∧ l'.total = l.total + entries.reduceOption.length
        ∧ l'.skipped = l.skipped + entries.countP Option.isNone := by
    intro records
    induction records with
    | nil =>
      intro l h
      cases h
      exact ⟨rfl, rfl, rfl⟩
    | cons record records ih =>
      intro l h
      rw [List.foldlM_cons] at h
      obtain ⟨l₁, h₁, h⟩ := bind_eq_ok_iff.1 h
      obtain ⟨hstore₁, htotal₁, hskipped₁⟩ := loadRecord_counts hc h₁
      obtain ⟨hstore, htotal, hskipped⟩ := ih l₁ h
      rw [hstore₁] at hstore
      rw [htotal₁] at htotal
      rw [hskipped₁] at hskipped
      cases hentry : record.bind (reload py classes collection) with
      | none =>
        simp only [hentry, List.map_cons, List.reduceOption_cons_of_none, List.countP_cons,
          Option.isNone_none, if_pos] at hstore htotal hskipped ⊢
        refine ⟨hstore, htotal, ?_⟩
        rw [hskipped, List.countP_nil]
        omega
      | some p =>
        simp only [hentry, List.map_cons, List.reduceOption_cons_of_some, List.countP_cons,
          Option.isNone_some, Option.toList_some, List.length_cons, List.length_nil,
          List.countP_nil] at hstore htotal hskipped ⊢
        refine ⟨hstore, ?_, hskipped⟩
        rw [htotal]
        omega
  obtain ⟨hstore, htotal, hskipped⟩ := hall _ l h
  refine .single ?_ ?_ ?_
  · rw [filed, recordsIn, if_pos hc]
    exact hstore
  · rw [filed, recordsIn, if_pos hc]
    exact htotal
  · rw [skips, if_pos hc, recordsIn, if_pos hc]
    exact hskipped

lemma loadEntries_counts (collection : String) (l : Loading) (entries : List (Key × Stored)) :
    (loadEntries collection l entries).total = l.total + entries.length
      ∧ (loadEntries collection l entries).skipped = l.skipped := by
  rw [loadEntries]
  induction entries generalizing l with
  | nil => exact ⟨rfl, rfl⟩
  | cons p entries ih =>
    obtain ⟨htotal, hskipped⟩ := ih (l.saved collection p.1 p.2)
    refine ⟨?_, hskipped⟩
    rw [List.foldl_cons, htotal, List.length_cons]
    change l.total + 1 + entries.length = _
    omega

lemma loadsAll_loadEntries {collection : String} (hc : collection ∉ typedNames) (l : Loading)
    {entries : List (Key × Stored)} (h : filed py classes snapshot collection = entries) :
    LoadsAll py classes snapshot [collection] l (loadEntries collection l entries) := by
  obtain ⟨htotal, hskipped⟩ := loadEntries_counts collection l entries
  refine .single ?_ ?_ ?_
  · rw [h, loadEntries_store]
  · rw [h, htotal]
  · rw [hskipped, skips, if_neg hc, Nat.add_zero]

lemma metadata_not_registered : ∀ c ∈ METADATA, c ∉ registered := by decide +kernel

lemma filed_of_untyped {collection : String} (hc : collection ∈ registered)
    (htyped : collection ∉ typedNames) :
    filed py classes snapshot collection
      = match snapshot.others collection with
        | some (.json (.list records)) => records.filterMap (elementIn collection)
        | some m => (m.asDict.getD []).filterMap (entryIn py collection)
        | none => [] := by
  have hmetadata : collection ∉ METADATA := fun h => metadata_not_registered collection h hc
  rw [filed, recordsIn, if_neg htyped, if_neg hmetadata]
  split
  · rw [List.reduceOption, List.filterMap_map, Function.id_comp]
  · rw [List.reduceOption, List.filterMap_map, Function.id_comp]
  · rfl

lemma kinds_untyped {collection : String}
    (hc : collection ∈ RAW_COLLECTIONS ++ BINARY_COLLECTIONS ++ MAPPING_COLLECTIONS) :
    collection ∈ registered ∧ collection ∉ typedNames := by
  obtain ⟨hraw, hmapping, hbinary⟩ := kinds_apart
  refine ⟨?_, ?_⟩
  · rw [registered, List.append_assoc, List.append_assoc, ← List.append_assoc RAW_COLLECTIONS]
    exact List.mem_append_right _ hc
  · rcases List.mem_append.1 hc with hc | hc
    · rcases List.mem_append.1 hc with hc | hc
      · exact (hraw collection hc).1
      · exact hbinary collection hc
    · exact (hmapping collection hc).1

/-- The loop over a list of an older snapshot files its records. -/
lemma foldlM_loadRawRecord {collection : String} {records : List Json} {l l' : Loading}
    (h : records.foldlM (loadRawRecord collection) l = .ok l') :
    l' = loadEntries collection l (records.filterMap (rawEntry collection)) := by
  induction records generalizing l with
  | nil =>
    cases h
    rfl
  | cons record records ih =>
    rw [List.foldlM_cons] at h
    obtain ⟨l₁, h₁, h⟩ := bind_eq_ok_iff.1 h
    rw [ih h]
    cases record
    case dict members =>
      rw [loadRawRecord] at h₁
      cases htruthy : (rawId collection members).truthy with
      | false =>
        rw [htruthy] at h₁
        cases h₁
        rw [List.filterMap_cons_none (by simp [rawEntry, htruthy])]
      | true =>
        rw [htruthy] at h₁
        cases hkey : hashKey (rawId collection members) with
        | none =>
          rw [hkey] at h₁
          cases h₁
        | some key =>
          rw [hkey] at h₁
          cases h₁
          have hentry : rawEntry collection (.dict members)
              = some (key, .value (.json (.dict members))) := by
            rw [rawEntry, if_pos htruthy, hkey, Option.map_some]
          rw [List.filterMap_cons_some hentry]
          rfl
    all_goals
      cases h₁
      rfl

lemma loadsAll_importRaw {collection : String} (hc : collection ∈ RAW_COLLECTIONS)
    {l l' : Loading} (h : importRaw snapshot l collection = .ok l') :
    LoadsAll py classes snapshot [collection] l l' := by
  obtain ⟨hregistered, htyped⟩ :=
    kinds_untyped (List.mem_append_left _ (List.mem_append_left _ hc))
  have hfiled : filed py classes snapshot collection = _ := filed_of_untyped hregistered htyped
  have helement : elementIn collection = rawEntry collection := funext fun _ => if_pos hc
  have hentry : entryIn py collection = some := funext fun _ => if_pos (.inl hc)
  rw [importRaw] at h
  split at h
  · next records hrecords =>
    rw [hrecords] at hfiled
    rw [foldlM_loadRawRecord h]
    exact loadsAll_loadEntries htyped l (by rw [hfiled, helement])
  · next m hnot hm =>
    cases h
    refine loadsAll_loadEntries htyped l ?_
    rw [hfiled, hm]
    split
    · next records hrecords => exact (hnot records (Option.some.inj hrecords)).elim
    · next m' _ hm' =>
      cases hm'
      rw [hentry, List.filterMap_some]
    · next hnone => cases hnone
  · next hnone =>
    cases h
    have hempty : filed py classes snapshot collection = [] := by rw [hfiled, hnone]
    exact loadsAll_loadEntries htyped l hempty

lemma filed_of_dict {collection : String}
    (hc : collection ∈ BINARY_COLLECTIONS ++ MAPPING_COLLECTIONS) :
    filed py classes snapshot collection
      = (((snapshot.others collection).bind EntryMember.asDict).getD []).filterMap
          (entryIn py collection) := by
  have hraw : collection ∉ RAW_COLLECTIONS := by
    have hapart : ∀ c ∈ BINARY_COLLECTIONS ++ MAPPING_COLLECTIONS, c ∉ RAW_COLLECTIONS := by
      decide +kernel
    exact hapart collection hc
  have helement : elementIn collection = fun _ => none := funext fun _ => if_neg hraw
  obtain ⟨hregistered, htyped⟩ := kinds_untyped (by
    rw [List.append_assoc]
    exact List.mem_append_right RAW_COLLECTIONS hc)
  rw [filed_of_untyped hregistered htyped]
  split
  · next records hrecords =>
    rw [hrecords, helement, List.filterMap_none]
    rfl
  · next m _ hm => rw [hm, Option.bind_some]
  · next hnone => rw [hnone]; rfl

lemma loadsAll_loadBinary {collection : String} (hc : collection ∈ BINARY_COLLECTIONS)
    (l : Loading) :
    LoadsAll py classes snapshot [collection] l (loadBinary py snapshot l collection) := by
  obtain ⟨-, htyped⟩ := kinds_untyped (List.mem_append_left _ (List.mem_append_right _ hc))
  refine loadsAll_loadEntries htyped l ?_
  rw [filed_of_dict (List.mem_append_left _ hc)]
  have hapart : ∀ c ∈ BINARY_COLLECTIONS, ¬ (c ∈ RAW_COLLECTIONS ∨ c ∈ MAPPING_COLLECTIONS) := by
    decide +kernel
  have hentry : entryIn py collection = binaryEntry py := funext fun _ => by
    rw [entryIn, if_neg (hapart collection hc), if_pos hc]
  rw [hentry]
  rfl

lemma loadsAll_loadMapping {collection : String} (hc : collection ∈ MAPPING_COLLECTIONS)
    (l : Loading) :
    LoadsAll py classes snapshot [collection] l (loadMapping snapshot l collection) := by
  obtain ⟨-, htyped⟩ := kinds_untyped (List.mem_append_right _ hc)
  refine loadsAll_loadEntries htyped l ?_
  have hentry : entryIn py collection = some := funext fun _ => if_pos (.inr hc)
  rw [filed_of_dict (List.mem_append_right _ hc), hentry, List.filterMap_some]

/-! ## The entries that are found afterwards -/

lemma caps_pos {collection : String} {cap : Nat} (h : Assoc.get collection CAPS = some cap) :
    0 < cap := by
  have hall : ∀ p ∈ CAPS, 0 < p.2 := by decide
  exact hall _ (Assoc.mem_of_get h)

/-- A collection within its cap stays within it. -/
lemma size_saveRecord_le {collection : String} {cap : Nat} {key : Key} {record : Stored}
    {d : Dict Key Stored} (hcap : Assoc.get collection CAPS = some cap) (h : d.size ≤ cap) :
    (saveRecord collection key record d).size ≤ cap := by
  have hpos := caps_pos hcap
  rw [saveRecord, hcap]
  dsimp only
  split
  · next hfull =>
    have hdrop : d.dropOldest.size = d.size - 1 := by
      rw [Dict.size, Dict.dropOldest, List.length_tail, Dict.size]
    rw [Dict.size_set, hdrop]
    split
    · omega
    · omega
  · next hroom =>
    rw [Dict.size_set]
    cases hcontains : d.contains key with
    | true => rwa [if_pos rfl]
    | false =>
      rw [hcontains, Bool.not_false, Bool.true_and, decide_eq_true_eq] at hroom
      rw [if_neg Bool.false_ne_true]
      omega

/-- Entries that agree where their keys do. -/
def Agree (entries : List (Key × Stored)) : Prop :=
  ∀ p ∈ entries, ∀ q ∈ entries, p.1 = q.1 → p.2 = q.2

/-- As many different keys as a collection has room for. -/
def Fitting (collection : String) (entries : List (Key × Stored)) : Prop :=
  ∀ cap, Assoc.get collection CAPS = some cap → (entries.map Prod.fst).dedup.length ≤ cap

/-- Every entry is found in a collection that was empty exactly when the entries agree and there is
    room for them. -/
lemma found_iff {collection : String} {entries : List (Key × Stored)} :
    (∀ p ∈ entries,
        (entries.foldl (fun d p => saveRecord collection p.1 p.2 d) .empty).get p.1 = some p.2)
      ↔ Agree entries ∧ Fitting collection entries := by
  constructor
  · intro h
    refine ⟨?_, ?_⟩
    · intro p hp q hq hkey
      have hfound := h p hp
      rw [hkey, h q hq] at hfound
      exact (Option.some.inj hfound).symm
    · intro cap hcap
      have hsize : ∀ (es : List (Key × Stored)) (d : Dict Key Stored), d.size ≤ cap →
          (es.foldl (fun d p => saveRecord collection p.1 p.2 d) d).size ≤ cap := by
        intro es
        induction es with
        | nil => exact fun d hd => hd
        | cons p es ih => exact fun d hd => ih _ (size_saveRecord_le hcap hd)
      refine le_trans ?_ (hsize entries .empty (Nat.zero_le cap))
      rw [Dict.size, ← List.length_map Prod.fst]
      refine (List.nodup_dedup _).length_le_of_subset ?_
      intro k hk
      obtain ⟨p, hp, rfl⟩ := List.mem_map.1 (List.mem_dedup.1 hk)
      exact Dict.mem_keys_iff.2 (by rw [h p hp]; rfl)
  · rintro ⟨hagree, hfitting⟩ p hp
    rw [foldl_saveRecord_of_keys (d := .empty) hfitting]
    exact Dict.get_foldl_set hagree hp

/-! ## The whole snapshot -/

lemma restoreOrder_counts {l l' : Loading} (h : restoreOrder snapshot l = .ok l') :
    l'.total = l.total ∧ l'.skipped = l.skipped := by
  rw [restoreOrder] at h
  split at h
  · cases h
    exact ⟨rfl, rfl⟩
  · split at h
    · cases h
      exact ⟨rfl, rfl⟩
    · split at h
      · cases h
        exact ⟨rfl, rfl⟩
      · cases h

lemma restoreSettings_counts (py : DevPython) (egress : Egress) (snapshot : Snapshot)
    (l : Loading) : (restoreSettings py egress snapshot l).total = l.total
      ∧ (restoreSettings py egress snapshot l).skipped = l.skipped := by
  rw [restoreSettings]
  split
  · exact ⟨rfl, rfl⟩
  · exact ⟨rfl, rfl⟩

lemma filed_of_unregistered {name : String} (h : name ∉ registered) :
    filed py classes snapshot name = [] := by
  simp only [registered, List.mem_append, not_or] at h
  obtain ⟨⟨⟨htyped, hraw⟩, hbinary⟩, hmapping⟩ := h
  have helement : elementIn name = fun _ => none := funext fun _ => if_neg hraw
  have hentry : entryIn py name = fun _ => none := funext fun _ => by
    rw [entryIn, if_neg (not_or.2 ⟨hraw, hmapping⟩), if_neg hbinary]
  rw [filed, recordsIn, if_neg htyped]
  split
  · rfl
  · split
    · rw [List.reduceOption, List.filterMap_map, Function.id_comp, helement, List.filterMap_none]
    · rw [List.reduceOption, List.filterMap_map, Function.id_comp, hentry, List.filterMap_none]
    · rfl

/-- The collections and the counts of a load that goes through. -/
lemma loadSnapshot_loaded {s : Store} {l : Loading}
    (h : loadSnapshot py classes egress s snapshot = .ok l) :
    (∀ name, l.store.collections name
        = (filed py classes snapshot name).foldl (fun d p => saveRecord name p.1 p.2 d) .empty)
      ∧ l.total = (registered.map fun c => (filed py classes snapshot c).length).sum
      ∧ l.skipped = (registered.map (skips py classes snapshot)).sum := by
  rw [loadSnapshot] at h
  obtain ⟨l₁, h₁, h⟩ := bind_eq_ok_iff.1 h
  obtain ⟨l₂, h₂, h⟩ := bind_eq_ok_iff.1 h
  obtain ⟨l₃, h₃, h⟩ := bind_eq_ok_iff.1 h
  have hloads : LoadsAll py classes snapshot registered ⟨s.clearAll, 0, 0, 0⟩
      (MAPPING_COLLECTIONS.foldl (loadMapping snapshot)
        (BINARY_COLLECTIONS.foldl (loadBinary py snapshot) l₂)) :=
    (((LoadsAll.foldlM (fun _ hc _ _ => loadsAll_loadTyped hc) h₁).append
      (.foldlM (fun _ hc _ _ => loadsAll_importRaw hc) h₂)).append
      (.foldl (fun _ hc => loadsAll_loadBinary hc) l₂)).append
      (.foldl (fun _ hc => loadsAll_loadMapping hc) _)
  obtain ⟨hcollections, -⟩ := restoreOrder_frame h₃
  obtain ⟨htotal, hskipped⟩ := restoreOrder_counts h₃
  obtain ⟨hcollections', -⟩ := restoreSettings_frame py egress snapshot l₃
  obtain ⟨htotal', hskipped'⟩ := restoreSettings_counts py egress snapshot l₃
  rw [← Except.ok.inj h]
  refine ⟨?_, ?_, ?_⟩
  · intro name
    rw [hcollections', hcollections, hloads.store, foldl_saveAll_self nodup_registered]
    split
    · rfl
    · next hname =>
      rw [filed_of_unregistered hname]
      rfl
  · rw [htotal', htotal, hloads.total, Nat.zero_add]
  · rw [hskipped', hskipped, hloads.skipped, Nat.zero_add]

end Dev

end Mockdr
