import Mathlib.Data.Nat.Pairing
import Mockdr.Builtins
import Mockdr.Lib.Run
import Mockdr.S1.Tags

/-!
# The entries that agents carry follow the definitions

* `Defined`: an entry has the id of a definition, its key and its value; `AdHoc`: it has been added
  under a key that no definition had. `Kept`: the entries of an agent are each one or the other, and
  no two have one id.
* `managed_keeps`, `step_lawful`: what a request keeps.
* `assignments_follow`: along a run every agent keeps it.
-/

namespace Mockdr

namespace Tags

variable {δ : Type} (py : TagPython)

/-! ## What holds of the entries -/

/-- Two keys are the same to Python. -/
def SameKey (a b : Json) : Prop := a = b ∨ ∃ h, hashed a = some h ∧ hashed b = some h

/-- An entry has the id of a definition, its key and its value. -/
def Defined (tags : Dict String Tag) (entry : Entry) : Prop :=
  ∃ tag, tags.get entry.id = some tag ∧ SameKey entry.key tag.key ∧ entry.value = tag.value

/-- An entry is no definition's, and has its key for its value. -/
def AdHoc (tags : Dict String Tag) (entry : Entry) : Prop :=
  tags.get entry.id = none ∧ entry.value = entry.key

/-- The entries of an agent are each a definition's, or ad hoc under an id in `U`, and no two have
    one id. -/
structure Kept (U : Set String) (tags : Dict String Tag) (entries : List Entry) : Prop where
  each : ∀ entry ∈ entries, Defined tags entry ∨ entry.id ∈ U ∧ AdHoc tags entry
  once : (entries.map Entry.id).Nodup

/-- Every agent's entries are kept. -/
def Lawful (U : Set String) (s : Store δ) : Prop :=
  ∀ id agent, s.agents.get id = some agent → Kept U s.tags agent.sentinelone

/-! ## What is asked of the requests -/

/-- An agent carries an entry with an id. -/
def Carried (s : Store δ) (id : String) : Prop :=
  ∃ agentId agent, s.agents.get agentId = some agent ∧ id ∈ agent.sentinelone.map Entry.id

/-- The ids that a request draws are new. -/
def Fresh (s : Store δ) : Action → Prop
  | .createTag id _ _ _ => s.tags.get id = none ∧ ¬Carried s id
  | .manageTags _ _ drawn _ =>
    Function.Injective (Function.uncurry drawn)
      ∧ ∀ i j, s.tags.get (drawn i j) = none ∧ ¬Carried s (drawn i j)
  | _ => True

/-- The keys that a body adds. -/
def addedKeys : Json → List Json
  | .dict data => (((Assoc.get "tagsToAdd" data).getD (.list [])).iterate).getD []
  | _ => []

/-- A body names no key twice in `tagsToAdd`. -/
def NoRepeats : Action → Prop
  | .manageTags _ _ _ data => ((addedKeys data).filterMap hashed).Nodup
  | _ => True

/-- No definition has a key. -/
def Undefined (tags : Dict String Tag) (key : Json) : Prop :=
  ∀ id tag, tags.get id = some tag → ¬SameKey key tag.key

/-- The ids that are drawn for the keys without a definition are in `U`. -/
def DrawsIn (U : Set String) (s : Store δ) : Action → Prop
  | .manageTags _ _ drawn data =>
    ∀ key i j, (key, j) ∈ (addedKeys data).zipIdx → Undefined s.tags key → drawn i j ∈ U
  | _ => True

/-! ## The definitions -/

variable {U : Set String} {tags : Dict String Tag} {entries : List Entry}

lemma Kept.sublist {part : List Entry} (h : Kept U tags entries) (hp : part.Sublist entries) :
    Kept U tags part :=
  ⟨fun entry he => h.each entry (hp.subset he), h.once.sublist (hp.map _)⟩

lemma Kept.concat {entry : Entry} (h : Kept U tags entries)
    (he : Defined tags entry ∨ entry.id ∈ U ∧ AdHoc tags entry)
    (hid : entry.id ∉ entries.map Entry.id) : Kept U tags (entries ++ [entry]) := by
  constructor
  · intro e hmem
    rcases List.mem_append.1 hmem with hmem | hmem
    · exact h.each e hmem
    · rw [List.mem_singleton.1 hmem]
      exact he
  · rw [List.map_append, List.nodup_append]
    refine ⟨h.once, by simp, ?_⟩
    rintro a ha b hb rfl
    rw [List.map_singleton, List.mem_singleton] at hb
    exact hid (hb ▸ ha)

lemma Kept.define {id : String} (tag : Tag) (h : Kept U tags entries) (hnew : tags.get id = none)
    (hid : id ∉ entries.map Entry.id) : Kept U (tags.set id tag) entries := by
  refine ⟨?_, h.once⟩
  intro entry he
  have hne : entry.id ≠ id := by
    rintro rfl
    exact hid (List.mem_map_of_mem he)
  rcases h.each entry he with ⟨tag', hget, hkey⟩ | ⟨hU, hnone, hvalue⟩
  · left
    exact ⟨tag', by rwa [Dict.get_set_ne _ _ hne], hkey⟩
  · right
    exact ⟨hU, by rwa [Dict.get_set_ne _ _ hne], hvalue⟩

/-- `createTag` leaves the entries, under the definitions with one more or without. -/
lemma createTag_lawful {id : String} {by_ : Actor} {data filter : Object} {s : Store δ}
    (hnew : s.tags.get id = none) (hid : ¬Carried s id) (h : Lawful U s) :
    Lawful U (createTag py id by_ data filter s) := by
  unfold createTag
  dsimp only
  split_ifs
  · exact h
  · intro agentId agent hget
    refine (h agentId agent hget).define _ hnew ?_
    intro hmem
    exact hid ⟨agentId, agent, hget, hmem⟩

/-- A definition that is written and copied to the entries keeps them. -/
lemma Kept.retag {id : String} (tag : Tag) {agent : Agent δ} (h : Kept U tags agent.sentinelone) :
    Kept U (tags.set id tag) (Tags.retag id tag agent).sentinelone := by
  constructor
  · intro e hmem
    obtain ⟨entry, he, rfl⟩ := List.mem_map.1 hmem
    by_cases hid : entry.id = id
    · left
      simp only [if_pos hid]
      exact ⟨tag, by rw [hid, Dict.get_set_self], .inl rfl, rfl⟩
    · simp only [if_neg hid]
      rcases h.each entry he with ⟨tag', hget', hkey⟩ | ⟨hU, hnone, hvalue⟩
      · left
        exact ⟨tag', by rwa [Dict.get_set_ne _ _ hid], hkey⟩
      · right
        exact ⟨hU, by rwa [Dict.get_set_ne _ _ hid], hvalue⟩
  · have hids : (Tags.retag id tag agent).sentinelone.map Entry.id
        = agent.sentinelone.map Entry.id := by
      rw [Tags.retag, List.map_map]
      refine List.map_congr_left fun entry _ => ?_
      by_cases hid : entry.id = id <;> simp [hid]
    rw [hids]
    exact h.once

/-- `updateTag` keeps the entries of every agent. -/
lemma updateTag_lawful {id : String} {by_ : Actor} {data : Object} {s : Store δ}
    (h : Lawful U s) : Lawful U (updateTag id by_ data s) := by
  cases hget : s.tags.get id with
  | none =>
    simp only [updateTag, hget]
    exact h
  | some tag =>
    intro agentId agent' hagent
    simp only [updateTag, hget, Dict.get_mapValues, Option.map_eq_some_iff] at hagent ⊢
    obtain ⟨agent, hagent, rfl⟩ := hagent
    exact (h agentId agent hagent).retag _

/-- `deleteTag` keeps the entries of every agent. -/
lemma deleteTag_lawful {id : String} {s : Store δ} (h : Lawful U s) :
    Lawful U (deleteTag id s) := by
  intro agentId agent' hagent
  simp only [deleteTag, Dict.get_mapValues, Option.map_eq_some_iff] at hagent ⊢
  obtain ⟨agent, hagent, rfl⟩ := hagent
  have hpart := (h agentId agent hagent).sublist
    (List.filter_sublist (p := fun entry : Entry => entry.id ≠ id) (l := agent.sentinelone))
  refine ⟨?_, hpart.once⟩
  intro entry hmem
  have hne : entry.id ≠ id := of_decide_eq_true (List.mem_filter.1 hmem).2
  rcases hpart.each entry hmem with ⟨tag, hget, hkey⟩ | ⟨hU, hnone, hvalue⟩
  · left
    exact ⟨tag, by rwa [Dict.get_erase_ne _ hne], hkey⟩
  · right
    exact ⟨hU, by rwa [Dict.get_erase_ne _ hne], hvalue⟩

/-- `deleteTags` keeps the entries of every agent. -/
lemma deleteTags_lawful {filter : Object} {s : Store δ} (h : Lawful U s) :
    Lawful U (deleteTags py filter s) := by
  unfold deleteTags
  cases selectedTags py filter s.tags with
  | none => exact h
  | some ids =>
    induction ids generalizing s with
    | nil => exact h
    | cons id ids ih => exact ih (deleteTag_lawful h)

/-! ## One agent's entries -/

variable {by_ : Actor} {row : Nat → String}

/-- The id of an entry: it was there, it is a definition's, or it is drawn. -/
def Comes (tags : Dict String Tag) (row : Nat → String) (current : List Entry) (id : String) :
    Prop :=
  id ∈ current.map Entry.id ∨ (tags.get id).isSome ∨ ∃ j, id = row j

lemma Comes.trans {current middle : List Entry} {id : String}
    (hmid : ∀ id ∈ middle.map Entry.id, Comes tags row current id) (h : Comes tags row middle id) :
    Comes tags row current id := by
  rcases h with h | h
  · exact hmid id h
  · exact .inr h

lemma Comes.of_concat {current : List Entry} {entry : Entry}
    (h : (tags.get entry.id).isSome ∨ ∃ j, entry.id = row j) :
    ∀ id ∈ (current ++ [entry]).map Entry.id, Comes tags row current id := by
  intro id hid
  rw [List.map_append, List.mem_append] at hid
  rcases hid with hid | hid
  · exact .inl hid
  · rw [List.mem_singleton.1 hid]
    exact .inr h

lemma assignment_defined {id : String} {tag : Tag} (hget : tags.get id = some tag) {key : Json}
    (hkey : SameKey key tag.key) : Defined tags (assignment id key tag.value by_) :=
  ⟨tag, hget, hkey, rfl⟩

lemma get_of_tagById {v : Json} {id : String} {tag : Tag}
    (h : tagById tags v = some (some (id, tag))) : tags.get id = some tag := by
  unfold tagById at h
  split at h
  · obtain ⟨tag', hget, heq⟩ := Option.map_eq_some_iff.1 (Option.some.inj h)
    obtain ⟨rfl, rfl⟩ := Prod.mk.injEq .. ▸ heq
    exact hget
  · obtain ⟨_, _, heq⟩ := Option.map_eq_some_iff.1 h
    cases heq

/-- An operation keeps the entries, and adds a definition's at most. -/
lemma applyOperation_keeps (row : Nat → String) {current current' : List Entry} {op : Json}
    (h : applyOperation tags by_ current op = some current') (hk : Kept U tags current) :
    Kept U tags current' ∧ ∀ id ∈ current'.map Entry.id, Comes tags row current id := by
  cases op with
  | dict op =>
    simp only [applyOperation, Option.bind_eq_bind, Option.bind_eq_some_iff] at h
    obtain ⟨tagDef, hdef, h⟩ := h
    split at h
    · -- removed
      obtain rfl := Option.some.inj h
      refine ⟨hk.sublist List.filter_sublist, ?_⟩
      intro id hid
      exact .inl ((List.filter_sublist.map _).subset hid)
    · cases tagDef with
      | none =>
        obtain rfl := Option.some.inj h
        exact ⟨hk, fun id hid => .inl hid⟩
      | some p =>
        obtain ⟨tagId, tag⟩ := p
        have hget := get_of_tagById hdef
        have hentry : Defined tags (assignment tagId tag.key tag.value by_) :=
          assignment_defined hget (.inl rfl)
        simp only at h
        split_ifs at h with hover hadd
        · obtain rfl := Option.some.inj h
          refine ⟨⟨?_, List.nodup_singleton _⟩, ?_⟩
          · intro entry he
            rw [List.mem_singleton.1 he]
            exact .inl hentry
          · intro id hid
            obtain rfl := List.mem_singleton.1 hid
            exact .inr (.inl (Option.isSome_iff_exists.2 ⟨tag, hget⟩))
        · obtain rfl := Option.some.inj h
          simp only [Bool.and_eq_true, decide_eq_true_eq] at hadd
          exact ⟨hk.concat (.inl hentry) hadd.2,
            Comes.of_concat (.inl (Option.isSome_iff_exists.2 ⟨tag, hget⟩))⟩
        · obtain rfl := Option.some.inj h
          exact ⟨hk, fun id hid => .inl hid⟩
  | _ => cases h

lemma operations_keep {ops : List Json} {current current' : List Entry}
    (h : ops.foldlM (applyOperation tags by_) current = some current') (hk : Kept U tags current) :
    Kept U tags current' ∧ ∀ id ∈ current'.map Entry.id, Comes tags row current id := by
  induction ops generalizing current with
  | nil =>
    obtain rfl := Option.some.inj h
    exact ⟨hk, fun id hid => .inl hid⟩
  | cons op ops ih =>
    rw [List.foldlM_cons, Option.bind_eq_bind, Option.bind_eq_some_iff] at h
    obtain ⟨middle, hstep, hrest⟩ := h
    obtain ⟨hmid, hcomes⟩ := applyOperation_keeps row hstep hk
    obtain ⟨hlast, hlater⟩ := ih hrest hmid
    exact ⟨hlast, fun id hid => (hlater id hid).trans hcomes⟩

lemma SameKey.hashed_eq {a b : Json} (h : SameKey a b) : hashed a = hashed b := by
  rcases h with rfl | ⟨hash, ha, hb⟩
  · rfl
  · rw [ha, hb]

lemma get_of_tagByKey {hash : Hash} {id : String} {tag : Tag}
    (h : tagByKey tags hash = some (some (id, tag))) :
    tags.get id = some tag ∧ hashed tag.key = some hash := by
  unfold tagByKey at h
  split_ifs at h
  have hmem := List.mem_of_getLast? (Option.some.inj h)
  obtain ⟨hentry, hkey⟩ := List.mem_filter.1 hmem
  exact ⟨Dict.mem_entries_iff.1 hentry, of_decide_eq_true hkey⟩

lemma undefined_of_tagByKey {hash : Hash} {key : Json} (hkey : hashed key = some hash)
    (h : tagByKey tags hash = some none) : Undefined tags key := by
  unfold tagByKey at h
  split_ifs at h
  have hnone := List.getLast?_eq_none_iff.1 (Option.some.inj h)
  intro id tag hget hsame
  have hmem : (id, tag) ∈ tags.entries.filter fun p => hashed p.2.key = some hash := by
    rw [List.mem_filter]
    exact ⟨Dict.mem_entries_iff.2 hget, decide_eq_true (hsame.hashed_eq ▸ hkey)⟩
  rw [hnone] at hmem
  exact List.not_mem_nil hmem

/-- Each key of the entries is one that the loop knows, or is not added any more. -/
def Known (existing : List Hash) (keys : List Json) (current : List Entry) : Prop :=
  ∀ entry ∈ current, ∃ hash, hashed entry.key = some hash
    ∧ (hash ∈ existing ∨ hash ∉ keys.filterMap hashed)

lemma Known.tail {existing : List Hash} {key : Json} {keys : List Json} {current : List Entry}
    (h : Known existing (key :: keys) current) : Known existing keys current := by
  intro entry he
  obtain ⟨hash, hhash, hor⟩ := h entry he
  refine ⟨hash, hhash, hor.imp_right ?_⟩
  intro hnot hmem
  refine hnot ?_
  rw [List.mem_filterMap] at hmem ⊢
  obtain ⟨key', hkey', heq⟩ := hmem
  exact ⟨key', List.mem_cons_of_mem _ hkey', heq⟩

lemma Known.concat {existing : List Hash} {keys : List Json} {current : List Entry} {key : Json}
    {hash : Hash} (h : Known existing (key :: keys) current) (hkey : hashed key = some hash)
    (hnodup : ((key :: keys).filterMap hashed).Nodup) (id : String) (value : Json) :
    Known existing keys (current ++ [assignment id key value by_]) := by
  rw [List.filterMap_cons_some hkey, List.nodup_cons] at hnodup
  intro entry he
  rcases List.mem_append.1 he with he | he
  · exact h.tail entry he
  · rw [List.mem_singleton.1 he]
    exact ⟨hash, hkey, .inr hnodup.1⟩

/-- The loop over the keys keeps the entries: a definition whose key is new to the loop is carried
    by none of them. -/
lemma addKeys_keep {existing : List Hash} {keys : List Json} {n : Nat}
    {current current' : List Entry}
    (h : (keys.zipIdx n).foldlM (addKey tags by_ row existing) current = some current')
    (hinj : Function.Injective row) (hrow : ∀ j, tags.get (row j) = none)
    (hdraws : ∀ key j, (key, j) ∈ keys.zipIdx n → Undefined tags key → row j ∈ U)
    (hnodup : (keys.filterMap hashed).Nodup) (hknown : Known existing keys current)
    (hnew : ∀ j, n ≤ j → row j ∉ current.map Entry.id) (hk : Kept U tags current) :
    Kept U tags current' ∧ ∀ id ∈ current'.map Entry.id, Comes tags row current id := by
  induction keys generalizing n current with
  | nil =>
    obtain rfl := Option.some.inj h
    exact ⟨hk, fun id hid => .inl hid⟩
  | cons key keys ih =>
    rw [List.zipIdx_cons, List.foldlM_cons, Option.bind_eq_bind, Option.bind_eq_some_iff] at h
    obtain ⟨middle, hstep, hrest⟩ := h
    have hdraws' : ∀ key' j, (key', j) ∈ keys.zipIdx (n + 1) → Undefined tags key' → row j ∈ U :=
      fun key' j hmem => hdraws key' j (List.zipIdx_cons ▸ List.mem_cons_of_mem _ hmem)
    simp only [addKey, Option.bind_eq_bind, Option.bind_eq_some_iff] at hstep
    obtain ⟨hash, hkey, hstep⟩ := hstep
    have hnodup' : (keys.filterMap hashed).Nodup := by
      rw [List.filterMap_cons_some hkey] at hnodup
      exact hnodup.of_cons
    split at hstep
    · -- an entry has the key already
      obtain rfl := Option.some.inj hstep
      exact ih hrest hdraws' hnodup' hknown.tail (fun j hj => hnew j (by omega)) hk
    · rename_i hexisting
      obtain ⟨found, hfound, hstep⟩ := Option.bind_eq_some_iff.1 hstep
      cases found with
      | some p =>
        obtain ⟨id, tag⟩ := p
        obtain rfl := Option.some.inj hstep
        obtain ⟨hget, htag⟩ := get_of_tagByKey hfound
        have hid : id ∉ current.map Entry.id := by
          intro hmem
          obtain ⟨entry, he, rfl⟩ := List.mem_map.1 hmem
          obtain ⟨hash', hhash', hor⟩ := hknown entry he
          have hsame : hashed entry.key = some hash := by
            rcases hk.each entry he with ⟨tag', hget', hsame, _⟩ | ⟨_, hnone, _⟩
            · rw [hget] at hget'
              obtain rfl := Option.some.inj hget'
              rw [hsame.hashed_eq, htag]
            · rw [hnone] at hget
              cases hget
          obtain rfl : hash' = hash := Option.some.inj (hhash'.symm.trans hsame)
          rcases hor with hor | hor
          · exact hexisting hor
          · rw [List.filterMap_cons_some hkey] at hor
            exact hor List.mem_cons_self
        have hkept : Kept U tags (current ++ [assignment id key tag.value by_]) :=
          hk.concat (.inl (assignment_defined hget (.inr ⟨hash, hkey, htag⟩))) hid
        obtain ⟨hlast, hcomes⟩ := ih hrest hdraws' hnodup' (hknown.concat hkey hnodup id tag.value)
          (fun j hj hmem => by
            rw [List.map_append, List.mem_append] at hmem
            rcases hmem with hmem | hmem
            · exact hnew j (by omega) hmem
            · have hrowj : row j = id := List.mem_singleton.1 hmem
              have hnone := hrow j
              rw [hrowj, hget] at hnone
              cases hnone) hkept
        exact ⟨hlast, fun id' hid' => (hcomes id' hid').trans
          (Comes.of_concat (.inl (Option.isSome_iff_exists.2 ⟨tag, hget⟩)))⟩
      | none =>
        obtain rfl := Option.some.inj hstep
        have hU : row n ∈ U := hdraws key n (List.zipIdx_cons ▸ List.mem_cons_self)
          (undefined_of_tagByKey hkey hfound)
        have hkept : Kept U tags (current ++ [assignment (row n) key key by_]) :=
          hk.concat (.inr ⟨hU, hrow n, rfl⟩) (hnew n le_rfl)
        obtain ⟨hlast, hcomes⟩ := ih hrest hdraws' hnodup' (hknown.concat hkey hnodup (row n) key)
          (fun j hj hmem => by
            rw [List.map_append, List.mem_append] at hmem
            rcases hmem with hmem | hmem
            · exact hnew j (by omega) hmem
            · have hrowj : row j = row n := List.mem_singleton.1 hmem
              have := hinj hrowj
              omega) hkept
        exact ⟨hlast, fun id' hid' => (hcomes id' hid').trans (Comes.of_concat (.inr ⟨n, rfl⟩))⟩

/-- A body that names no key twice keeps the entries of an agent. -/
lemma managed_keeps {data : Json} {current current' : List Entry}
    (h : managed tags by_ row data current = some current')
    (hinj : Function.Injective row) (hrow : ∀ j, tags.get (row j) = none)
    (hdraws : ∀ key j, (key, j) ∈ (addedKeys data).zipIdx → Undefined tags key → row j ∈ U)
    (hnodup : ((addedKeys data).filterMap hashed).Nodup)
    (hnew : ∀ j, row j ∉ current.map Entry.id) (hk : Kept U tags current) :
    Kept U tags current' ∧ ∀ id ∈ current'.map Entry.id, Comes tags row current id := by
  cases data with
  | list ops => exact operations_keep h hk
  | dict data =>
    simp only [managed, applyKeys, Option.bind_eq_bind, Option.bind_eq_some_iff] at h
    obtain ⟨keys, hkeys, _, _, removed, _, h⟩ := h
    simp only [addedKeys, hkeys, Option.getD_some] at hdraws hnodup
    split at h
    · rename_i hall
      have hpart : (current.filter fun entry => hashed entry.key ∉ removed.map some).Sublist
        current := List.filter_sublist
      have hknown : Known
          ((current.filter fun entry => hashed entry.key ∉ removed.map some).filterMap
            fun entry => hashed entry.key) keys
          (current.filter fun entry => hashed entry.key ∉ removed.map some) := by
        intro entry he
        obtain ⟨hash, hhash⟩ := Option.isSome_iff_exists.1
          (List.all_eq_true.1 hall entry (hpart.subset he))
        exact ⟨hash, hhash, .inl (List.mem_filterMap.2 ⟨entry, he, hhash⟩)⟩
      obtain ⟨hlast, hcomes⟩ := addKeys_keep h hinj hrow hdraws hnodup hknown
        (fun j _ hmem => hnew j ((hpart.map _).subset hmem)) (hk.sublist hpart)
      exact ⟨hlast, fun id hid => (hcomes id hid).trans
        fun id' hid' => .inl ((hpart.map _).subset hid')⟩
    · cases h
  | _ => cases h

/-! ## Every agent's entries -/

/-- The loop over the agents keeps the entries: the ids that are drawn for the agents to come are
    carried by none. -/
lemma manageEach_lawful {drawn : Nat → Nat → String} {data : Json} {ps : List (String × Nat)}
    {s : Store δ} (hinj : Function.Injective (Function.uncurry drawn))
    (hrow : ∀ i j, s.tags.get (drawn i j) = none)
    (hdraws : ∀ key i j, (key, j) ∈ (addedKeys data).zipIdx → Undefined s.tags key → drawn i j ∈ U)
    (hnodup : ((addedKeys data).filterMap hashed).Nodup) (hplaces : (ps.map Prod.snd).Nodup)
    (hnew : ∀ p ∈ ps, ∀ j, ¬Carried s (drawn p.2 j)) (hs : Lawful U s) :
    Lawful U (manageEach by_ drawn data ps s) := by
  induction ps generalizing s with
  | nil => exact hs
  | cons p ps ih =>
    obtain ⟨id, i⟩ := p
    rw [List.map_cons, List.nodup_cons] at hplaces
    unfold manageEach
    cases hagent : s.agents.get id with
    | none =>
      simp only
      exact ih hrow hdraws hplaces.2 (fun p hp => hnew p (List.mem_cons_of_mem _ hp)) hs
    | some agent =>
      cases hmanaged : managed s.tags by_ (drawn i) data agent.sentinelone with
      | none =>
        simp only [hmanaged]
        exact hs
      | some current =>
        simp only [hmanaged]
        have hrowinj : Function.Injective (drawn i) := by
          intro j j' hj
          have hpair := @hinj (i, j) (i, j') hj
          exact (Prod.mk.inj hpair).2
        obtain ⟨hkept, hcomes⟩ := managed_keeps hmanaged hrowinj (hrow i)
          (fun key j => hdraws key i j) hnodup
          (fun j hmem => hnew (id, i) List.mem_cons_self j ⟨id, agent, hagent, hmem⟩)
          (hs id agent hagent)
        refine ih hrow hdraws hplaces.2 ?_ ?_
        · rintro p hp j ⟨agentId, agent', hget, hmem⟩
          have hold := hnew p (List.mem_cons_of_mem _ hp) j
          rw [Dict.get_set] at hget
          split_ifs at hget with hsame
          · obtain rfl := Option.some.inj hget
            rcases hcomes _ hmem with hthere | hdef | ⟨j', hj'⟩
            · exact hold ⟨id, agent, hagent, hthere⟩
            · rw [hrow] at hdef
              cases hdef
            · have hpair := @hinj (p.2, j) (i, j') hj'
              have hplace : p.2 = i := (Prod.mk.inj hpair).1
              have hagain : p.2 ∈ ps.map Prod.snd := List.mem_map_of_mem hp
              exact hplaces.1 (hplace ▸ hagain)
          · exact hold ⟨agentId, agent', hget, hmem⟩
        · intro agentId agent' hget
          simp only [Dict.get_set] at hget
          split_ifs at hget with hsame
          · obtain rfl := Option.some.inj hget
            exact hkept
          · exact hs agentId agent' hget

lemma nodup_places (ids : List String) : (ids.zipIdx.map Prod.snd).Nodup := by
  rw [List.zipIdx_map_snd]
  exact List.nodup_range'

/-- A request keeps the entries of every agent. -/
lemma step_lawful {s : Store δ} {a : Action} (hfresh : Fresh s a) (hnodup : NoRepeats a)
    (hdraws : DrawsIn U s a) (h : Lawful U s) : Lawful U (step py s a) := by
  cases a with
  | createTag id by_ data filter => exact createTag_lawful py hfresh.1 hfresh.2 h
  | updateTag id by_ data => exact updateTag_lawful h
  | deleteTag id => exact deleteTag_lawful h
  | deleteTags filter => exact deleteTags_lawful py h
  | manageTags ids by_ drawn data =>
    obtain ⟨hinj, hnew⟩ := hfresh
    have hadded : addedKeys (if data.truthy then data else .dict []) = addedKeys data
        ∨ addedKeys (if data.truthy then data else .dict []) = [] := by
      by_cases htrue : data.truthy = true
      · rw [if_pos htrue]
        exact .inl rfl
      · rw [if_neg htrue]
        exact .inr rfl
    refine manageEach_lawful hinj (fun i j => (hnew i j).1) ?_ ?_ (nodup_places ids)
      (fun p _ j => (hnew p.2 j).2) h
    · intro key i j hmem
      rcases hadded with heq | heq <;> rw [heq] at hmem
      · exact hdraws key i j hmem
      · cases hmem
    · rcases hadded with heq | heq <;> rw [heq]
      · exact hnodup
      · exact List.nodup_nil

/-! ## Along a run -/

/-- Along every run from a state where each entry of each agent is a definition's or ad hoc, with
    ids that are new and no key twice in `tagsToAdd`, each entry has the id of a definition, its
    key and its value, or is ad hoc under an id that was drawn for a key without a definition; and
    no agent carries one id twice. -/
theorem assignments_follow (U : Set String) {s : Store δ} {as : List Action}
    (hrun : Along (step py) (fun s a => Fresh s a ∧ NoRepeats a ∧ DrawsIn U s a) s as)
    (hs : Lawful U s) : ∀ pre, pre <+: as → Lawful U (runFrom (step py) s pre) := by
  rintro pre ⟨rest, rfl⟩
  refine Along.invariant ?_ (Along.append_iff.1 hrun).1 hs
  rintro s a ⟨hfresh, hnodup, hdraws⟩ h
  exact step_lawful py hfresh hnodup hdraws h

/-- The built-ins on ASCII text, with every filter global. -/
def globalTagPython : TagPython where
  toPython := asciiPython
  resolveScope _ := ("", "global", "Global")

/-- A tag and an agent without any. -/
def oneTag : Store Unit :=
  ⟨Dict.empty.set "t"
    ⟨.str "k", .str "v", .str "agents", .str "", "", "global", "Global", "", "", "", "", "", ""⟩,
    Dict.empty.set "a" ⟨[], ()⟩⟩

/-- Ids that differ in their length. -/
def drawnIds (i j : Nat) : String := String.ofList (List.replicate (Nat.pair i j) 'x')

lemma drawnIds_injective : Function.Injective (Function.uncurry drawnIds) := by
  rintro ⟨i, j⟩ ⟨i', j'⟩ h
  have hlists := String.ofList_injective h
  have hlength := congrArg List.length hlists
  rw [List.length_replicate, List.length_replicate, Nat.pair_eq_pair] at hlength
  exact Prod.ext hlength.1 hlength.2

lemma drawnIds_ne_t (i j : Nat) : drawnIds i j ≠ "t" := by
  intro h
  have hmem : 't' ∈ (drawnIds i j).toList := by
    rw [h]
    decide
  rw [drawnIds, String.toList_ofList] at hmem
  exact absurd (List.eq_of_mem_replicate hmem) (by decide)

lemma fresh_oneTag (ids : List String) (by_ : Actor) (data : Json) :
    Fresh oneTag (.manageTags ids by_ drawnIds data) := by
  refine ⟨drawnIds_injective, fun i j => ⟨?_, ?_⟩⟩
  · rw [oneTag, Dict.get_set_ne _ _ (drawnIds_ne_t i j), Dict.get_empty]
  · rintro ⟨agentId, agent, hget, hmem⟩
    rw [oneTag, Dict.get_set] at hget
    split_ifs at hget
    · obtain rfl := Option.some.inj hget
      cases hmem
    · cases hget

lemma lawful_oneTag : Lawful ∅ oneTag := by
  intro agentId agent hget
  rw [oneTag, Dict.get_set] at hget
  split_ifs at hget
  · obtain rfl := Option.some.inj hget
    exact ⟨by simp, List.nodup_nil⟩
  · cases hget

/-- An agent is tagged under the key of a definition, which is renamed and deleted then. -/
def tagRenameDelete : List Action :=
  [.manageTags ["a"] ⟨"", "", ""⟩ drawnIds (.dict [("tagsToAdd", .list [.str "k"])]),
    .updateTag "t" ⟨"", "", ""⟩ [("key", .str "j")], .deleteTag "t"]

/-- The agent has no entry then. -/
theorem assignments_follow_tagged :
    Lawful ∅ (runFrom (step globalTagPython) oneTag tagRenameDelete) := by
  have hrun : Along (step globalTagPython) (fun s a => Fresh s a ∧ NoRepeats a ∧ DrawsIn ∅ s a)
      oneTag tagRenameDelete := by
    refine ⟨⟨fresh_oneTag _ _ _, List.nodup_singleton (Hash.text "k"), ?_⟩,
      ⟨trivial, trivial, trivial⟩, ⟨trivial, trivial, trivial⟩, trivial⟩
    intro key i j hmem hundefined
    obtain ⟨rfl, rfl⟩ := Prod.mk.inj (List.mem_singleton.1 hmem)
    exact absurd (.inl rfl) (hundefined "t" _ (Dict.get_set_self _ _ _))
  exact assignments_follow globalTagPython ∅ hrun lawful_oneTag _ (List.prefix_refl _)

/-- The key of no definition is added, and the agent has an entry with the id of none. -/
theorem assignments_follow_adHoc :
    Lawful ∅ oneTag
      ∧ Fresh oneTag (.manageTags ["a"] ⟨"", "", ""⟩ drawnIds
        (.dict [("tagsToAdd", .list [.str "z"])]))
      ∧ NoRepeats (.manageTags ["a"] ⟨"", "", ""⟩ drawnIds
        (.dict [("tagsToAdd", .list [.str "z"])]))
      ∧ ¬Lawful ∅ (step globalTagPython oneTag (.manageTags ["a"] ⟨"", "", ""⟩ drawnIds
        (.dict [("tagsToAdd", .list [.str "z"])]))) := by
  refine ⟨lawful_oneTag, fresh_oneTag _ _ _, List.nodup_singleton (Hash.text "z"), ?_⟩
  intro h
  have hkept := h "a" ⟨[⟨"", .str "z", .str "z", "", "user", ""⟩], ()⟩ rfl
  rcases hkept.each _ List.mem_cons_self with ⟨tag, hget, _⟩ | ⟨hU, _⟩
  · cases hget
  · exact hU

end Tags

end Mockdr
