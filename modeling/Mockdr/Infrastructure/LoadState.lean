import Mockdr.Dev.Loaded

/-!
# Loading the persisted state

`load_if_exists`, `_quarantine` and what a save writes (`infrastructure/persistence.py`). The store
is loaded once, when the process starts, and is still empty then.

* `loadIfExists` answers whether the state was loaded, or raises (`none`).
* `LosesNothing`: the state is in the store, or the file is kept where no save writes.
* `loses_nothing_iff`: for which contents that holds.

How JSON is read is a parameter (`FilePython`).
-/

namespace Mockdr

namespace Persistence

open Dev

/-- What is raised on the way: an exception that `load_if_exists` catches, or one that
    it does not. -/
inductive Fault where
  | caught
  | escapes
  deriving DecidableEq

/-- The built-ins that a state file is read with. -/
structure FilePython extends DevPython where
  /-- `json.load` of a file opened as text. A text that cannot be decoded or parsed raises a
      `ValueError`, which is caught; one nested too deeply a `RecursionError`, which is not. -/
  jsonLoad : List UInt8 → Except Fault Json

/-- What the file system lets the process do: open the state file, and rename it. -/
structure FileSystem where
  opens : Bool
  renames : Bool

/-- The state file and the one beside it with the suffix `.corrupt`. -/
structure Disk where
  state : Option (List UInt8)
  corrupt : Option (List UInt8)

/-- The names of the two. -/
inductive FileName where
  | state
  | corrupt

/-- The file under a name. -/
def Disk.file (disk : Disk) : FileName → Option (List UInt8)
  | .state => disk.state
  | .corrupt => disk.corrupt

/-- `_do_save`: the state file is replaced. -/
def Disk.save (disk : Disk) (snapshot : List UInt8) : Disk := { disk with state := some snapshot }

/-- `_quarantine` -/
def quarantine (fs : FileSystem) (disk : Disk) : Disk :=
  if fs.renames then ⟨none, disk.state⟩ else disk

/-- The store of a process that starts. -/
def fresh (proxy : ProxyConfig) : Store := ⟨fun _ => .empty, [], proxy⟩

/-- What `load_if_exists` leaves, and what it answers; nothing where it raises. -/
structure Started where
  disk : Disk
  store : Store
  answer : Option Bool

/-- The answer after an exception. -/
def Fault.answer : Fault → Option Bool
  | .caught => some false
  | .escapes => none

variable (py : FilePython) (classes : Classes) (egress : Egress) (fs : FileSystem)

/-- The object in the state file. What `open` raises is an `OSError`, and a `ValueError` is raised
    for what is no object. -/
def readSnapshot (content : List UInt8) : Except Fault Object :=
  if fs.opens then
    match py.jsonLoad content with
    | .ok (.dict o) => .ok o
    | .ok _ => .error .caught
    | .error fault => .error fault
  else .error .caught

/-- A raw collection has a record whose id cannot be hashed. -/
def unhashable (snapshot : Snapshot) : Bool :=
  RAW_COLLECTIONS.any fun collection =>
    match snapshot.others collection with
    | some (.json (.list records)) => records.any fun
      | .dict record =>
        (rawId collection record).truthy && (hashKey (rawId collection record)).isNone
      | _ => false
    | _ => false

/-- What an import raises that was not refused and does not go through: a `TypeError` for an id that
    cannot be hashed or for times that cannot be compared, a `KeyError` for an activity without an
    id. -/
def importFault (snapshot : Snapshot) : Fault :=
  if unhashable snapshot then .caught
  else if (sortedDescending createdAt snapshot.activities).isNone then .caught
  else .escapes

/-- `load_if_exists` -/
def loadIfExists (proxy : ProxyConfig) (disk : Disk) : Started :=
  match disk.state with
  | none => ⟨disk, fresh proxy, some false⟩
  | some content =>
    match readSnapshot py fs content with
    | .error fault => ⟨disk, fresh proxy, fault.answer⟩
    | .ok o =>
      match importState py.toDevPython classes egress (fresh proxy) (.ofJson o) with
      | (s, .error (.refused _)) => ⟨disk, s, some false⟩
      | (s, .error .uncaught) => ⟨disk, s, (importFault (.ofJson o)).answer⟩
      | (s, .ok (imported, skipped, _)) =>
        if skipped ≠ 0 ∨ imported = 0 then ⟨quarantine fs disk, s, some false⟩
        else ⟨disk, s, some true⟩

/-- Every record of a snapshot is in the store. -/
def Loaded (s : Store) (snapshot : Snapshot) : Prop :=
  ∀ name, ∀ record ∈ recordsIn py.toDevPython classes snapshot name,
    ∃ p, record = some p ∧ (s.collections name).get p.1 = some p.2

/-- A content is under a name that no later save writes. -/
def KeptOnDisk (content : List UInt8) (disk : Disk) : Prop :=
  ∃ name, ∀ snapshots : List (List UInt8), (snapshots.foldl Disk.save disk).file name = some content

/-- The state is loaded, or the content of its file is kept; nothing is raised. `beside` is the file
    with the suffix `.corrupt`, if there is one from before. -/
def LosesNothing (proxy : ProxyConfig) (content : List UInt8) (beside : Option (List UInt8)) :
    Prop :=
  let started := loadIfExists py classes egress fs proxy ⟨some content, beside⟩
  (started.answer = some true
      ∧ ∃ o, py.jsonLoad content = .ok (.dict o) ∧ Loaded py classes started.store (.ofJson o))
    ∨ (started.answer = some false ∧ KeptOnDisk content started.disk)

/-! ## The contents of which nothing is lost -/

/-- A snapshot that an import takes to its end. -/
def Usable (snapshot : Snapshot) : Prop := refusal snapshot = none ∧ Loads snapshot

/-- Every record of a typed collection can be read, and there is something to load. -/
def Whole (snapshot : Snapshot) : Prop :=
  (∀ c ∈ typedNames, ∀ record ∈ recordsIn py.toDevPython classes snapshot c, record.isSome)
    ∧ ∃ c ∈ registered, ∃ record ∈ recordsIn py.toDevPython classes snapshot c, record.isSome

/-- Every record can be filed under a collection of the store, no two different ones under one key,
    and no collection has more than it holds. -/
def Lossless (snapshot : Snapshot) : Prop :=
  ∀ name, (∀ record ∈ recordsIn py.toDevPython classes snapshot name, record.isSome)
    ∧ Agree (filed py.toDevPython classes snapshot name)
    ∧ Fitting name (filed py.toDevPython classes snapshot name)

/-- The content raises something that is not caught. -/
def Escapes (content : List UInt8) : Prop :=
  readSnapshot py fs content = .error .escapes
    ∨ ∃ o, readSnapshot py fs content = .ok o ∧ refusal (.ofJson o) = none ∧ ¬ Loads (.ofJson o)
      ∧ importFault (.ofJson o) = .escapes

/-- When nothing is lost: the content is a snapshot that is usable and whole and is loaded without
    loss, or that is usable and not whole and can be put aside, or it was put aside before. -/
def Secured (content : List UInt8) (beside : Option (List UInt8)) : Prop :=
  (∃ o, readSnapshot py fs content = .ok o ∧ Usable (.ofJson o) ∧ Whole py classes (.ofJson o)
      ∧ Lossless py classes (.ofJson o))
    ∨ (∃ o, readSnapshot py fs content = .ok o ∧ Usable (.ofJson o) ∧ ¬ Whole py classes (.ofJson o)
      ∧ fs.renames)
    ∨ (beside = some content ∧ ¬ Escapes py fs content
      ∧ ∀ o, readSnapshot py fs content = .ok o → Usable (.ofJson o) →
        ¬ Whole py classes (.ofJson o))

variable {py classes egress fs}

/-! ## What is kept -/

lemma keptOnDisk_iff {content : List UInt8} {disk : Disk} :
    KeptOnDisk content disk ↔ disk.corrupt = some content := by
  have hcorrupt : ∀ (snapshots : List (List UInt8)) (disk : Disk),
      (snapshots.foldl Disk.save disk).corrupt = disk.corrupt := by
    intro snapshots
    induction snapshots with
    | nil => exact fun _ => rfl
    | cons snapshot snapshots ih => exact fun disk => ih (disk.save snapshot)
  constructor
  · rintro ⟨name, h⟩
    cases name with
    | state =>
      have hsaved := Option.some.inj (h [content ++ [0]])
      exact absurd (congrArg List.length hsaved) (by simp)
    | corrupt => exact h []
  · intro h
    exact ⟨.corrupt, fun snapshots => (hcorrupt snapshots disk).trans h⟩

lemma keptOnDisk_quarantine_iff {content : List UInt8} {beside : Option (List UInt8)} :
    KeptOnDisk content (quarantine fs ⟨some content, beside⟩)
      ↔ fs.renames = true ∨ beside = some content := by
  rw [keptOnDisk_iff, quarantine]
  cases fs.renames with
  | true => exact iff_of_true rfl (.inl rfl)
  | false => exact (or_iff_right Bool.false_ne_true).symm

lemma putBack_fresh (proxy : ProxyConfig) (s : Store) : putBack (fresh proxy) s = s :=
  List.foldl_fixed PRESERVED_ACROSS_IMPORT

lemma mem_filed_iff {snapshot : Snapshot} {name : String} {p : Key × Stored} :
    p ∈ filed py.toDevPython classes snapshot name
      ↔ some p ∈ recordsIn py.toDevPython classes snapshot name :=
  List.reduceOption_mem_iff

lemma loaded_iff {snapshot : Snapshot} {s : Store} {l : Loading}
    (h : loadSnapshot py.toDevPython classes egress s snapshot = .ok l) :
    Loaded py classes l.store snapshot ↔ Lossless py classes snapshot := by
  obtain ⟨hcollections, -⟩ := loadSnapshot_loaded h
  refine forall_congr' fun name => ?_
  rw [hcollections name, ← found_iff]
  constructor
  · intro hloaded
    refine ⟨?_, ?_⟩
    · intro record hrecord
      obtain ⟨p, rfl, -⟩ := hloaded record hrecord
      rfl
    · intro p hp
      obtain ⟨q, hq, hfound⟩ := hloaded (some p) (mem_filed_iff.1 hp)
      cases hq
      exact hfound
  · rintro ⟨hsome, hfound⟩ record hrecord
    obtain ⟨p, rfl⟩ := Option.isSome_iff_exists.1 (hsome record hrecord)
    exact ⟨p, rfl, hfound p (mem_filed_iff.2 hrecord)⟩

/-- The counts of a load say whether its snapshot is whole. -/
lemma whole_iff {snapshot : Snapshot} {s : Store} {l : Loading}
    (h : loadSnapshot py.toDevPython classes egress s snapshot = .ok l) :
    Whole py classes snapshot ↔ ¬ (l.skipped ≠ 0 ∨ l.total = 0) := by
  obtain ⟨-, htotal, hskipped⟩ := loadSnapshot_loaded h
  rw [not_or, not_not, hskipped, htotal, List.sum_eq_zero_iff_forall_eq_nat,
    List.sum_eq_zero_iff_forall_eq_nat, Whole]
  refine and_congr ?_ ?_
  · rw [List.forall_mem_map]
    constructor
    · intro hall c hc
      rw [skips]
      split
      · next htyped =>
        rw [List.countP_eq_zero]
        intro record hrecord
        rw [Option.isNone_iff_eq_none]
        rintro rfl
        cases hall c htyped none hrecord
      · rfl
    · intro hall c hc record hrecord
      have hregistered : c ∈ registered := List.mem_append_left _
        (List.mem_append_left _ (List.mem_append_left _ hc))
      have hnone := hall c hregistered
      rw [skips, if_pos hc, List.countP_eq_zero] at hnone
      rw [Option.isSome_iff_ne_none]
      rintro rfl
      exact hnone none hrecord rfl
  · rw [List.forall_mem_map]
    push Not
    refine exists_congr fun c => and_congr_right fun hc => ?_
    constructor
    · rintro ⟨record, hrecord, hsome⟩
      obtain ⟨p, rfl⟩ := Option.isSome_iff_exists.1 hsome
      exact (List.length_pos_of_mem (mem_filed_iff.2 hrecord)).ne'
    · intro hne
      obtain ⟨p, hp⟩ := List.exists_mem_of_length_pos (Nat.pos_of_ne_zero hne)
      exact ⟨some p, mem_filed_iff.1 hp, rfl⟩

/-! ## The contents of which nothing is lost -/

lemma losesNothing_of_answer_false {proxy : ProxyConfig} {content : List UInt8}
    {beside : Option (List UInt8)} {s : Store}
    (h : loadIfExists py classes egress fs proxy ⟨some content, beside⟩
      = ⟨⟨some content, beside⟩, s, some false⟩) :
    LosesNothing py classes egress fs proxy content beside ↔ beside = some content := by
  rw [LosesNothing, h]
  refine (or_iff_right ?_).trans ((and_iff_right rfl).trans keptOnDisk_iff)
  rintro ⟨⟨⟩, -⟩

lemma losesNothing_of_raises {proxy : ProxyConfig} {content : List UInt8}
    {beside : Option (List UInt8)} {disk : Disk} {s : Store}
    (h : loadIfExists py classes egress fs proxy ⟨some content, beside⟩ = ⟨disk, s, none⟩) :
    ¬ LosesNothing py classes egress fs proxy content beside := by
  rw [LosesNothing, h]
  rintro (⟨⟨⟩, -⟩ | ⟨⟨⟩, -⟩)

lemma secured_of_unusable {content : List UInt8} {beside : Option (List UInt8)}
    (h : ∀ o, readSnapshot py fs content = .ok o → ¬ Usable (.ofJson o)) :
    Secured py classes fs content beside ↔ beside = some content ∧ ¬ Escapes py fs content := by
  constructor
  · rintro (⟨o, hread, husable, -⟩ | ⟨o, hread, husable, -⟩ | ⟨hbeside, hescapes, -⟩)
    · exact absurd husable (h o hread)
    · exact absurd husable (h o hread)
    · exact ⟨hbeside, hescapes⟩
  · rintro ⟨hbeside, hescapes⟩
    exact .inr (.inr ⟨hbeside, hescapes, fun o hread husable => absurd husable (h o hread)⟩)

lemma jsonLoad_of_readSnapshot {content : List UInt8} {o : Object}
    (h : readSnapshot py fs content = .ok o) : py.jsonLoad content = .ok (.dict o) := by
  rw [readSnapshot] at h
  split at h
  · split at h
    · next o' ho' =>
      cases h
      exact ho'
    · cases h
    · cases h
  · cases h

/-- A usable content is loaded, or put aside where it is not whole. -/
lemma losesNothing_of_usable {proxy : ProxyConfig} {content : List UInt8}
    {beside : Option (List UInt8)} {o : Object} (hread : readSnapshot py fs content = .ok o)
    (husable : Usable (.ofJson o)) :
    LosesNothing py classes egress fs proxy content beside
      ↔ Secured py classes fs content beside := by
  obtain ⟨hrefusal, hloads⟩ := husable
  obtain ⟨l, hl⟩ : ∃ l, loadSnapshot py.toDevPython classes egress (fresh proxy) (.ofJson o)
      = .ok l :=
    (loadSnapshot_ok_iff _ _).2 hloads
  have himport : importState py.toDevPython classes egress (fresh proxy) (.ofJson o)
      = (l.store, .ok (l.total, l.skipped, l.migrated)) := by
    rw [importState, hrefusal]
    simp only [hl, putBack_fresh]
  have hescapes : ¬ Escapes py fs content := by
    rintro (hraised | ⟨o', ho', -, hnot, -⟩)
    · rw [hread] at hraised
      cases hraised
    · rw [hread] at ho'
      cases ho'
      exact hnot hloads
  have hstarted : loadIfExists py classes egress fs proxy ⟨some content, beside⟩
      = if l.skipped ≠ 0 ∨ l.total = 0
        then ⟨quarantine fs ⟨some content, beside⟩, l.store, some false⟩
        else ⟨⟨some content, beside⟩, l.store, some true⟩ := by
    rw [loadIfExists]
    simp only [hread, himport]
  rw [LosesNothing, hstarted, Secured]
  by_cases hwhole : Whole py classes (.ofJson o)
  · rw [if_neg ((whole_iff hl).1 hwhole)]
    constructor
    · rintro (⟨-, o', ho', hloaded⟩ | ⟨⟨⟩, -⟩)
      rw [jsonLoad_of_readSnapshot hread] at ho'
      cases ho'
      exact .inl ⟨o, hread, ⟨hrefusal, hloads⟩, hwhole, (loaded_iff hl).1 hloaded⟩
    · rintro (⟨o', ho', -, -, hlossless⟩ | ⟨o', ho', -, hnot, -⟩ | ⟨-, -, hnot⟩)
      · rw [hread] at ho'
        cases ho'
        exact .inl ⟨rfl, o, jsonLoad_of_readSnapshot hread, (loaded_iff hl).2 hlossless⟩
      · rw [hread] at ho'
        cases ho'
        exact absurd hwhole hnot
      · exact absurd hwhole (hnot o hread ⟨hrefusal, hloads⟩)
  · rw [if_pos (not_not.1 fun h => hwhole ((whole_iff hl).2 h))]
    constructor
    · rintro (⟨⟨⟩, -⟩ | ⟨-, hkept⟩)
      rcases keptOnDisk_quarantine_iff.1 hkept with hrenames | hbeside
      · exact .inr (.inl ⟨o, hread, ⟨hrefusal, hloads⟩, hwhole, hrenames⟩)
      · refine .inr (.inr ⟨hbeside, hescapes, ?_⟩)
        intro o' ho' _
        rw [hread] at ho'
        cases ho'
        exact hwhole
    · rintro (⟨o', ho', -, hwhole', -⟩ | ⟨-, -, -, -, hrenames⟩ | ⟨hbeside, -, -⟩)
      · rw [hread] at ho'
        cases ho'
        exact absurd hwhole' hwhole
      · exact .inr ⟨rfl, keptOnDisk_quarantine_iff.2 (.inl hrenames)⟩
      · exact .inr ⟨rfl, keptOnDisk_quarantine_iff.2 (.inr hbeside)⟩

/-- For which contents of the state file nothing is lost. -/
theorem loses_nothing_iff (proxy : ProxyConfig) (content : List UInt8)
    (beside : Option (List UInt8)) :
    LosesNothing py classes egress fs proxy content beside
      ↔ Secured py classes fs content beside := by
  cases hread : readSnapshot py fs content with
  | error fault =>
    have hstarted : loadIfExists py classes egress fs proxy ⟨some content, beside⟩
        = ⟨⟨some content, beside⟩, fresh proxy, fault.answer⟩ := by
      rw [loadIfExists]
      simp only [hread]
    have hunusable : ∀ o, readSnapshot py fs content = .ok o → ¬ Usable (.ofJson o) := by
      intro o ho
      rw [hread] at ho
      cases ho
    rw [secured_of_unusable hunusable]
    cases fault with
    | caught =>
      rw [losesNothing_of_answer_false hstarted, iff_self_and]
      rintro - (hraised | ⟨o, ho, -⟩)
      · rw [hread] at hraised
        cases hraised
      · rw [hread] at ho
        cases ho
    | escapes =>
      exact iff_of_false (losesNothing_of_raises hstarted) fun h => h.2 (.inl hread)
  | ok o =>
    by_cases husable : Usable (.ofJson o)
    · exact losesNothing_of_usable hread husable
    · have hunusable : ∀ o, readSnapshot py fs content = .ok o → ¬ Usable (.ofJson o) := by
        intro o' ho
        rw [hread] at ho
        cases ho
        exact husable
      rw [secured_of_unusable hunusable]
      cases hrefusal : refusal (.ofJson o) with
      | some message =>
        have hstarted : loadIfExists py classes egress fs proxy ⟨some content, beside⟩
            = ⟨⟨some content, beside⟩, fresh proxy, some false⟩ := by
          rw [loadIfExists]
          simp only [hread, importState, hrefusal]
        rw [losesNothing_of_answer_false hstarted, iff_self_and]
        rintro - (hraised | ⟨o', ho, hnone, -⟩)
        · rw [hread] at hraised
          cases hraised
        · rw [hread] at ho
          cases ho
          rw [hrefusal] at hnone
          cases hnone
      | none =>
        have hloads : ¬ Loads (.ofJson o) := fun h => husable ⟨hrefusal, h⟩
        have hraises : ¬ ∃ l, loadSnapshot py.toDevPython classes egress (fresh proxy) (.ofJson o)
            = .ok l := fun h => hloads ((loadSnapshot_ok_iff _ _).1 h)
        obtain ⟨s, hs⟩ : ∃ s, loadIfExists py classes egress fs proxy ⟨some content, beside⟩
            = ⟨⟨some content, beside⟩, s, (importFault (.ofJson o)).answer⟩ := by
          cases hload : loadSnapshot py.toDevPython classes egress (fresh proxy) (.ofJson o) with
          | ok l => exact absurd ⟨l, hload⟩ hraises
          | error left =>
            refine ⟨left, ?_⟩
            rw [loadIfExists]
            simp only [hread, importState, hrefusal, hload]
        cases hfault : importFault (.ofJson o) with
        | caught =>
          rw [hfault] at hs
          rw [losesNothing_of_answer_false hs, iff_self_and]
          rintro - (hraised | ⟨o', ho, -, -, hescapes⟩)
          · rw [hread] at hraised
            cases hraised
          · rw [hread] at ho
            cases ho
            rw [hfault] at hescapes
            cases hescapes
        | escapes =>
          rw [hfault] at hs
          exact iff_of_false (losesNothing_of_raises hs)
            fun h => h.2 (.inr ⟨o, hread, hrefusal, hloads, hfault⟩)

/-- The built-ins on a text that is no JSON. -/
def unreadable : FilePython where
  toDevPython := asciiDevPython
  jsonLoad _ := .error .caught

/-- A state file that is empty is left where the first save writes. -/
theorem empty_file_overwritten :
    ¬ LosesNothing unreadable keyClasses ⟨false, fun _ => true⟩ ⟨true, true⟩ .off [] none := by
  rintro (⟨hanswer, -⟩ | ⟨-, hkept⟩)
  · cases hanswer
  · cases keptOnDisk_iff.1 hkept

end Persistence

end Mockdr
