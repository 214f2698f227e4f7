import Mathlib.Algebra.Order.Ring.Rat
import Mockdr.Lib.Run

/-!
# Saving the store

`PersistenceManager` of `infrastructure/persistence.py`: one background thread saves the store once
it is quiet, and `flush` saves it at once; a save takes its snapshot under the lock of the store and
writes the file under a lock of its own.

* `State`, `Action`, `step`: the threads, one lock-protected section after the other. The store is
  told by how many mutations it has seen, a snapshot by how many of them it includes.
* `Forward`, `Flushed`: what the file holds, at every moment.
* `InOrder`: no saver writes while another one holds an older snapshot; `saved_of_inOrder`: the file
  then never goes back.
-/

namespace Mockdr

namespace Persistence

/-- Who saves: the background thread, or a call of `flush`. -/
inductive Who where
  | background
  | flush (call : Nat)
  deriving DecidableEq

/-- A thread in `_do_save`: how many mutations there were when it began, or, of a call of `flush`,
    when that began; and the snapshot, once it is taken. -/
structure Saver where
  who : Who
  began : Nat
  snapshot : Option Nat
  deriving DecidableEq

/-- The background thread: there is none that is alive, it waits in `_run`, or it saves. -/
inductive Thread where
  | none
  | waiting
  | saving
  deriving DecidableEq

/-- A call of `flush` that has returned: how many mutations there were when it began, and who of
    those that were saving when it returned still is. -/
structure Returned where
  began : Nat
  running : List Who
  deriving DecidableEq

/-- The manager, its threads and the file. -/
structure State where
  /-- how many mutations the store has seen -/
  mutations : Nat
  /-- `_dirty_since` -/
  dirtySince : Option ℚ
  /-- `_last_write` -/
  lastWrite : ℚ
  /-- `_closed` -/
  closed : Bool
  /-- `_thread` -/
  thread : Thread
  /-- the threads in `_do_save` -/
  savers : List Saver
  /-- how many calls of `flush` there have been -/
  flushes : Nat
  /-- the calls of `flush` that have returned -/
  returned : List Returned
  /-- the snapshots that have been written, the one in the file first -/
  written : List Nat
  deriving DecidableEq

/-- The manager that has been made, and nothing else. -/
def State.init : State := ⟨0, none, 0, false, .none, [], 0, [], []⟩

/-- What a thread does next. -/
inductive Action where
  /-- a mutation of the store -/
  | mutate
  /-- `schedule_save`, at a time -/
  | schedule (now : ℚ)
  /-- the lock-protected section of `_run`, at a time -/
  | wake (now : ℚ)
  /-- the lock-protected section of `flush` -/
  | flush
  /-- `export_state` under the lock of the store -/
  | snapshot (who : Who)
  /-- the section of `_do_save` under `_save_lock`, which the disk takes or not -/
  | write (who : Who) (taken : Bool)
  deriving DecidableEq

/-- `__init__`, the two delays. -/
structure Delays where
  debounce : ℚ
  maxDelay : ℚ

variable (delays : Delays)

/-- `schedule_save` -/
def scheduleSave (now : ℚ) (s : State) : State :=
  let s := { s with lastWrite := now, dirtySince := some (s.dirtySince.getD now) }
  if s.thread = .none then { s with closed := false, thread := .waiting } else s

/-- One turn of the loop of `_run`, up to the save. -/
def run (now : ℚ) (s : State) : State :=
  if s.thread ≠ .waiting then s
  else if s.closed then { s with thread := .none }
  else
    match s.dirtySince with
    | none => s
    | some since =>
      if now < min (s.lastWrite + delays.debounce) (since + delays.maxDelay) then s
      else
        { s with
          dirtySince := none
          thread := .saving
          savers := s.savers ++ [⟨.background, s.mutations, none⟩] }

/-- `flush`, up to the save. -/
def flush (s : State) : State :=
  { s with
    closed := true
    dirtySince := none
    savers := s.savers ++ [⟨.flush s.flushes, s.mutations, none⟩]
    flushes := s.flushes + 1 }

/-- A saver takes its snapshot. -/
def takeSnapshot (who : Who) (s : State) : State :=
  { s with
    savers := s.savers.map fun saver =>
      if saver.who = who ∧ saver.snapshot = none then { saver with snapshot := some s.mutations }
      else saver }

/-- The savers but for one. -/
def without (who : Who) (savers : List Saver) : List Saver := savers.filter fun x => x.who ≠ who

/-- What becomes of a thread that has saved: the background thread waits again, a call of `flush`
    returns. -/
def finish (saver : Saver) (s : State) : State :=
  let savers := without saver.who s.savers
  let returned := s.returned.map fun r => { r with running := r.running.filter (· ≠ saver.who) }
  match saver.who with
  | .background => { s with savers, returned, thread := .waiting }
  | .flush _ => { s with savers, returned := ⟨saver.began, savers.map (·.who)⟩ :: returned }

/-- A saver writes its snapshot, if it has one. -/
def write (who : Who) (taken : Bool) (s : State) : State :=
  match s.savers.find? fun saver => saver.who = who with
  | none => s
  | some saver =>
    match saver.snapshot with
    | none => s
    | some snapshot =>
      let s := finish saver s
      if taken then { s with written := snapshot :: s.written } else s

/-- One step of a thread. -/
def step (s : State) : Action → State
  | .mutate => { s with mutations := s.mutations + 1 }
  | .schedule now => scheduleSave now s
  | .wake now => run delays now s
  | .flush => flush s
  | .snapshot who => takeSnapshot who s
  | .write who taken => write who taken s

/-! ## What the file holds -/

/-- The file has never been replaced by an older snapshot. -/
def Forward (s : State) : Prop := s.written.Pairwise (· ≥ ·)

/-- Once a flush has returned and every saver that was running then has finished, the file includes
    every mutation made before the flush began. -/
def Flushed (s : State) : Prop :=
  ∀ r ∈ s.returned, r.running = [] →
    ∃ snapshot, s.written.head? = some snapshot ∧ r.began ≤ snapshot

/-- No saver writes while another one holds an older snapshot, and the disk takes what a flush
    writes. -/
def InOrder (s : State) : Action → Prop
  | .write who taken =>
    ∀ saver ∈ s.savers, saver.who = who → ∀ snapshot ∈ saver.snapshot,
      (taken = true → ∀ other ∈ s.savers, ∀ older ∈ other.snapshot, snapshot ≤ older) ∧
        (who ≠ .background → taken = true)
  | _ => True

instance (s : State) (a : Action) : Decidable (InOrder s a) := by
  cases a <;> unfold InOrder <;> infer_instance

/-! ## Where no saver is overtaken -/

/-- What a saver holds: nothing yet, or a snapshot that includes what there was when it began. -/
def Saver.Sound (mutations : Nat) (saver : Saver) : Prop :=
  saver.began ≤ mutations ∧
    ∀ snapshot ∈ saver.snapshot, saver.began ≤ snapshot ∧ snapshot ≤ mutations

/-- Nothing that is held is older than what was written, and what a flush that has returned was for
    is in the file. -/
structure Inv (s : State) : Prop where
  forward : Forward s
  past : ∀ w ∈ s.written, w ≤ s.mutations
  newer : ∀ w ∈ s.written, ∀ saver ∈ s.savers, ∀ snapshot ∈ saver.snapshot, w ≤ snapshot
  sound : ∀ saver ∈ s.savers, saver.Sound s.mutations
  flushed : ∀ r ∈ s.returned, ∃ w ∈ s.written, r.began ≤ w

variable {delays : Delays} {s : State} {who : Who} {taken : Bool} {now : ℚ}

lemma inv_init : Inv State.init where
  forward := .nil
  past _ h := absurd h List.not_mem_nil
  newer _ h := absurd h List.not_mem_nil
  sound _ h := absurd h List.not_mem_nil
  flushed _ h := absurd h List.not_mem_nil

lemma Saver.Sound.mono {saver : Saver} {m n : Nat} (h : saver.Sound m) (hmn : m ≤ n) :
    saver.Sound n :=
  ⟨Nat.le_trans h.1 hmn, fun snapshot hs =>
    ⟨(h.2 snapshot hs).1, Nat.le_trans (h.2 snapshot hs).2 hmn⟩⟩

lemma Inv.congr {s' : State} (h : Inv s) (hmutations : s'.mutations = s.mutations)
    (hsavers : s'.savers = s.savers) (hreturned : s'.returned = s.returned)
    (hwritten : s'.written = s.written) : Inv s' := by
  constructor
  · rw [Forward, hwritten]
    exact h.forward
  · rw [hwritten, hmutations]
    exact h.past
  · rw [hwritten, hsavers]
    exact h.newer
  · rw [hsavers, hmutations]
    exact h.sound
  · rw [hreturned, hwritten]
    exact h.flushed

lemma inv_mutate (h : Inv s) : Inv { s with mutations := s.mutations + 1 } where
  forward := h.forward
  past w hw := Nat.le_succ_of_le (h.past w hw)
  newer := h.newer
  sound saver hsaver := (h.sound saver hsaver).mono (Nat.le_succ _)
  flushed := h.flushed

lemma inv_scheduleSave (h : Inv s) : Inv (scheduleSave now s) := by
  unfold scheduleSave
  dsimp only
  split
  · exact h.congr rfl rfl rfl rfl
  · exact h.congr rfl rfl rfl rfl

/-- A saver that begins holds nothing. -/
lemma inv_begin {s' : State} (h : Inv s) (hmutations : s'.mutations = s.mutations)
    (hsavers : s'.savers = s.savers ++ [⟨who, s.mutations, none⟩])
    (hreturned : s'.returned = s.returned) (hwritten : s'.written = s.written) : Inv s' := by
  constructor
  · rw [Forward, hwritten]
    exact h.forward
  · rw [hwritten, hmutations]
    exact h.past
  · rw [hwritten, hsavers]
    intro w hw saver hsaver snapshot hsnapshot
    rcases List.mem_append.1 hsaver with hsaver | hsaver
    · exact h.newer w hw saver hsaver snapshot hsnapshot
    · rw [List.mem_singleton.1 hsaver] at hsnapshot
      cases hsnapshot
  · rw [hsavers, hmutations]
    intro saver hsaver
    rcases List.mem_append.1 hsaver with hsaver | hsaver
    · exact h.sound saver hsaver
    · rw [List.mem_singleton.1 hsaver]
      exact ⟨Nat.le_refl _, nofun⟩
  · rw [hreturned, hwritten]
    exact h.flushed

lemma inv_run (h : Inv s) : Inv (run delays now s) := by
  unfold run
  split
  · exact h
  · split
    · exact h.congr rfl rfl rfl rfl
    · split
      · exact h
      · split
        · exact h
        · exact inv_begin h rfl rfl rfl rfl

/-- A snapshot that is taken now is as new as the store. -/
lemma inv_takeSnapshot (h : Inv s) : Inv (takeSnapshot who s) := by
  have hsaver : ∀ saver ∈ (takeSnapshot who s).savers, ∃ old ∈ s.savers,
      saver = old ∨ saver = { old with snapshot := some s.mutations } := by
    intro saver hsaver
    obtain ⟨old, hold, rfl⟩ := List.mem_map.1 hsaver
    refine ⟨old, hold, ?_⟩
    split
    · exact .inr rfl
    · exact .inl rfl
  refine ⟨h.forward, h.past, ?_, ?_, h.flushed⟩
  · intro w hw saver hmem snapshot hsnapshot
    obtain ⟨old, hold, rfl | rfl⟩ := hsaver saver hmem
    · exact h.newer w hw _ hold snapshot hsnapshot
    · cases hsnapshot
      exact h.past w hw
  · intro saver hmem
    obtain ⟨old, hold, rfl | rfl⟩ := hsaver saver hmem
    · exact h.sound _ hold
    · refine ⟨(h.sound old hold).1, ?_⟩
      rintro _ ⟨⟩
      exact ⟨(h.sound old hold).1, Nat.le_refl _⟩

lemma mem_of_mem_without {saver : Saver} {savers : List Saver} (h : saver ∈ without who savers) :
    saver ∈ savers := List.mem_of_mem_filter h

lemma finish_fields (saver : Saver) (s : State) :
    (finish saver s).mutations = s.mutations ∧
      (finish saver s).savers = without saver.who s.savers ∧
      (finish saver s).written = s.written := by
  unfold finish
  dsimp only
  split
  · exact ⟨rfl, rfl, rfl⟩
  · exact ⟨rfl, rfl, rfl⟩

/-- Who has returned after a save: those before, and a call of `flush` that has saved. -/
lemma mem_returned_finish {saver : Saver} {r : Returned} (h : r ∈ (finish saver s).returned) :
    (∃ old ∈ s.returned, r.began = old.began) ∨
      (saver.who ≠ .background ∧ r.began = saver.began) := by
  unfold finish at h
  dsimp only at h
  split at h
  · obtain ⟨old, hold, rfl⟩ := List.mem_map.1 h
    exact .inl ⟨old, hold, rfl⟩
  next hwho =>
    rcases List.mem_cons.1 h with rfl | h
    · refine .inr ⟨?_, rfl⟩
      rw [hwho]
      exact nofun
    · obtain ⟨old, hold, rfl⟩ := List.mem_map.1 h
      exact .inl ⟨old, hold, rfl⟩

/-- A saver that is not overtaken writes what is newer than the file. -/
lemma inv_write (h : Inv s) (hguard : InOrder s (.write who taken)) : Inv (write who taken s) := by
  unfold write
  split
  next => exact h
  next saver hfind =>
    have hmem := List.mem_of_find?_eq_some hfind
    have hwho : saver.who = who := by
      have hfound := List.find?_some hfind
      exact of_decide_eq_true hfound
    split
    next => exact h
    next snapshot hsnapshot =>
    obtain ⟨horder, htaken⟩ := hguard saver hmem hwho snapshot hsnapshot
    have hsound := (h.sound saver hmem).2 snapshot hsnapshot
    obtain ⟨hmutations, hsavers, hwritten⟩ := finish_fields saver s
    dsimp only
    split
    next htrue =>
      constructor
      · change (snapshot :: (finish saver s).written).Pairwise (· ≥ ·)
        rw [hwritten]
        exact .cons (fun w hw => h.newer w hw saver hmem snapshot hsnapshot) h.forward
      · intro w hw
        change w ∈ snapshot :: (finish saver s).written at hw
        change w ≤ (finish saver s).mutations
        rw [hwritten] at hw
        rw [hmutations]
        rcases List.mem_cons.1 hw with rfl | hw
        · exact hsound.2
        · exact h.past w hw
      · intro w hw other hother older holder
        change w ∈ snapshot :: (finish saver s).written at hw
        change other ∈ (finish saver s).savers at hother
        rw [hwritten] at hw
        rw [hsavers] at hother
        rcases List.mem_cons.1 hw with rfl | hw
        · exact horder htrue other (mem_of_mem_without hother) older holder
        · exact h.newer w hw other (mem_of_mem_without hother) older holder
      · intro other hother
        change other ∈ (finish saver s).savers at hother
        change other.Sound (finish saver s).mutations
        rw [hsavers] at hother
        rw [hmutations]
        exact h.sound other (mem_of_mem_without hother)
      · intro r hr
        change ∃ w ∈ snapshot :: (finish saver s).written, r.began ≤ w
        rw [hwritten]
        rcases mem_returned_finish hr with ⟨old, hold, heq⟩ | ⟨-, heq⟩
        · obtain ⟨w, hw, hle⟩ := h.flushed old hold
          exact ⟨w, List.mem_cons_of_mem _ hw, heq ▸ hle⟩
        · exact ⟨snapshot, List.mem_cons_self, heq ▸ hsound.1⟩
    next hfalse =>
      constructor
      · rw [Forward, hwritten]
        exact h.forward
      · rw [hwritten, hmutations]
        exact h.past
      · rw [hwritten, hsavers]
        exact fun w hw other hother => h.newer w hw other (mem_of_mem_without hother)
      · rw [hsavers, hmutations]
        exact fun other hother => h.sound other (mem_of_mem_without hother)
      · rw [hwritten]
        intro r hr
        rcases mem_returned_finish hr with ⟨old, hold, heq⟩ | ⟨hflush, -⟩
        · rw [heq]
          exact h.flushed old hold
        · rw [hwho] at hflush
          exact absurd (htaken hflush) hfalse

lemma inv_step (s : State) (a : Action) (hguard : InOrder s a) (h : Inv s) :
    Inv (step delays s a) := by
  cases a with
  | mutate => exact inv_mutate h
  | schedule now => exact inv_scheduleSave h
  | wake now => exact inv_run h
  | flush => exact inv_begin h rfl rfl rfl rfl
  | snapshot who => exact inv_takeSnapshot h
  | write who taken => exact inv_write h hguard

lemma Inv.toFlushed (h : Inv s) : Flushed s := by
  intro r hr _
  obtain ⟨w, hw, hle⟩ := h.flushed r hr
  have hforward := h.forward
  rw [Forward] at hforward
  cases hwritten : s.written with
  | nil =>
    rw [hwritten] at hw
    cases hw
  | cons newest earlier =>
    rw [hwritten] at hw hforward
    refine ⟨newest, rfl, ?_⟩
    rcases List.mem_cons.1 hw with rfl | hw
    · exact hle
    · exact Nat.le_trans hle (List.rel_of_pairwise_cons hforward hw)

/-- Where no saver writes while another one holds an older snapshot, the file never goes back, and
    includes what a flush that has returned was to save. -/
theorem saved_of_inOrder {actions : List Action}
    (h : Along (step delays) InOrder State.init actions) :
    ∀ reached, reached <+: actions → Forward (runFrom (step delays) State.init reached) ∧
      Flushed (runFrom (step delays) State.init reached) := by
  rintro reached ⟨rest, rfl⟩
  have hinv := (Along.append_iff.1 h).1.invariant inv_step inv_init
  exact ⟨hinv.forward, hinv.toFlushed⟩

/-- A mutation, a background save, and a flush behind another mutation. -/
theorem saved_of_inOrder_example :
    let reached := runFrom (step ⟨2, 30⟩) State.init [.mutate, .schedule 0, .wake 2,
      .snapshot .background, .write .background true, .mutate, .flush, .snapshot (.flush 0),
      .write (.flush 0) true]
    Forward reached ∧ Flushed reached :=
  saved_of_inOrder (by decide +kernel) _ List.prefix_rfl

/-- A background save is overtaken by a flush, and puts its older snapshot over the newer one. -/
theorem overtaken : ¬ ∀ actions, ∀ reached, reached <+: actions →
    Forward (runFrom (step ⟨2, 30⟩) State.init reached) ∧
      Flushed (runFrom (step ⟨2, 30⟩) State.init reached) := by
  intro hall
  have hforward := (hall [.mutate, .schedule 0, .wake 2, .snapshot .background, .mutate, .flush,
    .snapshot (.flush 0), .write (.flush 0) true, .write .background true] _ List.prefix_rfl).1
  exact absurd hforward (by unfold Forward; decide +kernel)

end Persistence

end Mockdr
