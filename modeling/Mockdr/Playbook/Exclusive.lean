import Mockdr.Playbook.Executor

/-!
# Playbook runs exclude one another

* `Exclusive`: at most one executor thread is alive, nothing was written by a thread whose `stop`
  had returned, and nothing by a cancelled one after another was started.
* `Alone`: `start` clears the cancel flag and starts its thread only while no thread is alive.
* `exclusive_of_alone`: every run whose steps are so is exclusive.
-/

namespace Mockdr

namespace Playbook

/-- What is claimed of the executor. -/
structure Exclusive (s : State) : Prop where
  /-- At most one run executes steps. -/
  single : ∀ t t', s.alive t = true → s.alive t' = true → t = t'
  /-- After `stop` has returned, the run it stopped writes nothing. -/
  stopped : ∀ w ∈ s.writes, w.stopped = false
  /-- A run that was cancelled executes nothing once another one has been started. -/
  cancelled : ∀ w ∈ s.writes, w.cancelled = true → w.overtaken = false

/-- No executor thread is alive where a call of `start` clears the cancel flag or starts its thread:
    its join did not run out of time, and no other `start` is under way. -/
def Alone (s : State) : Action → Prop
  | .call n _ =>
    (∃ steps, s.calls n = .start steps .resetting ∨ s.calls n = .start steps .launching) →
      ∀ t, s.alive t = false
  | _ => True

/-! ## The invariant -/

/-- The thread that a call of `stop` has read was started before, and where the call has requested
    the cancellation the thread was told or has ended. -/
def CallHolds (s : State) : Call → Prop
  | .stop (.cancelling t) => (s.threads t).pc ≠ .created
  | .stop (.locking t) =>
    (s.threads t).pc ≠ .created ∧ (s.alive t = true → (s.threads t).cancelled = true)
  | .stop (.joining t) =>
    (s.threads t).pc ≠ .created ∧ (s.alive t = true → (s.threads t).cancelled = true)
  | _ => True

/-- What holds between the steps. -/
structure Inv (s : State) : Prop where
  single : ∀ t t', s.alive t = true → s.alive t' = true → t = t'
  /-- The flag is up while a thread is alive that was cancelled. -/
  flagged : ∀ t, s.alive t = true → (s.threads t).cancelled = true → s.cancelFlag = true
  fresh : ∀ t, (s.threads t).pc = .created → (s.threads t).cancelled = false
  stopped : ∀ t, (s.threads t).stopped = true →
    (s.threads t).pc ≠ .created ∧ (s.alive t = true → (s.threads t).cancelled = true)
  calls : ∀ n, CallHolds s (s.calls n)
  unmade : ∀ t, s.made ≤ t → (s.threads t).pc = .created
  executor : ∀ t, s.executorThread = some t → t < s.made
  writes : ∀ w ∈ s.writes, w.stopped = false ∧ w.cancelled = false

lemma inv_init : Inv State.init where
  single := nofun
  flagged := nofun
  fresh _ _ := rfl
  stopped := nofun
  calls _ := trivial
  unmade _ _ := rfl
  executor := nofun
  writes := nofun

lemma Inv.exclusive {s : State} (h : Inv s) : Exclusive s where
  single := h.single
  stopped w hw := (h.writes w hw).1
  cancelled w hw hcancelled := by
    rw [(h.writes w hw).2] at hcancelled
    cases hcancelled

variable {s s' : State} {thread : Nat}

/-- The threads are where they were, but for some that have moved on or ended. -/
structure Calm (s s' : State) : Prop where
  cancelled : ∀ t, (s'.threads t).cancelled = (s.threads t).cancelled
  stopped : ∀ t, (s'.threads t).stopped = (s.threads t).stopped
  alive : ∀ t, s'.alive t = true → s.alive t = true
  created : ∀ t, (s'.threads t).pc = .created ↔ (s.threads t).pc = .created

lemma Calm.callHolds (calm : Calm s s') {c : Call} (h : CallHolds s c) : CallHolds s' c := by
  have hpast : ∀ t, (s.threads t).pc ≠ .created → (s'.threads t).pc ≠ .created :=
    fun t hpc hpc' => hpc ((calm.created t).1 hpc')
  have htold : ∀ t, (s.threads t).pc ≠ .created ∧
      (s.alive t = true → (s.threads t).cancelled = true) → (s'.threads t).pc ≠ .created ∧
      (s'.alive t = true → (s'.threads t).cancelled = true) := by
    rintro t ⟨hpc, hcancelled⟩
    refine ⟨hpast t hpc, fun halive => ?_⟩
    rw [calm.cancelled]
    exact hcancelled (calm.alive t halive)
  cases c with
  | start steps pc => trivial
  | cancel pc => trivial
  | stop pc =>
    cases pc with
    | reading => trivial
    | returned answer => trivial
    | cancelling t => exact hpast t h
    | locking t => exact htold t h
    | joining t => exact htold t h

/-- The invariant is about the threads, the calls, the flag and the writes. -/
lemma Inv.calm (h : Inv s) (calm : Calm s s') (hflag : s'.cancelFlag = s.cancelFlag)
    (hcalls : ∀ n, s'.calls n = s.calls n ∨ CallHolds s (s'.calls n)) (hmade : s.made ≤ s'.made)
    (hexecutor : ∀ t, s'.executorThread = some t → t < s'.made) (hwrites : s'.writes = s.writes) :
    Inv s' where
  single t t' ht ht' := h.single t t' (calm.alive t ht) (calm.alive t' ht')
  flagged t ht hcancelled := by
    rw [hflag]
    exact h.flagged t (calm.alive t ht) (calm.cancelled t ▸ hcancelled)
  fresh t ht := by
    rw [calm.cancelled]
    exact h.fresh t ((calm.created t).1 ht)
  stopped t ht := by
    obtain ⟨hpc, hcancelled⟩ := h.stopped t (calm.stopped t ▸ ht)
    refine ⟨fun hpc' => hpc ((calm.created t).1 hpc'), fun halive => ?_⟩
    rw [calm.cancelled]
    exact hcancelled (calm.alive t halive)
  calls n := by
    rcases hcalls n with hsame | hholds
    · rw [hsame]
      exact calm.callHolds (h.calls n)
    · exact calm.callHolds hholds
  unmade t ht := (calm.created t).2 (h.unmade t (Nat.le_trans hmade ht))
  executor := hexecutor
  writes w hw := h.writes w (hwrites ▸ hw)

/-! ## The steps of a thread -/

/-- A thread that is alive moves on or ends. -/
lemma calm_withThread (f : Thread → Thread) (halive : s.alive thread = true)
    (hcancelled : (f (s.threads thread)).cancelled = (s.threads thread).cancelled)
    (hstopped : (f (s.threads thread)).stopped = (s.threads thread).stopped)
    (hpc : (f (s.threads thread)).pc ≠ .created) : Calm s (s.withThread thread f) := by
  have hself : (s.withThread thread f).threads thread = f (s.threads thread) :=
    Function.update_self ..
  have hother : ∀ t, t ≠ thread → (s.withThread thread f).threads t = s.threads t :=
    fun t ht => Function.update_of_ne ht ..
  refine ⟨?_, ?_, ?_, ?_⟩
  · intro t
    by_cases ht : t = thread
    · rw [ht, hself, hcancelled]
    · rw [hother t ht]
  · intro t
    by_cases ht : t = thread
    · rw [ht, hself, hstopped]
    · rw [hother t ht]
  · intro t h
    by_cases ht : t = thread
    · rw [ht]
      exact halive
    · rw [State.alive, hother t ht] at h
      exact h
  · intro t
    by_cases ht : t = thread
    · rw [ht, hself]
      refine iff_of_false hpc ?_
      intro hcreated
      rw [State.alive, hcreated] at halive
      cases halive
    · rw [hother t ht]

lemma inv_withThread (h : Inv s) (f : Thread → Thread) (halive : s.alive thread = true)
    (hcancelled : (f (s.threads thread)).cancelled = (s.threads thread).cancelled)
    (hstopped : (f (s.threads thread)).stopped = (s.threads thread).stopped)
    (hpc : (f (s.threads thread)).pc ≠ .created) : Inv (s.withThread thread f) :=
  h.calm (calm_withThread f halive hcancelled hstopped hpc) rfl (fun _ => .inl rfl) (Nat.le_refl _)
    h.executor rfl

lemma inv_move (h : Inv s) (halive : s.alive thread = true) {pc : Pc} (hpc : pc ≠ .created) :
    Inv (s.move thread pc) :=
  inv_withThread h (fun t => { t with pc }) halive rfl rfl hpc

lemma inv_withRun (h : Inv s) (run : Nat) (f : PlaybookRun → PlaybookRun) :
    Inv (s.withRun run f) :=
  h.calm ⟨fun _ => rfl, fun _ => rfl, fun _ ht => ht, fun _ => Iff.rfl⟩ rfl (fun _ => .inl rfl)
    (Nat.le_refl _) h.executor rfl

lemma inv_endWith (h : Inv s) (halive : s.alive thread = true) (status : RunStatus) :
    Inv (endWith thread status s) :=
  inv_move (inv_withRun h _ _) halive nofun

lemma inv_begin (h : Inv s) (halive : s.alive thread = true) (found : Bool) :
    Inv (begin thread found s) := by
  rw [begin]
  split
  · exact inv_move h halive nofun
  · next run _ =>
    split
    · exact inv_withThread h (fun t => { t with run, pc := .checking 0 }) halive rfl rfl nofun
    · exact inv_move (inv_withRun h _ _) halive nofun

lemma inv_check (h : Inv s) (halive : s.alive thread = true) (step : Nat) :
    Inv (check thread step s) := by
  rw [check]
  split
  · exact inv_endWith h halive _
  · split
    · exact inv_endWith h halive _
    · exact inv_move h halive nofun

/-- A step is executed only by a thread that was not cancelled, nor stopped. -/
lemma inv_enter (h : Inv s) (halive : s.alive thread = true) (step : Nat) (fails : Bool) :
    Inv (enter thread step fails s) := by
  rw [enter]
  split
  · exact inv_endWith h halive _
  · next hflag =>
    dsimp only
    split
    · exact inv_move (inv_withRun h _ _) halive nofun
    · have hcancelled : (s.threads thread).cancelled = false := by
        rw [← Bool.not_eq_true]
        exact fun hcancelled => hflag (h.flagged thread halive hcancelled)
      have hstopped : (s.threads thread).stopped = false := by
        rw [← Bool.not_eq_true]
        intro hstopped
        rw [(h.stopped thread hstopped).2 halive] at hcancelled
        cases hcancelled
      have hpc : Pc.checking (step + 1) ≠ .created := nofun
      have hmoved := inv_move (inv_withRun h (s.threads thread).run fun r => { r with
        currentStep := step
        steps := r.steps.set step (if fails then .error else .done) }) halive hpc
      refine ⟨hmoved.single, hmoved.flagged, hmoved.fresh, hmoved.stopped, hmoved.calls,
        hmoved.unmade, hmoved.executor, ?_⟩
      intro w hw
      rcases List.mem_cons.1 hw with rfl | hw
      · exact ⟨hstopped, hcancelled⟩
      · exact h.writes w hw

lemma inv_stepThread (h : Inv s) (sleeps works : Bool) :
    Inv (stepThread thread sleeps works s) := by
  have halive : ∀ {pc : Pc}, (s.threads thread).pc = pc → pc.alive = true →
      s.alive thread = true := by
    rintro pc rfl hpc
    exact hpc
  rw [stepThread]
  split
  · exact h
  · next hpc => exact inv_begin h (halive hpc rfl) works
  · next step hpc => exact inv_check h (halive hpc rfl) step
  · next step hpc =>
    split
    · rw [tick]
      split
      · exact inv_endWith h (halive hpc rfl) _
      · exact h
    · exact inv_enter h (halive hpc rfl) step _
  · exact h

/-! ## The steps of a call -/

lemma inv_putCall (h : Inv s) (n : Nat) (c : Call) (hc : CallHolds s c)
    (hcalls : s'.calls = Function.update s.calls n c) (hthreads : s'.threads = s.threads)
    (hflag : s'.cancelFlag = s.cancelFlag) (hmade : s'.made = s.made)
    (hexecutor : s'.executorThread = s.executorThread) (hwrites : s'.writes = s.writes) :
    Inv s' := by
  have calm : Calm s s' := by
    refine ⟨?_, ?_, ?_, ?_⟩
    · exact fun t => by rw [hthreads]
    · exact fun t => by rw [hthreads]
    · exact fun t ht => by rwa [State.alive, hthreads] at ht
    · exact fun t => by rw [hthreads]
  refine h.calm calm hflag ?_ (Nat.le_of_eq hmade.symm) ?_ hwrites
  · intro m
    rw [hcalls]
    by_cases hm : m = n
    · rw [hm, Function.update_self]
      exact .inr hc
    · exact .inl (Function.update_of_ne hm ..)
  · rw [hexecutor, hmade]
    exact h.executor

lemma inv_moveCall (h : Inv s) (n : Nat) {c : Call} (hc : CallHolds s c) : Inv (s.moveCall n c) :=
  inv_putCall h n c hc rfl rfl rfl rfl rfl rfl

lemma cancelled_requestCancel {t : Nat} (ht : s.alive t = true) :
    ((requestCancel s).threads t).cancelled = true :=
  (congrArg ((s.threads t).cancelled || ·) ht).trans (Bool.or_true _)

lemma inv_requestCancel (h : Inv s) : Inv (requestCancel s) where
  single := h.single
  flagged _ _ _ := rfl
  fresh t ht := by
    change ((s.threads t).cancelled || (s.threads t).pc.alive) = false
    rw [h.fresh t ht, show (s.threads t).pc = .created from ht]
    rfl
  stopped t ht := ⟨(h.stopped t ht).1, fun halive => cancelled_requestCancel halive⟩
  calls n := by
    change CallHolds _ (s.calls n)
    have hn := h.calls n
    cases hcall : s.calls n with
    | start steps pc => trivial
    | cancel pc => trivial
    | stop pc =>
      rw [hcall] at hn
      cases pc with
      | reading => trivial
      | returned answer => trivial
      | cancelling t => exact hn
      | locking t => exact ⟨hn.1, fun halive => cancelled_requestCancel halive⟩
      | joining t => exact ⟨hn.1, fun halive => cancelled_requestCancel halive⟩
  unmade := h.unmade
  executor := h.executor
  writes := h.writes

lemma inv_resetCancel (h : Inv s) (halone : ∀ t, s.alive t = false) : Inv (resetCancel s) := by
  refine ⟨h.single, ?_, h.fresh, h.stopped, h.calls, h.unmade, h.executor, h.writes⟩
  intro t ht
  have hdead := halone t
  rw [show s.alive t = true from ht] at hdead
  cases hdead

/-- A thread object is made. -/
lemma inv_spawn (h : Inv s) (n steps : Nat) : Inv (stepStart n steps false s .spawning) := by
  have hmade : (s.threads s.made).pc = .created := h.unmade s.made (Nat.le_refl _)
  have hself : (Function.update s.threads s.made ⟨steps, 0, .created, false, false, false⟩) s.made
      = ⟨steps, 0, .created, false, false, false⟩ := Function.update_self ..
  have hother : ∀ t, t ≠ s.made →
      (Function.update s.threads s.made ⟨steps, 0, .created, false, false, false⟩) t
        = s.threads t := fun t ht => Function.update_of_ne ht ..
  have calm : Calm s (stepStart n steps false s .spawning) := by
    refine ⟨?_, ?_, ?_, ?_⟩
    · intro t
      by_cases ht : t = s.made
      · exact ht ▸ (congrArg Thread.cancelled hself).trans (h.fresh s.made hmade).symm
      · exact congrArg Thread.cancelled (hother t ht)
    · intro t
      by_cases ht : t = s.made
      · have hstopped : (s.threads s.made).stopped = false := by
          rw [← Bool.not_eq_true]
          exact fun hstopped => (h.stopped s.made hstopped).1 hmade
        exact ht ▸ (congrArg Thread.stopped hself).trans hstopped.symm
      · exact congrArg Thread.stopped (hother t ht)
    · intro t halive
      by_cases ht : t = s.made
      · have hdead : (stepStart n steps false s .spawning).alive s.made = false :=
          congrArg (fun t : Thread => t.pc.alive) hself
        rw [ht, hdead] at halive
        cases halive
      · exact (congrArg (fun t : Thread => t.pc.alive) (hother t ht)).symm.trans halive
    · intro t
      by_cases ht : t = s.made
      · subst ht
        exact iff_of_true (congrArg Thread.pc hself) hmade
      · exact (congrArg Thread.pc (hother t ht)) ▸ Iff.rfl
  refine h.calm calm rfl ?_ (Nat.le_succ _) ?_ rfl
  · intro m
    by_cases hm : m = n
    · subst hm
      refine .inr ?_
      change CallHolds s (Function.update s.calls m _ m)
      rw [Function.update_self]
      trivial
    · exact .inl (Function.update_of_ne hm ..)
  · intro t ht
    cases ht
    exact Nat.lt_succ_self _

/-- A thread is started while no other one is alive. -/
lemma inv_launch (h : Inv s) (halone : ∀ t, s.alive t = false) (hmade : thread < s.made)
    (hcreated : (s.threads thread).pc = .created) : Inv (launch thread s) := by
  have hself : (launch thread s).threads thread = { s.threads thread with pc := .begun } :=
    if_pos rfl
  have hother : ∀ t, t ≠ thread → (launch thread s).threads t = { s.threads t with
      overtaken := (s.threads t).pc ≠ .created || (s.threads t).overtaken } := fun t ht => if_neg ht
  have halive : ∀ t, (launch thread s).alive t = true → t = thread := by
    intro t ht
    by_contra hne
    rw [State.alive, hother t hne] at ht
    have hdead := halone t
    rw [show s.alive t = true from ht] at hdead
    cases hdead
  have hpast : ∀ t, (s.threads t).pc ≠ .created → t ≠ thread := by
    rintro t hpc rfl
    exact hpc hcreated
  have htold : ∀ t, (s.threads t).pc ≠ .created → ((launch thread s).threads t).pc ≠ .created
      ∧ ((launch thread s).alive t = true → ((launch thread s).threads t).cancelled = true) := by
    intro t hpc
    refine ⟨?_, fun ht => absurd (halive t ht) (hpast t hpc)⟩
    rw [hother t (hpast t hpc)]
    exact hpc
  refine ⟨?_, ?_, ?_, ?_, ?_, ?_, h.executor, h.writes⟩
  · intro t t' ht ht'
    rw [halive t ht, halive t' ht']
  · intro t ht hcancelled
    rw [halive t ht, hself] at hcancelled
    have hfresh := h.fresh thread hcreated
    rw [show (s.threads thread).cancelled = true from hcancelled] at hfresh
    cases hfresh
  · intro t ht
    by_cases hne : t = thread
    · rw [hne, hself] at ht
      cases ht
    · rw [hother t hne] at ht ⊢
      exact h.fresh t ht
  · intro t ht
    by_cases hne : t = thread
    · rw [hne, hself] at ht
      exact absurd hcreated (h.stopped thread ht).1
    · rw [hother t hne] at ht
      exact htold t (h.stopped t ht).1
  · intro n
    change CallHolds _ (s.calls n)
    have hn := h.calls n
    cases hcall : s.calls n with
    | start steps pc => trivial
    | cancel pc => trivial
    | stop pc =>
      rw [hcall] at hn
      cases pc with
      | reading => trivial
      | returned answer => trivial
      | cancelling t => exact (htold t hn).1
      | locking t => exact htold t hn.1
      | joining t => exact htold t hn.1
  · intro t ht
    have hne : t ≠ thread := by
      rintro rfl
      exact absurd hmade (Nat.not_lt.2 ht)
    rw [hother t hne]
    exact h.unmade t ht

lemma inv_stepStart (h : Inv s) (n steps : Nat) (timedOut : Bool) (pc : StartPc)
    (halone : pc = .resetting ∨ pc = .launching → ∀ t, s.alive t = false) :
    Inv (stepStart n steps timedOut s pc) := by
  cases pc with
  | checking => exact inv_moveCall h n trivial
  | cancelling => exact inv_moveCall (inv_requestCancel h) n trivial
  | joining =>
    rw [stepStart]
    split
    · exact inv_moveCall h n trivial
    · split
      · exact inv_moveCall h n trivial
      · split
        · exact inv_moveCall h n trivial
        · exact h
  | resetting => exact inv_moveCall (inv_resetCancel h (halone (.inl rfl))) n trivial
  | recording => exact inv_putCall h n (.start steps .spawning) trivial rfl rfl rfl rfl rfl rfl
  | spawning => exact inv_spawn h n steps
  | launching =>
    rw [stepStart]
    split
    · exact inv_moveCall h n trivial
    · next thread hthread =>
      split
      · next hcreated =>
        exact inv_moveCall (inv_launch h (halone (.inr rfl)) (h.executor thread hthread) hcreated) n
          trivial
      · exact inv_moveCall h n trivial
  | returned => exact h

/-- A call of `stop` that has found a thread alive returns. -/
lemma inv_stopped (h : Inv s) (hpc : (s.threads thread).pc ≠ .created)
    (htold : s.alive thread = true → (s.threads thread).cancelled = true) :
    Inv (s.withThread thread fun t => { t with stopped := true }) := by
  have hthread : ∀ t, (s.withThread thread fun t => { t with stopped := true }).threads t
      = { s.threads t with stopped := t = thread || (s.threads t).stopped } := by
    intro t
    by_cases ht : t = thread
    · subst ht
      refine (Function.update_self ..).trans ?_
      rw [decide_eq_true rfl, Bool.true_or]
    · refine (Function.update_of_ne ht ..).trans ?_
      rw [decide_eq_false ht, Bool.false_or]
  have halive : ∀ t, (s.withThread thread fun t => { t with stopped := true }).alive t
      = s.alive t := fun t => by rw [State.alive, hthread t, State.alive]
  refine ⟨?_, ?_, ?_, ?_, ?_, ?_, h.executor, h.writes⟩
  · intro t t' ht ht'
    rw [halive] at ht ht'
    exact h.single t t' ht ht'
  · intro t ht hcancelled
    rw [halive] at ht
    rw [hthread] at hcancelled
    exact h.flagged t ht hcancelled
  · intro t ht
    rw [hthread] at ht ⊢
    exact h.fresh t ht
  · intro t ht
    rw [hthread, Bool.or_eq_true, decide_eq_true_eq] at ht
    rw [halive, hthread]
    rcases ht with rfl | ht
    · exact ⟨hpc, htold⟩
    · exact h.stopped t ht
  · intro n
    change CallHolds _ (s.calls n)
    have hn := h.calls n
    cases hcall : s.calls n with
    | start steps pc => trivial
    | cancel pc => trivial
    | stop pc =>
      rw [hcall] at hn
      cases pc with
      | reading => trivial
      | returned answer => trivial
      | cancelling t => rwa [CallHolds, hthread]
      | locking t => rwa [CallHolds, halive, hthread]
      | joining t => rwa [CallHolds, halive, hthread]
  · intro t ht
    rw [hthread]
    exact h.unmade t ht

lemma inv_stepStop (h : Inv s) (n : Nat) (timedOut : Bool) (pc : StopPc)
    (hcall : s.calls n = .stop pc) : Inv (stepStop n timedOut s pc) := by
  have hholds := h.calls n
  rw [hcall] at hholds
  cases pc with
  | reading =>
    rw [stepStop]
    split
    · exact inv_moveCall h n trivial
    · next thread hthread =>
      refine inv_moveCall h n ?_
      have halive := (Option.filter_eq_some_iff.1 hthread).2
      intro hcreated
      rw [State.alive, hcreated] at halive
      cases halive
  | cancelling thread =>
    exact inv_moveCall (inv_requestCancel h) n
      ⟨hholds, fun halive => cancelled_requestCancel halive⟩
  | locking thread => exact inv_moveCall h n hholds
  | joining thread =>
    rw [stepStop]
    split
    · exact inv_moveCall (inv_stopped h hholds.1 hholds.2) n trivial
    · exact h
  | returned answer => exact h

lemma inv_stepCancel (h : Inv s) (n : Nat) (pc : CancelPc) : Inv (stepCancel n s pc) := by
  cases pc with
  | reading =>
    rw [stepCancel]
    split
    · exact inv_moveCall h n trivial
    · exact inv_moveCall h n trivial
  | cancelling => exact inv_moveCall (inv_requestCancel h) n trivial
  | returned answer => exact h

/-! ## Runs -/

lemma inv_step (s : State) (a : Action) (halone : Alone s a) (h : Inv s) : Inv (step s a) := by
  cases a with
  | start steps =>
    exact inv_putCall h s.called (.start steps .checking) trivial rfl rfl rfl rfl rfl rfl
  | stop => exact inv_putCall h s.called (.stop .reading) trivial rfl rfl rfl rfl rfl rfl
  | cancel => exact inv_putCall h s.called (.cancel .reading) trivial rfl rfl rfl rfl rfl rfl
  | thread n sleeps works => exact inv_stepThread h sleeps works
  | call n timedOut =>
    rw [step]
    cases hcall : s.calls n with
    | start steps pc =>
      refine inv_stepStart h n steps timedOut pc ?_
      rintro (rfl | rfl)
      · exact halone ⟨steps, .inl hcall⟩
      · exact halone ⟨steps, .inr hcall⟩
    | stop pc => exact inv_stepStop h n timedOut pc hcall
    | cancel pc => exact inv_stepCancel h n pc

/-- Where every call of `start` clears the flag and starts its thread while no thread is alive, runs
    exclude one another at every moment. -/
theorem exclusive_of_alone (actions : List Action) (h : Along step Alone .init actions) :
    ∀ reached, reached <+: actions → Exclusive (runFrom step .init reached) := by
  rintro reached ⟨later, rfl⟩
  exact (Along.invariant inv_step (Along.append_iff.1 h).1 inv_init).exclusive

/-- Whether a call is about to clear the flag or to start a thread. -/
def Call.starts : Call → Bool
  | .start _ .resetting => true
  | .start _ .launching => true
  | _ => false

lemma alone_of_idle {s : State} {n : Nat} (timedOut : Bool) (h : (s.calls n).starts = false) :
    Alone s (.call n timedOut) := by
  rintro ⟨steps, hcall | hcall⟩
  · rw [hcall] at h
    cases h
  · rw [hcall] at h
    cases h

/-- A playbook is started and stopped in its sleep, and another one is started. -/
theorem exclusive_of_alone_restarted :
    Exclusive (runFrom step .init ([.start 1] ++ List.replicate 5 (.call 0 false)
      ++ List.replicate 2 (.thread 0 true true) ++ [.stop] ++ List.replicate 3 (.call 1 false)
      ++ [.thread 0 true true, .call 1 false, .start 1] ++ List.replicate 5 (.call 2 false))) := by
  refine exclusive_of_alone _ ?_ _ List.prefix_rfl
  have hdead : ∀ {s : State} {n : Nat}, (∀ t, s.alive t = false) → Alone s (.call n false) :=
    fun h _ => h
  refine ⟨trivial, alone_of_idle _ rfl, hdead fun _ => rfl, alone_of_idle _ rfl,
    alone_of_idle _ rfl, hdead ?_, trivial, trivial, trivial, alone_of_idle _ rfl,
    alone_of_idle _ rfl, alone_of_idle _ rfl, trivial, alone_of_idle _ rfl, trivial,
    alone_of_idle _ rfl, hdead ?_, alone_of_idle _ rfl, alone_of_idle _ rfl, hdead ?_, trivial⟩
  · rintro (_ | t) <;> rfl
  · rintro (_ | t) <;> rfl
  · rintro (_ | _ | t) <;> rfl

/-- The join of a second start runs out of time: the first thread, which was cancelled, executes its
    step after the new one has been started. -/
theorem overtaken_thread_writes : ¬ ∀ actions, ∀ reached, reached <+: actions →
    Exclusive (runFrom step .init reached) := by
  intro h
  have hrun := h ([.start 2] ++ List.replicate 5 (.call 0 false)
    ++ List.replicate 2 (.thread 0 false true) ++ [.start 2] ++ List.replicate 7 (.call 1 true)
    ++ [.thread 0 false true]) _ List.prefix_rfl
  have hwritten := hrun.cancelled ⟨0, 0, true, false, true⟩ List.mem_cons_self rfl
  cases hwritten

end Playbook

end Mockdr
