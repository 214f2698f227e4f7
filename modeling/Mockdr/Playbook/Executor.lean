import Mathlib.Logic.Function.Basic
import Mathlib.Tactic.Lemma
import Mockdr.Lib.Run

/-!
# The playbook executor

`start`, `cancel`, `stop` and the executor threads of `application/playbook/executor.py`, over the
cancel flag and the current run of `_run_state.py`.

* Every thread has a program counter. A step of it is one access to what the threads share, and the
  section under `_step_lock` is one step as a whole.
* What a step of a playbook writes to the store is told by a `Write`, with what was known of its
  thread at that moment.

Threads, runs and calls are numbered in the order in which they are made. A thread or run that has
not been made yet has the default.
-/

namespace Mockdr

namespace Playbook

/-! ## Runs and threads -/

/-- `PlaybookRun.status` -/
inductive RunStatus where
  | running
  | done
  | cancelled
  | error
  deriving DecidableEq

/-- `StepResult.status`; it is `running` only under the lock. -/
inductive StepStatus where
  | pending
  | done
  | error
  deriving DecidableEq

/-- `PlaybookRun` -/
structure PlaybookRun where
  status : RunStatus
  steps : List StepStatus
  currentStep : Nat

/-- Where an executor thread is in `_run_playbook`. -/
inductive Pc where
  /-- the thread object has been made and not started -/
  | created
  /-- before the agent and the run are looked up -/
  | begun
  /-- at the head of the loop, before a step -/
  | checking (step : Nat)
  /-- behind the first check: sleeping, or before the lock -/
  | waiting (step : Nat)
  /-- the thread has ended -/
  | finished
  deriving DecidableEq

/-- `thread.is_alive()` -/
def Pc.alive : Pc → Bool
  | .created => false
  | .finished => false
  | _ => true

/-- An executor thread. -/
structure Thread where
  /-- how many steps its playbook has -/
  steps : Nat
  /-- the run it has looked up -/
  run : Nat
  pc : Pc
  /-- a cancellation was requested while it was alive -/
  cancelled : Bool
  /-- a call of `stop` that found it alive has returned -/
  stopped : Bool
  /-- another thread has been started since it was -/
  overtaken : Bool

/-- A step that was executed: the thread, which step, and what had become of the thread. -/
structure Write where
  thread : Nat
  step : Nat
  cancelled : Bool
  stopped : Bool
  overtaken : Bool

/-! ## Calls -/

/-- Where a call of `start` is. -/
inductive StartPc where
  | checking
  | cancelling
  | joining
  | resetting
  | recording
  | spawning
  | launching
  | returned
  deriving DecidableEq

/-- Where a call of `stop` is, with the thread it has read. -/
inductive StopPc where
  | reading
  | cancelling (thread : Nat)
  | locking (thread : Nat)
  | joining (thread : Nat)
  | returned (answer : Bool)
  deriving DecidableEq

/-- Where a call of `cancel` is. -/
inductive CancelPc where
  | reading
  | cancelling
  | returned (answer : Bool)
  deriving DecidableEq

/-- A call, with the number of steps of the playbook it starts. -/
inductive Call where
  | start (steps : Nat) (pc : StartPc)
  | stop (pc : StopPc)
  | cancel (pc : CancelPc)
  deriving DecidableEq

/-- The executor, its threads and the calls under way. -/
structure State where
  threads : Nat → Thread
  /-- how many threads have been made -/
  made : Nat
  runs : Nat → PlaybookRun
  /-- how many runs have been made -/
  recorded : Nat
  calls : Nat → Call
  /-- how many calls there have been -/
  called : Nat
  /-- `_executor_thread` -/
  executorThread : Option Nat
  /-- `_run` -/
  currentRun : Option Nat
  /-- `_cancel_flag` -/
  cancelFlag : Bool
  /-- the steps that were executed, the latest first -/
  writes : List Write

/-- Nothing has been started. -/
def State.init : State where
  threads _ := ⟨0, 0, .created, false, false, false⟩
  made := 0
  runs _ := ⟨.done, [], 0⟩
  recorded := 0
  calls _ := .cancel (.returned false)
  called := 0
  executorThread := none
  currentRun := none
  cancelFlag := false
  writes := []

/-- Whether a thread is alive. -/
def State.alive (s : State) (thread : Nat) : Bool := (s.threads thread).pc.alive

/-- Change a thread. -/
def State.withThread (s : State) (thread : Nat) (f : Thread → Thread) : State :=
  { s with threads := Function.update s.threads thread (f (s.threads thread)) }

/-- Move a thread. -/
def State.move (s : State) (thread : Nat) (pc : Pc) : State :=
  s.withThread thread fun t => { t with pc }

/-- Change a run. -/
def State.withRun (s : State) (run : Nat) (f : PlaybookRun → PlaybookRun) : State :=
  { s with runs := Function.update s.runs run (f (s.runs run)) }

/-- Move a call. -/
def State.moveCall (s : State) (call : Nat) (c : Call) : State :=
  { s with calls := Function.update s.calls call c }

/-- `request_cancel`: every thread that is alive is told. -/
def requestCancel (s : State) : State :=
  { s with
    cancelFlag := true
    threads := fun n =>
      { s.threads n with cancelled := (s.threads n).cancelled || (s.threads n).pc.alive } }

/-- `reset_cancel` -/
def resetCancel (s : State) : State := { s with cancelFlag := false }

/-! ## The steps of an executor thread -/

/-- A thread ends, and leaves its run with a status. -/
def endWith (thread : Nat) (status : RunStatus) (s : State) : State :=
  (s.withRun (s.threads thread).run fun run => { run with status }).move thread .finished

/-- The lookups at the start of `_run_playbook`: the agent is found or not. -/
def begin (thread : Nat) (found : Bool) (s : State) : State :=
  match s.currentRun with
  | none => s.move thread .finished
  | some run =>
    if found then s.withThread thread fun t => { t with run, pc := .checking 0 }
    else (s.withRun run fun r => { r with status := .error }).move thread .finished

/-- The head of the loop. -/
def check (thread step : Nat) (s : State) : State :=
  if (s.threads thread).steps ≤ step then endWith thread .done s
  else if s.cancelFlag then endWith thread .cancelled s
  else s.move thread (.waiting step)

/-- A tick of the sleep. -/
def tick (thread : Nat) (s : State) : State :=
  if s.cancelFlag then endWith thread .cancelled s else s

/-- The section under `_step_lock`, in which the step may fail. A run without such a step, which a
    thread may have looked up in the place of its own, raises before anything is executed. -/
def enter (thread step : Nat) (fails : Bool) (s : State) : State :=
  if s.cancelFlag then endWith thread .cancelled s
  else
    let t := s.threads thread
    if (s.runs t.run).steps.length ≤ step then
      (s.withRun t.run fun r => { r with currentStep := step }).move thread .finished
    else
      let status := if fails then StepStatus.error else .done
      let s := s.withRun t.run fun r => { r with
        currentStep := step
        steps := r.steps.set step status }
      let s := s.move thread (.checking (step + 1))
      { s with writes := ⟨thread, step, t.cancelled, t.stopped, t.overtaken⟩ :: s.writes }

/-- One step of an executor thread. `tick` says whether it goes on sleeping; `works` that the agent
    is found, or that the step does not fail. -/
def stepThread (thread : Nat) (sleeps works : Bool) (s : State) : State :=
  match (s.threads thread).pc with
  | .created => s
  | .begun => begin thread works s
  | .checking step => check thread step s
  | .waiting step => if sleeps then tick thread s else enter thread step (!works) s
  | .finished => s

/-! ## The steps of the calls -/

/-- `thread.join(timeout=3.0)` is over: the thread has ended, or the time is up. -/
def joined (s : State) (thread : Nat) (timedOut : Bool) : Bool := !s.alive thread || timedOut

/-- The executor thread, if it is alive. -/
def running (s : State) : Option Nat := s.executorThread.filter fun thread => s.alive thread

/-- `Thread.start`, which marks every other thread that has been started. -/
def launch (thread : Nat) (s : State) : State :=
  { s with
    threads := fun n =>
      if n = thread then { s.threads n with pc := .begun }
      else { s.threads n with
        overtaken := (s.threads n).pc ≠ .created || (s.threads n).overtaken } }

/-- One step of a call of `start`. It reads `_executor_thread` anew each time. `join` raises for a
    thread that has not been started, and `Thread.start` for one that has. -/
def stepStart (call steps : Nat) (timedOut : Bool) (s : State) : StartPc → State
  | .checking =>
    s.moveCall call (.start steps (if (running s).isSome then .cancelling else .resetting))
  | .cancelling => (requestCancel s).moveCall call (.start steps .joining)
  | .joining =>
    match s.executorThread with
    | none => s.moveCall call (.start steps .returned)
    | some thread =>
      if (s.threads thread).pc = .created then s.moveCall call (.start steps .returned)
      else if joined s thread timedOut then s.moveCall call (.start steps .resetting)
      else s
  | .resetting => (resetCancel s).moveCall call (.start steps .recording)
  | .recording =>
    { s with
      runs := Function.update s.runs s.recorded
        ⟨.running, List.replicate steps .pending, 0⟩
      recorded := s.recorded + 1
      currentRun := some s.recorded
      calls := Function.update s.calls call (.start steps .spawning) }
  | .spawning =>
    { s with
      threads := Function.update s.threads s.made ⟨steps, 0, .created, false, false, false⟩
      made := s.made + 1
      executorThread := some s.made
      calls := Function.update s.calls call (.start steps .launching) }
  | .launching =>
    match s.executorThread with
    | none => s.moveCall call (.start steps .returned)
    | some thread =>
      if (s.threads thread).pc = .created then
        (launch thread s).moveCall call (.start steps .returned)
      else s.moveCall call (.start steps .returned)
  | .returned => s

/-- One step of a call of `stop`. -/
def stepStop (call : Nat) (timedOut : Bool) (s : State) : StopPc → State
  | .reading =>
    match running s with
    | none => s.moveCall call (.stop (.returned false))
    | some thread => s.moveCall call (.stop (.cancelling thread))
  | .cancelling thread => (requestCancel s).moveCall call (.stop (.locking thread))
  | .locking thread => s.moveCall call (.stop (.joining thread))
  | .joining thread =>
    if joined s thread timedOut then
      (s.withThread thread fun t => { t with stopped := true }).moveCall call
        (.stop (.returned true))
    else s
  | .returned _ => s

/-- One step of a call of `cancel`. -/
def stepCancel (call : Nat) (s : State) : CancelPc → State
  | .reading =>
    match s.currentRun with
    | none => s.moveCall call (.cancel (.returned false))
    | some run =>
      s.moveCall call (.cancel
        (if (s.runs run).status = .running then .cancelling else .returned false))
  | .cancelling => (requestCancel s).moveCall call (.cancel (.returned true))
  | .returned _ => s

/-- What happens next. -/
inductive Action where
  /-- a call begins -/
  | start (steps : Nat)
  | stop
  | cancel
  /-- a call goes on; whether the time of its join is up -/
  | call (n : Nat) (timedOut : Bool)
  /-- an executor thread goes on -/
  | thread (n : Nat) (sleeps works : Bool)
  deriving DecidableEq

/-- A call begins. -/
def newCall (c : Call) (s : State) : State :=
  { s with calls := Function.update s.calls s.called c, called := s.called + 1 }

/-- One step. -/
def step (s : State) : Action → State
  | .start steps => newCall (.start steps .checking) s
  | .stop => newCall (.stop .reading) s
  | .cancel => newCall (.cancel .reading) s
  | .call n timedOut =>
    match s.calls n with
    | .start steps pc => stepStart n steps timedOut s pc
    | .stop pc => stepStop n timedOut s pc
    | .cancel pc => stepCancel n s pc
  | .thread n sleeps works => stepThread n sleeps works s

end Playbook

end Mockdr
