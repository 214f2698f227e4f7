import Mathlib.Algebra.Order.Archimedean.Basic
import Mathlib.Algebra.Order.Floor.Ring
import Mathlib.Data.Rat.Floor

/-!
# Splunk search jobs

What a job reports and what the control actions do with it: `domain/splunk/search_job.py`,
`repository/splunk/search_job_repo.py`, `application/splunk/commands/search.py` and
`application/splunk/queries/search.py`.

* `progress` is what a job reports, `applyControlAction` what an action leaves of it.
* `handle` answers a request for a job, if it is still there.

The dispatch window is a parameter. Times are rationals, and a request reads the clock once.
-/

namespace Mockdr

/-- The nearest integer, the even one of two. -/
def roundHalfEven (q : ℚ) : ℤ :=
  let rest := q - ⌊q⌋
  if rest < 1 / 2 then ⌊q⌋
  else if 1 / 2 < rest then ⌊q⌋ + 1
  else if ⌊q⌋ % 2 = 0 then ⌊q⌋
  else ⌊q⌋ + 1

/-- `round(q, 3)` -/
def round3 (q : ℚ) : ℚ := roundHalfEven (q * 1000) / 1000

namespace SearchJobs

/-- What a job keeps of its course. -/
structure SearchJob where
  execMode : String
  dispatchState : String
  doneProgress : ℚ
  ttl : ℤ
  isSaved : Bool
  isPaused : Bool
  isDone : Bool
  isFailed : Bool
  publishedAt : ℚ
  touchedAt : ℚ
  pausedAt : ℚ
  settled : Bool
  isFinalized : Bool

/-- `create_search_job`, of a search that has run. -/
def createSearchJob (execMode : String) (failed : Bool) (now : ℚ) : SearchJob where
  execMode := execMode
  dispatchState := if failed then "FAILED" else "DONE"
  doneProgress := 1
  ttl := 600
  isSaved := false
  isPaused := false
  isDone := true
  isFailed := failed
  publishedAt := now
  touchedAt := now
  pausedAt := 0
  settled := false
  isFinalized := false

/-- A job control action. -/
inductive Control where
  | cancel
  | pause
  | unpause
  | finalize
  | touch
  | setttl (ttl : ℤ)
  | setpriority
  | save
  | unsave
  | enablepreview
  | disablepreview
  deriving DecidableEq

/-- `SAVED_TTL` -/
def SAVED_TTL : ℤ := 604800

/-- `apply_control_action`, nothing where it removes the job. -/
def applyControlAction (now : ℚ) (job : SearchJob) : Control → Option SearchJob
  | .cancel => none
  | .pause =>
    some { job with
      pausedAt := if job.isPaused then job.pausedAt else now
      isPaused := true
      dispatchState := "PAUSE" }
  | .unpause =>
    some { job with
      publishedAt :=
        if job.isPaused ∧ job.pausedAt ≠ 0 then job.publishedAt + (now - job.pausedAt)
        else job.publishedAt
      pausedAt := 0
      isPaused := false
      dispatchState := if job.isDone then "DONE" else "RUNNING" }
  | .finalize =>
    some { job with
      dispatchState := "DONE"
      isDone := true
      doneProgress := 1
      settled := true
      isFinalized := true }
  | .save => some { job with isSaved := true, ttl := SAVED_TTL }
  | .setttl ttl => some { job with ttl := ttl }
  | .unsave => some { job with isSaved := false }
  | .touch => some { job with touchedAt := now }
  | .setpriority | .enablepreview | .disablepreview => some job

/-- `dispatchState`, `doneProgress` and `isDone`. -/
structure Report where
  dispatchState : String
  doneProgress : ℚ
  isDone : Bool

/-- The last of `_DISPATCH_STATES` that is passed. -/
def dispatchStateAt (fraction : ℚ) : String :=
  if 1 ≤ fraction then "DONE"
  else if 4 / 5 ≤ fraction then "FINALIZING"
  else if 2 / 5 ≤ fraction then "RUNNING"
  else if 1 / 5 ≤ fraction then "PARSING"
  else "QUEUED"

variable (window : ℚ)

/-- `_progress` -/
def progress (now : ℚ) (job : SearchJob) : Report :=
  if job.settled ∨ job.isFailed then ⟨job.dispatchState, job.doneProgress, job.isDone⟩
  else if window ≤ 0 ∨ job.execMode = "blocking" then
    ⟨job.dispatchState, job.doneProgress, job.isDone⟩
  else
    let now := if job.isPaused ∧ job.pausedAt ≠ 0 then job.pausedAt else now
    let elapsed := now - job.publishedAt
    let fraction := min (max (elapsed / window) 0) 1
    if job.isPaused then ⟨"PAUSE", round3 fraction, false⟩
    else
      let state := dispatchStateAt fraction
      ⟨state, round3 fraction, state = "DONE"⟩

/-- `SearchJob.expired` -/
def SearchJob.expired (now : ℚ) (job : SearchJob) : Bool :=
  if job.ttl ≤ 0 ∨ job.isPaused ∧ ¬ job.isDone then false
  else max (job.publishedAt + max window 0) job.touchedAt + job.ttl < now

/-- `SearchJobRepository.get` -/
def get (now : ℚ) (job : Option SearchJob) : Option SearchJob :=
  match job with
  | none => none
  | some job => if job.expired window now then none else some { job with touchedAt := now }

/-- A request for a job; `view` is one that reads what it has found. -/
inductive Request where
  | poll
  | list
  | view
  | control (action : Control)
  | delete
  | sweep

/-- A request and when it is made. -/
structure Action where
  now : ℚ
  request : Request

/-- What a request leaves of a job, and what is reported of it. -/
def handle (job : Option SearchJob) (a : Action) : Option SearchJob × Option Report :=
  match a.request with
  | .poll =>
    let job := get window a.now job
    (job, job.map (progress window a.now))
  | .list => (job, (job.filter fun job => !job.expired window a.now).map (progress window a.now))
  | .view => (get window a.now job, none)
  | .control action =>
    ((get window a.now job).bind fun job => applyControlAction a.now job action, none)
  | .delete => (none, none)
  | .sweep => (job.filter fun job => !job.expired window a.now, none)

end SearchJobs

end Mockdr
