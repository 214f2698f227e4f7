import Mathlib.Tactic.Linarith
import Mockdr.Lib.Run
import Mockdr.Splunk.SearchJob

/-!
# The progress of a search job

A job keeps when it was dispatched and when it was paused, and its progress is worked out from that
at every poll.

* `Watch` is what the course of a job is, told by the requests alone: how long it was not paused.
* `Lawful` is what the reports keep to: no progress is taken back, nor that a job is done, and the
  progress is that of the time which was not spent paused.
* `lawful_iff_running`: a job keeps to it exactly when it is not polled while it is paused after an
  answered poll found it complete (`PolledRunning`).
-/

namespace Mockdr

/-! ## Rounding -/

lemma roundHalfEven_cases (q : ℚ) : roundHalfEven q = ⌊q⌋ ∨ roundHalfEven q = ⌊q⌋ + 1 := by
  unfold roundHalfEven
  dsimp only
  split_ifs <;> simp

lemma roundHalfEven_mono {a b : ℚ} (h : a ≤ b) : roundHalfEven a ≤ roundHalfEven b := by
  rcases (Int.floor_mono h).lt_or_eq with hlt | heq
  · have ha := roundHalfEven_cases a
    have hb := roundHalfEven_cases b
    omega
  · unfold roundHalfEven
    rw [heq]
    have hrest : a - ⌊b⌋ ≤ b - ⌊b⌋ := sub_le_sub_right h _
    dsimp only
    split_ifs <;> first | omega | linarith

lemma round3_mono {a b : ℚ} (h : a ≤ b) : round3 a ≤ round3 b := by
  rw [round3, round3]
  have hscaled : a * 1000 ≤ b * 1000 := by linarith
  have hround : (roundHalfEven (a * 1000) : ℚ) ≤ roundHalfEven (b * 1000) :=
    Int.cast_le.2 (roundHalfEven_mono hscaled)
  linarith

@[simp] lemma round3_one : round3 1 = 1 := by decide +kernel

namespace SearchJobs

/-- The course of a job: when it was last asked for, how long it was not paused, whether it is
    paused or finalized, and whether an answered poll came when it was complete and not paused. -/
structure Watch where
  last : ℚ
  active : ℚ
  paused : Bool
  finalized : Bool
  polledComplete : Bool

/-- What a request does to the course of a job. -/
def Watch.next (window : ℚ) (w : Watch) (a : Action) (answered : Bool) : Watch :=
  let active := if w.paused then w.active else w.active + (a.now - w.last)
  { last := a.now
    active := active
    paused := match a.request with
      | .control .pause => true
      | .control .unpause => false
      | _ => w.paused
    finalized := w.finalized || a.request matches .control .finalize
    polledComplete := w.polledComplete || answered && !w.paused && decide (window ≤ active) }

/-- A request that asks for the progress of a job that is there. -/
def answers (window : ℚ) (job : Option SearchJob) (a : Action) : Bool :=
  match a.request with
  | .poll | .list => job.any fun job => !job.expired window a.now
  | _ => false

/-- A job, its course, and what was reported of it, the latest first. -/
structure Session where
  job : Option SearchJob
  watch : Watch
  reports : List (Report × Watch)

variable (window : ℚ) (execMode : String) (failed : Bool)

/-- A job that was just dispatched. -/
def Session.init (now : ℚ) : Session :=
  ⟨some (createSearchJob execMode failed now), ⟨now, 0, false, false, false⟩, []⟩

/-- Answer a request and keep what is reported. -/
def observe (s : Session) (a : Action) : Session :=
  let answer := handle window s.job a
  let watch := s.watch.next window a (answers window s.job a)
  ⟨answer.1, watch, (answer.2.map fun report => (report, watch)).toList ++ s.reports⟩

/-- The job walks its states with the clock. -/
def Timed : Prop := 0 < window ∧ execMode ≠ "blocking" ∧ failed = false

instance : Decidable (Timed window execMode failed) := inferInstanceAs (Decidable (_ ∧ _))

/-- What the reports keep to. -/
structure Lawful (s : Session) : Prop where
  /-- progress is not taken back -/
  increasing : s.reports.Pairwise fun later earlier =>
    earlier.1.doneProgress ≤ later.1.doneProgress
  /-- nor that the job is done -/
  done : s.reports.Pairwise fun later earlier => earlier.1.isDone = true → later.1.isDone = true
  /-- a job that was finalized is done -/
  finalized : ∀ p ∈ s.reports, p.2.finalized = true → p.1.isDone = true
  /-- and the progress of any other is that of the time it was not paused -/
  unpaused : Timed window execMode failed → ∀ p ∈ s.reports, p.2.finalized = false →
    p.1.doneProgress = round3 (min (p.2.active / window) 1)

/-- A job that is still there, has not been finalized and walks its states is not polled while it is
    paused after an answered poll that came when it was complete. -/
def PolledRunning (s : Session) (a : Action) : Prop :=
  Timed window execMode failed → answers window s.job a = true →
    s.watch.finalized = false → s.watch.polledComplete = true → s.watch.paused = false

/-- Time does not go back. -/
def Later (s : Session) (a : Action) : Prop := s.watch.last ≤ a.now

/-! ## The course of a job -/

variable {window execMode failed} {s : Session} {a : Action} {w : Watch} {job : SearchJob} {now : ℚ}

/-- A job follows its course. -/
structure Follows (window : ℚ) (execMode : String) (failed : Bool) (w : Watch) (job : SearchJob) :
    Prop where
  execMode : job.execMode = execMode
  failed : job.isFailed = failed
  done : job.isDone = true
  full : job.doneProgress = 1
  settled : job.settled = w.finalized
  paused : job.isPaused = w.paused
  held : w.paused = true → job.pausedAt ≠ 0 ∧ job.pausedAt - job.publishedAt = w.active
  running : w.paused = false → w.last - job.publishedAt = w.active

/-- The progress of a course. -/
def Watch.progress (window : ℚ) (execMode : String) (failed : Bool) (w : Watch) : ℚ :=
  if Timed window execMode failed ∧ w.finalized = false then round3 (min (w.active / window) 1)
  else 1

/-- Whether a course is complete. -/
def Watch.done (window : ℚ) (execMode : String) (failed : Bool) (w : Watch) : Bool :=
  if Timed window execMode failed ∧ w.finalized = false then
    !w.paused && decide (window ≤ w.active)
  else true

lemma round3_min_le_one (q : ℚ) : round3 (min q 1) ≤ 1 := by
  have h := round3_mono (min_le_right q 1)
  rwa [round3_one] at h

lemma Watch.progress_mono {w' : Watch} (hactive : w.active ≤ w'.active)
    (hfinalized : w.finalized = true → w'.finalized = true) :
    w.progress window execMode failed ≤ w'.progress window execMode failed := by
  unfold Watch.progress
  by_cases hlater : Timed window execMode failed ∧ w'.finalized = false
  · have hbefore : w.finalized = false := by
      rw [← Bool.not_eq_true]
      intro h
      rw [hfinalized h] at hlater
      exact absurd hlater.2 (by decide)
    rw [if_pos hlater, if_pos ⟨hlater.1, hbefore⟩]
    apply round3_mono
    exact min_le_min_right 1 (div_le_div_of_nonneg_right hactive hlater.1.1.le)
  · rw [if_neg hlater]
    split_ifs
    · exact round3_min_le_one _
    · exact le_rfl

/-- A job that is asked for at a moment reports its course. -/
lemma Follows.progress_eq {w' : Watch} (h : Follows window execMode failed w job)
    (hactive : w'.active = if w.paused then w.active else w.active + (now - w.last))
    (hpaused : w'.paused = w.paused) (hfinalized : w'.finalized = w.finalized)
    (hnonneg : 0 ≤ w'.active) :
    (progress window now job).doneProgress = w'.progress window execMode failed
      ∧ (progress window now job).isDone = w'.done window execMode failed := by
  unfold progress Watch.progress Watch.done
  rw [h.settled, h.failed, h.execMode, h.full, h.done, ← hfinalized, h.paused, ← hpaused]
  by_cases htimed : Timed window execMode failed ∧ w'.finalized = false
  · have hwindow := htimed.1.1
    have hsettled : ¬ (w'.finalized = true ∨ failed = true) := by simp [htimed.2, htimed.1.2.2]
    have hwalks : ¬ (window ≤ 0 ∨ execMode = "blocking") := by simp [hwindow, htimed.1.2.1]
    have helapsed : (if w'.paused = true ∧ job.pausedAt ≠ 0 then job.pausedAt else now)
        - job.publishedAt = w'.active := by
      rw [hactive, hpaused]
      cases hp : w.paused with
      | true => rw [if_pos ⟨rfl, (h.held hp).1⟩, if_pos rfl, (h.held hp).2]
      | false =>
        have hrunning := h.running hp
        rw [if_neg (by simp), if_neg (by simp)]
        linarith
    rw [if_neg hsettled, if_neg hwalks, if_pos htimed, if_pos htimed]
    dsimp only
    rw [helapsed, max_eq_left (div_nonneg hnonneg hwindow.le)]
    cases w'.paused with
    | true => exact ⟨rfl, rfl⟩
    | false =>
      refine ⟨rfl, ?_⟩
      have hdone : dispatchStateAt (min (w'.active / window) 1) = "DONE" ↔ window ≤ w'.active := by
        rw [← one_le_div hwindow, dispatchStateAt]
        by_cases hfull : 1 ≤ w'.active / window
        · simp [hfull]
        · rw [if_neg (by simpa using hfull)]
          refine iff_of_false ?_ hfull
          split_ifs <;> decide
      simp [hdone]
  · rw [if_neg htimed, if_neg htimed]
    by_cases hsettled : w'.finalized = true ∨ failed = true
    · rw [if_pos hsettled]
      exact ⟨rfl, rfl⟩
    · rw [if_neg hsettled, if_pos]
      · exact ⟨rfl, rfl⟩
      · by_contra hno
        simp only [not_or, not_le, Bool.not_eq_true] at hno hsettled
        exact htimed ⟨⟨hno.1, hno.2, hsettled.2⟩, hsettled.1⟩

lemma Follows.touch (h : Follows window execMode failed w job) :
    Follows window execMode failed w { job with touchedAt := now } :=
  ⟨h.execMode, h.failed, h.done, h.full, h.settled, h.paused, h.held, h.running⟩

/-- A job that is left as it is follows its course. -/
lemma Follows.next {answered : Bool} (h : Follows window execMode failed w job)
    (hrequest : ∀ action, a.request = .control action →
      action ≠ .pause ∧ action ≠ .unpause ∧ action ≠ .finalize) :
    Follows window execMode failed (w.next window a answered) job := by
  have hpaused : (w.next window a answered).paused = w.paused := by
    rw [Watch.next]
    dsimp only
    split
    · next hreq => exact absurd rfl (hrequest _ hreq).1
    · next hreq => exact absurd rfl (hrequest _ hreq).2.1
    · rfl
  have hfinalized : (w.next window a answered).finalized = w.finalized := by
    rw [Watch.next]
    dsimp only
    split
    · next hreq => exact absurd rfl (hrequest _ hreq).2.2
    · rw [Bool.or_false]
  refine ⟨h.execMode, h.failed, h.done, h.full, h.settled.trans hfinalized.symm,
    h.paused.trans hpaused.symm, ?_, ?_⟩
  · intro hp
    rw [hpaused] at hp
    rw [Watch.next, hp]
    exact h.held hp
  · intro hp
    rw [hpaused] at hp
    have hrunning := h.running hp
    rw [Watch.next, hp]
    dsimp only
    rw [if_neg (by decide)]
    linarith

/-- A control action on a job that follows its course. -/
lemma Follows.control {action : Control} {answered : Bool} {job' : SearchJob}
    (h : Follows window execMode failed w job) (hnow : 0 < now)
    (hjob' : applyControlAction now job action = some job') :
    Follows window execMode failed (w.next window ⟨now, .control action⟩ answered) job' := by
  cases action with
  | cancel => cases hjob'
  | pause =>
    cases hjob'
    refine ⟨h.execMode, h.failed, h.done, h.full, ?_, rfl, fun _ => ?_, nofun⟩
    · rw [Watch.next]
      dsimp only
      rw [Bool.or_false]
      exact h.settled
    · rw [Watch.next]
      dsimp only
      rw [h.paused]
      cases hp : w.paused with
      | true =>
        rw [if_pos rfl]
        exact h.held hp
      | false =>
        have hrunning := h.running hp
        refine ⟨hnow.ne', ?_⟩
        rw [if_neg (by decide), if_neg (by decide)]
        linarith
  | unpause =>
    cases hjob'
    refine ⟨h.execMode, h.failed, h.done, h.full, ?_, rfl, nofun, fun _ => ?_⟩
    · rw [Watch.next]
      dsimp only
      rw [Bool.or_false]
      exact h.settled
    · rw [Watch.next]
      dsimp only
      rw [h.paused]
      cases hp : w.paused with
      | true =>
        obtain ⟨hne, hheld⟩ := h.held hp
        rw [if_pos ⟨rfl, hne⟩, if_pos rfl]
        linarith
      | false =>
        have hrunning := h.running hp
        rw [if_neg (by simp), if_neg (by simp)]
        linarith
  | finalize =>
    cases hjob'
    refine ⟨h.execMode, h.failed, rfl, rfl, ?_, h.paused, ?_, ?_⟩
    · rw [Watch.next]
      dsimp only
      rw [Bool.or_true]
    · intro hp
      change w.paused = true at hp
      rw [Watch.next, hp]
      exact h.held hp
    · intro hp
      change w.paused = false at hp
      have hrunning := h.running hp
      rw [Watch.next, hp]
      dsimp only
      rw [if_neg (by decide)]
      linarith
  | touch | setttl | setpriority | save | unsave | enablepreview | disablepreview =>
    cases hjob'
    -- these do not change the course, and `touch` stands for them
    have hnext : Follows window execMode failed (w.next window ⟨now, .control .touch⟩ answered)
        job := by
      refine h.next ?_
      rintro action ⟨⟩
      exact ⟨nofun, nofun, nofun⟩
    exact ⟨hnext.execMode, hnext.failed, hnext.done, hnext.full, hnext.settled, hnext.paused,
      hnext.held, hnext.running⟩

/-! ## Requests -/

lemma get_eq_some {job : Option SearchJob} {found : SearchJob}
    (h : get window now job = some found) :
    ∃ before, job = some before ∧ before.expired window now = false
      ∧ found = { before with touchedAt := now } := by
  unfold get at h
  split at h
  · cases h
  · next before =>
    split_ifs at h with hexpired
    exact ⟨before, rfl, eq_false_of_ne_true hexpired, (Option.some.inj h).symm⟩

/-- What a request leaves of a job follows its course. -/
lemma Follows.handle {job : Option SearchJob} {left : SearchJob} {answered : Bool}
    (h : ∀ before, job = some before → Follows window execMode failed w before) (hnow : 0 < a.now)
    (hleft : (handle window job a).1 = some left) :
    Follows window execMode failed (w.next window a answered) left := by
  obtain ⟨now, request⟩ := a
  have hkeep : ∀ before, job = some before → (∀ action, request ≠ .control action) →
      Follows window execMode failed (w.next window ⟨now, request⟩ answered) before :=
    fun before hbefore hno => (h before hbefore).next fun action heq => absurd heq (hno action)
  cases request with
  | poll =>
    obtain ⟨before, hbefore, -, rfl⟩ := get_eq_some hleft
    exact (hkeep before hbefore nofun).touch
  | list => exact hkeep left hleft nofun
  | view =>
    obtain ⟨before, hbefore, -, rfl⟩ := get_eq_some hleft
    exact (hkeep before hbefore nofun).touch
  | control action =>
    obtain ⟨found, hfound, happly⟩ := Option.bind_eq_some_iff.1 hleft
    obtain ⟨before, hbefore, -, rfl⟩ := get_eq_some hfound
    exact (h before hbefore).touch.control hnow happly
  | delete => cases hleft
  | sweep => exact hkeep left (Option.filter_eq_some_iff.1 hleft).1 nofun

/-- What is reported is the course of the job, if it is there. -/
lemma report_eq {job : Option SearchJob}
    (h : ∀ before, job = some before → Follows window execMode failed w before)
    (hlater : w.last ≤ a.now) (hactive : 0 ≤ w.active) :
    (handle window job a).2.isSome = answers window job a
      ∧ ∀ report, (handle window job a).2 = some report →
        report.doneProgress
            = (w.next window a (answers window job a)).progress window execMode failed
          ∧ report.isDone
            = (w.next window a (answers window job a)).done window execMode failed := by
  obtain ⟨now, request⟩ := a
  have hnonneg : 0 ≤ if w.paused then w.active else w.active + (now - w.last) := by
    split_ifs
    · exact hactive
    · exact add_nonneg hactive (sub_nonneg.2 hlater)
  cases request with
  | poll =>
    cases hjob : job with
    | none => exact ⟨rfl, nofun⟩
    | some before =>
      rw [handle, answers, get]
      cases hexpired : before.expired window now with
      | true =>
        refine ⟨by simp [hexpired], fun report hreport => ?_⟩
        cases hreport
      | false =>
        refine ⟨by simp [hexpired], fun report hreport => ?_⟩
        cases hreport
        exact (h before hjob).touch.progress_eq rfl rfl (Bool.or_false _) hnonneg
  | list =>
    cases hjob : job with
    | none => exact ⟨rfl, nofun⟩
    | some before =>
      rw [handle, answers]
      cases hexpired : before.expired window now with
      | true =>
        refine ⟨by simp [hexpired], fun report hreport => ?_⟩
        simp [hexpired] at hreport
      | false =>
        refine ⟨by simp [hexpired], fun report hreport => ?_⟩
        simp only [Option.filter_some, hexpired, Bool.not_false, if_true, Option.map_some,
          Option.some_inj] at hreport
        cases hreport
        exact (h before hjob).progress_eq rfl rfl (Bool.or_false _) hnonneg
  | view | control | delete | sweep => exact ⟨rfl, nofun⟩

/-! ## Runs -/

/-- What holds at every moment of a run whose polls are as the condition has them. -/
structure Sound (window : ℚ) (execMode : String) (failed : Bool) (s : Session) : Prop where
  lawful : Lawful window execMode failed s
  clock : 0 < s.watch.last
  active : 0 ≤ s.watch.active
  complete : s.watch.polledComplete = true → window ≤ s.watch.active
  told : s.watch.polledComplete = true → ∃ p ∈ s.reports, p.1.isDone = true
  bounded : ∀ p ∈ s.reports, p.1.doneProgress ≤ s.watch.progress window execMode failed
  since : ∀ p ∈ s.reports, p.1.isDone = true → Timed window execMode failed →
    s.watch.finalized = false → s.watch.polledComplete = true
  job : ∀ job, s.job = some job → Follows window execMode failed s.watch job

lemma Watch.le_next {answered : Bool} (hlater : w.last ≤ a.now) :
    w.active ≤ (w.next window a answered).active
      ∧ (w.finalized = true → (w.next window a answered).finalized = true) := by
  refine ⟨?_, fun h => by rw [Watch.next, h, Bool.true_or]⟩
  rw [Watch.next]
  dsimp only
  split_ifs
  · exact le_rfl
  · linarith

lemma next_of_answers {job : Option SearchJob} (h : answers window job a = true) :
    (w.next window a (answers window job a)).paused = w.paused
      ∧ (w.next window a (answers window job a)).finalized = w.finalized := by
  obtain ⟨now, request⟩ := a
  cases request with
  | poll | list => exact ⟨rfl, Bool.or_false _⟩
  | view | control | delete | sweep => cases h

lemma next_polledComplete {answered : Bool} :
    (w.next window a answered).polledComplete = true
      ↔ w.polledComplete = true
        ∨ answered = true ∧ w.paused = false ∧ window ≤ (w.next window a answered).active := by
  simp [Watch.next, and_assoc]

/-- A request that is as the condition has it keeps the reports in order. -/
lemma Sound.observe (hs : Sound window execMode failed s) (hlater : Later s a)
    (hrunning : PolledRunning window execMode failed s a) :
    Sound window execMode failed (observe window s a) := by
  obtain ⟨hactive, hfinalized⟩ := Watch.le_next hlater
  obtain ⟨hsome, hreport⟩ := report_eq hs.job hlater hs.active
  have hcomplete : (s.watch.next window a (answers window s.job a)).polledComplete = true →
      window ≤ (s.watch.next window a (answers window s.job a)).active := by
    intro h
    rcases next_polledComplete.1 h with h | ⟨-, -, h⟩
    · exact (hs.complete h).trans hactive
    · exact h
  have hbounded : ∀ p ∈ s.reports, p.1.doneProgress
      ≤ (s.watch.next window a (answers window s.job a)).progress window execMode failed :=
    fun p hp => (hs.bounded p hp).trans (Watch.progress_mono hactive hfinalized)
  have hsince : ∀ p ∈ s.reports, p.1.isDone = true → Timed window execMode failed →
      (s.watch.next window a (answers window s.job a)).finalized = false →
      s.watch.polledComplete = true := by
    intro p hp hdone htimed hfin
    refine hs.since p hp hdone htimed ?_
    rw [← Bool.not_eq_true]
    intro h
    rw [hfinalized h] at hfin
    cases hfin
  have hjob : ∀ job, (handle window s.job a).1 = some job →
      Follows window execMode failed (s.watch.next window a (answers window s.job a)) job :=
    fun _ hleft => Follows.handle hs.job (hs.clock.trans_le hlater) hleft
  unfold SearchJobs.observe
  dsimp only
  cases hanswer : (handle window s.job a).2 with
  | none =>
    have hno : answers window s.job a = false := by rw [← hsome, hanswer]; rfl
    rw [Option.map_none, Option.toList_none, List.nil_append]
    refine ⟨⟨hs.lawful.increasing, hs.lawful.done, hs.lawful.finalized, hs.lawful.unpaused⟩,
      hs.clock.trans_le hlater, hs.active.trans hactive, hcomplete, ?_, hbounded, ?_, hjob⟩
    · intro h
      rcases next_polledComplete.1 h with h | ⟨h, -⟩
      · exact hs.told h
      · rw [hno] at h
        cases h
    · intro p hp hdone htimed hfin
      exact next_polledComplete.2 (.inl (hsince p hp hdone htimed hfin))
  | some report =>
    have hyes : answers window s.job a = true := by rw [← hsome, hanswer]; rfl
    obtain ⟨hprogress, hdone⟩ := hreport report hanswer
    obtain ⟨hpaused, hfin⟩ := next_of_answers (w := s.watch) hyes
    rw [Option.map_some, Option.toList_some, List.singleton_append]
    generalize hw : s.watch.next window a (answers window s.job a) = w' at *
    have hisDone : report.isDone = true ↔ (Timed window execMode failed → w'.finalized = false →
        w'.paused = false ∧ window ≤ w'.active) := by
      rw [hdone, Watch.done]
      split_ifs with h
      · simp [h.1, h.2]
      · exact iff_of_true rfl fun htimed hfin => absurd ⟨htimed, hfin⟩ h
    have hlast : ∀ p ∈ s.reports, p.1.isDone = true → report.isDone = true := by
      intro p hp hbefore
      refine hisDone.2 fun htimed hfin' => ?_
      have hpolled := hsince p hp hbefore htimed hfin'
      rw [hpaused]
      refine ⟨hrunning htimed hyes ?_ hpolled, (hs.complete hpolled).trans hactive⟩
      rw [← hfin]
      exact hfin'
    refine ⟨⟨?_, ?_, ?_, ?_⟩, ?_, hs.active.trans hactive, hcomplete, ?_, ?_, ?_, ?_⟩
    · exact List.pairwise_cons.2 ⟨fun p hp => hprogress ▸ hbounded p hp, hs.lawful.increasing⟩
    · exact List.pairwise_cons.2 ⟨hlast, hs.lawful.done⟩
    · refine List.forall_mem_cons.2 ⟨fun h => hisDone.2 fun _ hno => ?_, hs.lawful.finalized⟩
      rw [h] at hno
      cases hno
    · intro htimed
      refine List.forall_mem_cons.2 ⟨fun h => ?_, hs.lawful.unpaused htimed⟩
      rw [hprogress, Watch.progress, if_pos ⟨htimed, h⟩]
    · rw [← hw]
      exact hs.clock.trans_le hlater
    · intro h
      rw [← hw] at h
      rcases next_polledComplete.1 h with h | ⟨-, hrun, hfull⟩
      · obtain ⟨p, hp, hbefore⟩ := hs.told h
        exact ⟨p, List.mem_cons_of_mem _ hp, hbefore⟩
      · rw [hw] at hfull
        exact ⟨_, List.mem_cons_self, hisDone.2 fun _ _ => ⟨hpaused.trans hrun, hfull⟩⟩
    · exact List.forall_mem_cons.2 ⟨hprogress.le, hbounded⟩
    · refine List.forall_mem_cons.2 ⟨fun h htimed hno => ?_, fun p hp h htimed hno => ?_⟩
      · obtain ⟨hrun, hfull⟩ := hisDone.1 h htimed hno
        rw [← hw]
        refine next_polledComplete.2 (.inr ⟨hyes, hpaused.symm.trans hrun, ?_⟩)
        rw [hw]
        exact hfull
      · rw [← hw]
        exact next_polledComplete.2 (.inl (hsince p hp h htimed hno))
    · exact hjob

lemma polledRunning_of_lawful (hs : Sound window execMode failed s) (hlater : Later s a)
    (h : Lawful window execMode failed (observe window s a)) :
    PolledRunning window execMode failed s a := by
  intro htimed hyes hfin hpolled
  rw [← Bool.not_eq_true]
  intro hpaused
  obtain ⟨hsome, hreport⟩ := report_eq hs.job hlater hs.active
  obtain ⟨report, hanswer⟩ := Option.isSome_iff_exists.1 (hsome.trans hyes)
  obtain ⟨p, hp, hbefore⟩ := hs.told hpolled
  have hdone := h.done
  unfold SearchJobs.observe at hdone
  dsimp only at hdone
  rw [hanswer, Option.map_some, Option.toList_some, List.singleton_append] at hdone
  have hafter : report.isDone = true := (List.pairwise_cons.1 hdone).1 p hp hbefore
  obtain ⟨hsame, hfinSame⟩ := next_of_answers (w := s.watch) hyes
  rw [(hreport report hanswer).2, Watch.done, if_pos ⟨htimed, hfinSame.trans hfin⟩, hsame,
    hpaused] at hafter
  cases hafter

lemma sound_init (hnow : 0 < now) :
    Sound window execMode failed (.init execMode failed now) := by
  have hpolled : (Session.init execMode failed now).watch.polledComplete = true → False :=
    Bool.false_ne_true
  have hreports : ∀ {p}, p ∈ (Session.init execMode failed now).reports → False :=
    List.not_mem_nil
  refine ⟨⟨.nil, .nil, fun _ h => (hreports h).elim, fun _ _ h => (hreports h).elim⟩, hnow, le_rfl,
    fun h => (hpolled h).elim, fun h => (hpolled h).elim, fun _ h => (hreports h).elim,
    fun _ h => (hreports h).elim, ?_⟩
  intro job hjob
  obtain rfl := Option.some.inj hjob
  exact ⟨rfl, rfl, rfl, rfl, rfl, rfl, fun h => (Bool.false_ne_true h).elim,
    fun _ => sub_self now⟩

/-- Whatever the window, the mode and the outcome of a search, the reports of its job are in order
    throughout a run of requests exactly when no answered poll of it comes while it is paused, not
    finalized, and after an answered poll that came when it was complete. -/
theorem lawful_iff_running (window : ℚ) (execMode : String) (failed : Bool) {now : ℚ}
    (hnow : 0 < now) {as : List Action}
    (hlater : Along (observe window) Later (.init execMode failed now) as) :
    (∀ pre, pre <+: as →
        Lawful window execMode failed (runFrom (observe window) (.init execMode failed now) pre))
      ↔ Along (observe window) (PolledRunning window execMode failed) (.init execMode failed now)
        as :=
  Along.always_iff (I := Sound window execMode failed) (P := Lawful window execMode failed)
    (fun _ hs => hs.lawful) (fun _ _ hlater hs hrunning => hs.observe hlater hrunning)
    (fun _ _ hlater hs h => polledRunning_of_lawful hs hlater h) (sound_init hnow) hlater

/-- A job that is paused half way, and polled when it has gone on. -/
theorem lawful_iff_running_half :
    Lawful 10 "normal" false (runFrom (observe 10) (.init "normal" false 1)
      [⟨6, .control .pause⟩, ⟨60, .control .unpause⟩, ⟨65, .poll⟩]) := by
  refine (lawful_iff_running 10 "normal" false (by decide +kernel) ?_).2 ?_ _ List.prefix_rfl
  · refine ⟨?_, ?_, ?_, trivial⟩
    · unfold Later; decide +kernel
    · unfold Later; decide +kernel
    · unfold Later; decide +kernel
  · refine ⟨nofun, nofun, ?_, trivial⟩
    intro _ _ _ h
    exact absurd h (by decide +kernel)

/-- A job that was reported done is paused, and reported not done. -/
theorem done_taken_back :
    ((runFrom (observe 10) (.init "normal" false 1)
      [⟨20, .poll⟩, ⟨25, .control .pause⟩, ⟨30, .poll⟩]).reports.map fun p => p.1.isDone)
      = [false, true] := by
  decide +kernel

end SearchJobs

end Mockdr
