import Mathlib
import Mockdr.Splunk.SnapUnits

/-!
# Which relative times are resolved

* `steps` are the offsets and the snap of a modifier, up to where it cannot be read; `reach` is what
  a step comes to in a calendar without a first and a last year.
* `Within`: every count can be read, every sum is that of floats, and the calendar is asked about
  the years 1 to 9999 only.
* `meant` is what a modifier means: 0 if it is not understood.
* `resolves_iff`: a modifier is resolved to what it means exactly if it stays `Bounded`, and a snap
  is a floor exactly if it goes to a number of seconds or the instant is `Snappable`.
-/

namespace Mockdr

namespace Splunk

namespace RelativeTime

open Calendar DateMath

/-- A step of a modifier. -/
inductive Step where
  | offset (offset : Offset)
  | snap (unit : String)

variable (py : SplPython)

/-! ## Steps -/

/-- The offsets of a text up to the first that is malformed, and whether none is. -/
def offsets : ℕ → List Char → List Step × Bool
  | _, [] => ([], true)
  | 0, _ :: _ => ([], false)
  | fuel + 1, text =>
    match offsetRe py text with
    | none => ([], false)
    | some (offset, rest) => (.offset offset :: (offsets fuel rest).1, (offsets fuel rest).2)

/-- The steps of a modifier up to what is malformed, and whether nothing is. -/
def steps (text : String) : List Step × Bool :=
  let (head, tail) := partition '@' text
  let front := offsets py (strip head).toList.length (strip head).toList
  if !front.2 || !hasChar '@' text then front
  else
    match snapUnitRe py (strip tail).toList with
    | none => (front.1, false)
    | some (unit, rest) =>
      let behind := offsets py rest.length rest
      (front.1 ++ .snap unit :: behind.1, behind.2)

/-- The unit of the calendar that a word stands for. -/
def calendarGrid (unit : String) : Option (Grid ℤ) :=
  match weekStart unit with
  | some wanted => some (weeks wanted)
  | none => (Assoc.get unit CALENDAR_MONTHS).bind fun count =>
    if hpos : 0 < count then some ((days.coarsen months).coarsen (Grid.fixed count hpos)) else none

/-- The seconds that a word stands for when it is snapped to. -/
def fixedSize (unit : String) : Option ℤ :=
  (Assoc.get unit FIXED_UNITS).filter fun _ => unit ∉ WEEKS

/-- A step of a unit that there is. -/
def Step.known : Step → Bool
  | .offset o => (Assoc.get o.unit FIXED_UNITS).isSome || (Assoc.get o.unit CALENDAR_MONTHS).isSome
  | .snap unit => (fixedSize unit).isSome || (calendarGrid unit).isSome

/-- The moment that an instant is, in whatever year that is. -/
def stampOf (moment : ℚ) : DateTime := .ofMicros (nearestMicros moment)

/-- The number that an offset counts. -/
def Offset.number (o : Offset) : ℤ := (o.amount py).getD 0

/-- What a step comes to, in whatever year that is. -/
def reach (moment : ℚ) : Step → ℚ
  | .offset o =>
    match Assoc.get o.unit FIXED_UNITS with
    | some fixed => moment + (o.number py * fixed : ℤ)
    | none =>
      match Assoc.get o.unit CALENDAR_MONTHS with
      | some months => timestamp (shiftMonths (stampOf moment) (o.number py * months))
      | none => moment
  | .snap unit =>
    match fixedSize unit with
    | some fixed => moment - remainder moment fixed
    | none =>
      match calendarGrid unit with
      | some g => ofMicros (g.roundDown (nearestMicros moment))
      | none => moment

/-- A count that can be read, a sum of floats, and moments of the years that a `datetime` has. -/
def Allowed (moment : ℚ) : Step → Prop
  | .offset o => (o.amount py).isSome
    ∧ match Assoc.get o.unit FIXED_UNITS with
      | some fixed => (py.floatInt (o.number py * fixed)).isSome
      | none =>
        match Assoc.get o.unit CALENDAR_MONTHS with
        | some months => InYears (stampOf moment)
          ∧ InYears (shiftMonths (stampOf moment) (o.number py * months))
        | none => True
  | .snap unit =>
    match fixedSize unit with
    | some _ => True
    | none => InYears (stampOf moment)
      ∧ ∀ g, calendarGrid unit = some g → InYears (.ofMicros (g.roundDown (nearestMicros moment)))

/-- Every step up to one of an unknown unit is allowed where it is taken. -/
def Within : List Step → ℚ → Prop
  | [], _ => True
  | step :: rest, moment => Allowed py moment step
    ∧ (step.known = true → Within rest (reach py moment step))

/-! ## Modifiers -/

/-- What a modifier means that is neither `now` nor a number. -/
def meantOffsets (now : ℚ) (text : String) : ℚ :=
  if (steps py text).2 && (steps py text).1.all Step.known then
    (steps py text).1.foldl (reach py) now
  else 0

/-- What a modifier means. -/
def meant (timeStr : String) (now : ℚ) : PyFloat :=
  if timeStr = "" then .finite 0
  else if py.lower (strip timeStr) = "now" then .finite now
  else (py.float (strip timeStr)).getD (.finite (meantOffsets py now (strip timeStr)))

/-- A modifier whose steps stay within what can be computed. -/
def Bounded (timeStr : String) (now : ℚ) : Prop :=
  timeStr ≠ "" → py.lower (strip timeStr) ≠ "now" → py.float (strip timeStr) = none →
    Within py (steps py (strip timeStr)).1 now

section

variable {py : SplPython} {moment : ℚ}

/-- What the code makes of a step. -/
def perform (py : SplPython) (moment : ℚ) : Step → Option (Option ℚ)
  | .offset o => (o.amount py).bind fun amount => shift py moment amount o.unit
  | .snap unit => RelativeTime.snap moment unit

/-- The steps one after the other, up to one of an unknown unit. -/
def runSteps (py : SplPython) (whole : Bool) : List Step → ℚ → Option (Option ℚ)
  | [], moment => some (if whole then some moment else none)
  | step :: rest, moment => (perform py moment step).bind fun
    | none => some none
    | some reached => runSteps py whole rest reached

lemma fromtimestamp_eq : fromtimestamp moment
    = if InYears (stampOf moment) then some (stampOf moment) else none := rfl

lemma addMonths_eq (months : ℤ) : addMonths moment months
    = if InYears (stampOf moment) ∧ InYears (shiftMonths (stampOf moment) months) then
        some (timestamp (shiftMonths (stampOf moment) months))
      else none := by
  rw [addMonths, fromtimestamp_eq]
  by_cases hstamp : InYears (stampOf moment)
  · rw [if_pos hstamp, Option.bind_eq_bind, Option.bind_some, DateMath.addMonths, checked]
    by_cases hshifted : InYears (shiftMonths (stampOf moment) months)
    · rw [if_pos hshifted, if_pos ⟨hstamp, hshifted⟩]
      rfl
    · rw [if_neg hshifted, if_neg fun h => hshifted h.2]
      rfl
  · rw [if_neg hstamp, if_neg fun h => hstamp h.1]
    rfl

lemma supported_of_calendarGrid {unit : String} {g : Grid ℤ} (hfixed : fixedSize unit = none)
    (h : calendarGrid unit = some g) : SupportedUnit unit g ∧ ¬ IsFixed unit := by
  have hcalendar : ¬ IsFixed unit := by
    rintro ⟨hweek, hne⟩
    obtain ⟨size, hsize⟩ := Option.ne_none_iff_exists'.1 hne
    rw [fixedSize, hsize, Option.filter_some_pos (by simpa using hweek)] at hfixed
    cases hfixed
  refine ⟨?_, hcalendar⟩
  rw [calendarGrid] at h
  cases hweek : weekStart unit with
  | some wanted =>
    rw [hweek] at h
    obtain rfl := Option.some.inj h
    exact .week hweek
  | none =>
    rw [hweek] at h
    obtain ⟨count, hcount, hg⟩ := Option.bind_eq_some_iff.1 h
    split_ifs at hg with hpos
    obtain rfl := Option.some.inj hg
    exact .months hcount hpos

lemma none_of_calendarGrid {unit : String} (h : calendarGrid unit = none) :
    weekStart unit = none ∧ Assoc.get unit CALENDAR_MONTHS = none := by
  rw [calendarGrid] at h
  cases hweek : weekStart unit with
  | some wanted =>
    rw [hweek] at h
    cases h
  | none =>
    rw [hweek] at h
    refine ⟨rfl, Option.eq_none_iff_forall_not_mem.2 fun count hcount => ?_⟩
    have hpos : 0 < count := by
      rcases (month_word hcount).2.2 with rfl | rfl | rfl
      · decide
      · decide
      · decide
    have hnone := Option.bind_eq_none_iff.1 h count hcount
    rw [dif_pos hpos] at hnone
    cases hnone

/-- An offset is taken if it is allowed, unless its unit is unknown, and raises otherwise. -/
lemma perform_offset (o : Offset) :
    (Allowed py moment (.offset o) ∧ perform py moment (.offset o)
        = some (if (Step.offset o).known then some (reach py moment (.offset o)) else none))
      ∨ ¬ Allowed py moment (.offset o) ∧ perform py moment (.offset o) = none := by
  simp only [Allowed, perform, Step.known, reach, Offset.number, shift]
  rcases Option.eq_none_or_eq_some (o.amount py) with hamount | ⟨amount, hamount⟩
  · rw [hamount]
    exact .inr ⟨fun h => Bool.false_ne_true h.1, rfl⟩
  · simp only [hamount, Option.isSome_some, Option.getD_some, Option.bind_some, true_and]
    rcases Option.eq_none_or_eq_some (Assoc.get o.unit FIXED_UNITS) with hfixed | ⟨fixed, hfixed⟩
    · rcases Option.eq_none_or_eq_some (Assoc.get o.unit CALENDAR_MONTHS)
        with hmonths | ⟨months, hmonths⟩
      · simp only [hfixed, hmonths]
        exact .inl ⟨trivial, rfl⟩
      · simp only [hfixed, hmonths, addMonths_eq]
        by_cases hyears : InYears (stampOf moment)
            ∧ InYears (shiftMonths (stampOf moment) (amount * months))
        · refine .inl ⟨hyears, ?_⟩
          rw [if_pos hyears]
          rfl
        · refine .inr ⟨hyears, ?_⟩
          rw [if_neg hyears]
          rfl
    · simp only [hfixed]
      by_cases hfloat : (py.floatInt (amount * fixed)).isSome = true
      · exact .inl ⟨hfloat, if_pos hfloat⟩
      · exact .inr ⟨hfloat, if_neg hfloat⟩

/-- A snap is taken if it is allowed, unless its unit is unknown, and raises otherwise. -/
lemma perform_snap (unit : String) :
    (Allowed py moment (.snap unit) ∧ perform py moment (.snap unit)
        = some (if (Step.snap unit).known then some (reach py moment (.snap unit)) else none))
      ∨ ¬ Allowed py moment (.snap unit) ∧ perform py moment (.snap unit) = none := by
  simp only [Allowed, perform, Step.known, reach]
  rcases Option.eq_none_or_eq_some (fixedSize unit) with hfixed | ⟨fixed, hfixed⟩
  · rcases Option.eq_none_or_eq_some (calendarGrid unit) with hgrid | ⟨g, hgrid⟩
    · obtain ⟨hweek, hmonths⟩ := none_of_calendarGrid hgrid
      have hsnap : snap moment unit
          = if InYears (stampOf moment) then some none else none := by
        rw [fixedSize] at hfixed
        rw [snap, hfixed, fromtimestamp_eq]
        simp only [hweek, hmonths]
        split_ifs <;> rfl
      simp only [hfixed, hgrid, hsnap]
      by_cases hyears : InYears (stampOf moment)
      · refine .inl ⟨⟨hyears, ?_⟩, if_pos hyears⟩
        rintro _ ⟨⟩
      · exact .inr ⟨fun h => hyears h.1, if_neg hyears⟩
    · obtain ⟨hsupported, hcalendar⟩ := supported_of_calendarGrid hfixed hgrid
      simp only [hfixed, hgrid]
      by_cases hyears : InYears (stampOf moment)
          ∧ InYears (.ofMicros (g.roundDown (nearestMicros moment)))
      · refine .inl ⟨⟨hyears.1, ?_⟩, ?_⟩
        · intro g' hg'
          obtain rfl := Option.some.inj hg'
          exact hyears.2
        · exact (snap_eq_some_iff hsupported hcalendar).2 ⟨hyears.1, hyears.2, rfl⟩
      · refine .inr ⟨fun h => hyears ⟨h.1, h.2 g rfl⟩, ?_⟩
        rw [snap_calendar hsupported hcalendar, fromtimestamp_eq]
        by_cases hstamp : InYears (stampOf moment)
        · have hstart : ¬ InYears (.ofMicros (g.roundDown (stampOf moment).micros)) := by
            rw [stampOf, DateTime.micros_ofMicros]
            exact fun h => hyears ⟨hstamp, h⟩
          rw [if_pos hstamp, Option.bind_some, checked, if_neg hstart, Option.map_none]
        · rw [if_neg hstamp, Option.bind_none]
  · have hsnap : snap moment unit = some (some (moment - remainder moment fixed)) := by
      rw [fixedSize] at hfixed
      rw [snap, hfixed]
    simp only [hfixed, hsnap]
    exact .inl ⟨trivial, rfl⟩

/-- The steps of a modifier are taken exactly if they stay within what can be computed. -/
lemma runSteps_eq (whole : Bool) (ss : List Step) :
    (Within py ss moment ∧ runSteps py whole ss moment
        = some (if whole && ss.all Step.known then some (ss.foldl (reach py) moment) else none))
      ∨ ¬ Within py ss moment ∧ runSteps py whole ss moment = none := by
  induction ss generalizing moment with
  | nil =>
    refine .inl ⟨trivial, ?_⟩
    rw [runSteps, List.all_nil, Bool.and_true, List.foldl_nil]
  | cons step rest ih =>
    have hstep : (Allowed py moment step ∧ perform py moment step
          = some (if step.known then some (reach py moment step) else none))
        ∨ ¬ Allowed py moment step ∧ perform py moment step = none := by
      cases step with
      | offset o => exact perform_offset o
      | snap unit => exact perform_snap unit
    rw [runSteps]
    rcases hstep with ⟨hallowed, hperform⟩ | ⟨hallowed, hperform⟩
    · rw [hperform, Option.bind_some]
      cases hknown : step.known with
      | true =>
        rcases @ih (reach py moment step) with ⟨hwithin, hrun⟩ | ⟨hwithin, hrun⟩
        · refine .inl ⟨⟨hallowed, fun _ => hwithin⟩, ?_⟩
          rw [List.all_cons, hknown, Bool.true_and]
          exact hrun
        · exact .inr ⟨fun h => hwithin (h.2 hknown), hrun⟩
      | false =>
        refine .inl ⟨⟨hallowed, fun h => nomatch hknown.symm.trans h⟩, ?_⟩
        rw [List.all_cons, hknown, Bool.false_and, Bool.and_false]
        rfl
    · rw [hperform, Option.bind_none]
      exact .inr ⟨fun h => hallowed h.1, rfl⟩

lemma runSteps_of_within {whole : Bool} {ss : List Step} (h : Within py ss moment) :
    runSteps py whole ss moment
      = some (if whole && ss.all Step.known then some (ss.foldl (reach py) moment) else none) :=
  ((runSteps_eq whole ss).resolve_right fun hno => hno.1 h).2

lemma runSteps_of_not_within {whole : Bool} {ss : List Step} (h : ¬ Within py ss moment) :
    runSteps py whole ss moment = none :=
  ((runSteps_eq whole ss).resolve_left fun hyes => h hyes.1).2

/-! ## Texts -/

/-- The offsets of a text are its steps. -/
lemma applyFrom_eq (fuel : ℕ) (text : List Char) :
    applyFrom py fuel moment text
      = runSteps py (offsets py fuel text).2 (offsets py fuel text).1 moment := by
  induction fuel generalizing moment text with
  | zero =>
    cases text with
    | nil => rfl
    | cons c text => rfl
  | succ fuel ih =>
    cases text with
    | nil => rfl
    | cons c text =>
      simp only [applyFrom, offsets]
      rcases Option.eq_none_or_eq_some (offsetRe py (c :: text)) with hread | ⟨⟨o, rest⟩, hread⟩
      · simp only [hread]
        rfl
      · simp only [hread, runSteps, perform, Option.bind_eq_bind, Option.bind_assoc]
        refine congrArg _ (funext fun amount => congrArg _ (funext fun shifted => ?_))
        cases shifted with
        | none => rfl
        | some shifted => exact ih rest

lemma runSteps_append (whole : Bool) (front behind : List Step) :
    runSteps py whole (front ++ behind) moment = (runSteps py true front moment).bind fun
      | none => some none
      | some reached => runSteps py whole behind reached := by
  induction front generalizing moment with
  | nil => rfl
  | cons step front ih =>
    rw [List.cons_append, runSteps, runSteps, Option.bind_assoc]
    refine congrArg _ (funext fun reached => ?_)
    cases reached with
    | none => rfl
    | some reached => exact ih

lemma runSteps_false (ss : List Step) :
    runSteps py false ss moment = (runSteps py true ss moment).bind fun _ => some none := by
  induction ss generalizing moment with
  | nil => rfl
  | cons step rest ih =>
    rw [runSteps, runSteps, Option.bind_assoc]
    refine congrArg _ (funext fun reached => ?_)
    cases reached with
    | none => rfl
    | some reached => exact ih

/-- The steps of a modifier are taken one after the other. -/
lemma resolveOffsets_eq (now : ℚ) (text : String) :
    resolveOffsets py now text = runSteps py (steps py text).2 (steps py text).1 now := by
  rw [resolveOffsets, steps]
  simp only [applyOffsets, applyFrom_eq, Option.bind_eq_bind, Option.pure_def]
  generalize offsets py (strip (partition '@' text).1).toList.length
    (strip (partition '@' text).1).toList = front
  obtain ⟨ss, whole⟩ := front
  cases whole with
  | false =>
    simp only [Bool.not_false, Bool.true_or, if_true, runSteps_false, Option.bind_assoc]
    rfl
  | true =>
    rcases Bool.eq_false_or_eq_true (hasChar '@' text) with hsnap | hsnap
    · rcases Option.eq_none_or_eq_some (snapUnitRe py (strip (partition '@' text).2).toList)
        with hunit | ⟨⟨unit, rest⟩, hunit⟩
      · simp only [hsnap, hunit, Bool.not_true, Bool.or_self, if_neg Bool.false_ne_true,
          runSteps_false]
        refine congrArg _ (funext fun reached => ?_)
        cases reached with
        | none => rfl
        | some reached => rfl
      · simp only [hsnap, hunit, Bool.not_true, Bool.or_self, if_neg Bool.false_ne_true]
        refine Eq.trans ?_ (runSteps_append _ _ _).symm
        refine congrArg _ (funext fun reached => ?_)
        cases reached with
        | none => rfl
        | some reached =>
          change Option.bind _ _ = Option.bind _ _
          refine congrArg _ (funext fun snapped => ?_)
          cases snapped with
          | none => rfl
          | some snapped => rfl
    · simp only [hsnap, Bool.not_true, Bool.not_false, Bool.or_true, if_true]
      have hsame : ∀ x : Option (Option ℚ), (x.bind fun
          | none => some none
          | some reached => some (some reached)) = x := by
        rintro (_ | _ | reached)
        · rfl
        · rfl
        · rfl
      exact hsame _

/-- A modifier that stays within what can be computed is resolved to what it means, and any other
    raises. -/
lemma resolve_eq_some_iff (timeStr : String) (now : ℚ) :
    resolveRelativeTime py timeStr now = some (meant py timeStr now) ↔ Bounded py timeStr now := by
  unfold resolveRelativeTime meant Bounded
  by_cases hempty : timeStr = ""
  · simp only [hempty, if_true, ne_eq, not_true_eq_false, false_implies]
  · by_cases hnow : py.lower (strip timeStr) = "now"
    · simp only [hnow, if_neg hempty, if_true, ne_eq, not_true_eq_false, false_implies,
        implies_true]
    · simp only [if_neg hempty, if_neg hnow]
      rcases Option.eq_none_or_eq_some (py.float (strip timeStr)) with hfloat | ⟨x, hfloat⟩
      · simp only [hfloat, resolveOffsets_eq, meantOffsets, Option.getD_none, ne_eq, hempty, hnow,
          not_false_eq_true, true_implies]
        generalize steps py (strip timeStr) = read
        by_cases hwithin : Within py read.1 now
        · rw [runSteps_of_within hwithin]
          refine iff_of_true ?_ hwithin
          split_ifs <;> rfl
        · rw [runSteps_of_not_within hwithin]
          exact iff_of_false nofun hwithin
      · simp only [hfloat, reduceCtorEq, false_implies, implies_true, Option.getD_some]

end

end RelativeTime

end Splunk

end Mockdr
