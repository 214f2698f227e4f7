import Mockdr.Splunk.RelativeTime

/-!
# The units that a snap goes down to

* `SupportedUnit`: the words for a unit, with the unit as a grid of microseconds.
* `snap_fixed` and `snap_calendar`: what `snap` makes of an instant, found in the grid.
* `SnapsDown`: a snap is a floor; `Snappable`: where it is one.
* `snapsDown_iff`: an instant is snapped down exactly if it is in a year that a `datetime` has, and
  so is the start of its unit, and it is not so near in front of the next unit that it is rounded
  into it.
-/

namespace Mockdr

namespace Splunk

namespace RelativeTime

open Calendar DateMath

/-! ## Units -/

/-- The weeks that start with a weekday, Sunday being 0. -/
def weeks (wanted : ℤ) : Grid ℤ := days.coarsen (Grid.fixedFrom 7 (wanted - 1) (by decide))

/-- The words for a unit, and the unit. -/
inductive SupportedUnit : String → Grid ℤ → Prop
  | fixed {unit : String} {size : ℤ} (hsize : Assoc.get unit FIXED_UNITS = some size)
      (hweek : unit ∉ WEEKS) (hpos : 0 < size * 1000000) :
      SupportedUnit unit (Grid.fixed (size * 1000000) hpos)
  | week {unit : String} {wanted : ℤ} (hwanted : weekStart unit = some wanted) :
      SupportedUnit unit (weeks wanted)
  | months {unit : String} {count : ℤ} (hcount : Assoc.get unit CALENDAR_MONTHS = some count)
      (hpos : 0 < count) :
      SupportedUnit unit ((days.coarsen months).coarsen (Grid.fixed count hpos))

/-- A unit of so many seconds. -/
def IsFixed (unit : String) : Prop := unit ∉ WEEKS ∧ Assoc.get unit FIXED_UNITS ≠ none

/-! ## What a snap is for -/

/-- An instant is snapped to the start of the unit that it is in, which is snapped to itself, and no
    later instant is snapped to an earlier one. -/
def SnapsDown (unit : String) (g : Grid ℤ) (moment : ℚ) : Prop :=
  ∃ snapped, snap moment unit = some (some snapped)
    ∧ snap snapped unit = some (some snapped)
    ∧ snapped ≤ moment
    ∧ (∃ i, snapped = ofMicros (g.start i) ∧ moment < ofMicros (g.start (i + 1)))
    ∧ ∀ later snapped', moment ≤ later → snap later unit = some (some snapped') →
      snapped ≤ snapped'

/-- An instant that a `datetime` can be, in a unit with a start that one can be, and not within half
    a microsecond in front of a unit. -/
structure Snappable (g : Grid ℤ) (moment : ℚ) : Prop where
  inYears : InYears (.ofMicros (nearestMicros moment))
  start_inYears : InYears (.ofMicros (g.roundDown (nearestMicros moment)))
  apart : ∀ i, moment < ofMicros (g.start i) → nearestMicros moment < g.start i

variable {unit : String} {g : Grid ℤ} {moment : ℚ} {n : ℤ}

/-! ## Instants -/

lemma ofMicros_le_ofMicros {m n : ℤ} : ofMicros m ≤ ofMicros n ↔ m ≤ n := by
  rw [ofMicros, ofMicros, div_le_div_iff_of_pos_right (by norm_num), Int.cast_le,
      sub_le_sub_iff_right]

lemma roundHalfEven_intCast (n : ℤ) : roundHalfEven n = n := by
  rw [roundHalfEven, Int.floor_intCast, sub_self]
  exact if_pos (by norm_num)

/-- A microsecond is nearest to itself. -/
@[simp] lemma nearestMicros_ofMicros (n : ℤ) : nearestMicros (ofMicros n) = n := by
  rw [nearestMicros, ofMicros, div_mul_cancel₀ _ (by norm_num), roundHalfEven_intCast,
      sub_add_cancel]

lemma nearestMicros_mono {a b : ℚ} (h : a ≤ b) : nearestMicros a ≤ nearestMicros b := by
  rw [nearestMicros, nearestMicros]
  have hscaled : a * 1000000 ≤ b * 1000000 := by linarith
  have := roundHalfEven_mono hscaled
  omega

lemma le_nearestMicros (h : ofMicros n ≤ moment) : n ≤ nearestMicros moment := by
  rw [← nearestMicros_ofMicros n]
  exact nearestMicros_mono h

lemma apart_iff : (∀ i, moment < ofMicros (g.start i) → nearestMicros moment < g.start i)
    ↔ ofMicros (g.roundDown (nearestMicros moment)) ≤ moment := by
  constructor
  · intro h
    by_contra hlt
    exact absurd (g.roundDown_le _) (not_le.2 (h _ (not_le.1 hlt)))
  · intro h i hi
    by_contra hle
    have hindex := g.start_le_iff.1 (not_lt.1 hle)
    have hstart : g.start i ≤ g.roundDown (nearestMicros moment) := g.start_le.monotone_l hindex
    exact absurd (ofMicros_le_ofMicros.2 hstart) (not_le.2 (lt_of_le_of_lt h hi))

/-! ## Words -/

lemma of_get {P : String → ℤ → Prop} {table : List (String × ℤ)} {value : ℤ}
    (hget : Assoc.get unit table = some value) (h : ∀ p ∈ table, P p.1 p.2) : P unit value :=
  h _ (Assoc.mem_of_get hget)

lemma fixed_word {size : ℤ} (hsize : Assoc.get unit FIXED_UNITS = some size)
    (hweek : unit ∉ WEEKS) :
    size ∣ 86400 := by
  have htable : ∀ p ∈ FIXED_UNITS, p.1 ∉ WEEKS → p.2 ∣ 86400 := by decide
  exact of_get (P := fun unit size => unit ∉ WEEKS → size ∣ 86400) hsize htable hweek

lemma week_word {wanted : ℤ} (hwanted : weekStart unit = some wanted) :
    ((Assoc.get unit FIXED_UNITS).filter fun _ => unit ∉ WEEKS) = none := by
  rw [weekStart] at hwanted
  split_ifs at hwanted with hweek
  · cases Assoc.get unit FIXED_UNITS with
    | none => rfl
    | some size => exact if_neg (by simpa using hweek)
  · have hnone : Assoc.get unit FIXED_UNITS = none :=
      of_get (P := fun unit _ => Assoc.get unit FIXED_UNITS = none) hwanted (by decide)
    rw [hnone]
    rfl

lemma month_word {count : ℤ} (hcount : Assoc.get unit CALENDAR_MONTHS = some count) :
    Assoc.get unit FIXED_UNITS = none ∧ weekStart unit = none
      ∧ (count = 1 ∨ count = 3 ∨ count = 12) :=
  of_get (P := fun unit count => Assoc.get unit FIXED_UNITS = none ∧ weekStart unit = none
    ∧ (count = 1 ∨ count = 3 ∨ count = 12)) hcount (by decide)

/-! ## Snaps -/

lemma weeks_roundDown (stamp : DateTime) (wanted : ℤ) :
    (weeks wanted).roundDown stamp.micros
      = (midnight stamp).micros
        + -(((weekday (midnight stamp) + 1) % 7 - wanted) % 7 * dayMicros) := by
  have hround : (weeks wanted).roundDown stamp.micros
      = ((stamp.micros / dayMicros - (wanted - 1)) / 7 * 7 + (wanted - 1)) * dayMicros := rfl
  have hmidnight : (midnight stamp).micros = stamp.micros / dayMicros * dayMicros :=
    micros_roundDown stamp .d
  have hday : weekday (midnight stamp) = stamp.dayNumber % 7 := rfl
  rw [hround, hmidnight, hday, stamp.micros_div, dayMicros]
  omega

lemma micros_quarterStart (stamp : DateTime) (hpos : (0 : ℤ) < 3) :
    (quarterStart stamp).micros
      = ((days.coarsen months).coarsen (Grid.fixed 3 hpos)).roundDown stamp.micros := by
  have hround : ((days.coarsen months).coarsen (Grid.fixed 3 hpos)).roundDown stamp.micros
      = (units .M).start ((units .M).index stamp.micros / 3 * 3) := rfl
  have hnumber : (quarterStart stamp).monthNumber
      = 12 * stamp.year + ((stamp.month - 1) / 3 * 3 + 1 : ℕ) - 1 := rfl
  have hmonth := stamp.month_mem
  have hfirst : 12 * stamp.year + ((stamp.month - 1) / 3 * 3 + 1 : ℕ) - 1
      = stamp.monthNumber / 3 * 3 := by
    rw [DateTime.monthNumber]
    omega
  rw [micros_first rfl ⟨rfl, rfl, rfl, rfl⟩, hround, months_index, hnumber, hfirst]

/-- A moment of a year that a `datetime` has, found from its microseconds. -/
lemma checked_micros {stamp : DateTime} (h : InYears stamp) :
    checked (.ofMicros stamp.micros) = some stamp := by
  rw [DateTime.ofMicros_micros]
  exact if_pos h

/-- A snap to a unit of the calendar goes to the start of the unit, if a `datetime` can be there. -/
lemma snap_calendar (h : SupportedUnit unit g) (hcalendar : ¬ IsFixed unit) :
    snap moment unit = (fromtimestamp moment).bind fun stamp =>
      (checked (.ofMicros (g.roundDown stamp.micros))).map fun start => some (timestamp start) := by
  cases h with
  | fixed hsize hweek hpos =>
    refine absurd ⟨hweek, ?_⟩ hcalendar
    rw [hsize]
    exact Option.some_ne_none _
  | week hwanted =>
    rw [snap, week_word hwanted]
    simp only [hwanted, plus, weeks_roundDown, Option.bind_eq_bind, Option.pure_def]
    refine congrArg _ (funext fun stamp => ?_)
    exact Option.map_eq_bind.symm
  | @months count hcount hpos =>
    obtain ⟨hfixed, hweek, hcases⟩ := month_word hcount
    rw [snap, hfixed]
    simp only [Option.filter_none, hweek, hcount, Option.bind_eq_bind, Option.pure_def]
    cases hstamp : fromtimestamp moment with
    | none => rfl
    | some stamp =>
      have hyears : InYears stamp :=
        (checked_eq_some_iff.1 hstamp).2 ▸ (checked_eq_some_iff.1 hstamp).1
      rw [Option.bind_some, Option.bind_some]
      have hchecked : ∀ start : DateTime, InYears start →
          start.micros =
              ((days.coarsen months).coarsen (Grid.fixed count hpos)).roundDown stamp.micros →
          (checked (.ofMicros (((days.coarsen months).coarsen (Grid.fixed count hpos)).roundDown
            stamp.micros))).map (fun start => some (timestamp start))
            = some (some (timestamp start)) := by
        intro start hstart hmicros
        rw [← hmicros, checked_micros hstart, Option.map_some]
      rcases hcases with rfl | rfl | rfl
      · refine (hchecked (roundDown stamp .M) (roundDown_inYears .M hyears) ?_).symm
        rw [micros_roundDown]
        change (units .M).start _ = (units .M).start (_ / 1 * 1)
        rw [Int.ediv_one, mul_one]
        rfl
      · exact (hchecked (quarterStart stamp) hyears (micros_quarterStart stamp hpos)).symm
      · refine (hchecked (roundDown stamp .y) (roundDown_inYears .y hyears) ?_).symm
        rw [micros_roundDown]
        rfl

/-! ## Instants in a grid -/

/-- An instant among the microseconds. -/
def exactMicros (moment : ℚ) : ℚ := moment * 1000000 + EPOCH

@[simp] lemma exactMicros_ofMicros (n : ℤ) : exactMicros (ofMicros n) = n := by
  rw [exactMicros, ofMicros, div_mul_cancel₀ _ (by norm_num), Int.cast_sub, sub_add_cancel]

lemma ofMicros_le_iff : ofMicros n ≤ moment ↔ n ≤ ⌊exactMicros moment⌋ := by
  rw [Int.le_floor, exactMicros, ofMicros, div_le_iff₀ (by norm_num), Int.cast_sub,
      sub_le_iff_le_add]

lemma lt_ofMicros_iff : moment < ofMicros n ↔ ⌊exactMicros moment⌋ < n := by
  rw [← not_le, ofMicros_le_iff, not_le]

lemma ofMicros_fixed {size count : ℤ} (hcount : 86400 = size * count) (i : ℤ) :
    ofMicros ((i + 719162 * count) * (size * 1000000)) = i * size := by
  have hepoch : (i + 719162 * count) * (size * 1000000) - EPOCH = i * size * 1000000 := by
    rw [EPOCH, show (62135596800000000 : ℤ) = 719162 * 86400 * 1000000 by norm_num, hcount]
    ring
  rw [ofMicros, hepoch]
  push_cast
  exact mul_div_cancel_right₀ _ (by norm_num)

lemma sub_remainder {size : ℤ} (hsize : size ∣ 86400) (hpos : 0 < size * 1000000) :
    moment - remainder moment size
      = ofMicros ((Grid.fixed (size * 1000000) hpos).roundDown ⌊exactMicros moment⌋) := by
  obtain ⟨count, hcount⟩ := hsize
  have hsize : (0 : ℚ) < size := Int.cast_pos.2 (by omega)
  have hindex : (Grid.fixed (size * 1000000) hpos).index ⌊exactMicros moment⌋
      = ⌊moment / size⌋ + 719162 * count := by
    refine Grid.index_eq _ (ofMicros_le_iff.1 ?_) (lt_ofMicros_iff.1 ?_)
    · change ofMicros ((_ + 719162 * count) * (size * 1000000)) ≤ moment
      rw [ofMicros_fixed hcount]
      exact (le_div_iff₀ hsize).1 (Int.floor_le _)
    · change moment < ofMicros ((_ + 719162 * count + 1) * (size * 1000000))
      rw [add_right_comm, ofMicros_fixed hcount, Int.cast_add, Int.cast_one]
      exact (div_lt_iff₀ hsize).1 (Int.lt_floor_add_one _)
  rw [Grid.roundDown, hindex, remainder, sub_sub_cancel]
  exact (ofMicros_fixed hcount _).symm

/-- A snap to a unit of so many seconds goes to the start of the unit. -/
lemma snap_fixed (h : SupportedUnit unit g) (hfixed : IsFixed unit) :
    snap moment unit = some (some (ofMicros (g.roundDown ⌊exactMicros moment⌋))) := by
  cases h with
  | fixed hsize hweek hpos =>
    rw [snap, hsize, Option.filter_some_pos (by simpa using hweek)]
    simp only [sub_remainder (fixed_word hsize hweek) hpos]
  | week hwanted =>
    obtain ⟨size, hsize⟩ := Option.ne_none_iff_exists'.1 hfixed.2
    have hnone := week_word hwanted
    rw [hsize, Option.filter_some_pos (by simpa using hfixed.1)] at hnone
    cases hnone
  | months hcount hpos => exact absurd (month_word hcount).1 hfixed.2

lemma snapsDown_fixed (h : SupportedUnit unit g) (hfixed : IsFixed unit) :
    SnapsDown unit g moment := by
  refine ⟨_, snap_fixed h hfixed, ?_, ?_, ⟨_, rfl, ?_⟩, ?_⟩
  · rw [snap_fixed h hfixed, exactMicros_ofMicros, Int.floor_intCast, g.roundDown_idem]
  · exact ofMicros_le_iff.2 (g.roundDown_le _)
  · exact lt_ofMicros_iff.2 (g.lt_next _)
  · intro later snapped' hle hsnap
    rw [snap_fixed h hfixed] at hsnap
    obtain rfl := Option.some.inj (Option.some.inj hsnap)
    refine ofMicros_le_ofMicros.2 (g.roundDown_mono ?_)
    exact ofMicros_le_iff.1 (le_trans (ofMicros_le_iff.2 le_rfl) hle)

lemma snap_eq_some_iff (h : SupportedUnit unit g) (hcalendar : ¬ IsFixed unit) {snapped : ℚ} :
    snap moment unit = some (some snapped)
      ↔ InYears (.ofMicros (nearestMicros moment))
        ∧ InYears (.ofMicros (g.roundDown (nearestMicros moment)))
        ∧ snapped = ofMicros (g.roundDown (nearestMicros moment)) := by
  rw [snap_calendar h hcalendar, Option.bind_eq_some_iff]
  simp only [fromtimestamp, checked_eq_some_iff, Option.map_eq_some_iff, Option.some.injEq,
      timestamp]
  constructor
  · rintro ⟨stamp, ⟨hyears, rfl⟩, start, ⟨hstart, rfl⟩, rfl⟩
    rw [DateTime.micros_ofMicros] at hstart ⊢
    rw [DateTime.micros_ofMicros]
    exact ⟨hyears, hstart, rfl⟩
  · rintro ⟨hyears, hstart, rfl⟩
    refine ⟨_, ⟨hyears, rfl⟩, _, ⟨?_, rfl⟩, ?_⟩
    · rw [DateTime.micros_ofMicros]
      exact hstart
    · rw [DateTime.micros_ofMicros, DateTime.micros_ofMicros]

lemma snapsDown_calendar (h : SupportedUnit unit g) (hcalendar : ¬ IsFixed unit) :
    SnapsDown unit g moment ↔ Snappable g moment := by
  constructor
  · rintro ⟨snapped, hsnap, -, hle, -⟩
    obtain ⟨hyears, hstart, rfl⟩ := (snap_eq_some_iff h hcalendar).1 hsnap
    exact ⟨hyears, hstart, apart_iff.2 hle⟩
  · intro ⟨hyears, hstart, hapart⟩
    refine ⟨_, (snap_eq_some_iff h hcalendar).2 ⟨hyears, hstart, rfl⟩, ?_, apart_iff.1 hapart,
      ⟨_, rfl, ?_⟩, ?_⟩
    · refine (snap_eq_some_iff h hcalendar).2 ?_
      rw [nearestMicros_ofMicros, g.roundDown_idem]
      exact ⟨hstart, hstart, rfl⟩
    · by_contra hle
      exact absurd (g.lt_next (nearestMicros moment)) (not_lt.2 (le_nearestMicros (not_lt.1 hle)))
    · intro later snapped' hle hsnap
      obtain ⟨-, -, rfl⟩ := (snap_eq_some_iff h hcalendar).1 hsnap
      exact ofMicros_le_ofMicros.2 (g.roundDown_mono (nearestMicros_mono hle))

end RelativeTime

end Splunk

end Mockdr
