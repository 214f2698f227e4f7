import Mockdr.Elastic.DateMath

/-!
# The units of date math as grids

* `units` is the grid of the years, months, weeks and so on, as intervals of microseconds.
* `micros_roundDown` and `micros_offsetBy_one`: rounding down goes to the start of the unit that a
  moment is in, and the next unit is the one behind it.
* `inYears_iff`: the moments that a `datetime` can be are an interval; `roundDown` stays in it.
-/

namespace Mockdr

namespace DateMath

open Calendar

/-- The days, as intervals of microseconds. -/
def days : Grid ℤ := Grid.fixed dayMicros (by decide)

/-- The units, as intervals of microseconds. -/
def units : DateUnit → Grid ℤ
  | .y => (days.coarsen months).coarsen (Grid.fixed 12 (by decide))
  | .M => days.coarsen months
  | .w => Grid.fixed 604800000000 (by decide)
  | .d => days
  | .h | .H => Grid.fixed 3600000000 (by decide)
  | .m => Grid.fixed 60000000 (by decide)
  | .s => Grid.fixed 1000000 (by decide)

/-- The moment some units later, in whatever year that is. -/
def offsetBy (m : DateTime) (n : ℤ) : DateUnit → DateTime
  | .y => shiftMonths m (n * 12)
  | .M => shiftMonths m n
  | unit => .ofMicros (m.micros + n * unit.simple)

variable (m : DateTime) (u : DateUnit)

lemma applyOffset_eq (sign count : ℤ) :
    applyOffset m sign count u = checked (offsetBy m (sign * count) u) := by
  cases u <;> rfl

lemma nextUnit_eq : nextUnit m u = checked (offsetBy m 1 u) := by
  have hplus : ∀ u : DateUnit, plus m u.simple = checked (.ofMicros (m.micros + 1 * u.simple)) := by
    intro u
    rw [one_mul]
    rfl
  cases u with
  | y => exact congrArg checked (congrArg (shiftMonths m) (by decide))
  | M => rfl
  | w => exact hplus .w
  | d => exact hplus .d
  | h => exact hplus .h
  | H => exact hplus .H
  | m => exact hplus .m
  | s => exact hplus .s

/-! ## Rounding -/

lemma months_index : (units .M).index m.micros = m.monthNumber := by
  change monthIndex (m.micros / dayMicros) = m.monthNumber
  rw [m.micros_div, m.monthIndex_dayNumber]

lemma years_index : (units .y).index m.micros = m.year := by
  change (units .M).index m.micros / 12 = m.year
  rw [months_index, m.monthNumber_div]

lemma years_start (year : ℤ) : (units .y).start year = (units .M).start (year * 12) := rfl

lemma micros_sameDay {m m' : DateTime} {hour minute second microsecond : ℕ}
    (hday : m'.dayNumber = m.dayNumber) (hhour : m'.hour = hour) (hminute : m'.minute = minute)
    (hsecond : m'.second = second) (hmicrosecond : m'.microsecond = microsecond) :
    m'.micros = m.dayNumber * 86400000000
      + (hour * 3600000000 + minute * 60000000 + second * 1000000 + microsecond) := by
  rw [DateTime.micros, DateTime.timeMicros, hday, hhour, hminute, hsecond, hmicrosecond, dayMicros]

lemma micros_first {m' : DateTime} (hday : m'.day = 1)
    (htime : m'.hour = 0 ∧ m'.minute = 0 ∧ m'.second = 0 ∧ m'.microsecond = 0) :
    m'.micros = (units .M).start m'.monthNumber := by
  obtain ⟨hhour, hminute, hsecond, hmicrosecond⟩ := htime
  rw [micros_sameDay rfl hhour hminute hsecond hmicrosecond, DateTime.dayNumber, hday]
  change _ = monthStart m'.monthNumber * dayMicros
  rw [dayMicros]
  omega

/-- Rounding down goes to the start of the unit that a moment is in. -/
lemma micros_roundDown : (roundDown m u).micros = (units u).roundDown m.micros := by
  have hmicros := micros_sameDay (m := m) rfl rfl rfl rfl rfl
  have hmem := m.time_mem
  have hfixed : ∀ size (h : 0 < size), (Grid.fixed size h).roundDown m.micros
      = m.micros / size * size := fun _ _ => rfl
  have hmidnight : (midnight m).micros = m.dayNumber * 86400000000
      + ((0 : ℕ) * 3600000000 + (0 : ℕ) * 60000000 + (0 : ℕ) * 1000000 + (0 : ℕ)) :=
    micros_sameDay rfl rfl rfl rfl rfl
  have hhour : (roundDown m .h).micros = m.dayNumber * 86400000000
      + (m.hour * 3600000000 + (0 : ℕ) * 60000000 + (0 : ℕ) * 1000000 + (0 : ℕ)) :=
    micros_sameDay rfl rfl rfl rfl rfl
  cases u with
  | y =>
    have hnumber : (roundDown m .y).monthNumber = 12 * m.year + (1 : ℕ) - 1 := rfl
    have hfirst : 12 * m.year + (1 : ℕ) - 1 = m.year * 12 := by omega
    rw [micros_first rfl ⟨rfl, rfl, rfl, rfl⟩, Grid.roundDown, years_index, years_start, hnumber,
      hfirst]
  | M =>
    have hnumber : (roundDown m .M).monthNumber = m.monthNumber := rfl
    rw [micros_first rfl ⟨rfl, rfl, rfl, rfl⟩, Grid.roundDown, months_index, hnumber]
  | w =>
    rw [roundDown, DateTime.micros_ofMicros, units, hfixed, hmidnight, weekday, dayMicros]
    omega
  | d =>
    rw [roundDown, units, days, hfixed, hmidnight, dayMicros]
    omega
  | h =>
    rw [units, hfixed, hhour]
    omega
  | H =>
    rw [units, hfixed, show roundDown m .H = roundDown m .h from rfl, hhour]
    omega
  | m =>
    have hminute : (roundDown m .m).micros = m.dayNumber * 86400000000
        + (m.hour * 3600000000 + m.minute * 60000000 + (0 : ℕ) * 1000000 + (0 : ℕ)) :=
      micros_sameDay rfl rfl rfl rfl rfl
    rw [units, hfixed, hminute]
    omega
  | s =>
    have hsecond : (roundDown m .s).micros = m.dayNumber * 86400000000
        + (m.hour * 3600000000 + m.minute * 60000000 + m.second * 1000000 + (0 : ℕ)) :=
      micros_sameDay rfl rfl rfl rfl rfl
    rw [units, hfixed, hsecond]
    omega

lemma monthNumber_shiftMonths (n : ℤ) :
    (shiftMonths m n).monthNumber = m.monthNumber + n := by
  change 12 * (m.year + (m.month - 1 + n) / 12) + (((m.month - 1 + n) % 12).toNat + 1 : ℕ) - 1
    = 12 * m.year + m.month - 1 + n
  omega

lemma micros_shiftMonths_first (n : ℤ) (h : m.day = 1)
    (htime : m.hour = 0 ∧ m.minute = 0 ∧ m.second = 0 ∧ m.microsecond = 0) :
    (shiftMonths m n).micros = (units .M).start (m.monthNumber + n) := by
  rw [← monthNumber_shiftMonths]
  refine micros_first ?_ htime
  change min m.day _ = 1
  rw [h]
  exact Nat.min_eq_left (firstDay_mem _ _).2

/-- The unit behind the one that a moment is in. -/
lemma micros_offsetBy_one : (offsetBy (roundDown m u) 1 u).micros = (units u).next m.micros := by
  have hfixed : ∀ size (h : 0 < size), (Grid.fixed size h).next m.micros
      = (Grid.fixed size h).roundDown m.micros + size := by
    intro size h
    change (m.micros / size + 1) * size = m.micros / size * size + size
    ring
  have hsimple : ∀ u : DateUnit, offsetBy (roundDown m u) 1 u
      = .ofMicros ((roundDown m u).micros + 1 * u.simple) →
      (units u).next m.micros = (units u).roundDown m.micros + u.simple →
      (offsetBy (roundDown m u) 1 u).micros = (units u).next m.micros := by
    intro u hoffset hnext
    rw [hoffset, DateTime.micros_ofMicros, micros_roundDown, hnext, one_mul]
  cases u with
  | y =>
    have hshift : (offsetBy (roundDown m .y) 1 .y).micros
        = (units .M).start ((roundDown m .y).monthNumber + 1 * 12) :=
      micros_shiftMonths_first (roundDown m .y) (1 * 12) rfl ⟨rfl, rfl, rfl, rfl⟩
    have hnumber : (roundDown m .y).monthNumber = 12 * m.year + (1 : ℕ) - 1 := rfl
    have hnext : 12 * m.year + (1 : ℕ) - 1 + 1 * 12 = (m.year + 1) * 12 := by omega
    rw [hshift, Grid.next, years_index, years_start, hnumber, hnext]
  | M =>
    have hshift : (offsetBy (roundDown m .M) 1 .M).micros
        = (units .M).start ((roundDown m .M).monthNumber + 1) :=
      micros_shiftMonths_first (roundDown m .M) 1 rfl ⟨rfl, rfl, rfl, rfl⟩
    have hnumber : (roundDown m .M).monthNumber = m.monthNumber := rfl
    rw [hshift, Grid.next, months_index, hnumber]
  | w => exact hsimple .w rfl (hfixed _ (by decide))
  | d => exact hsimple .d rfl (hfixed _ (by decide))
  | h => exact hsimple .h rfl (hfixed _ (by decide))
  | H => exact hsimple .H rfl (hfixed _ (by decide))
  | m => exact hsimple .m rfl (hfixed _ (by decide))
  | s => exact hsimple .s rfl (hfixed _ (by decide))

/-! ## The years of a `datetime` -/

/-- The first microsecond behind the year 9999. -/
def endMicros : ℤ := 3652059 * dayMicros

/-- The moments that a `datetime` can be. -/
lemma inYears_iff : InYears m ↔ 0 ≤ m.micros ∧ m.micros < endMicros := by
  have hfirst : (units .y).start 1 = 0 := by
    change monthStart 12 * dayMicros = 0
    rw [show monthStart 12 = 0 by decide, zero_mul]
  have hend : (units .y).start 10000 = endMicros := by
    change monthStart 120000 * dayMicros = endMicros
    rw [show monthStart 120000 = 3652059 by decide, endMicros]
  rw [InYears, ← years_index, ← (units .y).start_le_iff, hfirst, ← hend, (units .y).lt_start_iff]
  exact and_congr_right' Int.lt_add_one_iff.symm

variable {m}

lemma units_index_zero : (units u).start ((units u).index 0) = 0 := by
  cases u <;> decide

lemma roundDown_inYears (h : InYears m) : InYears (roundDown m u) := by
  rw [inYears_iff, micros_roundDown]
  rw [inYears_iff] at h
  have hmono := (units u).roundDown_mono h.1
  rw [Grid.roundDown, units_index_zero] at hmono
  exact ⟨hmono, lt_of_le_of_lt ((units u).roundDown_le m.micros) h.2⟩

end DateMath

end Mockdr
