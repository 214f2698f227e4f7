import Mathlib
import Mockdr.Lib.Grid

/-!
# The Gregorian calendar

Days are counted from 1 January of the year 1, months from January of the year 0, without an end in
either direction.

* `monthStart` is the first day of a month, `monthIndex` the month of a day, and `months` the grid
  of the two.
* `DateTime` is a date and a time of the day; `DateTime.micros` are the microseconds from the first
  of all to it, and `DateTime.ofMicros` is the way back.
-/

namespace Mockdr

namespace Calendar

/-! ## Years and months -/

/-- Whether a year has a 29 February. -/
def leap (year : ℤ) : Bool := year % 4 = 0 && (year % 100 ≠ 0 || year % 400 = 0)

/-- The days in front of a year. -/
def daysBeforeYear (year : ℤ) : ℤ :=
  365 * (year - 1) + (year - 1) / 4 - (year - 1) / 100 + (year - 1) / 400

/-- The days of a month, January being 1. -/
def daysInMonth (year : ℤ) (month : ℕ) : ℕ :=
  if month = 2 then (if leap year then 29 else 28)
  else if month = 4 ∨ month = 6 ∨ month = 9 ∨ month = 11 then 30
  else 31

/-- The days of a year in front of its month, January being 0. -/
def daysBeforeMonth (year : ℤ) (month : ℤ) : ℤ :=
  let februaryEnd := if leap year then 60 else 59
  if month = 0 then 0
  else if month = 1 then 31
  else februaryEnd + (if month = 2 then 0 else if month = 3 then 31 else if month = 4 then 61
    else if month = 5 then 92 else if month = 6 then 122 else if month = 7 then 153
    else if month = 8 then 184 else if month = 9 then 214 else if month = 10 then 245 else 275)

/-- The first day of a month. -/
def monthStart (index : ℤ) : ℤ :=
  daysBeforeYear (index / 12) + daysBeforeMonth (index / 12) (index % 12)

/-- The days of a month. -/
def monthLength (index : ℤ) : ℕ := daysInMonth (index / 12) ((index % 12).toNat + 1)

lemma daysBeforeYear_succ (year : ℤ) :
    daysBeforeYear (year + 1) = daysBeforeYear year + (if leap year then 366 else 365) := by
  rw [daysBeforeYear, daysBeforeYear, leap]
  simp only [Bool.and_eq_true, Bool.or_eq_true, decide_eq_true_eq, ne_eq]
  split <;> omega

lemma monthStart_succ (index : ℤ) :
    monthStart (index + 1) = monthStart index + monthLength index := by
  obtain ⟨year, month, hmonth, hmonth', rfl⟩ :
      ∃ year month : ℤ, 0 ≤ month ∧ month < 12 ∧ index = 12 * year + month :=
    ⟨index / 12, index % 12, by omega, by omega, by omega⟩
  have hyear : (12 * year + month) / 12 = year := by omega
  have hmod : (12 * year + month) % 12 = month := by omega
  rw [monthStart, monthStart, monthLength, hyear, hmod]
  by_cases hlast : month = 11
  · have hnext : (12 * year + month + 1) / 12 = year + 1 := by omega
    have hfirst : (12 * year + month + 1) % 12 = 0 := by omega
    subst hlast
    rw [hnext, hfirst, daysBeforeYear_succ]
    cases hleap : leap year <;> simp [daysBeforeMonth, daysInMonth, hleap] <;> omega
  · have hsame : (12 * year + month + 1) / 12 = year := by omega
    have hnext : (12 * year + month + 1) % 12 = month + 1 := by omega
    rw [hsame, hnext]
    interval_cases month <;> cases hleap : leap year <;>
      simp [daysBeforeMonth, daysInMonth, hleap] <;> omega

lemma daysInMonth_bounds (year : ℤ) (month : ℕ) :
    28 ≤ daysInMonth year month ∧ daysInMonth year month ≤ 31 := by
  rw [daysInMonth]
  split_ifs <;> omega

lemma strictMono_monthStart : StrictMono monthStart := by
  refine strictMono_int_of_lt_succ fun index => ?_
  rw [monthStart_succ]
  have := (daysInMonth_bounds (index / 12) ((index % 12).toNat + 1)).1
  rw [monthLength]
  omega

lemma monthStart_near (index : ℤ) :
    146097 * (index - 12) - 24000 ≤ 4800 * monthStart index
      ∧ 4800 * monthStart index ≤ 146097 * (index - 12) + 24000 := by
  obtain ⟨year, month, hmonth, hmonth', rfl⟩ :
      ∃ year month : ℤ, 0 ≤ month ∧ month < 12 ∧ index = 12 * year + month :=
    ⟨index / 12, index % 12, by omega, by omega, by omega⟩
  have hyear : (12 * year + month) / 12 = year := by omega
  have hmod : (12 * year + month) % 12 = month := by omega
  rw [monthStart, hyear, hmod, daysBeforeYear]
  have hbefore : 146097 * month - 12000 ≤ 4800 * daysBeforeMonth year month
      ∧ 4800 * daysBeforeMonth year month ≤ 146097 * month + 6000 := by
    interval_cases month <;> cases hleap : leap year <;> simp [daysBeforeMonth, hleap]
  omega

/-- The month of a day: the one that its number is near to, or the one before it or after it. -/
def monthIndex (day : ℤ) : ℤ :=
  let near := day * 4800 / 146097 + 12
  if day < monthStart near then near - 1
  else if monthStart (near + 1) ≤ day then near + 1
  else near

lemma monthIndex_spec (day : ℤ) :
    monthStart (monthIndex day) ≤ day ∧ day < monthStart (monthIndex day + 1) := by
  rw [monthIndex]
  generalize hnear : day * 4800 / 146097 + 12 = near
  have hbefore := (monthStart_near (near - 1)).2
  have hbehind := (monthStart_near (near + 1 + 1)).1
  split_ifs with h h'
  · rw [sub_add_cancel]
    omega
  · omega
  · omega

/-- The months, as intervals of days. -/
def months : Grid ℤ := Grid.ofStrictMono monthStart monthIndex strictMono_monthStart monthIndex_spec

/-! ## Dates and times -/

/-- The microseconds of a day. -/
def dayMicros : ℤ := 86400000000

/-- A date and a time of the day. -/
@[ext] structure DateTime where
  year : ℤ
  month : ℕ
  day : ℕ
  hour : ℕ
  minute : ℕ
  second : ℕ
  microsecond : ℕ
  month_mem : 1 ≤ month ∧ month ≤ 12
  day_mem : 1 ≤ day ∧ day ≤ daysInMonth year month
  time_mem : hour < 24 ∧ minute < 60 ∧ second < 60 ∧ microsecond < 1000000
  deriving DecidableEq

namespace DateTime

/-- The month that a date is in. -/
def monthNumber (m : DateTime) : ℤ := 12 * m.year + m.month - 1

/-- The day that a date is. -/
def dayNumber (m : DateTime) : ℤ := monthStart m.monthNumber + m.day - 1

/-- The microseconds since the start of the day. -/
def timeMicros (m : DateTime) : ℤ :=
  m.hour * 3600000000 + m.minute * 60000000 + m.second * 1000000 + m.microsecond

/-- The microseconds since the start of the year 1. -/
def micros (m : DateTime) : ℤ := m.dayNumber * dayMicros + m.timeMicros

/-- The date and time that so many microseconds after the start of the year 1 are. -/
def ofMicros (n : ℤ) : DateTime where
  year := monthIndex (n / dayMicros) / 12
  month := (monthIndex (n / dayMicros) % 12).toNat + 1
  day := (n / dayMicros - monthStart (monthIndex (n / dayMicros))).toNat + 1
  hour := (n % dayMicros / 3600000000).toNat
  minute := (n % 3600000000 / 60000000).toNat
  second := (n % 60000000 / 1000000).toNat
  microsecond := (n % 1000000).toNat
  month_mem := by omega
  day_mem := by
    obtain ⟨hstart, hend⟩ := monthIndex_spec (n / dayMicros)
    rw [monthStart_succ, monthLength] at hend
    omega
  time_mem := by
    rw [dayMicros]
    omega

lemma monthNumber_div (m : DateTime) : m.monthNumber / 12 = m.year := by
  have := m.month_mem
  rw [monthNumber]
  omega

lemma monthNumber_mod (m : DateTime) : m.monthNumber % 12 = m.month - 1 := by
  have := m.month_mem
  rw [monthNumber]
  omega

lemma monthLength_monthNumber (m : DateTime) :
    monthLength m.monthNumber = daysInMonth m.year m.month := by
  have := m.month_mem
  rw [monthLength, monthNumber_div, monthNumber_mod]
  congr 1
  omega

lemma monthIndex_dayNumber (m : DateTime) : monthIndex m.dayNumber = m.monthNumber := by
  have hday := m.day_mem
  refine months.index_eq (i := m.monthNumber) ?_ ?_
  · change monthStart m.monthNumber ≤ m.dayNumber
    rw [dayNumber]
    omega
  · change m.dayNumber < monthStart (m.monthNumber + 1)
    rw [monthStart_succ, monthLength_monthNumber, dayNumber]
    omega

lemma timeMicros_mem (m : DateTime) : 0 ≤ m.timeMicros ∧ m.timeMicros < dayMicros := by
  have := m.time_mem
  rw [timeMicros, dayMicros]
  omega

lemma micros_div (m : DateTime) : m.micros / dayMicros = m.dayNumber := by
  have := m.timeMicros_mem
  rw [micros]
  rw [dayMicros] at this ⊢
  omega

lemma micros_mod (m : DateTime) : m.micros % dayMicros = m.timeMicros := by
  have := m.timeMicros_mem
  rw [micros]
  rw [dayMicros] at this ⊢
  omega

@[simp] lemma ofMicros_micros (m : DateTime) : ofMicros m.micros = m := by
  have hindex : monthIndex (m.micros / dayMicros) = m.monthNumber := by
    rw [micros_div, monthIndex_dayNumber]
  have hmonth := m.month_mem
  have hday := m.day_mem
  have htime := m.time_mem
  have hmod : m.micros % 86400000000 = m.timeMicros := m.micros_mod
  rw [timeMicros] at hmod
  ext
  · change monthIndex (m.micros / dayMicros) / 12 = m.year
    rw [hindex, monthNumber_div]
  · change (monthIndex (m.micros / dayMicros) % 12).toNat + 1 = m.month
    rw [hindex, monthNumber_mod]
    omega
  · change (m.micros / dayMicros - monthStart (monthIndex (m.micros / dayMicros))).toNat + 1 = m.day
    rw [hindex, micros_div, dayNumber]
    omega
  · change (m.micros % 86400000000 / 3600000000).toNat = m.hour
    omega
  · change (m.micros % 3600000000 / 60000000).toNat = m.minute
    omega
  · change (m.micros % 60000000 / 1000000).toNat = m.second
    omega
  · change (m.micros % 1000000).toNat = m.microsecond
    omega

@[simp] lemma micros_ofMicros (n : ℤ) : (ofMicros n).micros = n := by
  have hspec := monthIndex_spec (n / dayMicros)
  have hnumber : (ofMicros n).monthNumber = monthIndex (n / dayMicros) := by
    change 12 * (monthIndex (n / dayMicros) / 12)
      + ((monthIndex (n / dayMicros) % 12).toNat + 1 : ℕ) - 1 = _
    omega
  have hday : (ofMicros n).dayNumber = n / dayMicros := by
    rw [dayNumber, hnumber]
    change monthStart (monthIndex (n / dayMicros))
      + ((n / dayMicros - monthStart (monthIndex (n / dayMicros))).toNat + 1 : ℕ) - 1 = _
    omega
  have htime : (ofMicros n).timeMicros = n % dayMicros := by
    rw [timeMicros]
    change ((n % dayMicros / 3600000000).toNat : ℤ) * 3600000000
      + (n % 3600000000 / 60000000).toNat * 60000000 + (n % 60000000 / 1000000).toNat * 1000000
      + (n % 1000000).toNat = n % dayMicros
    -- each unit is what the one above it leaves
    have hhour : n % 3600000000 = n % dayMicros % 3600000000 :=
      (Int.emod_emod_of_dvd n (by decide)).symm
    have hminute : n % 60000000 = n % 3600000000 % 60000000 :=
      (Int.emod_emod_of_dvd n (by decide)).symm
    have hsecond : n % 1000000 = n % 60000000 % 1000000 :=
      (Int.emod_emod_of_dvd n (by decide)).symm
    rw [Int.toNat_of_nonneg (Int.ediv_nonneg (Int.emod_nonneg n (by decide)) (by decide)),
      Int.toNat_of_nonneg (Int.ediv_nonneg (Int.emod_nonneg n (by decide)) (by decide)),
      Int.toNat_of_nonneg (Int.ediv_nonneg (Int.emod_nonneg n (by decide)) (by decide)),
      Int.toNat_of_nonneg (Int.emod_nonneg n (by decide)), add_assoc, add_assoc, hsecond,
      Int.ediv_mul_add_emod, hminute, Int.ediv_mul_add_emod, hhour, Int.ediv_mul_add_emod]
  rw [micros, hday, htime]
  exact Int.ediv_mul_add_emod n dayMicros

lemma micros_injective : Function.Injective micros := by
  intro m m' h
  rw [← ofMicros_micros m, h, ofMicros_micros]

end DateTime

end Calendar

end Mockdr
