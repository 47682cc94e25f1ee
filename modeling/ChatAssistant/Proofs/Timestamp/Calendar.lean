import ChatAssistant.Timestamp
import Mathlib.Tactic.IntervalCases

/-!
# The calendar

The date of a day is a date of the calendar, and the day of that date is the day.  Years are counted from March
in eras of 400 years, so that a leap day is the last day of its year and the days of an era are always as many.
-/

namespace ChatAssistant.Timestamp

/-! ## Years of an era -/

/-- The year of an era in which a day of the era lies. -/
def yearOfEra (dayOfEra : Int) : Int :=
  (dayOfEra - dayOfEra / 1460 + dayOfEra / 36524 - dayOfEra / 146096) / 365

/-- The day of an era with which a year of the era starts. -/
def firstDay (yearOfEra : Int) : Int := 365 * yearOfEra + yearOfEra / 4 - yearOfEra / 100

-- The last day of an era is left out: it would start a century of its own.
theorem yearOfEra_bounds {day : Int} (h : 0 ≤ day ∧ day < 146096) :
    yearOfEra day / 100 = day / 36524 ∧ 365 * yearOfEra day ≤ day - day / 1460 + day / 36524 ∧
      day - day / 1460 + day / 36524 < 365 * yearOfEra day + 365 := by
  unfold yearOfEra
  omega

theorem firstDay_yearOfEra_le {day : Int} (h : 0 ≤ day ∧ day < 146096) : firstDay (yearOfEra day) ≤ day := by
  obtain ⟨hcentury, hlow, hhigh⟩ := yearOfEra_bounds h
  unfold firstDay
  omega

-- A year is longer by a day where the next one starts another four years, unless it starts another century.
theorem firstDay_succ (year : Int) :
    firstDay (year + 1) =
      firstDay year + 365 + (if year % 4 = 3 then 1 else 0) - (if year % 100 = 99 then 1 else 0) := by
  unfold firstDay
  split_ifs <;> omega

theorem lt_firstDay_yearOfEra_succ {day : Int} (h : 0 ≤ day ∧ day < 146096) :
    day < firstDay (yearOfEra day + 1) := by
  obtain ⟨hcentury, hlow, hhigh⟩ := yearOfEra_bounds h
  rw [firstDay_succ]
  unfold firstDay
  split_ifs <;> omega

/-- A day of a year that is counted from March: the year after it has a leap day where it has 366 days. -/
structure IsDayOfYear (year day : Int) : Prop where
  nonneg : 0 ≤ day
  le_last : day ≤ 365
  leap : day = 365 → isLeapYear (year + 1) = true

theorem isLeapYear_iff {year : Int} :
    isLeapYear year = true ↔ year % 4 = 0 ∧ (year % 100 ≠ 0 ∨ year % 400 = 0) := by
  simp [isLeapYear]

theorem isDayOfYear_yearOfEra {day : Int} (h : 0 ≤ day ∧ day < 146097) :
    (0 ≤ yearOfEra day ∧ yearOfEra day < 400) ∧
      IsDayOfYear (yearOfEra day) (day - firstDay (yearOfEra day)) := by
  by_cases hlast : day = 146096
  · subst hlast
    exact ⟨by decide, by decide, by decide, fun _ => by decide⟩
  · have hday : 0 ≤ day ∧ day < 146096 := by omega
    obtain ⟨hcentury, hlow, hhigh⟩ := yearOfEra_bounds hday
    have hfirst := firstDay_yearOfEra_le hday
    have hnext := lt_firstDay_yearOfEra_succ hday
    rw [firstDay_succ] at hnext
    refine ⟨by omega, by omega, by split_ifs at hnext <;> omega, fun hleap => ?_⟩
    rw [isLeapYear_iff]
    split_ifs at hnext <;> omega

/-! ## Months of a year -/

/-- The month of a year, counted from March, in which a day of the year lies. -/
def monthOfDay (dayOfYear : Int) : Int := (5 * dayOfYear + 2) / 153

/-- The day of a year with which a month starts. -/
def firstDayOfMonth (month : Int) : Int := (153 * month + 2) / 5

/-- The number of a month that is counted from March. -/
def monthNumber (month : Int) : Int := if month < 10 then month + 3 else month - 9

theorem IsDayOfYear.monthOfDay_le {year day : Int} (h : IsDayOfYear year day) :
    0 ≤ monthOfDay day ∧ monthOfDay day ≤ 11 := by
  obtain ⟨hnonneg, hlast, -⟩ := h
  unfold monthOfDay
  omega

theorem monthOfDay_bounds (day : Int) :
    firstDayOfMonth (monthOfDay day) ≤ day ∧ day < firstDayOfMonth (monthOfDay day + 1) := by
  unfold firstDayOfMonth monthOfDay
  omega

-- The last month is left out: it is February, which ends with its year.
theorem daysInMonth_eq {month : Int} (h : 0 ≤ month ∧ month < 11) (year : Int) :
    (daysInMonth year (monthNumber month).toNat : Int) =
      firstDayOfMonth (month + 1) - firstDayOfMonth month := by
  obtain ⟨hlow, hhigh⟩ := h
  interval_cases month <;> rfl

theorem daysInMonth_february (year : Int) :
    daysInMonth year (monthNumber 11).toNat = if isLeapYear year then 29 else 28 := rfl

theorem daysInMonth_le (year : Int) (month : Nat) : daysInMonth year month ≤ 31 := by
  unfold daysInMonth
  split_ifs <;> decide

/-- A date of the calendar. -/
structure IsDate (year : Int) (month day : Nat) : Prop where
  month_pos : 1 ≤ month
  month_le : month ≤ 12
  day_pos : 1 ≤ day
  day_le : day ≤ daysInMonth year month

/-- The date of a day of a year that is counted from March. -/
def dateInYear (year dayOfYear : Int) : Int × Nat × Nat :=
  let month := monthOfDay dayOfYear
  (if monthNumber month ≤ 2 then year + 1 else year, (monthNumber month).toNat,
    (dayOfYear - firstDayOfMonth month + 1).toNat)

theorem isDate_dateInYear {year day : Int} (h : IsDayOfYear year day) :
    IsDate (dateInYear year day).1 (dateInYear year day).2.1 (dateInYear year day).2.2 := by
  have hmonth := h.monthOfDay_le
  obtain ⟨hnonneg, hlast, hleap⟩ := h
  obtain ⟨hfirst, hnext⟩ := monthOfDay_bounds day
  unfold dateInYear
  dsimp only
  generalize monthOfDay day = month at *
  by_cases hfebruary : month = 11
  · subst hfebruary
    refine ⟨by decide, by decide, by omega, ?_⟩
    have hyear : (if monthNumber 11 ≤ 2 then year + 1 else year) = year + 1 := rfl
    have hstart : firstDayOfMonth 11 = 337 := rfl
    rw [daysInMonth_february, hyear, hstart]
    split
    · omega
    · next hcommon =>
      have hne : day ≠ 365 := fun hday => hcommon (hleap hday)
      omega
  · have hdays := daysInMonth_eq (by omega : 0 ≤ month ∧ month < 11)
      (if monthNumber month ≤ 2 then year + 1 else year)
    refine ⟨?_, ?_, by omega, by omega⟩
    · unfold monthNumber
      omega
    · unfold monthNumber
      omega

theorem daysOfDate_dateInYear {year day : Int} (h : IsDayOfYear year day) :
    daysOfDate (dateInYear year day).1 (dateInYear year day).2.1 (dateInYear year day).2.2 =
      year / 400 * 146097 + (firstDay (year % 400) + day) - 719468 := by
  have hmonth := h.monthOfDay_le
  obtain ⟨hfirst, -⟩ := monthOfDay_bounds day
  unfold dateInYear daysOfDate
  dsimp only
  generalize monthOfDay day = month at *
  have hnumber : ((monthNumber month).toNat : Int) = monthNumber month := by
    unfold monthNumber
    omega
  have hback : (monthNumber month + 9) % 12 = month := by
    unfold monthNumber
    omega
  have hyear : (if (monthNumber month).toNat ≤ 2 then
      (if monthNumber month ≤ 2 then year + 1 else year) - 1
      else if monthNumber month ≤ 2 then year + 1 else year) = year := by
    split_ifs <;> omega
  have hday : ((day - firstDayOfMonth month + 1).toNat : Int) = day - firstDayOfMonth month + 1 := by omega
  rw [hyear, hnumber, hback, hday]
  unfold firstDay firstDayOfMonth
  omega

/-! ## Days and dates -/

/-- The era in which a day lies; eras are counted from the one that starts in March of the year zero. -/
def eraOf (days : Int) : Int := (days + 719468) / 146097

/-- The day of its era that a day is. -/
def dayOfEra (days : Int) : Int := (days + 719468) % 146097

theorem dateOfDays_eq (days : Int) :
    ∃ year day, IsDayOfYear year day ∧ dateOfDays days = dateInYear year day ∧
      year / 400 * 146097 + (firstDay (year % 400) + day) - 719468 = days := by
  have hera : eraOf days * 146097 + dayOfEra days = days + 719468 := by
    unfold eraOf dayOfEra
    omega
  have hbounds : 0 ≤ dayOfEra days ∧ dayOfEra days < 146097 := by
    unfold dayOfEra
    omega
  obtain ⟨⟨hlow, hhigh⟩, hday⟩ := isDayOfYear_yearOfEra hbounds
  refine ⟨yearOfEra (dayOfEra days) + eraOf days * 400, dayOfEra days - firstDay (yearOfEra (dayOfEra days)),
    ⟨hday.nonneg, hday.le_last, fun hlast => ?_⟩, rfl, ?_⟩
  · have hleap := hday.leap hlast
    rw [isLeapYear_iff] at hleap ⊢
    omega
  · have hquotient : (yearOfEra (dayOfEra days) + eraOf days * 400) / 400 = eraOf days := by omega
    have hyear : (yearOfEra (dayOfEra days) + eraOf days * 400) % 400 = yearOfEra (dayOfEra days) := by omega
    rw [hquotient, hyear]
    omega

theorem isDate_dateOfDays (days : Int) :
    IsDate (dateOfDays days).1 (dateOfDays days).2.1 (dateOfDays days).2.2 := by
  obtain ⟨year, day, hday, hdate, -⟩ := dateOfDays_eq days
  rw [hdate]
  exact isDate_dateInYear hday

/-- The day of the date of a day is the day. -/
theorem daysOfDate_dateOfDays (days : Int) :
    daysOfDate (dateOfDays days).1 (dateOfDays days).2.1 (dateOfDays days).2.2 = days := by
  obtain ⟨year, day, hday, hdate, hdays⟩ := dateOfDays_eq days
  rw [hdate, daysOfDate_dateInYear hday, hdays]

end ChatAssistant.Timestamp
