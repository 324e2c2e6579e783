/-
The calendar, counted from March.

The date of a day is found by counting years from the first of March within eras of 400 years
(`Counted`): the 29th of February is then the last day of its year, and months before it have
lengths that one line approximates.  Every day is counted so (`counted_ofDays`), the date it names
is one that the calendar has (`Counted.isValid`), and the day of that date is the day
(`Counted.toDays_date`).
-/
import Mathlib.Tactic
import Turnstile.Time.Timestamp

namespace Turnstile.Date

/-! ### Years of an era -/

/-- Days of an era before one of its years. -/
def yearStart (year : Int) : Int := 365 * year + year / 4 - year / 100

/-- Is the year after it, in which its February lies, one with a 29th of February? -/
def EndsLong (year : Int) : Prop := (year + 1) % 4 = 0 ∧ ((year + 1) % 100 ≠ 0 ∨ year = 399)

/-- A day of an era by its century, the four years in it and the day of these, for all days but the
last. -/
theorem exists_century {day : Int} (hlow : 0 ≤ day) (hhigh : day < 146096) :
    ∃ century cycle rest : Int, day = 36524 * century + 1461 * cycle + rest ∧
      (0 ≤ century ∧ century ≤ 3) ∧ (0 ≤ cycle ∧ cycle ≤ 24) ∧ (0 ≤ rest ∧ rest ≤ 1460) ∧
      (cycle = 24 → rest < 1460) :=
  ⟨day / 36524, day % 36524 / 1461, day % 36524 % 1461, by omega, by omega, by omega, by omega,
    by omega⟩

section Cycle

variable {century cycle rest day : Int}

/-- The year of a day among the four years. -/
theorem exists_year_in_cycle (hcentury : 0 ≤ century ∧ century ≤ 3)
    (hcycle : 0 ≤ cycle ∧ cycle ≤ 24) (hrest : 0 ≤ rest ∧ rest ≤ 1460)
    (hlast : cycle = 24 → rest < 1460) (hday : day = 36524 * century + 1461 * cycle + rest) :
    ∃ j : Int, (day - day / 1460 + day / 36524 - day / 146096) / 365 =
        100 * century + 4 * cycle + j ∧
      (0 ≤ j ∧ j ≤ 3) ∧ 365 * j ≤ rest ∧ (j < 3 → rest < 365 * j + 365) := by
  obtain ⟨e, he⟩ : ∃ e, e = (24 * century + cycle + rest) / 1460 := ⟨_, rfl⟩
  have hshort : e = 0 ∧ rest < 1460 ∨ e = 1 ∧ 1095 < rest := by omega
  have h1460 : day / 1460 = 25 * century + cycle + e := by omega
  have h36524 : day / 36524 = century := by omega
  have h146096 : day / 146096 = 0 := by omega
  have hyear : (day - day / 1460 + day / 36524 - day / 146096) / 365 =
      100 * century + 4 * cycle + (rest - e) / 365 := by
    rw [h1460, h36524, h146096, hday]
    clear * -
    omega
  refine ⟨(rest - e) / 365, hyear, ?_⟩
  clear * - hshort hrest
  omega

/-- The day of the year is its day among the four years less the years before. -/
theorem yearStart_in_cycle {j : Int} (hcycle : 0 ≤ cycle ∧ cycle ≤ 24) (hj : 0 ≤ j ∧ j ≤ 3) :
    yearStart (100 * century + 4 * cycle + j) = 36524 * century + 1461 * cycle + 365 * j := by
  have h4 : (100 * century + 4 * cycle + j) / 4 = 25 * century + cycle := by omega
  have h100 : (100 * century + 4 * cycle + j) / 100 = century := by omega
  rw [yearStart, h4, h100]
  ring

theorem endsLong_in_cycle {j : Int} (hcycle : 0 ≤ cycle ∧ cycle ≤ 24)
    (hlast : cycle = 24 → rest < 1460) (hj : 0 ≤ j ∧ j ≤ 3)
    (hbefore : j < 3 → rest < 365 * j + 365) (hrest : rest ≤ 1460) (hday : 365 * j + 365 ≤ rest) :
    EndsLong (100 * century + 4 * cycle + j) := by
  have h3 : j = 3 := by omega
  have h24 : cycle ≠ 24 := fun h => by have := hlast h; omega
  subst h3
  exact ⟨by omega, .inl (by omega)⟩

end Cycle

/-- The year of a day of an era starts at most 365 days before it, and 365 only if the year ends
long. -/
theorem year_of_day {day : Int} (hlow : 0 ≤ day) (hhigh : day < 146097) :
    ∃ year : Int, (day - day / 1460 + day / 36524 - day / 146096) / 365 = year ∧
      (0 ≤ year ∧ year ≤ 399) ∧ yearStart year ≤ day ∧ day ≤ yearStart year + 365 ∧
      (day = yearStart year + 365 → EndsLong year) := by
  by_cases hlast : day = 146096
  · subst hlast
    exact ⟨399, by decide, by decide, by decide, by decide, fun _ => ⟨by decide, .inr rfl⟩⟩
  · obtain ⟨century, cycle, rest, hday, hcentury, hcycle, hrest, hshort⟩ :=
      exists_century hlow (by omega)
    obtain ⟨j, hyear, hj, hstart, hstop⟩ :=
      exists_year_in_cycle hcentury hcycle hrest hshort hday
    refine ⟨_, hyear, ?_⟩
    clear hyear
    rw [yearStart_in_cycle hcycle hj]
    refine ⟨by omega, by omega, by omega, fun h => ?_⟩
    exact endsLong_in_cycle hcycle hshort hj hstop hrest.2 (by omega)

/-! ### Days counted from March -/

/-- Days of a year, from March, before one of its months. -/
def monthStart (month : Int) : Int := (153 * month + 2) / 5

/-- The date of a day of a month, both from nought, and of a year of an era, from March. -/
def fromMarch (era year month day : Int) : Date :=
  ⟨year + era * 400 + (if month < 10 then 0 else 1),
    (if month < 10 then month + 3 else month - 9).toNat, (day + 1).toNat⟩

/-- How a day is counted from March. -/
structure Counted (days era year month day : Int) : Prop where
  sum : days + 719468 = era * 146097 + (yearStart year + (monthStart month + day))
  years : 0 ≤ year ∧ year ≤ 399
  months : 0 ≤ month ∧ month ≤ 11
  inMonth : 0 ≤ day ∧ monthStart month + day < monthStart (month + 1)
  inYear : monthStart month + day ≤ 365
  long : monthStart month + day = 365 → EndsLong year

/-- The month of a day of the year. -/
theorem month_of_day {day : Int} (hlow : 0 ≤ day) (hhigh : day ≤ 365) :
    ∃ month : Int, (5 * day + 2) / 153 = month ∧ (0 ≤ month ∧ month ≤ 11) ∧
      monthStart month ≤ day ∧ day < monthStart (month + 1) := by
  simp only [monthStart]
  exact ⟨_, rfl, by omega, by omega, by omega⟩

/-- Every day is counted from March, and its date is what the count says. -/
theorem counted_ofDays (days : Int) :
    ∃ era year month day, Counted days era year month day ∧
      ofDays days = fromMarch era year month day := by
  obtain ⟨era, hera⟩ : ∃ era, era = (days + 719468) / 146097 := ⟨_, rfl⟩
  obtain ⟨dayOfEra, hday⟩ : ∃ d, d = days + 719468 - era * 146097 := ⟨_, rfl⟩
  obtain ⟨year, hyear, hbounds, hstart, hstop, hlong⟩ :=
    year_of_day (show 0 ≤ dayOfEra by omega) (by omega)
  obtain ⟨month, hmonth, hmonths, hfirst, hnext⟩ :=
    month_of_day (show 0 ≤ dayOfEra - yearStart year by omega) (by omega)
  refine ⟨era, year, month, dayOfEra - yearStart year - monthStart month, ?_, ?_⟩
  · clear hyear hmonth hera
    exact
      { sum := by omega
        years := hbounds
        months := hmonths
        inMonth := ⟨by omega, by omega⟩
        inYear := by omega
        long := fun h => hlong (by omega) }
  · have hofDay : dayOfEra - (365 * year + year / 4 - year / 100) = dayOfEra - yearStart year := rfl
    simp only [ofDays, Int.fdiv_eq_ediv_of_nonneg _ (show (0 : Int) ≤ 146097 by decide), ← hera,
      ← hday, hyear, hofDay, hmonth, fromMarch, monthStart]
    by_cases hm : month < 10
    · simp only [if_pos hm, if_neg (show ¬ month + 3 ≤ 2 by omega)]
    · simp only [if_neg hm, if_pos (show month - 9 ≤ 2 by omega)]

/-! ### The date of a count -/

/-- The day of a date by its year and month from March. -/
theorem toDays_eq {d : Date} {era year month : Int} (hyears : 0 ≤ year ∧ year ≤ 399)
    (hyear : (if d.month ≤ 2 then d.year - 1 else d.year) = year + era * 400)
    (hmonth : (if d.month > 2 then (d.month : Int) - 3 else d.month + 9) = month) :
    d.toDays + 719468 = era * 146097 + (yearStart year + (monthStart month + (d.day - 1))) := by
  have hera : (year + era * 400) / 400 = era := by omega
  have hleft : year + era * 400 - era * 400 = year := by omega
  simp only [toDays, hyear, hmonth, Int.fdiv_eq_ediv_of_nonneg _ (show (0 : Int) ≤ 400 by decide),
    hera, hleft, yearStart, monthStart]
  clear hera hleft hyear hmonth
  omega

theorem isLeapYear_of_endsLong {year : Int} (h : EndsLong year) (era : Int) :
    isLeapYear (year + era * 400 + 1) = true := by
  obtain ⟨h4, h100⟩ := h
  simp only [isLeapYear, Bool.and_eq_true, Bool.or_eq_true, beq_iff_eq, bne_iff_ne]
  omega

namespace Counted

variable {days era year month day : Int}

theorem toDays_fromMarch (h : Counted days era year month day) :
    (fromMarch era year month day).toDays = days := by
  have hsum := h.sum
  have hmonths := h.months
  have hday := h.inMonth.1
  have heq : (fromMarch era year month day).toDays + 719468 = era * 146097 +
      (yearStart year + (monthStart month + ((day + 1).toNat - 1))) := by
    refine toDays_eq h.years ?_ ?_
    · simp only [fromMarch]
      split_ifs <;> omega
    · simp only [fromMarch]
      split_ifs <;> omega
  omega

/-- A month is as long as the line has it, but for the last one from March. -/
theorem isValid (h : Counted days era year month day) :
    (fromMarch era year month day).IsValid := by
  have hleap (hlast : day = 28) (hm : month = 11) : isLeapYear (year + era * 400 + 1) = true :=
    isLeapYear_of_endsLong (h.long (by rw [hlast, hm]; decide)) era
  obtain ⟨-, -, ⟨hlow, hhigh⟩, hinMonth, hinYear, -⟩ := h
  simp only [monthStart] at hinMonth hinYear
  simp only [IsValid, fromMarch, daysInMonth]
  by_cases hm : month = 11
  · subst hm
    have hfebruary : ((11 : Int) - 9).toNat = 2 := rfl
    simp only [Int.reduceLT, if_false, hfebruary, if_true]
    norm_num at hinMonth hinYear ⊢
    split
    · omega
    · next hnot =>
      have hne : day ≠ 28 := fun h => hnot (hleap h rfl)
      omega
  · have hbefore : month ≤ 10 := by omega
    clear hm hhigh
    interval_cases month <;> norm_num at hinMonth ⊢ <;> omega

/-- The days of the calendar are in its years. -/
theorem year_bounds (h : Counted days era year month day) (hlow : -96465292 ≤ days)
    (hhigh : days ≤ 95026236) :
    -262143 ≤ (fromMarch era year month day).year ∧
      (fromMarch era year month day).year ≤ 262142 := by
  obtain ⟨hsum, hyears, hmonths, hinMonth, hinYear, -⟩ := h
  simp only [yearStart, monthStart] at hsum hinMonth hinYear
  have hera : -656 ≤ era ∧ era ≤ 655 := by omega
  simp only [fromMarch]
  constructor
  · by_cases hfirst : era = -656
    · subst hfirst
      split_ifs <;> omega
    · split_ifs <;> omega
  · by_cases hlast : era = 655
    · subst hlast
      split_ifs <;> omega
    · split_ifs <;> omega

end Counted

/-- The date of a day is one that the calendar has. -/
theorem isValid_ofDays (days : Int) : (ofDays days).IsValid := by
  obtain ⟨era, year, month, day, hcounted, heq⟩ := counted_ofDays days
  rw [heq]
  exact hcounted.isValid

/-- The day of the date of a day is the day. -/
theorem toDays_ofDays (days : Int) : (ofDays days).toDays = days := by
  obtain ⟨era, year, month, day, hcounted, heq⟩ := counted_ofDays days
  rw [heq]
  exact hcounted.toDays_fromMarch

theorem year_ofDays_bounds {days : Int} (hlow : -96465292 ≤ days) (hhigh : days ≤ 95026236) :
    -262143 ≤ (ofDays days).year ∧ (ofDays days).year ≤ 262142 := by
  obtain ⟨era, year, month, day, hcounted, heq⟩ := counted_ofDays days
  rw [heq]
  exact hcounted.year_bounds hlow hhigh

end Turnstile.Date
