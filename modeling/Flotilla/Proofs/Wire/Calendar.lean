import Flotilla.Instant

/-!
# Days and dates

Every day number is the number of the date that `Calendar.dateOf` finds for it. The proof follows
the calendar: 400 years are four centuries, a century is twenty-five times four years, and only the
last of four years may have a 366th day. As years are counted from March, that day comes last, and
the months before it do not depend on the year.
-/

namespace Flotilla

namespace Calendar

variable {number year ofYear : Int}

/-- A day is the one with number `ofYear` of a year that begins with March. -/
structure Falls (number year ofYear : Int) : Prop where
  nonneg : 0 ≤ ofYear
  le : ofYear ≤ 365
  last : ofYear = 365 → isLeap (year + 1) = true
  total : number + 719468 = 365 * year + year / 4 - year / 100 + year / 400 + ofYear

/-- The days of 400 years, by the century, four years, the year and the day. -/
theorem exists_ofEra {day : Int} (nonneg : 0 ≤ day) (lt : day < 146097) :
    ∃ century quad year ofYear : Int, (0 ≤ century ∧ century ≤ 3) ∧ (0 ≤ quad ∧ quad ≤ 24) ∧
      (0 ≤ year ∧ year ≤ 3) ∧ (0 ≤ ofYear ∧ ofYear ≤ 365) ∧
      (ofYear = 365 → year = 3 ∧ (quad = 24 → century = 3)) ∧
      day = 36524 * century + 1461 * quad + 365 * year + ofYear := by
  obtain ⟨century, hcentury, hnonneg, hshort⟩ : ∃ century : Int, (0 ≤ century ∧ century ≤ 3) ∧
      0 ≤ day - 36524 * century ∧
      (day - 36524 * century < 36524 ∨ century = 3 ∧ day - 36524 * century = 36524) :=
    ⟨min (day / 36524) 3, by omega, by omega⟩
  generalize hrest : day - 36524 * century = rest at hnonneg hshort
  obtain ⟨year, hyear, hday⟩ : ∃ year : Int, (0 ≤ year ∧ year ≤ 3) ∧
      0 ≤ rest % 1461 - 365 * year ∧
      (rest % 1461 - 365 * year < 365 ∨ year = 3 ∧ rest % 1461 - 365 * year = 365) :=
    ⟨min (rest % 1461 / 365) 3, by omega, by omega⟩
  exact ⟨century, rest / 1461, year, rest % 1461 - 365 * year, hcentury, by omega, hyear,
    by omega, by omega, by omega⟩

/-- The year of a day, from the mean length of years. The leap days in front of the day are taken
away first, and its own year may hold one of those. -/
theorem yearOfEra_eq {century quad year ofYear day : Int} (hcentury : 0 ≤ century ∧ century ≤ 3)
    (hquad : 0 ≤ quad ∧ quad ≤ 24) (hyear : 0 ≤ year ∧ year ≤ 3)
    (hofYear : 0 ≤ ofYear ∧ ofYear ≤ 365)
    (last : ofYear = 365 → year = 3 ∧ (quad = 24 → century = 3))
    (total : day = 36524 * century + 1461 * quad + 365 * year + ofYear) :
    (day - day / 1460 + day / 36524 - day / 146096) / 365 = 100 * century + 4 * quad + year := by
  obtain ⟨leap, hleap, hnonneg, hle⟩ : ∃ leap : Int, day / 1460 = 25 * century + quad + leap ∧
      0 ≤ ofYear - leap ∧ ofYear - leap ≤ 364 := by
    by_cases hlate : 24 * century + quad + 365 * year + ofYear < 1460
    · exact ⟨0, by omega, by omega, by omega⟩
    · exact ⟨1, by omega, by omega, by omega⟩
  have hcenturies : day / 36524 - day / 146096 = century := by
    by_cases hend : day = 146096
    · omega
    · have hfirst : day / 146096 = 0 := by omega
      have hsecond : day / 36524 = century := by omega
      omega
  have hmean : day - day / 1460 + day / 36524 - day / 146096 =
      365 * (100 * century + 4 * quad + year) + (ofYear - leap) := by
    omega
  omega

/-- The year of a day within 400 years, and the day within the year. -/
theorem exists_yearOfEra {day : Int} (nonneg : 0 ≤ day) (lt : day < 146097) :
    ∃ year ofYear : Int, (0 ≤ year ∧ year < 400) ∧ (0 ≤ ofYear ∧ ofYear ≤ 365) ∧
      (ofYear = 365 → isLeap (year + 1) = true) ∧
      day = 365 * year + year / 4 - year / 100 + ofYear ∧
      (day - day / 1460 + day / 36524 - day / 146096) / 365 = year := by
  obtain ⟨century, quad, year, ofYear, hcentury, hquad, hyear, hofYear, hlast, htotal⟩ :=
    exists_ofEra nonneg lt
  have hquads : (100 * century + 4 * quad + year) / 4 = 25 * century + quad := by omega
  have hcenturies : (100 * century + 4 * quad + year) / 100 = century := by omega
  refine ⟨100 * century + 4 * quad + year, ofYear, by omega, hofYear, fun hend => ?_, by omega,
    yearOfEra_eq hcentury hquad hyear hofYear hlast htotal⟩
  obtain ⟨rfl, hcentury⟩ := hlast hend
  simp only [isLeap, ne_eq, Bool.and_eq_true, Bool.or_eq_true, decide_eq_true_eq]
  omega

theorem isLeap_add_era (year era : Int) : isLeap (year + era * 400) = isLeap year := by
  have hquads : (year + era * 400) % 4 = year % 4 := by omega
  have hcenturies : (year + era * 400) % 100 = year % 100 := by omega
  rw [isLeap, isLeap, hquads, hcenturies, Int.add_mul_emod_self_right]

/-- The leap days of whole eras are counted apart from those of the years behind them. -/
theorem leapDays_add_era (era : Int) (nonneg : 0 ≤ year) (lt : year < 400) :
    (year + era * 400) / 4 - (year + era * 400) / 100 + (year + era * 400) / 400 =
      year / 4 - year / 100 + 97 * era := by
  have hquads : (year + era * 400) / 4 = year / 4 + era * 100 := by omega
  have hcenturies : (year + era * 400) / 100 = year / 100 + era * 4 := by omega
  have heras : (year + era * 400) / 400 = era := by omega
  omega

/-- The date of a day of a year that begins with March. -/
def ofMarch (year ofYear : Int) : Int × Nat × Nat :=
  let m := (5 * ofYear + 2) / 153
  let month := (if m < 10 then m + 3 else m - 9).toNat
  (if month ≤ 2 then year + 1 else year, month, (ofYear - (153 * m + 2) / 5 + 1).toNat)

theorem exists_falls (number : Int) :
    ∃ year ofYear, Falls number year ofYear ∧ dateOf number = ofMarch year ofYear := by
  have hnonneg := Int.emod_nonneg (number + 719468) (by decide : (146097 : Int) ≠ 0)
  have hlt := Int.emod_lt_of_pos (number + 719468) (by decide : (0 : Int) < 146097)
  have hsplit := Int.emod_add_mul_ediv (number + 719468) 146097
  obtain ⟨year, ofYear, hyear, hofYear, hlast, htotal, hformula⟩ := exists_yearOfEra hnonneg hlt
  have hrest : (number + 719468) % 146097 - (365 * year + year / 4 - year / 100) = ofYear := by
    rw [htotal]
    omega
  have hdate : dateOf number = ofMarch (year + (number + 719468) / 146097 * 400) ofYear := by
    simp only [dateOf, hformula, hrest, ofMarch]
  refine ⟨_, ofYear, ⟨hofYear.1, hofYear.2, fun hend => ?_, ?_⟩, hdate⟩
  · rw [Int.add_right_comm, isLeap_add_era]
    exact hlast hend
  · rw [htotal] at hsplit
    have hleap := leapDays_add_era ((number + 719468) / 146097) hyear.1 hyear.2
    clear hformula hrest hdate htotal
    generalize (number + 719468) / 146097 = era at *
    omega

/-- The date of a day of a year is a date with the number of the day. -/
theorem Falls.ofMarch (h : Falls number year ofYear) :
    isDate (ofMarch year ofYear).1 (ofMarch year ofYear).2.1 (ofMarch year ofYear).2.2 = true ∧
      dayNumber (ofMarch year ofYear).1 (ofMarch year ofYear).2.1 (ofMarch year ofYear).2.2 =
        number := by
  obtain ⟨hnonneg, hle, hlast, htotal⟩ := h
  obtain ⟨m, hm⟩ : ∃ m, (5 * ofYear + 2) / 153 = m := ⟨_, rfl⟩
  obtain ⟨day, hday⟩ : ∃ day : Nat, ofYear - (153 * m + 2) / 5 + 1 = day :=
    Int.eq_ofNat_of_zero_le (by omega)
  obtain rfl | hmonths : m = 11 ∨ m = 0 ∨ m = 1 ∨ m = 2 ∨ m = 3 ∨ m = 4 ∨ m = 5 ∨ m = 6 ∨ m = 7 ∨
      m = 8 ∨ m = 9 ∨ m = 10 := by omega
  · simp only [Calendar.ofMarch, hm, hday, Int.toNat_natCast, isDate, monthLength, dayNumber]
    simp only [Int.reduceLT, if_false, Int.reduceSub, Int.reduceToNat, Nat.reduceLeDiff, if_true,
      decide_true, Bool.true_and, Bool.and_eq_true, decide_eq_true_eq, Int.add_sub_cancel]
    -- February is the only month with a length that depends on the year.
    refine ⟨⟨by omega, ?_⟩, by omega⟩
    split
    next => omega
    next hleap =>
      have hend := mt hlast hleap
      omega
  · simp only [Calendar.ofMarch, hm, hday, Int.toNat_natCast, isDate, monthLength, dayNumber]
    rcases hmonths with rfl | rfl | rfl | rfl | rfl | rfl | rfl | rfl | rfl | rfl | rfl <;>
      simp <;> omega

theorem isDate_dateOf (number : Int) :
    isDate (dateOf number).1 (dateOf number).2.1 (dateOf number).2.2 = true := by
  obtain ⟨year, ofYear, hfalls, hdate⟩ := exists_falls number
  exact hdate ▸ hfalls.ofMarch.1

@[simp] theorem dayNumber_dateOf (number : Int) :
    dayNumber (dateOf number).1 (dateOf number).2.1 (dateOf number).2.2 = number := by
  obtain ⟨year, ofYear, hfalls, hdate⟩ := exists_falls number
  exact hdate ▸ hfalls.ofMarch.2

/-- The leap days up to a year are no fewer than those up to an earlier one. -/
theorem leapDays_mono {earlier later : Int} (h : earlier ≤ later) :
    earlier / 4 - earlier / 100 + earlier / 400 ≤ later / 4 - later / 100 + later / 400 := by
  have hquads : earlier / 4 ≤ later / 4 := Int.ediv_le_ediv (by decide) h
  have heras : earlier / 400 ≤ later / 400 := Int.ediv_le_ediv (by decide) h
  have hearlier : earlier / 100 = earlier / 4 / 25 := by omega
  have hlater : later / 100 = later / 4 / 25 := by omega
  omega

theorem monthLength_le (year : Int) (month : Nat) : monthLength year month ≤ 31 := by
  unfold monthLength
  repeat' split
  all_goals omega

/-- The days on which instants lie are days of the years in which they lie. -/
theorem year_bounds {year : Int} {month day : Nat} (date : isDate year month day = true)
    (ge : firstDay ≤ dayNumber year month day) (le : dayNumber year month day ≤ lastDay) :
    firstYear ≤ year ∧ year ≤ lastYear := by
  have hlength := monthLength_le year month
  simp only [isDate, Bool.and_eq_true, decide_eq_true_eq] at date
  obtain ⟨⟨⟨hmonth, hmonthLe⟩, hday⟩, hdayLe⟩ := date
  have hfirst : firstDay = -96465292 := by decide
  have hlast : lastDay = 95026236 := by decide
  rw [hfirst, dayNumber] at ge
  rw [hlast, dayNumber] at le
  constructor
  · refine Int.not_lt.mp fun hyear => ?_
    rw [firstYear] at hyear
    by_cases hfront : month ≤ 2
    · simp only [hfront, if_true] at ge
      have hleap := leapDays_mono (show year - 1 ≤ -262145 by omega)
      omega
    · simp only [hfront, if_false] at ge
      have hleap := leapDays_mono (show year ≤ -262144 by omega)
      omega
  · refine Int.not_lt.mp fun hyear => ?_
    rw [lastYear] at hyear
    by_cases hfront : month ≤ 2
    · simp only [hfront, if_true] at le
      have hleap := leapDays_mono (show 262142 ≤ year - 1 by omega)
      omega
    · simp only [hfront, if_false] at le
      have hleap := leapDays_mono (show 262143 ≤ year by omega)
      omega

end Calendar

end Flotilla
