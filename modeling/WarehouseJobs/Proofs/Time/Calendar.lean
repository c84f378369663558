-- The calendar gives every day a date that there is, and the date leads back to the day. Years are
-- counted from March here, as where dates are made: the leap day is the last day of its year.
import Mathlib.Tactic.IntervalCases
import WarehouseJobs.Time.Calendar

namespace WarehouseJobs.Date

/-! ## Years of an era of four hundred years -/

/-- The days of an era before a year of it begins. -/
def daysBefore (year : Nat) : Nat := 365 * year + year / 4 - year / 100 + year / 400

/-- The year of an era that a day of it falls in. -/
def yearInEra (day : Nat) : Nat := (day - day / 1460 + day / 36524 - day / 146096) / 365

variable {century day year : Nat}

/-- In each of the four centuries the year is that of the century, if the leap days that are left
out before are counted back in. -/
theorem yearInEra_of_century (hcentury : century < 4) (hday : day < 36524) :
    yearInEra (36524 * century + day) =
      100 * century + (day - (day + 24 * century) / 1460) / 365 := by
  have hcenturies : (36524 * century + day) / 36524 = century := by omega
  have heras : (36524 * century + day) / 146096 = 0 := by omega
  have hleaps : (36524 * century + day) / 1460 =
      25 * century + (day + 24 * century) / 1460 := by omega
  rw [yearInEra, hcenturies, heras, hleaps]
  omega

theorem daysBefore_of_century (hcentury : century < 4) (hyear : year < 100) :
    daysBefore (100 * century + year) = 36524 * century + (365 * year + year / 4) := by
  have hfours : (100 * century + year) / 4 = 25 * century + year / 4 := by omega
  have hcenturies : (100 * century + year) / 100 = century := by omega
  have heras : (100 * century + year) / 400 = 0 := by omega
  rw [daysBefore, hfours, hcenturies, heras]
  omega

/-- The day falls into its year: it is not before the year, and before the next one. -/
theorem daysBefore_yearInEra (hday : day < 146097) :
    daysBefore (yearInEra day) ≤ day ∧ day < daysBefore (yearInEra day + 1) ∧
      yearInEra day < 400 := by
  by_cases hlast : day = 146096
  · subst hlast
    decide
  obtain ⟨century, rest, rfl, hcentury, hrest⟩ : ∃ century rest, day = 36524 * century + rest ∧
      century < 4 ∧ rest < 36524 := ⟨day / 36524, day % 36524, by omega, by omega, by omega⟩
  rw [yearInEra_of_century hcentury hrest]
  generalize hyear : (rest - (rest + 24 * century) / 1460) / 365 = year
  have hbound : year < 100 := by omega
  rw [daysBefore_of_century hcentury hbound]
  refine ⟨by omega, ?_, by omega⟩
  by_cases hend : year = 99
  · -- The century ends with its year, and only the last one with a leap day.
    subst hend
    have hnext : daysBefore (100 * century + 99 + 1) =
        36524 * (century + 1) + (century + 1) / 4 := by
      rw [daysBefore]
      omega
    omega
  · have hnext := daysBefore_of_century hcentury (show year + 1 < 100 by omega)
    rw [Nat.add_assoc, hnext]
    omega

/-! ## Days of a year from March on -/

/-- The months before the one that a day falls in. -/
def monthOf (dayInYear : Nat) : Nat := (5 * dayInYear + 2) / 153

/-- The date of a day of a year of an era. -/
def inEra (era : Int) (year dayInYear : Nat) : Date :=
  let month := if monthOf dayInYear < 10 then monthOf dayInYear + 3 else monthOf dayInYear - 9
  { year := era * 400 + year + if month ≤ 2 then 1 else 0
    month
    day := dayInYear - (153 * monthOf dayInYear + 2) / 5 + 1 }

theorem ofDays_eq (days : Int) :
    ∃ (era : Int) (year dayInYear : Nat), ofDays days = inEra era year dayInYear ∧
      days + 719468 = era * 146097 + daysBefore year + dayInYear ∧
      daysBefore year + dayInYear < daysBefore (year + 1) ∧ year < 400 := by
  have hday : ((days + 719468) % 146097).toNat < 146097 := by omega
  obtain ⟨hfrom, hto, hyear⟩ := daysBefore_yearInEra hday
  generalize hd : ((days + 719468) % 146097).toNat = day at hfrom hto hyear hday
  refine ⟨(days + 719468) / 146097, yearInEra day, day - daysBefore (yearInEra day), ?_, by omega,
    by omega, hyear⟩
  have hfour : daysBefore (yearInEra day) =
      365 * yearInEra day + yearInEra day / 4 - yearInEra day / 100 := by
    rw [daysBefore]
    omega
  unfold ofDays
  simp only [hd]
  rw [hfour]
  rfl

/-- The year of the date, from March on, is the year of the era; and so is the day of the year. -/
theorem toDays_inEra (era : Int) {year dayInYear : Nat} (hyear : year < 400)
    (hday : dayInYear ≤ 365) :
    (inEra era year dayInYear).toDays = era * 146097 + daysBefore year + dayInYear - 719468 := by
  have hmonth : monthOf dayInYear < 12 := by
    rw [monthOf]
    omega
  have hback : (153 * monthOf dayInYear + 2) / 5 ≤ dayInYear := by
    rw [monthOf]
    omega
  unfold toDays inEra daysBefore
  generalize monthOf dayInYear = month at hmonth hback
  by_cases hspring : month < 10
  · have hcount : (month + 3 + 9) % 12 = month := by omega
    simp only [if_pos hspring, if_neg (show ¬ month + 3 ≤ 2 by omega), hcount]
    omega
  · have hcount : (month - 9 + 9) % 12 = month := by omega
    simp only [if_neg hspring, if_pos (show month - 9 ≤ 2 by omega), hcount]
    omega

theorem daysBefore_succ (era : Int) {year : Nat} (hyear : year < 400) :
    daysBefore (year + 1) =
      daysBefore year + if isLeap (era * 400 + year + 1) then 366 else 365 := by
  unfold daysBefore isLeap
  simp only [Bool.and_eq_true, Bool.or_eq_true, decide_eq_true_eq, decide_not, Bool.not_eq_true',
    decide_eq_false_iff_not]
  split <;> omega

theorem isReal_inEra (era : Int) {year dayInYear : Nat} (hyear : year < 400)
    (hday : daysBefore year + dayInYear < daysBefore (year + 1)) :
    (inEra era year dayInYear).isReal = true := by
  rw [daysBefore_succ era hyear] at hday
  have hfrom : 153 * monthOf dayInYear ≤ 5 * dayInYear + 2 := by
    rw [monthOf]
    omega
  have hto : 5 * dayInYear + 2 < 153 * monthOf dayInYear + 153 := by
    rw [monthOf]
    omega
  have hmonth : monthOf dayInYear < 12 := by split at hday <;> omega
  unfold isReal inEra daysInMonth
  generalize monthOf dayInYear = month at hfrom hto hmonth
  simp only [Bool.and_eq_true, decide_eq_true_eq]
  rcases Nat.lt_succ_iff_lt_or_eq.mp hmonth with hbefore | rfl
  · interval_cases month
    all_goals
      norm_num
      omega
  · -- February has a leap day exactly if its year has one.
    cases hleap : isLeap (era * 400 + year + 1) with
    | false =>
      simp only [hleap, Bool.false_eq_true, reduceIte] at hday
      norm_num [hleap]
      omega
    | true =>
      simp only [hleap, reduceIte] at hday
      norm_num [hleap]
      omega

/-- Every day has a date that there is, and the date leads back to it. -/
theorem toDays_ofDays (days : Int) : (ofDays days).toDays = days := by
  obtain ⟨era, year, dayInYear, hdate, hdays, hday, hyear⟩ := ofDays_eq days
  rw [daysBefore_succ era hyear] at hday
  rw [hdate, toDays_inEra era hyear (by split at hday <;> omega)]
  omega

theorem isReal_ofDays (days : Int) : (ofDays days).isReal = true := by
  obtain ⟨era, year, dayInYear, hdate, -, hday, hyear⟩ := ofDays_eq days
  rw [hdate]
  exact isReal_inEra era hyear hday

end WarehouseJobs.Date
