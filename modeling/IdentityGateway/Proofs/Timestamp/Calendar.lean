import IdentityGateway.Timestamp.Calendar

/-!
# Days and dates

Every day has a place in the cycles of 400, 100, 4 and 1 years of the calendar, which start in
March. The date of a day is that of its place: the calendar has it, and it is counted as the day.
-/

namespace IdentityGateway.Date

/-- A place in the cycles of the calendar. A year has 366 days at the end of a cycle of four only,
and a century ends with such a cycle at the end of an era only. -/
structure Place where
  era : Int
  century : Int
  cycle : Int
  year : Int
  day : Int
  hcentury : 0 ≤ century ∧ century ≤ 3
  hcycle : 0 ≤ cycle ∧ cycle ≤ 24
  hyear : 0 ≤ year ∧ year ≤ 3
  hday : 0 ≤ day ∧ day ≤ 365
  hleap : day = 365 → year = 3 ∧ (cycle = 24 → century = 3)

namespace Place

/-- The years of the era before the year of a place. -/
def yearOfEra (p : Place) : Int :=
  100 * p.century + 4 * p.cycle + p.year

/-- The days of the era before a place. -/
def dayOfEra (p : Place) : Int :=
  36524 * p.century + 1461 * p.cycle + 365 * p.year + p.day

/-- The days from 1 January 1970 to a place. -/
def days (p : Place) : Int :=
  146097 * p.era + p.dayOfEra - 719468

/-- The year of a place, counted from March. -/
def yearFromMarch (p : Place) : Int :=
  p.yearOfEra + p.era * 400

/-- The month that a day of the year falls into, counted from March: five months in turn have 153
days. -/
def monthFromMarch (p : Place) : Int :=
  (5 * p.day + 2) / 153

/-- The date that the reckoning from March gives for a place, in a year that begins with January
again. -/
def date (p : Place) : Date :=
  let day := p.day - (153 * p.monthFromMarch + 2) / 5 + 1
  if p.monthFromMarch < 10 then ⟨p.yearFromMarch, p.monthFromMarch + 3, day⟩
  else ⟨p.yearFromMarch + 1, p.monthFromMarch - 9, day⟩

/-- Every number of days falls into some place of some era, so that the reckoning leaves out no
date. -/
theorem exists_days_eq (days : Int) : ∃ p : Place, p.days = days := by
  have hera : 0 ≤ (days + 719468) % 146097 ∧ (days + 719468) % 146097 < 146097 := by omega
  have hsplit := Int.mul_ediv_add_emod (days + 719468) 146097
  generalize (days + 719468) / 146097 = era at hsplit
  generalize (days + 719468) % 146097 = n at hera hsplit
  -- a leap day at the end of a cycle is in the last part of it, which is longer than the others
  obtain ⟨century, hcentury⟩ : ∃ c, c = min (n / 36524) 3 := ⟨_, rfl⟩
  obtain ⟨cycle, hcycle⟩ : ∃ q, q = (n - 36524 * century) / 1461 := ⟨_, rfl⟩
  obtain ⟨year, hyear⟩ : ∃ t, t = min ((n - 36524 * century - 1461 * cycle) / 365) 3 := ⟨_, rfl⟩
  refine ⟨⟨era, century, cycle, year, n - 36524 * century - 1461 * cycle - 365 * year,
    by omega, by omega, by omega, by omega, by omega⟩, ?_⟩
  simp only [Place.days, dayOfEra]
  omega

variable (p : Place)

/-- An era of 400 years has 146097 days. -/
theorem dayOfEra_bounds : 0 ≤ p.dayOfEra ∧ p.dayOfEra < 146097 := by
  obtain ⟨era, c, q, t, u, hc, hq, ht, hu, hleap⟩ := p
  simp only [dayOfEra]
  omega

/-- The years of an era are counted from 0 to 399. -/
theorem yearOfEra_bounds : 0 ≤ p.yearOfEra ∧ p.yearOfEra < 400 := by
  obtain ⟨era, c, q, t, u, hc, hq, ht, hu, hleap⟩ := p
  simp only [yearOfEra]
  omega

/-- Months are counted from 0 to 11, of which the last two belong to the next year of the
calendar. -/
theorem monthFromMarch_bounds : 0 ≤ p.monthFromMarch ∧ p.monthFromMarch ≤ 11 := by
  have hday := p.hday
  simp only [monthFromMarch]
  omega

/-! ## The date of a day -/

/-- The cycles of four years before a day, and one more if the day is far enough into its own. -/
theorem dayOfEra_div_1460 : p.dayOfEra / 1460 = 25 * p.century + p.cycle +
    if 1460 ≤ 24 * p.century + p.cycle + 365 * p.year + p.day then 1 else 0 := by
  obtain ⟨era, c, q, t, u, hc, hq, ht, hu, hleap⟩ := p
  simp only [dayOfEra]
  split <;> omega

/-- The centuries before a day, and one more on the last day of an era. -/
theorem dayOfEra_div_36524 : p.dayOfEra / 36524 = p.century + p.dayOfEra / 146096 := by
  have hbounds := p.dayOfEra_bounds
  have hlast : p.dayOfEra / 146096 = 0 ∨ p.dayOfEra / 146096 = 1 := by omega
  obtain ⟨era, c, q, t, u, hc, hq, ht, hu, hleap⟩ := p
  simp only [dayOfEra] at hbounds hlast ⊢
  rcases hlast with hlast | hlast <;> rw [hlast] <;> omega

/-- The year of an era is found from its day by leaving the leap days out. -/
theorem years_of_dayOfEra :
    (p.dayOfEra - p.dayOfEra / 1460 + p.dayOfEra / 36524 - p.dayOfEra / 146096) / 365 =
      p.yearOfEra := by
  rw [dayOfEra_div_36524, dayOfEra_div_1460]
  obtain ⟨era, c, q, t, u, hc, hq, ht, hu, hleap⟩ := p
  simp only [dayOfEra, yearOfEra]
  split <;> omega

/-- The day within the year is what the days of the whole years before leave. -/
theorem days_of_yearOfEra :
    365 * p.yearOfEra + p.yearOfEra / 4 - p.yearOfEra / 100 = p.dayOfEra - p.day := by
  obtain ⟨era, c, q, t, u, hc, hq, ht, hu, hleap⟩ := p
  simp only [dayOfEra, yearOfEra]
  omega

/-- The day at a place has the date of the place. -/
theorem ofDays_days : ofDays p.days = p.date := by
  have hmonth := p.monthFromMarch_bounds
  have hera : (p.days + 719468) / 146097 = p.era := by
    have hbounds := p.dayOfEra_bounds
    simp only [days]
    omega
  have hdayOfEra : p.days + 719468 - p.era * 146097 = p.dayOfEra := by
    simp only [days]
    omega
  have hday : p.dayOfEra - (365 * p.yearOfEra + p.yearOfEra / 4 - p.yearOfEra / 100) = p.day := by
    rw [days_of_yearOfEra]
    omega
  simp only [ofDays, hera, hdayOfEra, years_of_dayOfEra, hday, date, ← monthFromMarch.eq_def,
    ← yearFromMarch.eq_def]
  split
  · rw [if_neg (by omega)]
  · rw [if_pos (by omega)]

/-! ## The day of a date -/

/-- The date of a place is counted as the day at the place. -/
theorem toDays_date : p.date.toDays = p.days := by
  have hmonth := p.monthFromMarch_bounds
  have hera : p.yearFromMarch / 400 = p.era := by
    have hbounds := p.yearOfEra_bounds
    simp only [yearFromMarch]
    omega
  have hyear : p.yearFromMarch - p.era * 400 = p.yearOfEra := by
    simp only [yearFromMarch]
    omega
  have hdays : p.era * 146097 +
      (365 * p.yearOfEra + p.yearOfEra / 4 - p.yearOfEra / 100 + p.day) - 719468 = p.days := by
    rw [days_of_yearOfEra, days]
    omega
  rw [← hdays]
  simp only [date]
  split
  · have hmarch : (p.monthFromMarch + 3 + 9) % 12 = p.monthFromMarch := by omega
    simp only [toDays, if_neg (show ¬ p.monthFromMarch + 3 ≤ 2 by omega), hmarch, hera, hyear]
    omega
  · have hmarch : (p.monthFromMarch - 9 + 9) % 12 = p.monthFromMarch := by omega
    simp only [toDays, if_pos (show p.monthFromMarch - 9 ≤ 2 by omega), hmarch, hera, hyear,
      Int.add_sub_cancel]
    omega

/-- A year with 366 days ends in a leap year. -/
theorem isLeapYear_of_day_eq (hday : p.day = 365) : isLeapYear (p.yearFromMarch + 1) = true := by
  obtain ⟨era, c, q, t, u, hc, hq, ht, hu, hleap⟩ := p
  obtain ⟨rfl, hlast⟩ := hleap hday
  simp only [isLeapYear, yearFromMarch, yearOfEra, Bool.and_eq_true, Bool.or_eq_true, beq_iff_eq,
    bne_iff_ne]
  omega

/-- The calendar has the date of every place. -/
theorem exists_date : p.date.exists? = true := by
  have hday := p.hday
  have hmonth : p.monthFromMarch = (5 * p.day + 2) / 153 := rfl
  simp only [date]
  split
  · simp only [exists?, daysInMonth, Bool.and_eq_true, decide_eq_true_eq, beq_iff_eq,
      Bool.or_eq_true]
    rw [if_neg (by omega)]
    split <;> omega
  · -- January, or February with its leap day
    have hshort : ¬ isLeapYear (p.yearFromMarch + 1) = true → p.day ≠ 365 :=
      fun hcommon hlast => hcommon (p.isLeapYear_of_day_eq hlast)
    simp only [exists?, daysInMonth, Bool.and_eq_true, decide_eq_true_eq, beq_iff_eq,
      Bool.or_eq_true]
    split
    · split
      · omega
      · have hlast := hshort ‹_›
        omega
    · split <;> omega

/-- The year of a date is near the one that its days make up. -/
theorem year_date_bounds (hlow : -100000000 ≤ p.days) (hhigh : p.days ≤ 100000000) :
    -1000000 ≤ p.date.year ∧ p.date.year ≤ 1000000 := by
  have hbounds := p.dayOfEra_bounds
  have hyear := p.yearOfEra_bounds
  simp only [days] at hlow hhigh
  simp only [date, yearFromMarch]
  split <;> simp only <;> omega

end Place

variable (days : Int)

/-- The date of a day is counted as the day. -/
theorem toDays_ofDays : (ofDays days).toDays = days := by
  obtain ⟨p, rfl⟩ := Place.exists_days_eq days
  rw [p.ofDays_days, p.toDays_date]

/-- The calendar has the date of every day. -/
theorem exists_ofDays : (ofDays days).exists? = true := by
  obtain ⟨p, rfl⟩ := Place.exists_days_eq days
  rw [p.ofDays_days, p.exists_date]

/-- The date of a day that is not too far away has a year of at most seven digits. -/
theorem year_ofDays_bounds (hlow : -100000000 ≤ days) (hhigh : days ≤ 100000000) :
    -1000000 ≤ (ofDays days).year ∧ (ofDays days).year ≤ 1000000 := by
  obtain ⟨p, rfl⟩ := Place.exists_days_eq days
  rw [p.ofDays_days]
  exact p.year_date_bounds hlow hhigh

end IdentityGateway.Date
