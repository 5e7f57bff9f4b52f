import Mathlib.Data.Int.Init
import IdentityGateway.Proofs.Timestamp.Calendar

/-!
# One day after another

The day after a date is in the next month at the end of a month and in the next year at the end of
December, and the day before it likewise. Dates are counted from 1 January 1970 in steps of one day,
so that every date of the calendar has one number, whose date it is.
-/

namespace IdentityGateway.Date

/-- The date of the day after. -/
def next (date : Date) : Date :=
  if date.day < daysInMonth date.year date.month then ⟨date.year, date.month, date.day + 1⟩
  else if date.month < 12 then ⟨date.year, date.month + 1, 1⟩
  else ⟨date.year + 1, 1, 1⟩

/-- The date of the day before. -/
def previous (date : Date) : Date :=
  if 1 < date.day then ⟨date.year, date.month, date.day - 1⟩
  else if 1 < date.month then
    ⟨date.year, date.month - 1, daysInMonth date.year (date.month - 1)⟩
  else ⟨date.year - 1, 12, 31⟩

/-- A date is some number of days after 1 January 1970, or before it. -/
inductive CountedAs : Date → Int → Prop
  | epoch : CountedAs ⟨1970, 1, 1⟩ 0
  | next {date : Date} {days : Int} (h : CountedAs date days) : CountedAs date.next (days + 1)
  | previous {date : Date} {days : Int} (h : CountedAs date days) :
      CountedAs date.previous (days - 1)

/-- A date is in a month of a year when both are counted from March, with numbers from zero for the
months. -/
def FromMarch (date : Date) (year month : Int) : Prop :=
  (0 ≤ month ∧ month ≤ 9 ∧ date.year = year ∧ date.month = month + 3) ∨
    (10 ≤ month ∧ month ≤ 11 ∧ date.year = year + 1 ∧ date.month = month - 9)

/-- A year has a leap day. -/
def Leap (year : Int) : Prop :=
  year % 4 = 0 ∧ (year % 100 ≠ 0 ∨ year % 400 = 0)

section

variable {date : Date} {year month days : Int}

/-! ## Lengths of months -/

/-- What it is for a date to be one of the calendar. -/
theorem exists?_iff : date.exists? = true ↔
    (1 ≤ date.month ∧ date.month ≤ 12) ∧ 1 ≤ date.day ∧
      date.day ≤ daysInMonth date.year date.month := by
  simp only [exists?, Bool.and_eq_true, decide_eq_true_eq, and_assoc]

/-- A day within its month is one of the calendar. -/
theorem exists_mk {day : Int} (hmonth : 1 ≤ month ∧ month ≤ 12) (hday : 1 ≤ day)
    (hmost : day ≤ daysInMonth year month) : exists? ⟨year, month, day⟩ = true :=
  exists?_iff.mpr ⟨hmonth, hday, hmost⟩

private theorem daysInMonth_february (year : Int) :
    (Leap year ∧ daysInMonth year 2 = 29) ∨ (¬ Leap year ∧ daysInMonth year 2 = 28) := by
  have hleap : isLeapYear year = true ↔ Leap year := by
    simp only [isLeapYear, Leap, Bool.and_eq_true, Bool.or_eq_true, beq_iff_eq, bne_iff_ne]
  rw [← hleap]
  cases h : isLeapYear year <;> simp [daysInMonth, h]

/-- The length of a month in a year that ends with February. The others have those of five months
with 153 days in turn. -/
theorem daysInMonth_fromMarch (hmonth : 0 ≤ month ∧ month ≤ 10) (year : Int) :
    daysInMonth year (if month ≤ 9 then month + 3 else month - 9) =
      (153 * (month + 1) + 2) / 5 - (153 * month + 2) / 5 := by
  have hcases : month = 0 ∨ month = 1 ∨ month = 2 ∨ month = 3 ∨ month = 4 ∨ month = 5 ∨
      month = 6 ∨ month = 7 ∨ month = 8 ∨ month = 9 ∨ month = 10 := by omega
  rcases hcases with rfl | rfl | rfl | rfl | rfl | rfl | rfl | rfl | rfl | rfl | rfl <;> rfl

/-- A month of the calendar is one counted from March. -/
theorem exists_fromMarch (h : 1 ≤ date.month ∧ date.month ≤ 12) :
    ∃ year month, date.FromMarch year month := by
  by_cases hearly : date.month ≤ 2
  · exact ⟨date.year - 1, date.month + 9, .inr (by omega)⟩
  · exact ⟨date.year, date.month - 3, .inl (by omega)⟩

/-- The length of a month counted from March, of which the last is February. -/
theorem FromMarch.length_cases (h : date.FromMarch year month) :
    (month ≤ 10 ∧ daysInMonth date.year date.month =
      (153 * (month + 1) + 2) / 5 - (153 * month + 2) / 5) ∨
    (month = 11 ∧ Leap (year + 1) ∧ daysInMonth date.year date.month = 29) ∨
    (month = 11 ∧ ¬ Leap (year + 1) ∧ daysInMonth date.year date.month = 28) := by
  rcases h with ⟨hlow, hhigh, hyear, hmonth⟩ | ⟨hlow, hhigh, hyear, hmonth⟩
  · left
    rw [hyear, hmonth, ← daysInMonth_fromMarch ⟨hlow, by omega⟩ year, if_pos hhigh]
    exact ⟨by omega, rfl⟩
  · by_cases hlast : month = 11
    · right
      subst hlast
      rw [hyear, hmonth]
      simpa using daysInMonth_february (year + 1)
    · left
      rw [hyear, hmonth, ← daysInMonth_fromMarch ⟨by omega, by omega⟩ (year + 1),
        if_neg (by omega)]
      exact ⟨by omega, rfl⟩

/-- The number of a date: whole years from March, whole months and days. -/
theorem FromMarch.toDays_eq (h : date.FromMarch year month) :
    date.toDays = 365 * year + year / 4 - year / 100 + year / 400 +
      (153 * month + 2) / 5 + date.day - 719469 := by
  rcases h with ⟨hlow, hhigh, hyear, hmonth⟩ | ⟨hlow, hhigh, hyear, hmonth⟩
  · have hmarch : (month + 3 + 9) % 12 = month := by omega
    simp only [toDays, hyear, hmonth, if_neg (show ¬ month + 3 ≤ 2 by omega), hmarch]
    omega
  · have hmarch : (month - 9 + 9) % 12 = month := by omega
    simp only [toDays, hyear, hmonth, if_pos (show month - 9 ≤ 2 by omega), hmarch,
      Int.add_sub_cancel]
    omega

/-! ## The date of a number -/

/-- Every date of the calendar is that of a place. -/
theorem exists_place (h : date.exists? = true) : ∃ p : Place, p.date = date := by
  obtain ⟨hmonth, hday, hmost⟩ := exists?_iff.mp h
  obtain ⟨y, m, hmarch⟩ := exists_fromMarch hmonth
  have hlength := hmarch.length_cases
  have hm : 0 ≤ m ∧ m ≤ 11 := by
    rcases hmarch with hmarch | hmarch <;> omega
  unfold Leap at hlength
  refine ⟨⟨y / 400, y % 400 / 100, y % 100 / 4, y % 4, (153 * m + 2) / 5 + date.day - 1,
    by omega, by omega, by omega, by omega, by omega⟩, ?_⟩
  have hyear : 100 * (y % 400 / 100) + 4 * (y % 100 / 4) + y % 4 + y / 400 * 400 = y := by omega
  have hmonth : (5 * ((153 * m + 2) / 5 + date.day - 1) + 2) / 153 = m := by omega
  have hday : (153 * m + 2) / 5 + date.day - 1 - (153 * m + 2) / 5 + 1 = date.day := by omega
  simp only [Place.date, Place.yearFromMarch, Place.monthFromMarch, Place.yearOfEra, hmonth, hyear,
    hday]
  rcases hmarch with ⟨hlow, hhigh, heq⟩ | ⟨hlow, hhigh, heq⟩
  · rw [if_pos (by omega), ← heq.1, ← heq.2]
  · rw [if_neg (by omega), ← heq.1, ← heq.2]

/-- The number of a date of the calendar has that date. -/
theorem ofDays_toDays (h : date.exists? = true) : ofDays date.toDays = date := by
  obtain ⟨p, rfl⟩ := exists_place h
  rw [p.toDays_date, p.ofDays_days]

/-! ## Carries -/

/-- No month is empty, so that the first of every month is a date. -/
theorem daysInMonth_pos (year month : Int) : 1 ≤ daysInMonth year month := by
  unfold daysInMonth
  split
  · split <;> decide
  · split <;> decide

/-- The day after is in the calendar. -/
theorem exists_next (h : date.exists? = true) : date.next.exists? = true := by
  obtain ⟨hmonth, hday, -⟩ := exists?_iff.mp h
  unfold next
  split
  · next hless => exact exists_mk hmonth (by omega) hless
  · split
    · next hless => exact exists_mk ⟨by omega, hless⟩ (Int.le_refl 1) (daysInMonth_pos _ _)
    · exact exists_mk (by decide) (Int.le_refl 1) (daysInMonth_pos _ _)

/-- The day before is in the calendar. -/
theorem exists_previous (h : date.exists? = true) : date.previous.exists? = true := by
  obtain ⟨hmonth, hday, hmost⟩ := exists?_iff.mp h
  unfold previous
  split
  · next hmore => exact exists_mk hmonth (by omega) (by omega)
  · split
    · next hmore => exact exists_mk ⟨by omega, by omega⟩ (daysInMonth_pos _ _) (Int.le_refl _)
    · exact exists_mk (by decide) (by decide) (Int.le_refl 31)

private theorem next_previous (h : date.exists? = true) : date.previous.next = date := by
  obtain ⟨year, month, day⟩ := date
  obtain ⟨⟨hfirst, htwelve⟩, hday, hmost⟩ : (1 ≤ month ∧ month ≤ 12) ∧ 1 ≤ day ∧
    day ≤ daysInMonth year month := exists?_iff.mp h
  by_cases hmore : 1 < day
  · have hless : day - 1 < daysInMonth year month := by omega
    simp only [previous, if_pos hmore, next, if_pos hless, Int.sub_add_cancel]
  · obtain rfl : day = 1 := by omega
    by_cases hlater : 1 < month
    · have hless : month - 1 < 12 := by omega
      simp only [previous, if_neg hmore, if_pos hlater, next, if_neg (Int.lt_irrefl _),
        if_pos hless, Int.sub_add_cancel]
    · obtain rfl : month = 1 := by omega
      have hlast : daysInMonth (year - 1) 12 = 31 := rfl
      simp only [previous, if_neg hmore, next, hlast, if_neg (Int.lt_irrefl _), Int.sub_add_cancel]

/-- The day after is in the same month, or the first of the next one. February is the last. -/
theorem FromMarch.next_cases (h : date.FromMarch year month)
    (hmost : date.day ≤ daysInMonth date.year date.month) :
    (date.next.FromMarch year month ∧ date.next.day = date.day + 1) ∨
    (date.day = daysInMonth date.year date.month ∧ date.next.day = 1 ∧
      (month ≤ 10 ∧ date.next.FromMarch year (month + 1) ∨
        month = 11 ∧ date.next.FromMarch (year + 1) 0)) := by
  unfold next
  split
  · exact .inl ⟨h, rfl⟩
  · next hlast =>
    refine .inr ⟨by omega, ?_⟩
    unfold FromMarch at h ⊢
    split <;> simp only [true_and] <;> omega

/-- The day after has the next number. -/
theorem toDays_next (h : date.exists? = true) : date.next.toDays = date.toDays + 1 := by
  obtain ⟨hmonth, hday, hmost⟩ := exists?_iff.mp h
  obtain ⟨year, month, hmarch⟩ := exists_fromMarch hmonth
  have hlength := hmarch.length_cases
  unfold Leap at hlength
  rw [hmarch.toDays_eq]
  rcases hmarch.next_cases hmost with ⟨hnext, hday⟩ | ⟨hlast, hday, ⟨hless, hnext⟩ | ⟨rfl, hnext⟩⟩
  · rw [hnext.toDays_eq, hday]
    omega
  · rw [hnext.toDays_eq, hday]
    omega
  · rw [hnext.toDays_eq, hday]
    omega

/-- The day before has the number before. -/
theorem toDays_previous (h : date.exists? = true) : date.previous.toDays = date.toDays - 1 := by
  have hnext := toDays_next (exists_previous h)
  rw [next_previous h] at hnext
  omega

/-! ## Counting -/

/-- What is counted is in the calendar and has the number. -/
theorem CountedAs.toDays_eq (h : CountedAs date days) :
    date.exists? = true ∧ date.toDays = days := by
  induction h with
  | epoch => decide
  | next h ih => exact ⟨exists_next ih.1, by rw [toDays_next ih.1, ih.2]⟩
  | previous h ih => exact ⟨exists_previous ih.1, by rw [toDays_previous ih.1, ih.2]⟩

/-- Every number is counted up or down to. -/
theorem countedAs_ofDays (days : Int) : CountedAs (ofDays days) days := by
  induction days using Int.induction_on with
  | zero => exact .epoch
  | succ n ih =>
    have hnext : (ofDays n).next = ofDays (n + 1) := by
      have hnumber := toDays_next (exists_ofDays (n : Int))
      rw [toDays_ofDays] at hnumber
      rw [← hnumber, ofDays_toDays (exists_next (exists_ofDays _))]
    exact hnext ▸ ih.next
  | pred n ih =>
    have hprevious : (ofDays (-n)).previous = ofDays (-n - 1) := by
      have hnumber := toDays_previous (exists_ofDays (-n : Int))
      rw [toDays_ofDays] at hnumber
      rw [← hnumber, ofDays_toDays (exists_previous (exists_ofDays _))]
    exact hprevious ▸ ih.previous

/-- A date of the calendar is counted as its number and as no other. -/
theorem countedAs_iff (h : date.exists? = true) : CountedAs date days ↔ date.toDays = days := by
  constructor
  · exact fun hcounted => hcounted.toDays_eq.2
  · rintro rfl
    have hcounted := countedAs_ofDays date.toDays
    rwa [ofDays_toDays h] at hcounted

end

end IdentityGateway.Date
