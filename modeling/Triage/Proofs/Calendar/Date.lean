/-
Days and dates correspond.

Within an era of four hundred years, which start in March, the year of a day is found by taking leap
days off and dividing.  That this is the right year is shown at the first day of each year, and in
between because the count of days without leap days never falls.  The rest is arithmetic on one
year.
-/
import Triage.Calendar.Instant

namespace Triage.Calendar

/-! ### The years of an era -/

/-- The first day of a year, counted within its era. -/
def yearStart (year : Nat) : Nat := 365 * year + year / 4 - year / 100

/-- The days up to a day, but for the leap days. -/
def commonDays (day : Nat) : Nat := day - day / 1460 + day / 36524 - day / 146096

/-- The year that a day of an era lies in. -/
def yearOf (day : Nat) : Nat := commonDays day / 365

theorem commonDays_mono {a b : Nat} (h : a ≤ b) : commonDays a ≤ commonDays b := by
  induction h with
  | refl => exact Nat.le_refl _
  | step _ ih =>
      refine Nat.le_trans ih ?_
      unfold commonDays
      omega

theorem le_commonDays_yearStart :
    ∀ year < 400, 365 * year ≤ commonDays (yearStart year) := by
  decide +kernel

theorem commonDays_before_yearStart :
    ∀ year < 400, year ≠ 0 → commonDays (yearStart year - 1) < 365 * year := by
  decide +kernel

theorem yearOf_lt {day : Nat} (h : day ≤ 146096) : yearOf day < 400 := by
  unfold yearOf commonDays
  omega

theorem yearStart_yearOf_le {day : Nat} (h : day ≤ 146096) : yearStart (yearOf day) ≤ day := by
  refine Nat.not_lt.1 fun hlt => ?_
  have hyear : yearOf day ≠ 0 := by
    intro hzero
    rw [hzero] at hlt
    exact Nat.not_lt_zero _ hlt
  have hbefore := commonDays_before_yearStart _ (yearOf_lt h) hyear
  have hmono := commonDays_mono (Nat.le_sub_one_of_lt hlt)
  have hyears : 365 * yearOf day ≤ commonDays day := Nat.mul_div_le _ _
  omega

/-- A day comes before the year after its own; the last day of an era has no such year. -/
theorem lt_yearStart_succ {day : Nat} (hyear : yearOf day < 399) :
    day < yearStart (yearOf day + 1) := by
  refine Nat.not_le.1 fun hle => ?_
  have hstart := le_commonDays_yearStart (yearOf day + 1) (by omega)
  have hmono := commonDays_mono hle
  have hyears : commonDays day < 365 * (yearOf day + 1) := by
    rw [Nat.mul_comm]
    exact Nat.lt_mul_of_div_lt (Nat.lt_succ_self _) (by decide)
  omega

/-- How long the years of an era are, but for its last one. -/
theorem yearStart_succ : ∀ year < 399, yearStart (year + 1) ≤ yearStart year + 366 ∧
    (yearStart (year + 1) = yearStart year + 366 →
      (year + 1) % 4 = 0 ∧ ((year + 1) % 100 ≠ 0 ∨ (year + 1) % 400 = 0)) := by
  intro year hyear
  unfold yearStart
  omega

/-! ### Dates -/

/-- What makes up a day: its era, the year in that era and the day of that year, with years from
March on.  Only leap years have a last day. -/
structure Parts (days : Int) where
  era : Int
  year : Nat
  dayOfYear : Nat
  year_lt : year < 400
  dayOfYear_le : dayOfYear ≤ 365
  leap : dayOfYear = 365 → (year + 1) % 4 = 0 ∧ ((year + 1) % 100 ≠ 0 ∨ (year + 1) % 400 = 0)
  days_eq : days = era * 146097 + (yearStart year + dayOfYear : Nat) - 719468

namespace Parts

variable {days : Int}

/-- The month, counted from March. -/
def month (p : Parts days) : Nat := (5 * p.dayOfYear + 2) / 153

/-- The day of the month. -/
def day (p : Parts days) : Nat := p.dayOfYear - (153 * p.month + 2) / 5 + 1

/-- The date with these parts. -/
def date (p : Parts days) : Date :=
  ⟨p.year + p.era * 400 + (if p.month < 10 then 0 else 1),
    if p.month < 10 then p.month + 3 else p.month - 9, p.day⟩

/-- The parts of a day that is counted within its era. -/
def ofEra (era : Int) (day : Nat) (h : day ≤ 146096)
    (hdays : days = era * 146097 + day - 719468) : Parts days where
  era := era
  year := yearOf day
  dayOfYear := day - yearStart (yearOf day)
  year_lt := yearOf_lt h
  dayOfYear_le := by
    by_cases hyear : yearOf day < 399
    · have := lt_yearStart_succ hyear
      have := (yearStart_succ _ hyear).1
      omega
    · have := yearOf_lt h
      have hlast : yearOf day = 399 := by omega
      rw [hlast, yearStart]
      omega
  leap := by
    intro hlong
    by_cases hyear : yearOf day < 399
    · have := lt_yearStart_succ hyear
      have hlength := yearStart_succ _ hyear
      exact hlength.2 (by omega)
    · have := yearOf_lt h
      have hlast : yearOf day = 399 := by omega
      simp [hlast]
  days_eq := by
    have := yearStart_yearOf_le h
    omega

/-- The month and the day of the month are found alike in whole and in natural numbers. -/
theorem date_of_dayOfYear (year : Nat) (era : Int) {dayOfYear : Nat} (h : dayOfYear ≤ 365) :
    let month : Int := (5 * (dayOfYear : Int) + 2) / 153
    let civil := if month < 10 then month + 3 else month - 9
    (⟨if civil ≤ 2 then year + era * 400 + 1 else year + era * 400, civil.toNat,
        ((dayOfYear : Int) - (153 * month + 2) / 5 + 1).toNat⟩ : Date) =
      ⟨year + era * 400 + (if (5 * dayOfYear + 2) / 153 < 10 then 0 else 1),
        if (5 * dayOfYear + 2) / 153 < 10 then (5 * dayOfYear + 2) / 153 + 3
          else (5 * dayOfYear + 2) / 153 - 9,
        dayOfYear - (153 * ((5 * dayOfYear + 2) / 153) + 2) / 5 + 1⟩ := by
  intro month civil
  have hmonth : month = ((5 * dayOfYear + 2) / 153 : Nat) := by omega
  by_cases hlate : (5 * dayOfYear + 2) / 153 < 10
  · have hcivil : civil = ((5 * dayOfYear + 2) / 153 + 3 : Nat) := by
      simp only [civil, hmonth]
      rw [if_pos (by omega)]
      omega
    rw [if_neg (by omega), if_pos hlate, if_pos hlate, hcivil, hmonth, Date.mk.injEq]
    omega
  · have hcivil : civil = ((5 * dayOfYear + 2) / 153 - 9 : Nat) := by
      simp only [civil, hmonth]
      rw [if_neg (by omega)]
      omega
    rw [if_pos (by omega), if_neg hlate, if_neg hlate, hcivil, hmonth, Date.mk.injEq]
    omega

/-- The date of a day is that of its parts. -/
theorem exists_parts (days : Int) : ∃ p : Parts days, Date.ofDays days = p.date := by
  have hera : Int.fdiv (days + 719468) 146097 = (days + 719468) / 146097 :=
    Int.fdiv_eq_ediv_of_nonneg _ (by decide)
  obtain ⟨day, hday⟩ : ∃ day : Nat,
      (days + 719468) - (days + 719468) / 146097 * 146097 = day :=
    Int.eq_ofNat_of_zero_le (by omega)
  have hle : day ≤ 146096 := by omega
  have hdays : days = (days + 719468) / 146097 * 146097 + day - 719468 := by omega
  refine ⟨ofEra ((days + 719468) / 146097) day hle hdays, ?_⟩
  have hyear : ((day : Int) - day / 1460 + day / 36524 - day / 146096) / 365 = (yearOf day : Int) := by
    unfold yearOf commonDays
    omega
  have hofYear : (day : Int) - (365 * (yearOf day : Int) + (yearOf day : Int) / 4 -
      (yearOf day : Int) / 100) = ((day - yearStart (yearOf day) : Nat) : Int) := by
    have := yearStart_yearOf_le hle
    unfold yearStart at this ⊢
    omega
  unfold Date.ofDays
  simp only [hera, hday, hyear, hofYear]
  exact date_of_dayOfYear (yearOf day) _ (ofEra _ day hle hdays).dayOfYear_le

end Parts

namespace Date

/-- **Main result.** The date of a day counts as that day. -/
theorem toDays_ofDays (days : Int) : (ofDays days).toDays = days := by
  obtain ⟨p, hp⟩ := Parts.exists_parts days
  have hfit := p.dayOfYear_le
  have hmonth : p.month = (5 * p.dayOfYear + 2) / 153 := rfl
  have hyear : (if p.date.month ≤ 2 then p.date.year - 1 else p.date.year) =
      p.year + p.era * 400 := by
    unfold Parts.date
    by_cases hlate : p.month < 10
    · simp only [if_pos hlate]
      rw [if_neg (by omega)]
      omega
    · simp only [if_neg hlate]
      rw [if_pos (by omega)]
      omega
  have hshift : (p.date.month + 9) % 12 = p.month := by
    unfold Parts.date
    by_cases hlate : p.month < 10
    · simp only [if_pos hlate]
      omega
    · simp only [if_neg hlate]
      omega
  have hera : Int.fdiv (p.year + p.era * 400) 400 = p.era := by
    have := p.year_lt
    rw [Int.fdiv_eq_ediv_of_nonneg _ (by decide)]
    omega
  have hday : p.date.day = p.dayOfYear - (153 * p.month + 2) / 5 + 1 := rfl
  have hyearOfEra : (p.year : Int) + p.era * 400 - p.era * 400 = p.year := by omega
  have hdays := p.days_eq
  rw [hp, toDays]
  simp only [hyear, hshift, hera, hyearOfEra, hday]
  unfold yearStart at hdays
  omega

theorem daysInMonth_of_ne (year : Int) {month : Nat} (h : month ≠ 2) :
    daysInMonth year month =
      if month = 4 ∨ month = 6 ∨ month = 9 ∨ month = 11 then 30 else 31 := by
  unfold daysInMonth
  split
  · rfl
  · rfl
  · rfl
  · rfl
  · exact absurd rfl h
  · rename_i h4 h6 h9 h11 _
    exact (if_neg fun hcases => by
      rcases hcases with h | h | h | h
      · exact h4 h
      · exact h6 h
      · exact h9 h
      · exact h11 h).symm

theorem daysInMonth_le (year : Int) (month : Nat) : daysInMonth year month ≤ 31 := by
  by_cases h : month = 2
  · subst h
    show (if isLeapYear year = true then 29 else 28) ≤ 31
    split <;> omega
  · rw [daysInMonth_of_ne year h]
    split <;> omega

/-- A month has as many days as its parts allow. -/
theorem day_le_daysInMonth {days : Int} (p : Parts days) :
    p.date.day ≤ daysInMonth p.date.year p.date.month := by
  have hfit := p.dayOfYear_le
  have hmonth : p.month = (5 * p.dayOfYear + 2) / 153 := rfl
  have hday : p.date.day = p.dayOfYear - (153 * p.month + 2) / 5 + 1 := rfl
  have hcivil : p.date.month = if p.month < 10 then p.month + 3 else p.month - 9 := rfl
  by_cases hfebruary : p.month = 11
  · have hyear : p.date.year = p.year + p.era * 400 + 1 := by simp [Parts.date, hfebruary]
    rw [hcivil, hfebruary, hyear]
    show p.date.day ≤ if isLeapYear _ = true then 29 else 28
    split
    · omega
    · rename_i hcommon
      by_cases hlast : p.dayOfYear = 365
      · have hleap := p.leap hlast
        refine absurd ?_ hcommon
        simp only [isLeapYear, Bool.and_eq_true, Bool.or_eq_true, beq_iff_eq, bne_iff_ne]
        omega
      · omega
  · have hne : p.date.month ≠ 2 := by
      rw [hcivil]
      split <;> omega
    rw [daysInMonth_of_ne _ hne, hcivil, hday]
    split
    · split <;> omega
    · split <;> omega

/-- The days from the first year to the last one have valid dates. -/
theorem isValid_ofDays {days : Int} (hfirst : toDays ⟨firstYear, 1, 1⟩ ≤ days)
    (hlast : days ≤ toDays ⟨lastYear, 12, 31⟩) : (ofDays days).isValid = true := by
  obtain ⟨p, hp⟩ := Parts.exists_parts days
  have hfirst : -96465292 ≤ days := hfirst
  have hlast : days ≤ 95026236 := hlast
  have hdays := p.days_eq
  have hyear := p.year_lt
  have hfit := p.dayOfYear_le
  have hdaysInMonth := day_le_daysInMonth p
  have hmonth : p.month = (5 * p.dayOfYear + 2) / 153 := rfl
  have hday : p.date.day = p.dayOfYear - (153 * p.month + 2) / 5 + 1 := rfl
  have hcivil : p.date.month = if p.month < 10 then p.month + 3 else p.month - 9 := rfl
  have hcivilYear : p.date.year = p.year + p.era * 400 + (if p.month < 10 then 0 else 1) := rfl
  have hmonths : 1 ≤ p.date.month ∧ p.date.month ≤ 12 := by
    rw [hcivil]
    split <;> omega
  have hyears : firstYear ≤ p.date.year ∧ p.date.year ≤ lastYear := by
    unfold yearStart at hdays
    rw [hcivilYear, firstYear, lastYear]
    have hera : -656 ≤ p.era ∧ p.era ≤ 655 := by omega
    by_cases hlow : p.era = -656
    · split <;> omega
    · by_cases hhigh : p.era = 655
      · split <;> omega
      · split <;> omega
  rw [hp]
  simp only [isValid, Bool.and_eq_true, decide_eq_true_eq]
  omega

end Date

end Triage.Calendar
