import Hookup.Time.Calendar
import Mathlib.Order.Monotone.Basic
import Mathlib.Tactic.Lemma

/-!
# Day numbers and dates

A day number is turned into a date by integer divisions that guess the year, the month and the day.
The guess is right:

* `yearOfEra_spec` — the year from the day of an era.  How it goes wrong by at most a day is known
  at the ends of the 400 years, and between them the guess is monotone.
* `dayOfYear_spec` — month and day from the day of a year that begins in March.
* **`dayNumber_ofDayNumber`**, **`isValid_ofDayNumber`** — every day has one date with its number,
  and a date that the calendar has if it is a day of the calendar.
-/

namespace Hookup

namespace Date

/-! ## The year of an era -/

/-- The day of an era with which a year, counted from the March at its start, begins. -/
def yearStart (year : Int) : Int := 365 * year + year / 4 - year / 100 + year / 400

/-- The days of an era up to a day, less those beyond the 365th of their year. -/
def plainDays (day : Int) : Int := day - day / 1460 + day / 36524 - day / 146096

lemma plainDays_le_succ (day : Int) : plainDays day ≤ plainDays (day + 1) := by
  rw [plainDays, plainDays]
  omega

lemma plainDays_mono {a b : Int} (h : a ≤ b) : plainDays a ≤ plainDays b :=
  monotone_int_of_le_succ plainDays_le_succ h

lemma yearStart_lt_succ (year : Int) : yearStart year < yearStart (year + 1) := by
  rw [yearStart, yearStart]
  omega

lemma yearStart_succ_le (year : Int) : yearStart (year + 1) ≤ yearStart year + 366 := by
  rw [yearStart, yearStart]
  omega

lemma yearStart_mono {a b : Int} (h : a ≤ b) : yearStart a ≤ yearStart b :=
  monotone_int_of_le_succ (fun year => Int.le_of_lt (yearStart_lt_succ year)) h

lemma yearStart_add_era (era year : Int) :
    yearStart (era * 400 + year) = era * 146097 + yearStart year := by
  rw [yearStart, yearStart]
  omega

/-- At both ends of every year of an era the plain days tell the year. -/
lemma plainDays_yearStart : ∀ year : Nat, year < 400 →
    365 * (year : Int) ≤ plainDays (yearStart year) ∧
      plainDays (yearStart (year + 1) - 1) < 365 * ((year : Int) + 1) := by
  decide +kernel

/-- **The year of a day of an era** is the one that its plain days tell. -/
lemma yearOfEra_spec (day : Int) (hlow : 0 ≤ day) (hhigh : day < 146097) :
    ∃ year : Nat, plainDays day / 365 = year ∧ year < 400 ∧
      yearStart year ≤ day ∧ day < yearStart (year + 1) := by
  have hfirst : plainDays 0 ≤ plainDays day := plainDays_mono hlow
  have hlast : plainDays day ≤ plainDays 146096 := plainDays_mono (by omega)
  have hzero : plainDays 0 = 0 := by decide
  have hend : plainDays 146096 = 145999 := by decide
  obtain ⟨year, hyear⟩ := Int.eq_ofNat_of_zero_le (a := plainDays day / 365) (by omega)
  refine ⟨year, hyear, by omega, ?_, ?_⟩
  · by_contra hlate
    cases year with
    | zero =>
        have hstart : yearStart ((0 : Nat) : Int) = 0 := by decide
        omega
    | succ year =>
        -- the day would be no later than the last one of the year before
        have hbound := (plainDays_yearStart year (by omega)).2
        have hmono := plainDays_mono (a := day) (b := yearStart ((year : Int) + 1) - 1)
          (by push_cast at hlate; omega)
        push_cast at hyear
        omega
  · by_contra hearly
    by_cases hyears : year = 399
    · have hstart : yearStart (((399 : Nat) : Int) + 1) = 146097 := by decide
      rw [hyears] at hearly
      omega
    · have hbound := (plainDays_yearStart (year + 1) (by omega)).1
      have hmono := plainDays_mono (a := yearStart ((year : Int) + 1)) (b := day) (by omega)
      push_cast at hbound
      omega

/-! ## Month and day of a year -/

/-- The month, counted from March, that a day of a year is in. -/
def monthFromMarch (dayOfYear : Int) : Int := (5 * dayOfYear + 2) / 153

/-- The month that a day of a year is in. -/
def monthOf (dayOfYear : Int) : Int :=
  if monthFromMarch dayOfYear < 10 then monthFromMarch dayOfYear + 3
  else monthFromMarch dayOfYear - 9

/-- The day of its month that a day of a year is. -/
def dayOf (dayOfYear : Int) : Int := dayOfYear - (153 * monthFromMarch dayOfYear + 2) / 5 + 1

/-- **Month and day of a day of a year** are those of a calendar.  January and February come last,
and the 366th day is in a leap year, of which year 4 is one. -/
lemma dayOfYear_spec : ∀ dayOfYear : Nat, dayOfYear < 366 →
    1 ≤ monthOf dayOfYear ∧ monthOf dayOfYear ≤ 12 ∧ 1 ≤ dayOf dayOfYear ∧
    ((monthOf dayOfYear).toNat + 9 : Int) % 12 = monthFromMarch dayOfYear ∧
    (monthOf dayOfYear ≤ 2 ↔ 306 ≤ dayOfYear) ∧
    ∀ year ∈ [1, 4], (dayOfYear = 365 → year = 4) →
      dayOf dayOfYear ≤ daysInMonth year (monthOf dayOfYear).toNat := by
  decide +kernel

lemma yearStart_of_lt {year : Nat} (h : year < 400) :
    yearStart year = 365 * year + (year : Int) / 4 - (year : Int) / 100 := by
  rw [yearStart]
  omega

/-- The parts of a day number and the date that is made of them. -/
lemma ofDayNumber_eq (n : Int) : ∃ (era : Int) (year day : Nat),
    n + 719468 = era * 146097 + yearStart year + day ∧ year < 400 ∧ day < 366 ∧
    yearStart year + day < yearStart (year + 1) ∧
    ofDayNumber n = ⟨if monthOf day ≤ 2 then year + era * 400 + 1 else year + era * 400,
      (monthOf day).toNat, (dayOf day).toNat⟩ := by
  obtain ⟨era, hera⟩ : ∃ era, (n + 719468) / 146097 = era := ⟨_, rfl⟩
  obtain ⟨dayOfEra, hdayOfEra⟩ : ∃ dayOfEra, (n + 719468) % 146097 = dayOfEra := ⟨_, rfl⟩
  obtain ⟨year, hyear, hyears, hstart, hend⟩ := yearOfEra_spec dayOfEra (by omega) (by omega)
  have hlength := yearStart_succ_le year
  obtain ⟨day, hday⟩ := Int.eq_ofNat_of_zero_le (a := dayOfEra - yearStart year) (by omega)
  refine ⟨era, year, day, by omega, hyears, by omega, by omega, ?_⟩
  rw [← hera, ← hday, yearStart_of_lt hyears, ← hyear, ← hdayOfEra]
  rfl

/-! ## Dates -/

/-- **The date of a day number has that number.** -/
theorem dayNumber_ofDayNumber (n : Int) : (ofDayNumber n).dayNumber = n := by
  obtain ⟨era, year, day, hn, hyears, hday, -, hdate⟩ := ofDayNumber_eq n
  obtain ⟨hmonth, hmonth', hfirst, hfrom, -, -⟩ := dayOfYear_spec day hday
  have hstart := yearStart_of_lt hyears
  have hdayOf : dayOf day = day - (153 * monthFromMarch day + 2) / 5 + 1 := rfl
  have hmarch : (if (monthOf day).toNat ≤ 2 then
      (if monthOf day ≤ 2 then year + era * 400 + 1 else year + era * 400) - 1
      else if monthOf day ≤ 2 then year + era * 400 + 1 else year + era * 400) =
        year + era * 400 := by
    split_ifs <;> omega
  rw [hdate, dayNumber]
  simp only [hmarch]
  rw [hfrom]
  omega

/-- A year that is longer than 365 days ends with a February that has 29. -/
lemma isLeapYear_of_yearStart {year : Int} (h : yearStart year + 365 < yearStart (year + 1)) :
    isLeapYear (year + 1) = true := by
  rw [yearStart, yearStart] at h
  simp only [isLeapYear, Bool.and_eq_true, Bool.or_eq_true, beq_iff_eq, bne_iff_ne]
  omega

lemma daysInMonth_congr {a b : Int} (h : isLeapYear a = isLeapYear b) (month : Nat) :
    daysInMonth a month = daysInMonth b month := by
  rw [daysInMonth, daysInMonth, h]

/-- The date of a day is in a month of its year, and on a day of that month. -/
lemma month_day_ofDayNumber (n : Int) :
    1 ≤ (ofDayNumber n).month ∧ (ofDayNumber n).month ≤ 12 ∧ 1 ≤ (ofDayNumber n).day ∧
      (ofDayNumber n).day ≤ daysInMonth (ofDayNumber n).year (ofDayNumber n).month := by
  obtain ⟨era, year, day, -, -, hday, hyear, hdate⟩ := ofDayNumber_eq n
  obtain ⟨hmonth, hmonth', hfirst, -, hnew, hmonths⟩ := dayOfYear_spec day hday
  have hleap : day = 365 → isLeapYear (ofDayNumber n).year = true := by
    rintro rfl
    have hcivil : (ofDayNumber n).year = era * 400 + year + 1 := by
      rw [hdate]
      simp only
      rw [if_pos (hnew.2 (by omega))]
      omega
    rw [hcivil]
    refine isLeapYear_of_yearStart ?_
    rw [Int.add_assoc, yearStart_add_era era (year + 1), yearStart_add_era era year]
    omega
  have hdayOf : dayOf day ≤ daysInMonth (ofDayNumber n).year (monthOf day).toNat := by
    cases hkind : isLeapYear (ofDayNumber n).year with
    | true =>
        have hfour : isLeapYear (ofDayNumber n).year = isLeapYear 4 := hkind
        rw [daysInMonth_congr hfour]
        exact hmonths 4 (by simp) fun _ => rfl
    | false =>
        have hone : isLeapYear (ofDayNumber n).year = isLeapYear 1 := hkind
        rw [daysInMonth_congr hone]
        refine hmonths 1 (by simp) fun hday' => ?_
        rw [hleap hday'] at hkind
        cases hkind
  have hmonthOf : (ofDayNumber n).month = (monthOf day).toNat := by rw [hdate]
  have hdayIs : (ofDayNumber n).day = (dayOf day).toNat := by rw [hdate]
  rw [hmonthOf, hdayIs]
  omega

lemma year_ofDayNumber {n : Int} (hfirst : (Date.mk firstYear 1 1).dayNumber ≤ n)
    (hlast : n < (Date.mk (lastYear + 1) 1 1).dayNumber) :
    firstYear ≤ (ofDayNumber n).year ∧ (ofDayNumber n).year ≤ lastYear := by
  obtain ⟨era, year, day, hn, -, hday, hyear, hdate⟩ := ofDayNumber_eq n
  obtain ⟨-, -, -, -, hnew, -⟩ := dayOfYear_spec day hday
  have hstart : (Date.mk firstYear 1 1).dayNumber = yearStart (-262144) + 306 - 719468 := by decide
  have hend : (Date.mk (lastYear + 1) 1 1).dayNumber = yearStart 262142 + 306 - 719468 := by decide
  rw [hstart] at hfirst
  rw [hend] at hlast
  -- the years are counted on from era to era
  have hthis := yearStart_add_era era year
  have hnext := yearStart_add_era era (year + 1)
  have hlower : -262144 ≤ era * 400 + year := by
    by_contra hearly
    have hmono := yearStart_mono (a := era * 400 + (year + 1)) (b := -262144) (by omega)
    omega
  have hupper : era * 400 + year ≤ 262142 := by
    by_contra hlate
    have hmono := yearStart_mono (a := 262142 + 1) (b := era * 400 + year) (by omega)
    have hwhole : yearStart 262142 + 306 ≤ yearStart (262142 + 1) := by decide
    omega
  rw [hdate, firstYear, lastYear]
  simp only
  split_ifs with hjanuary
  · refine ⟨by omega, ?_⟩
    by_contra hlate
    obtain heq : era * 400 + year = 262142 := by omega
    rw [heq] at hthis
    omega
  · refine ⟨?_, by omega⟩
    by_contra hearly
    obtain heq : era * 400 + year = -262144 := by omega
    rw [heq] at hthis
    omega

/-- **The date of a day of the calendar is a date of the calendar.** -/
theorem isValid_ofDayNumber {n : Int} (hfirst : (Date.mk firstYear 1 1).dayNumber ≤ n)
    (hlast : n < (Date.mk (lastYear + 1) 1 1).dayNumber) : (ofDayNumber n).isValid = true := by
  obtain ⟨hyear, hyear'⟩ := year_ofDayNumber hfirst hlast
  obtain ⟨hmonth, hmonth', hday, hday'⟩ := month_day_ofDayNumber n
  rw [isValid]
  simp only [Bool.and_eq_true, decide_eq_true_eq]
  exact ⟨⟨⟨⟨⟨hyear, hyear'⟩, hmonth⟩, hmonth'⟩, hday⟩, hday'⟩

end Date

end Hookup
