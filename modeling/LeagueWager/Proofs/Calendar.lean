import LeagueWager.Date.Instant

/-!
# Days and their names

Every day has one name: the name that the calendar gives to the day with a number has this number,
and it is the name of a day that exists. The years of an era are counted from March, so that a leap
day is the last of its year; which year a day of the era lies in is found by a division, once the
leap days before it are taken out. That division is right at the first and at the last day of each
of the 400 years, and monotone between them.

* `eraYear_bounds`: the division finds the year;
* `dayNumber_dayOfNumber`: from a number to the name and back;
* `isDay_dayOfNumber`: the name is that of a day.
-/

namespace LeagueWager.Calendar

/-! ## The years of an era -/

/-- The days of an era before this year. -/
def daysBefore (y : Nat) : Nat := 365 * y + y / 4 - y / 100

/-- The day of the era without the leap days before it. -/
def withoutLeaps (d : Nat) : Nat := d - d / 1460 + d / 36524 - d / 146096

/-- The year of the era in which this day of it lies. -/
def eraYear (d : Nat) : Nat := withoutLeaps d / 365

theorem eraYear_firstDay : ∀ y < 400, eraYear (daysBefore y) = y := by decide +kernel

theorem eraYear_lastDay : ∀ y < 400, eraYear (daysBefore (y + 1) - 1) = y := by decide +kernel

theorem withoutLeaps_le_succ {d : Nat} (h : d + 1 < 146097) :
    withoutLeaps d ≤ withoutLeaps (d + 1) := by
  unfold withoutLeaps
  omega

theorem eraYear_mono {a b : Nat} (hab : a ≤ b) (hb : b < 146097) : eraYear a ≤ eraYear b := by
  refine Nat.div_le_div_right ?_
  induction hab with
  | refl => exact Nat.le_refl _
  | step _ ih => exact Nat.le_trans (ih (by omega)) (withoutLeaps_le_succ hb)

theorem eraYear_lt {d : Nat} (h : d < 146097) : eraYear d < 400 := by
  have := eraYear_mono (Nat.le_of_lt_succ h) (by decide)
  have : eraYear 146096 = 399 := by decide
  omega

/-- **A day lies in the year that is found for it**: not before the year's first day and before the
next year's. The last day of the era is the leap day of its last year. -/
theorem eraYear_bounds {d : Nat} (h : d < 146097) :
    daysBefore (eraYear d) ≤ d ∧
      (d < daysBefore (eraYear d + 1) ∨ d = 146096 ∧ eraYear d = 399) := by
  have within := eraYear_lt h
  constructor
  · -- a day before the year would be found in the year before
    apply Nat.le_of_not_lt
    intro before
    have start : 0 < eraYear d := by
      apply Nat.pos_of_ne_zero
      intro zero
      rw [zero] at before
      exact absurd before (Nat.not_lt_zero d)
    have last := eraYear_lastDay (eraYear d - 1) (by omega)
    rw [Nat.sub_add_cancel start] at last
    have := eraYear_mono (Nat.le_sub_one_of_lt before) (by unfold daysBefore; omega)
    omega
  · -- a day behind the year would be found in the next one
    by_cases next : eraYear d + 1 < 400
    · left
      apply Nat.lt_of_not_le
      intro behind
      have := eraYear_firstDay (eraYear d + 1) next
      have := eraYear_mono behind h
      omega
    · have last : eraYear d = 399 := by omega
      rw [last]
      have : daysBefore (399 + 1) = 146096 := by decide
      omega

/-! ## The name of a day -/

/-- The month in which a day of the year lies, counted from March. -/
def marchMonth (dayOfYear : Nat) : Nat := (5 * dayOfYear + 2) / 153

/-- The month in which a day of the year lies. -/
def monthOf (dayOfYear : Nat) : Nat :=
  if marchMonth dayOfYear < 10 then marchMonth dayOfYear + 3 else marchMonth dayOfYear - 9

/-- The day of its month. -/
def dayOfMonth (dayOfYear : Nat) : Nat :=
  dayOfYear - (153 * marchMonth dayOfYear + 2) / 5 + 1

theorem firstDay_le (dayOfYear : Nat) : (153 * marchMonth dayOfYear + 2) / 5 ≤ dayOfYear := by
  unfold marchMonth
  omega

/-- A day's number, taken apart: the era, the day of the era, and the day of its year. -/
structure Parts (n era : Int) (dayOfEra dayOfYear : Nat) : Prop where
  inEra : dayOfEra < 146097
  whole : n = era * 146097 + dayOfEra - 719468
  inYear : dayOfEra = daysBefore (eraYear dayOfEra) + dayOfYear
  /-- Where the day's name comes from. -/
  name : dayOfNumber n = ⟨if monthOf dayOfYear ≤ 2 then era * 400 + eraYear dayOfEra + 1
    else era * 400 + eraYear dayOfEra, monthOf dayOfYear, dayOfMonth dayOfYear⟩

/-- Every day's number can be taken apart. -/
theorem exists_parts (n : Int) : ∃ era dayOfEra dayOfYear, Parts n era dayOfEra dayOfYear := by
  obtain ⟨d, hd⟩ : ∃ d : Nat, (n + 719468) % 146097 = d :=
    ⟨((n + 719468) % 146097).toNat, by omega⟩
  have inEra : d < 146097 := by omega
  have start := (eraYear_bounds inEra).1
  refine ⟨(n + 719468) / 146097, d, d - daysBefore (eraYear d), inEra, by omega, by omega, ?_⟩
  -- the calendar divides integers; within an era they are natural numbers
  have year : ((d : Int) - d / 1460 + d / 36524 - d / 146096) / 365 = (eraYear d : Nat) := by
    unfold eraYear withoutLeaps
    omega
  have day {y : Nat} (start : daysBefore y ≤ d) :
      (d : Int) - (365 * (y : Int) + y / 4 - y / 100) = (d - daysBefore y : Nat) := by
    unfold daysBefore at *
    omega
  have month (k : Nat) : (5 * (k : Int) + 2) / 153 = (marchMonth k : Nat) := by
    unfold marchMonth
    omega
  unfold dayOfNumber
  dsimp only
  rw [hd, year, day start, month]
  have reached := firstDay_le (d - daysBefore (eraYear d))
  unfold dayOfMonth monthOf
  generalize d - daysBefore (eraYear d) = k at *
  generalize marchMonth k = m at *
  rw [Day.mk.injEq]
  refine ⟨?_, ?_, ?_⟩
  · split <;> split <;> split <;> split <;> omega
  · split <;> split <;> omega
  · omega

namespace Parts

variable {n era : Int} {dayOfEra dayOfYear : Nat} (h : Parts n era dayOfEra dayOfYear)

include h

/-- Only a leap year has a day behind its 365th. -/
theorem dayOfYear_le : dayOfYear < 365 ∨
    dayOfYear = 365 ∧ isLeap (era * 400 + eraYear dayOfEra + 1) = true := by
  have within := eraYear_lt h.inEra
  have bounds := (eraYear_bounds h.inEra).2
  have := h.inYear
  unfold isLeap
  simp only [Bool.and_eq_true, Bool.or_eq_true, beq_iff_eq, bne_iff_ne]
  generalize eraYear dayOfEra = y at *
  unfold daysBefore at *
  omega

end Parts

/-- Months are counted from March in names as well. -/
theorem marchMonth_eq {k : Nat} (h : k ≤ 365) :
    (if monthOf k > 2 then (monthOf k : Int) - 3 else (monthOf k : Int) + 9) = marchMonth k := by
  have : marchMonth k ≤ 11 := by
    unfold marchMonth
    omega
  unfold monthOf
  split <;> split <;> omega

/-- **The name of a day has its number.** -/
theorem dayNumber_dayOfNumber (n : Int) :
    dayNumber (dayOfNumber n).year (dayOfNumber n).month (dayOfNumber n).day = n := by
  obtain ⟨era, d, k, h⟩ := exists_parts n
  have within := eraYear_lt h.inEra
  have short : k ≤ 365 := by
    have := h.dayOfYear_le
    omega
  have reached := firstDay_le k
  have whole := h.whole
  have inYear := h.inYear
  rw [h.name]
  unfold dayNumber dayOfMonth
  dsimp only
  rw [marchMonth_eq short]
  have year (y : Int) : (if monthOf k ≤ 2 then (if monthOf k ≤ 2 then y + 1 else y) - 1
      else if monthOf k ≤ 2 then y + 1 else y) = y := by
    split <;> omega
  rw [year]
  generalize marchMonth k = m at *
  generalize eraYear d = y at *
  unfold daysBefore at inYear
  have : (era * 400 + (y : Int)) / 400 = era := by omega
  have : (era * 400 + (y : Int)) % 400 = y := by omega
  simp only [*]
  omega

/-- A leap day that a multiple of four hundred years has. -/
example : dayNumber 2000 2 29 = 11016 ∧ dayOfNumber 11016 = ⟨2000, 2, 29⟩ := by decide

/-- January and February are the last months of a year that starts with March. -/
theorem monthOf_le_two_iff {k : Nat} (h : k ≤ 365) : monthOf k ≤ 2 ↔ 306 ≤ k := by
  unfold monthOf marchMonth
  split <;> omega

theorem monthOf_bounds {k : Nat} (h : k ≤ 365) : 1 ≤ monthOf k ∧ monthOf k ≤ 12 := by
  unfold monthOf marchMonth
  split <;> omega

/-- No month is longer than it should be; the last day of the year is the leap day. -/
theorem dayOfMonth_le : ∀ k < 366, dayOfMonth k ≤
    if monthOf k = 2 then (if k = 365 then 29 else 28)
    else if monthOf k = 4 ∨ monthOf k = 6 ∨ monthOf k = 9 ∨ monthOf k = 11 then 30
    else 31 := by
  decide +kernel

theorem year_bounds {n : Int} (first : dayNumber firstYear 1 1 ≤ n)
    (last : n ≤ dayNumber lastYear 12 31) :
    firstYear ≤ (dayOfNumber n).year ∧ (dayOfNumber n).year ≤ lastYear := by
  obtain ⟨era, d, k, h⟩ := exists_parts n
  have within := eraYear_lt h.inEra
  have short : k ≤ 365 := by
    have := h.dayOfYear_le
    omega
  have whole := h.whole
  have inYear := h.inYear
  rw [h.name]
  dsimp only
  rw [show dayNumber firstYear 1 1 = -96465292 from by decide] at first
  rw [show dayNumber lastYear 12 31 = 95026236 from by decide] at last
  simp only [monthOf_le_two_iff short]
  unfold daysBefore firstYear lastYear at *
  generalize eraYear d = y at *
  -- only in the first and in the last era do the bounds cut into the years
  have eras : era = -656 ∨ era = 655 ∨ -656 < era ∧ era < 655 := by omega
  rcases eras with rfl | rfl | between
  · split <;> omega
  · split <;> omega
  · split <;> omega

/-- **The name of a day is that of a day that exists**, if its year may be written. -/
theorem isDay_dayOfNumber {n : Int} (first : dayNumber firstYear 1 1 ≤ n)
    (last : n ≤ dayNumber lastYear 12 31) :
    isDay (dayOfNumber n).year (dayOfNumber n).month (dayOfNumber n).day = true := by
  have years := year_bounds first last
  obtain ⟨era, d, k, h⟩ := exists_parts n
  have leapDay := h.dayOfYear_le
  have months := monthOf_bounds (k := k) (by omega)
  have enough := dayOfMonth_le k (by omega)
  have positive : 1 ≤ dayOfMonth k := Nat.le_add_left 1 _
  have fits : (dayOfNumber n).day ≤ daysInMonth (dayOfNumber n).year (dayOfNumber n).month := by
    rw [h.name]
    unfold daysInMonth
    dsimp only
    split
    · rename_i february
      rw [if_pos february] at enough
      rw [if_pos (show monthOf k ≤ 2 by omega)]
      rcases leapDay with short | ⟨rfl, leap⟩
      · rw [if_neg (by omega)] at enough
        split <;> omega
      · rw [if_pos leap]
        exact enough
    · rename_i other
      rw [if_neg other] at enough
      exact enough
  unfold isDay
  rw [h.name] at *
  simp only [Bool.and_eq_true, decide_eq_true_eq]
  exact ⟨⟨⟨⟨⟨years.1, years.2⟩, months.1⟩, months.2⟩, positive⟩, fits⟩

end LeagueWager.Calendar
