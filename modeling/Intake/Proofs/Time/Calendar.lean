import Intake.Time.Calendar

/-!
# Calendar: days are counted as the calendar counts them

The number of a date grows by one from each day to the next, with months of 28 to 31 days and the leap years of the Gregorian
calendar, and 1970-01-01 is day zero (`counts_daysOfDate`): so it is the number of days since then, and before then a negative one.
Every day has a date that exists, and its number is that day (`daysOfDate_dateOfDays`).

Both directions go through years that begin in March (`daysOfDate_eq`, `exists_yearDay`). Such a year ends with February, so a leap
day changes nothing but its length.
-/

namespace Intake

namespace Date

/-- The date is one of the calendar. -/
structure Valid (d : Date) : Prop where
  month_pos : 1 ≤ d.month
  month_le : d.month ≤ 12
  day_pos : 1 ≤ d.day
  day_le : d.day ≤ Calendar.monthDays d.year d.month

/-- The day after a date. -/
def next (d : Date) : Date :=
  if d.day < Calendar.monthDays d.year d.month then { d with day := d.day + 1 }
  else if d.month < 12 then ⟨d.year, d.month + 1, 1⟩
  else ⟨d.year + 1, 1, 1⟩

/-- The year of a date if years began in March. -/
def marchYear (d : Date) : Int := if 2 < d.month then d.year else d.year - 1

/-- The month of a date, counted from March. -/
def marchMonth (d : Date) : Nat := if 2 < d.month then d.month - 3 else d.month + 9

theorem march_of_lt {d : Date} (h : 2 < d.month) : d.marchYear = d.year ∧ d.marchMonth = d.month - 3 := ⟨if_pos h, if_pos h⟩

theorem march_of_le {d : Date} (h : d.month ≤ 2) : d.marchYear = d.year - 1 ∧ d.marchMonth = d.month + 9 :=
  ⟨if_neg (Nat.not_lt.2 h), if_neg (Nat.not_lt.2 h)⟩

/-- Behind the last day of a month other than February stands the first of the next month. -/
theorem march_next {d : Date} (h : d.Valid) (hend : ¬ d.day < Calendar.monthDays d.year d.month) (hne : d.month ≠ 2) :
    d.next.marchYear = d.marchYear ∧ d.next.marchMonth = d.marchMonth + 1 ∧ d.next.day = 1 := by
  have hpos := h.month_pos
  have hle := h.month_le
  unfold next
  rw [if_neg hend]
  by_cases hjanuary : d.month = 1
  · obtain ⟨hyear, hmonth⟩ := march_of_le (d := d) (by omega)
    obtain ⟨hyear', hmonth'⟩ := march_of_le (d := ⟨d.year, d.month + 1, 1⟩) (by dsimp only; omega)
    rw [if_pos (by omega), hyear, hmonth, hyear', hmonth']
    exact ⟨rfl, Nat.succ_add _ _, rfl⟩
  · obtain ⟨hyear, hmonth⟩ := march_of_lt (d := d) (by omega)
    by_cases hdecember : d.month < 12
    · obtain ⟨hyear', hmonth'⟩ := march_of_lt (d := ⟨d.year, d.month + 1, 1⟩) (by dsimp only; omega)
      rw [if_pos hdecember, hyear, hmonth, hyear', hmonth']
      exact ⟨rfl, by dsimp only; omega, rfl⟩
    · obtain ⟨hyear', hmonth'⟩ := march_of_le (d := ⟨d.year + 1, 1, 1⟩) (Nat.le_succ 1)
      rw [if_neg hdecember, hyear, hmonth, hyear', hmonth']
      exact ⟨Int.add_sub_cancel _ _, by dsimp only; omega, rfl⟩

end Date

namespace Calendar

/-! ## Days and dates -/

/-- Dates are numbered as the calendar counts days from 1970-01-01 on, and back from there. -/
structure Counts (number : Date → Int) : Prop where
  epoch : number ⟨1970, 1, 1⟩ = 0
  next : ∀ d : Date, d.Valid → number d.next = number d + 1

/-- Days from 0000-03-01 to the first of March of a year. -/
def daysBeforeYear (year : Int) : Int := 365 * year + year / 4 - year / 100 + year / 400

theorem isLeap_iff (year : Int) : isLeap year = true ↔ year % 4 = 0 ∧ (year % 100 ≠ 0 ∨ year % 400 = 0) := by
  unfold isLeap
  rw [Int.fmod_eq_emod_of_nonneg _ (by decide), Int.fmod_eq_emod_of_nonneg _ (by decide), Int.fmod_eq_emod_of_nonneg _ (by decide)]
  simp only [Bool.and_eq_true, Bool.or_eq_true, decide_eq_true_eq]

/-- The days up to a date are those of the years, the months and the days before it, from the first of March on. -/
theorem daysOfDate_eq (d : Date) :
    daysOfDate d + epochDays = daysBeforeYear d.marchYear + (daysBeforeMonth d.marchMonth + (d.day - 1) : Nat) := by
  unfold daysOfDate
  change 146097 * d.marchYear.fdiv 400 + ((365 * (d.marchYear.fmod 400).toNat + (d.marchYear.fmod 400).toNat / 4
    - (d.marchYear.fmod 400).toNat / 100 + (daysBeforeMonth d.marchMonth + (d.day - 1)) : Nat) : Int) - epochDays + epochDays = _
  rw [Int.fdiv_eq_ediv_of_nonneg _ (by decide), Int.fmod_eq_emod_of_nonneg _ (by decide)]
  unfold daysBeforeYear
  omega

/-- A year has a day more if it ends with a leap day. -/
theorem daysBeforeYear_succ (year : Int) :
    daysBeforeYear (year + 1) = daysBeforeYear year + (337 + monthDays (year + 1) 2 : Nat) := by
  have hleap := isLeap_iff (year + 1)
  unfold daysBeforeYear monthDays
  rw [if_pos rfl]
  split
  · next h =>
    rw [hleap] at h
    omega
  · next h =>
    rw [hleap] at h
    omega

/-- Months follow one another, from March to January. -/
theorem daysBeforeMonth_succ {d : Date} (h : d.Valid) (hne : d.month ≠ 2) :
    daysBeforeMonth (d.marchMonth + 1) = daysBeforeMonth d.marchMonth + monthDays d.year d.month := by
  obtain ⟨year, month, day⟩ := d
  have hmonth : month = 1 ∨ month = 3 ∨ month = 4 ∨ month = 5 ∨ month = 6 ∨ month = 7 ∨ month = 8 ∨ month = 9 ∨ month = 10 ∨
      month = 11 ∨ month = 12 := by
    have hpos : 1 ≤ month := h.month_pos
    have hle : month ≤ 12 := h.month_le
    have hfebruary : month ≠ 2 := hne
    omega
  unfold daysBeforeMonth monthDays Date.marchMonth
  rcases hmonth with rfl | rfl | rfl | rfl | rfl | rfl | rfl | rfl | rfl | rfl | rfl <;> simp

/-- The day after a date is the next day. -/
theorem daysOfDate_next {d : Date} (h : d.Valid) : daysOfDate d.next = daysOfDate d + 1 := by
  obtain ⟨hpos, hle, hday, hlast⟩ := h
  have hcount := daysOfDate_eq d
  have hnext := daysOfDate_eq d.next
  by_cases hmore : d.day < monthDays d.year d.month
  · have hdate : d.next = ⟨d.year, d.month, d.day + 1⟩ := if_pos hmore
    rw [hdate] at hnext ⊢
    change _ = daysBeforeYear d.marchYear + (daysBeforeMonth d.marchMonth + d.day : Nat) at hnext
    omega
  · have hend : d.day = monthDays d.year d.month := Nat.le_antisymm hlast (Nat.not_lt.1 hmore)
    by_cases hfebruary : d.month = 2
    · have hdate : d.next = ⟨d.year, 3, 1⟩ := by
        unfold Date.next
        rw [if_neg hmore, if_pos (by omega), hfebruary]
      obtain ⟨hyear, hmonth⟩ := Date.march_of_le (Nat.le_of_eq hfebruary)
      obtain ⟨hyear', hmonth'⟩ := @Date.march_of_lt ⟨d.year, 3, 1⟩ (Nat.lt_succ_self 2)
      have hyears := daysBeforeYear_succ (d.year - 1)
      rw [Int.sub_add_cancel] at hyears
      rw [hyear, hmonth, hfebruary] at hcount
      rw [hfebruary] at hend
      rw [hdate, hyear', hmonth'] at hnext
      rw [hdate]
      dsimp only [daysBeforeMonth] at hcount hnext
      omega
    · have hmonths := daysBeforeMonth_succ ⟨hpos, hle, hday, hlast⟩ hfebruary
      obtain ⟨hyear, hmonth, hfirst⟩ := Date.march_next ⟨hpos, hle, hday, hlast⟩ hmore hfebruary
      rw [hyear, hmonth, hfirst, hmonths] at hnext
      omega

theorem counts_daysOfDate : Counts daysOfDate := ⟨rfl, fun _ => daysOfDate_next⟩

/-! ## The date of a day -/

/-- The date of a day of a year that begins in March. -/
def dateOfYearDay (year : Int) (dayOfYear : Nat) : Date :=
  let month := (5 * dayOfYear + 2) / 153
  { year := if month < 10 then year else year + 1
    month := if month < 10 then month + 3 else month - 9
    day := dayOfYear - daysBeforeMonth month + 1 }

/-- A day falls on a day of a year that begins in March. The year has 365 days, and one more if it ends with a leap day. -/
theorem exists_yearDay (days : Int) :
    ∃ (year : Int) (dayOfYear : Nat), days + epochDays = daysBeforeYear year + dayOfYear ∧ dayOfYear ≤ 365 ∧
      (dayOfYear = 365 → isLeap (year + 1) = true) ∧ dateOfDays days = dateOfYearDay year dayOfYear := by
  obtain ⟨cycle, hcycle⟩ : ∃ cycle, cycle = (days + epochDays).fdiv 146097 := ⟨_, rfl⟩
  obtain ⟨inCycle, hinCycle⟩ : ∃ inCycle, inCycle = ((days + epochDays).fmod 146097).toNat := ⟨_, rfl⟩
  obtain ⟨century, hcentury⟩ : ∃ century, century = min 3 (inCycle / 36524) := ⟨_, rfl⟩
  obtain ⟨inCentury, hinCentury⟩ : ∃ inCentury, inCentury = inCycle - 36524 * century := ⟨_, rfl⟩
  obtain ⟨span, hspan⟩ : ∃ span, span = inCentury / 1461 := ⟨_, rfl⟩
  obtain ⟨inSpan, hinSpan⟩ : ∃ inSpan, inSpan = inCentury - 1461 * span := ⟨_, rfl⟩
  obtain ⟨yearOfSpan, hyearOfSpan⟩ : ∃ yearOfSpan, yearOfSpan = min 3 (inSpan / 365) := ⟨_, rfl⟩
  have hdate : dateOfDays days = dateOfYearDay (400 * cycle + (100 * century + 4 * span + yearOfSpan : Nat)) (inSpan - 365 * yearOfSpan) := by
    unfold dateOfDays dateOfYearDay
    simp only [← hcycle, ← hinCycle, ← hcentury, ← hinCentury, ← hspan, ← hinSpan, ← hyearOfSpan]
  rw [Int.fdiv_eq_ediv_of_nonneg _ (by decide)] at hcycle
  rw [Int.fmod_eq_emod_of_nonneg _ (by decide)] at hinCycle
  -- Only the last century of a cycle has a day more, and only the last year of a span.
  have hcentury_le : century ≤ 3 := by omega
  have hinCentury_le : inCentury ≤ 36524 ∧ (inCentury = 36524 → century = 3) := by omega
  have hinSpan_le : inSpan ≤ 1460 := by omega
  have hspan_le : span ≤ 24 := by omega
  have hyearOfSpan_le : yearOfSpan ≤ 3 := by omega
  have hdays : days + epochDays = 146097 * cycle + (36524 * century + 1461 * span + inSpan : Nat) := by omega
  have hinYear : inSpan = 365 * yearOfSpan + (inSpan - 365 * yearOfSpan) := by omega
  refine ⟨_, _, ?_, ?_, fun hlast => ?_, hdate⟩
  · have hfours : (400 * cycle + (100 * century + 4 * span + yearOfSpan : Nat)) / 4 = 100 * cycle + (25 * century + span : Nat) := by
      omega
    have hhundreds : (400 * cycle + (100 * century + 4 * span + yearOfSpan : Nat)) / 100 = 4 * cycle + century := by omega
    have hcycles : (400 * cycle + (100 * century + 4 * span + yearOfSpan : Nat)) / 400 = cycle := by omega
    unfold daysBeforeYear
    rw [hfours, hhundreds, hcycles, hdays]
    omega
  · omega
  · rw [isLeap_iff]
    omega

/-- A day of a year falls on a day of one of its twelve months; the last two are those that the next year of the calendar
begins with. -/
theorem dateOfYearDay_cases (year : Int) {dayOfYear : Nat} (h : dayOfYear ≤ 365) :
    ∃ month, month ≤ 11 ∧ daysBeforeMonth month ≤ dayOfYear ∧ dayOfYear < daysBeforeMonth (month + 1) ∧
      (month < 10 ∧ dateOfYearDay year dayOfYear = ⟨year, month + 3, dayOfYear - daysBeforeMonth month + 1⟩ ∨
        10 ≤ month ∧ dateOfYearDay year dayOfYear = ⟨year + 1, month - 9, dayOfYear - daysBeforeMonth month + 1⟩) := by
  refine ⟨(5 * dayOfYear + 2) / 153, by omega, ?_, ?_, ?_⟩
  · unfold daysBeforeMonth
    omega
  · unfold daysBeforeMonth
    omega
  · unfold dateOfYearDay
    generalize (5 * dayOfYear + 2) / 153 = month
    by_cases hmonth : month < 10
    · simp only [if_pos hmonth]
      exact .inl ⟨hmonth, trivial⟩
    · simp only [if_neg hmonth]
      exact .inr ⟨Nat.not_lt.1 hmonth, trivial⟩

/-- The day of a year is counted back from its date. -/
theorem daysOfDate_dateOfYearDay (year : Int) {dayOfYear : Nat} (h : dayOfYear ≤ 365) :
    daysOfDate (dateOfYearDay year dayOfYear) + epochDays = daysBeforeYear year + dayOfYear := by
  obtain ⟨month, hmonth, hfirst, -, ⟨hlow, hdate⟩ | ⟨hhigh, hdate⟩⟩ := dateOfYearDay_cases year h
  · obtain ⟨hyear, hmarch⟩ := Date.march_of_lt (d := dateOfYearDay year dayOfYear) (by rw [hdate]; dsimp only; omega)
    rw [daysOfDate_eq, hyear, hmarch, hdate]
    dsimp only
    rw [Nat.add_sub_cancel, Nat.add_sub_cancel, Nat.add_sub_cancel' hfirst]
  · obtain ⟨hyear, hmarch⟩ := Date.march_of_le (d := dateOfYearDay year dayOfYear) (by rw [hdate]; dsimp only; omega)
    have hback : month - 9 + 9 = month := by omega
    rw [daysOfDate_eq, hyear, hmarch, hdate]
    dsimp only
    rw [Int.add_sub_cancel, hback, Nat.add_sub_cancel, Nat.add_sub_cancel' hfirst]

/-- The date of a day of a year exists. A day behind its 365th is a leap day. -/
theorem valid_dateOfYearDay {year : Int} {dayOfYear : Nat} (hday : dayOfYear ≤ 365)
    (hleap : dayOfYear = 365 → isLeap (year + 1) = true) : (dateOfYearDay year dayOfYear).Valid := by
  obtain ⟨month, hmonth, hfirst, hnext, ⟨hlow, hdate⟩ | ⟨hhigh, hdate⟩⟩ := dateOfYearDay_cases year hday
  · rw [hdate]
    refine ⟨Nat.le_add_left 1 (month + 2), by dsimp only; omega, Nat.le_add_left 1 _, ?_⟩
    unfold monthDays daysBeforeMonth at *
    dsimp only
    rw [if_neg (by omega)]
    split <;> omega
  · rw [hdate]
    refine ⟨by dsimp only; omega, by dsimp only; omega, Nat.le_add_left 1 _, ?_⟩
    have hmonths : month = 10 ∨ month = 11 := by omega
    rcases hmonths with rfl | rfl
    · unfold monthDays daysBeforeMonth at *
      dsimp only
      rw [if_neg (by decide), if_neg (by decide)]
      omega
    · unfold monthDays daysBeforeMonth at *
      dsimp only
      rw [if_pos (by decide)]
      split
      · omega
      · next hcommon =>
        have hlast : dayOfYear ≠ 365 := fun h => hcommon (hleap h)
        omega

/-- The date of a day exists, and is counted back to that day. -/
theorem daysOfDate_dateOfDays (days : Int) : (dateOfDays days).Valid ∧ daysOfDate (dateOfDays days) = days := by
  obtain ⟨year, dayOfYear, hdays, hday, hleap, hdate⟩ := exists_yearDay days
  have hcount := daysOfDate_dateOfYearDay year hday
  rw [hdate]
  exact ⟨valid_dateOfYearDay hday hleap, by omega⟩

end Calendar

end Intake
