import CameraServer.Calendar

/-!
The calendar loses nothing and keeps the order. Main statements: the day number of a civil date gives the date's
day back, two instants that show the same civil time lie in the same second, and of two seconds the later one
shows the later civil time.
-/

set_option autoImplicit false

namespace CameraServer.Calendar

/-! ### Days -/

-- The year that a day of a century falls into, with the day counted from its start. Centuries are told apart
-- because the leap days of whole centuries are left out.
theorem year_of_century (n century year : Nat) (same : n / 36524 = century) (inside : n < 146096)
    (found : year = (n - n / 1460 + century) / 365) :
    year / 100 = century ∧ year < 400 ∧ 365 * year + year / 4 - century ≤ n ∧
      n - (365 * year + year / 4 - century) ≤ 365 := by
  have high : 100 * century ≤ year := by omega
  have low : year < 100 * century + 100 := by omega
  have hundreds : year / 100 = century := by omega
  exact ⟨hundreds, by omega, by omega, by omega⟩

theorem year_of_cycle (n year : Nat) (inside : n < 146097)
    (found : year = (n - n / 1460 + n / 36524 - n / 146096) / 365) :
    year < 400 ∧ 365 * year + year / 4 - year / 100 ≤ n ∧ n - (365 * year + year / 4 - year / 100) ≤ 365 := by
  by_cases last : n = 146096
  · -- The leap day at the end of the cycle.
    subst last
    subst found
    decide
  · have early : n / 146096 = 0 := by omega
    rw [early, Nat.sub_zero] at found
    obtain ⟨hundreds, bounds⟩ := year_of_century n _ year rfl (by omega) found
    rw [hundreds]
    exact bounds

theorem century_year_ends (n century year : Nat) (same : n / 36524 = century) (hundreds : year / 100 = century)
    (inside : n < 146096) (found : year = (n - n / 1460 + century) / 365) :
    n + (year + 1) / 100 < 365 * (year + 1) + (year + 1) / 4 := by
  have quarters : n / 1460 ≤ (year + 1) / 4 := by omega
  by_cases round : (year + 1) % 100 = 0
  · omega
  · have within : (year + 1) / 100 = century := by omega
    omega

theorem cycle_year_ends (n year : Nat) (inside : n < 146097)
    (found : year = (n - n / 1460 + n / 36524 - n / 146096) / 365) :
    n + (year + 1) / 100 < 365 * (year + 1) + (year + 1) / 4 + (year + 1) / 400 := by
  by_cases last : n = 146096
  · subst last
    subst found
    decide
  · have early : n / 146096 = 0 := by omega
    rw [early, Nat.sub_zero] at found
    obtain ⟨hundreds, _⟩ := year_of_century n _ year rfl (by omega) found
    have ends := century_year_ends n _ year rfl hundreds (by omega) found
    omega

-- Days from 1 March of year 0 to 1 March of the year.
def yearStart (year : Int) : Int := 365 * year + year / 4 - year / 100 + year / 400

theorem year_start_cycle (cycle year : Int) :
    yearStart (cycle * 400 + year) = cycleDays * cycle + (365 * year + year / 4 - year / 100 + year / 400) := by
  simp only [yearStart, cycleDays]
  omega

theorem year_start_mono (year later : Int) (onward : year < later) : yearStart (year + 1) ≤ yearStart later := by
  simp only [yearStart]
  omega

structure Lies (days year : Int) (month dayOfYear : Nat) : Prop where
  counted : yearStart year + dayOfYear = days + 719468
  ends : days + 719468 < yearStart (year + 1)
  months : month = (5 * dayOfYear + 2) / 153
  within : month < 12
  shown : civilOfDays days =
    if month < 10 then (year, month + 3, dayOfYear - monthStart month + 1)
    else (year + 1, month - 9, dayOfYear - monthStart month + 1)

theorem civil_of_days_lies (days : Int) : ∃ year month dayOfYear, Lies days year month dayOfYear := by
  have whole := Int.mul_fdiv_add_fmod (days + 719468) cycleDays
  have low : 0 ≤ (days + 719468).fmod cycleDays := Int.fmod_nonneg_of_pos _ (by decide)
  have high : (days + 719468).fmod cycleDays < 146097 := Int.fmod_lt_of_pos _ (by decide)
  have shown : civilOfDays days = civilOfDays days := rfl
  conv at shown => rhs; simp only [civilOfDays]
  generalize (days + 719468).fdiv cycleDays = cycle at whole shown
  generalize (days + 719468).fmod cycleDays = rest at whole low high shown
  obtain ⟨n, rfl⟩ := Int.eq_ofNat_of_zero_le low
  rw [Int.toNat_natCast] at shown
  obtain ⟨inside, fits, short⟩ := year_of_cycle n _ (by omega) rfl
  have ends := cycle_year_ends n _ (by omega) rfl
  generalize (n - n / 1460 + n / 36524 - n / 146096) / 365 = year at inside fits short ends shown
  have start := year_start_cycle cycle year
  have next := year_start_cycle cycle (year + 1 : Nat)
  rw [show cycle * 400 + (year + 1 : Nat) = cycle * 400 + year + 1 by omega] at next
  exact ⟨cycle * 400 + year, _, _, by omega, by omega, rfl, by omega, shown⟩

theorem days_of_march (year : Int) (month dayOfYear : Nat) (started : monthStart month ≤ dayOfYear)
    (within : month < 12) :
    daysOfCivil (if month < 10 then year else year + 1) (if month < 10 then month + 3 else month - 9)
        (dayOfYear - monthStart month + 1) = yearStart year + dayOfYear - 719468 := by
  have shifted :
      daysOfCivil (if month < 10 then year else year + 1) (if month < 10 then month + 3 else month - 9)
        (dayOfYear - monthStart month + 1) =
      year.fdiv 400 * cycleDays + year.fmod 400 * 365 + (year.fmod 400).fdiv 4 - (year.fmod 400).fdiv 100 +
        (monthStart month + (dayOfYear - monthStart month + 1 : Nat) - 1) - 719468 := by
    by_cases early : month < 10
    · simp only [daysOfCivil, if_pos early, show ¬ month + 3 < 3 by omega, if_false, Nat.add_sub_cancel]
    · simp only [daysOfCivil, if_neg early, show month - 9 < 3 by omega, if_true, show month - 9 + 9 = month by omega,
        Int.add_sub_cancel]
  have fdiv (a b : Int) (positive : 0 ≤ b) : a.fdiv b = a / b := Int.fdiv_eq_ediv_of_nonneg a positive
  rw [shifted, Int.fmod_eq_emod_of_nonneg year (by decide), fdiv _ 400 (by decide),
    fdiv _ 4 (by decide), fdiv _ 100 (by decide), yearStart, cycleDays]
  omega

theorem days_of_civil_of_days (days : Int) :
    daysOfCivil (civilOfDays days).1 (civilOfDays days).2.1 (civilOfDays days).2.2 = days := by
  obtain ⟨year, month, dayOfYear, lies⟩ := civil_of_days_lies days
  have months := lies.months
  have started : monthStart month ≤ dayOfYear := by
    rw [monthStart]
    omega
  have read := days_of_march year month dayOfYear started lies.within
  have counted := lies.counted
  rw [lies.shown]
  by_cases early : month < 10
  · simp only [if_pos early] at read ⊢
    omega
  · simp only [if_neg early] at read ⊢
    omega

theorem civil_of_days_bounds (days : Int) : (civilOfDays days).2.1 ≤ 12 ∧ (civilOfDays days).2.2 ≤ 31 := by
  obtain ⟨year, month, dayOfYear, lies⟩ := civil_of_days_lies days
  have months := lies.months
  have within := lies.within
  rw [lies.shown, monthStart]
  split <;> dsimp only <;> omega

theorem civil_of_days_mono (a b : Int) (onward : a < b) :
    (civilOfDays a).1 < (civilOfDays b).1 ∨ (civilOfDays a).1 = (civilOfDays b).1 ∧
      ((civilOfDays a).2.1 < (civilOfDays b).2.1 ∨ (civilOfDays a).2.1 = (civilOfDays b).2.1 ∧
        (civilOfDays a).2.2 < (civilOfDays b).2.2) := by
  obtain ⟨year, month, dayOfYear, first⟩ := civil_of_days_lies a
  obtain ⟨year', month', dayOfYear', second⟩ := civil_of_days_lies b
  have counted := first.counted
  have counted' := second.counted
  have years : year ≤ year' := by
    have ends := second.ends
    have later := year_start_mono year' year
    omega
  have days : year = year' → dayOfYear < dayOfYear' := by
    rintro rfl
    omega
  have months := first.months
  have months' := second.months
  have within := first.within
  have within' := second.within
  rw [first.shown, second.shown]
  simp only [monthStart]
  split <;> split <;> dsimp only <;> omega

/-! ### Instants -/

theorem second_parts (second : Int) :
    second = second.fdiv 86400 * 86400 + (second.fmod 86400).toNat ∧ (second.fmod 86400).toNat < 86400 := by
  have whole := Int.mul_fdiv_add_fmod second 86400
  have low : 0 ≤ second.fmod 86400 := Int.fmod_nonneg_of_pos _ (by decide)
  have high : second.fmod 86400 < 86400 := Int.fmod_lt_of_pos _ (by decide)
  omega

theorem second_of_mono (now later : Instant) (onward : now ≤ later) : secondOf now ≤ secondOf later := by
  rw [secondOf, secondOf, Int.fdiv_eq_ediv_of_nonneg now (by decide), Int.fdiv_eq_ediv_of_nonneg later (by decide)]
  exact Int.ediv_le_ediv (by decide) onward

theorem civil_of_days_injective (a b : Int) (same : civilOfDays a = civilOfDays b) : a = b := by
  rw [← days_of_civil_of_days a, same, days_of_civil_of_days]

theorem civil_time_same_iff (now later : Instant) :
    civilTime now = civilTime later ↔ secondOf now = secondOf later := by
  constructor
  · intro same
    obtain ⟨first, _⟩ := second_parts (secondOf now)
    obtain ⟨second, _⟩ := second_parts (secondOf later)
    simp only [civilTime, CivilTime.mk.injEq] at same
    obtain ⟨year, month, day, hour, minute, tick⟩ := same
    have days := civil_of_days_injective _ _ (Prod.ext year (Prod.ext month day))
    rw [first, second, days]
    omega
  · intro same
    rw [civilTime, civilTime, same]

inductive Earlier (s t : CivilTime) : Prop where
  | year (less : s.year < t.year)
  | month (year : s.year = t.year) (less : s.month < t.month)
  | day (year : s.year = t.year) (month : s.month = t.month) (less : s.day < t.day)
  | hour (year : s.year = t.year) (month : s.month = t.month) (day : s.day = t.day) (less : s.hour < t.hour)
  | minute (year : s.year = t.year) (month : s.month = t.month) (day : s.day = t.day) (hour : s.hour = t.hour)
      (less : s.minute < t.minute)
  | second (year : s.year = t.year) (month : s.month = t.month) (day : s.day = t.day) (hour : s.hour = t.hour)
      (minute : s.minute = t.minute) (less : s.second < t.second)

theorem civil_time_mono (now later : Instant) (onward : secondOf now < secondOf later) :
    Earlier (civilTime now) (civilTime later) := by
  obtain ⟨first, _⟩ := second_parts (secondOf now)
  obtain ⟨second, _⟩ := second_parts (secondOf later)
  by_cases days : (secondOf now).fdiv 86400 < (secondOf later).fdiv 86400
  · rcases civil_of_days_mono _ _ days with year | ⟨year, month | ⟨month, day⟩⟩
    · exact .year year
    · exact .month year month
    · exact .day year month day
  · have same : (secondOf now).fdiv 86400 = (secondOf later).fdiv 86400 := by omega
    have ofDay : ((secondOf now).fmod 86400).toNat < ((secondOf later).fmod 86400).toNat := by omega
    have year : (civilTime now).year = (civilTime later).year := by simp only [civilTime, same]
    have month : (civilTime now).month = (civilTime later).month := by simp only [civilTime, same]
    have day : (civilTime now).day = (civilTime later).day := by simp only [civilTime, same]
    by_cases hour : (civilTime now).hour = (civilTime later).hour
    · by_cases minute : (civilTime now).minute = (civilTime later).minute
      · refine .second year month day hour minute ?_
        simp only [civilTime] at hour minute ⊢
        omega
      · refine .minute year month day hour ?_
        simp only [civilTime] at hour minute ⊢
        omega
    · refine .hour year month day ?_
      simp only [civilTime] at hour ⊢
      omega

end CameraServer.Calendar
