import Mathlib.Tactic.IntervalCases
import Mathlib.Tactic.SplitIfs
import UnityBuild.Log.Clock

/-!
# The calendar

The clock computes the date of a day from the number of the day, with divisions only. The calendar
itself is a rule for the next date: a month ends after its last day, and a year after its last
month. Main statement: the clock follows the calendar, so its dates are right for all days from the
first one on.

In between stand years that begin with March. A leap day is the last day of such a year, so within
the year the lengths of the months do not depend on the year at all.
-/

namespace UnityBuild.Clock

/-- Every fourth year has a leap day, but of the years that end a century only every fourth one. -/
def IsLeap (year : Nat) : Prop :=
  4 ∣ year ∧ (100 ∣ year → 400 ∣ year)

instance (year : Nat) : Decidable (IsLeap year) :=
  inferInstanceAs (Decidable (_ ∧ _))

def monthLength (year month : Nat) : Nat :=
  match month with
  | 2 => if IsLeap year then 29 else 28
  | 4 | 6 | 9 | 11 => 30
  | _ => 31

/-- The date that follows in the calendar: the next day, or the first one of the next month, which
is January when the year has ended. -/
def Date.next (date : Date) : Date :=
  if date.day < monthLength date.year date.month then { date with day := date.day + 1 }
  else if date.month < 12 then ⟨date.year, date.month + 1, 1⟩
  else ⟨date.year + 1, 1, 1⟩

/-- The number of days from the first of March of year zero to the one of some year. -/
def marchStart (year : Nat) : Nat :=
  365 * year + year / 4 - year / 100 + year / 400

/-- The number of days in a year that begins with March. -/
def marchLength (year : Nat) : Nat :=
  if IsLeap (year + 1) then 366 else 365

theorem marchStart_succ (year : Nat) :
    marchStart (year + 1) = marchStart year + marchLength year := by
  have fewer : year / 100 ≤ year / 4 := Nat.div_le_div_left (by decide) (by decide)
  unfold marchStart marchLength IsLeap
  simp only [Nat.succ_div]
  by_cases fourth : 4 ∣ year + 1
  · by_cases century : 100 ∣ year + 1
    · by_cases period : 400 ∣ year + 1
      · simp only [fourth, century, period, if_true, true_and, implies_true]
        omega
      · simp only [fourth, century, period, if_true, if_false, true_and, true_implies]
        omega
    · have period : ¬ 400 ∣ year + 1 := fun period => century (Nat.dvd_trans (by decide) period)
      simp only [fourth, century, period, if_true, if_false, true_and, false_implies]
      omega
  · have century : ¬ 100 ∣ year + 1 := fun century => fourth (Nat.dvd_trans (by decide) century)
    have period : ¬ 400 ∣ year + 1 := fun period => century (Nat.dvd_trans (by decide) period)
    simp only [fourth, century, period, if_false, false_and]
    omega

theorem exists_march (total : Nat) :
    ∃ year day, total = marchStart year + day ∧ day < marchLength year := by
  induction total with
  | zero => exact ⟨0, 0, rfl, by decide⟩
  | succ total ih =>
    obtain ⟨year, day, rfl, inside⟩ := ih
    by_cases last : day + 1 < marchLength year
    · exact ⟨year, day + 1, rfl, last⟩
    · refine ⟨year + 1, 0, ?_, ?_⟩
      · rw [marchStart_succ]
        omega
      · unfold marchLength
        split <;> omega

/-- The date of a day of a year that begins with March. January and February belong to the year that
follows. -/
def Date.ofMarch (year day : Nat) : Date :=
  let month := (5 * day + 2) / 153
  { year := year + if 10 ≤ month then 1 else 0
    month := if 10 ≤ month then month - 9 else month + 3
    day := day - (153 * month + 2) / 5 + 1 }

/-- The year of a day within its period. The day lies in a century, in four years of it, and in one
of these years. Only the last one of the four has a leap day, and the last four of a century have
none, unless the period ends there. -/
theorem yearInPeriod_eq {century olympiad year day inPeriod : Nat} (centuries : century < 4)
    (olympiads : olympiad < 25) (years : year < 4) (inside : day < 366)
    (leap : day = 365 → year = 3 ∧ (olympiad = 24 → century = 3))
    (split : inPeriod = 36524 * century + 1461 * olympiad + 365 * year + day) :
    (inPeriod - inPeriod / 1460 + inPeriod / 36524 - inPeriod / 146096) / 365 =
      100 * century + 4 * olympiad + year := by
  have periods : inPeriod / 146096 =
      if century = 3 ∧ olympiad = 24 ∧ year = 3 ∧ day = 365 then 1 else 0 := by
    split <;> omega
  have inCenturies : inPeriod / 36524 =
      if century = 3 ∧ olympiad = 24 ∧ year = 3 ∧ day = 365 then 4 else century := by
    split <;> omega
  have inOlympiads : inPeriod / 1460 = 25 * century + olympiad +
      if 1460 ≤ 24 * century + olympiad + 365 * year + day then 1 else 0 := by
    split <;> omega
  rw [periods, inCenturies, inOlympiads]
  split <;> split <;> omega

theorem marchStart_eq {period century olympiad year : Nat} (centuries : century < 4)
    (olympiads : olympiad < 25) (years : year < 4) :
    marchStart (400 * period + 100 * century + 4 * olympiad + year) =
      146097 * period + 36524 * century + 1461 * olympiad + 365 * year := by
  have byFour : (400 * period + 100 * century + 4 * olympiad + year) / 4 =
      100 * period + 25 * century + olympiad := by
    omega
  have byHundred : (400 * period + 100 * century + 4 * olympiad + year) / 100 =
      4 * period + century := by
    omega
  have byPeriod : (400 * period + 100 * century + 4 * olympiad + year) / 400 = period := by
    omega
  rw [marchStart, byFour, byHundred, byPeriod]
  omega

/-- The clock finds the year that begins with March, and the day in it. -/
theorem ofDays_eq_ofMarch {days year day : Nat} (split : days + epoch = marchStart year + day)
    (inside : day < marchLength year) : Date.ofDays days = Date.ofMarch year day := by
  obtain ⟨periods, century, olympiad, rest, centuries, olympiads, years, rfl⟩ :
      ∃ periods century olympiad rest, century < 4 ∧ olympiad < 25 ∧ rest < 4 ∧
        year = 400 * periods + 100 * century + 4 * olympiad + rest :=
    ⟨year / 400, year % 400 / 100, year % 100 / 4, year % 4, by omega, by omega, by omega, by omega⟩
  rw [marchStart_eq centuries olympiads years] at split
  have few : day < 366 := by
    unfold marchLength at inside
    split at inside <;> omega
  have leap : day = 365 → rest = 3 ∧ (olympiad = 24 → century = 3) := by
    rintro rfl
    unfold marchLength at inside
    split at inside
    · rename_i long
      obtain ⟨fourth, period⟩ := long
      omega
    · omega
  have inPeriod : (days + epoch) % period =
      36524 * century + 1461 * olympiad + 365 * rest + day := by
    rw [split, period]
    omega
  have whole : (days + epoch) / period = periods := by
    rw [split, period]
    omega
  have found := yearInPeriod_eq centuries olympiads years few leap rfl
  have inYear : 36524 * century + 1461 * olympiad + 365 * rest + day -
      (365 * (100 * century + 4 * olympiad + rest) + (100 * century + 4 * olympiad + rest) / 4 -
        (100 * century + 4 * olympiad + rest) / 100) = day := by
    have byFour : (100 * century + 4 * olympiad + rest) / 4 = 25 * century + olympiad := by omega
    have byHundred : (100 * century + 4 * olympiad + rest) / 100 = century := by omega
    rw [byFour, byHundred]
    omega
  have years : periods * 400 + (100 * century + 4 * olympiad + rest) =
      400 * periods + 100 * century + 4 * olympiad + rest := by
    omega
  simp only [Date.ofDays, Date.ofMarch, inPeriod, whole, found, inYear, years]

/-- From March to January the months have fixed lengths. The first day of each is a multiple of
thirty and three fifths, rounded. -/
theorem monthLength_eq {month : Nat} (early : month < 11) (year : Nat) :
    monthLength year (if 10 ≤ month then month - 9 else month + 3) =
      (153 * (month + 1) + 2) / 5 - (153 * month + 2) / 5 := by
  interval_cases month <;> rfl

/-- Up to the end of January, the next date is that of the next day. -/
theorem next_ofMarch_of_early {day : Nat} (early : (5 * day + 2) / 153 < 11) (year : Nat) :
    (Date.ofMarch year day).next = Date.ofMarch year (day + 1) := by
  obtain ⟨month, here⟩ : ∃ month, (5 * day + 2) / 153 = month := ⟨_, rfl⟩
  rw [here] at early
  have length := monthLength_eq early (year + if 10 ≤ month then 1 else 0)
  by_cases last : (5 * (day + 1) + 2) / 153 = month
  · have more : day - (153 * month + 2) / 5 + 1 <
        (153 * (month + 1) + 2) / 5 - (153 * month + 2) / 5 := by
      omega
    simp only [Date.next, Date.ofMarch, here, last, length, if_pos more, Date.mk.injEq, true_and]
    omega
  · have next : (5 * (day + 1) + 2) / 153 = month + 1 := by omega
    have full : ¬ day - (153 * month + 2) / 5 + 1 <
        (153 * (month + 1) + 2) / 5 - (153 * month + 2) / 5 := by
      omega
    have begins : day + 1 - (153 * (month + 1) + 2) / 5 + 1 = 1 := by omega
    simp only [Date.next, Date.ofMarch, here, next, length, begins, if_neg full]
    split_ifs <;> simp only [Date.mk.injEq, true_and, and_true] <;> omega

/-- February ends the year that begins with March. -/
theorem marchLength_eq (year : Nat) : marchLength year = 337 + monthLength (year + 1) 2 := by
  have february : monthLength (year + 1) 2 = if IsLeap (year + 1) then 29 else 28 := rfl
  rw [february, marchLength]
  split <;> rfl

theorem monthLength_february_le (year : Nat) :
    28 ≤ monthLength year 2 ∧ monthLength year 2 ≤ 29 := by
  have february : monthLength year 2 = if IsLeap year then 29 else 28 := rfl
  rw [february]
  split <;> decide

/-- The days of a year that begins with March follow each other, and so do these years. Only in
February does the next date depend on the length of the year. -/
theorem next_ofMarch {year day : Nat} (inside : day < marchLength year) :
    (Date.ofMarch year day).next =
      if day + 1 < marchLength year then Date.ofMarch year (day + 1)
      else Date.ofMarch (year + 1) 0 := by
  have long := marchLength_eq year
  have bounds := monthLength_february_le (year + 1)
  by_cases early : (5 * day + 2) / 153 < 11
  · rw [if_pos (by omega)]
    exact next_ofMarch_of_early early year
  · have here : (5 * day + 2) / 153 = 11 := by omega
    have next : day + 1 < marchLength year → (5 * (day + 1) + 2) / 153 = 11 := by omega
    have length : monthLength (year + if 10 ≤ 11 then 1 else 0)
        (if 10 ≤ 11 then 11 - 9 else 11 + 3) = monthLength (year + 1) 2 := rfl
    by_cases more : day + 1 < marchLength year
    · have within : day - (153 * 11 + 2) / 5 + 1 < monthLength (year + 1) 2 := by omega
      simp only [Date.next, Date.ofMarch, here, next more, length, if_pos more, if_pos within,
        Date.mk.injEq, true_and]
      omega
    · have full : ¬ day - (153 * 11 + 2) / 5 + 1 < monthLength (year + 1) 2 := by omega
      simp only [Date.next, Date.ofMarch, here, length, if_neg more, if_neg full]
      rfl

/-- The date of the next day is the one that follows in the calendar. The first day has the first
date of 1970, so this fixes the dates of all days that the clock can tell. -/
theorem ofDays_succ (days : Nat) : Date.ofDays (days + 1) = (Date.ofDays days).next := by
  obtain ⟨year, day, split, inside⟩ := exists_march (days + epoch)
  rw [ofDays_eq_ofMarch split inside, next_ofMarch inside]
  by_cases last : day + 1 < marchLength year
  · rw [if_pos last]
    exact ofDays_eq_ofMarch (by omega) last
  · rw [if_neg last]
    have start := marchStart_succ year
    have filled : 0 < marchLength (year + 1) := by
      unfold marchLength
      split <;> decide
    exact ofDays_eq_ofMarch (by omega) filled

example : Date.ofDays 0 = ⟨1970, 1, 1⟩ := by decide

/-- The leap day of a year that ends a period. -/
example : Date.ofDays 11016 = ⟨2000, 2, 29⟩ := by decide

end UnityBuild.Clock
