import Mathlib.Algebra.GroupWithZero.Nat
import TaskLedger.Time.Instant

/-!
**Days and dates.**

Every day has one date, which exists in the calendar, and its number is that of the day: a year is as
long as its months, and a day is counted from the first of its year and of its month.

Main definitions:

* `TaskLedger.Calendar.yearLength` — the number of days of a year.

Main results:

* `TaskLedger.Calendar.yearStart_succ` — the next year begins when the months of a year have passed;
* `TaskLedger.Calendar.exists_dateOf_and_dayNumber` — **the date of a day exists, and its number is
  that of the day**;
* `TaskLedger.Calendar.Date.dayNumber_mem` — a date that exists lies in its year;
* `TaskLedger.Instant.year_mem` — the years of the calendar are those of its first and its last instant.
-/

set_option autoImplicit false

namespace TaskLedger

namespace Calendar

/-! ### Years -/

/-- The number of days of a year. -/
def yearLength (year : Int) : Nat := if isLeap year then 366 else 365

theorem sum_monthLengths (year : Int) : (monthLengths year).sum = yearLength year := by
  unfold monthLengths yearLength
  cases isLeap year <;> rfl

theorem isLeap_iff (year : Int) :
    isLeap year = true ↔ year % 4 = 0 ∧ (year % 100 ≠ 0 ∨ year % 400 = 0) := by
  simp [isLeap]

/-- A year is as long as its months. -/
theorem yearStart_succ (year : Int) : yearStart (year + 1) = yearStart year + yearLength year := by
  have hleap := isLeap_iff year
  unfold yearLength
  cases h : isLeap year with
  | true =>
      have hrule := hleap.1 h
      simp only [yearStart, if_true]
      omega
  | false =>
      have hrule : ¬ (year % 4 = 0 ∧ (year % 100 ≠ 0 ∨ year % 400 = 0)) := by
        rw [← hleap, h]
        exact Bool.false_ne_true
      simp only [yearStart, Bool.false_eq_true, if_false]
      omega

/-- Later years do not begin earlier. -/
theorem yearStart_mono {year later : Int} (h : year ≤ later) : yearStart year ≤ yearStart later := by
  unfold yearStart
  omega

/-! ### Months -/

theorem daysBefore_eq_sum (year : Int) (month : Nat) :
    daysBefore year month = ((monthLengths year).take (month - 1)).sum := by
  rw [daysBefore, List.sum_eq_foldl]

/-- A day of the year lies in a month, behind the months before it. -/
theorem exists_monthOf (first : Nat) {lengths : List Nat} {day : Nat} (h : day < lengths.sum) :
    ∃ before length rest, lengths = before ++ length :: rest ∧
      monthOf first lengths day = (first + before.length, day - before.sum + 1) ∧
      before.sum ≤ day ∧ day < before.sum + length := by
  induction lengths generalizing first day with
  | nil => exact absurd h (Nat.not_lt_zero day)
  | cons length rest ih =>
      by_cases hday : day < length
      · exact ⟨[], length, rest, rfl, by simp [monthOf, hday], Nat.zero_le day, by simpa using hday⟩
      · rw [List.sum_cons] at h
        obtain ⟨before, next, later, hlengths, hmonth, hle, hlt⟩ :=
          ih (first + 1) (show day - length < rest.sum by omega)
        refine ⟨length :: before, next, later, by rw [hlengths, List.cons_append], ?_, ?_, ?_⟩
        · rw [monthOf, if_neg hday, hmonth, List.length_cons, List.sum_cons, Prod.mk.injEq]
          omega
        · rw [List.sum_cons]
          omega
        · rw [List.sum_cons]
          omega

/-! ### Dates -/

/-- A date that exists lies in one of the months of its year. -/
theorem Date.exists_iff {d : Date} : d.exists = true ↔
    1 ≤ d.month ∧ 1 ≤ d.day ∧ ∃ length, (monthLengths d.year)[d.month - 1]? = some length ∧
      d.day ≤ length := by
  simp [Date.exists, and_assoc, Option.any_eq_true]

/-- The date of a day exists, and its number is that of the day. -/
theorem exists_dateOf_and_dayNumber (day : Int) :
    (dateOf day).exists = true ∧ dayNumber (dateOf day) = day := by
  obtain ⟨hstart, hend⟩ := mem_yearOf day
  rw [yearStart_succ] at hend
  have hday : (day - yearStart (yearOf day)).toNat < (monthLengths (yearOf day)).sum := by
    rw [sum_monthLengths]
    omega
  obtain ⟨before, length, rest, hlengths, hmonth, hle, hlt⟩ := exists_monthOf 1 hday
  have hdate : dateOf day = ⟨yearOf day, 1 + before.length,
      (day - yearStart (yearOf day)).toNat - before.sum + 1⟩ := by
    rw [dateOf, hmonth]
  have hbefore : daysBefore (yearOf day) (1 + before.length) = before.sum := by
    rw [daysBefore_eq_sum, hlengths, Nat.add_sub_cancel_left, List.take_left]
  rw [hdate]
  constructor
  · rw [Date.exists_iff]
    refine ⟨Nat.le_add_right 1 _, Nat.le_add_left 1 _, length, ?_, ?_⟩
    · rw [hlengths, Nat.add_sub_cancel_left, List.getElem?_append_right (Nat.le_refl _),
        Nat.sub_self, List.getElem?_cons_zero]
    · dsimp only
      omega
  · simp only [dayNumber, hbefore]
    omega

/-! ### Dates that exist -/

theorem le_of_mem_monthLengths {year : Int} {length : Nat} (h : length ∈ monthLengths year) :
    length ≤ 31 := by
  unfold monthLengths at h
  cases hleap : isLeap year <;> simp [hleap] at h <;> omega

/-- There are twelve months, and no month has more than 31 days. -/
theorem Date.bounds_of_exists {d : Date} (h : d.exists = true) :
    1 ≤ d.month ∧ d.month ≤ 12 ∧ 1 ≤ d.day ∧ d.day ≤ 31 := by
  obtain ⟨hmonth, hday, length, hlength, hle⟩ := Date.exists_iff.1 h
  obtain ⟨hindex, -⟩ := List.getElem?_eq_some_iff.1 hlength
  have htwelve : (monthLengths d.year).length = 12 := rfl
  have hlong := le_of_mem_monthLengths (List.mem_of_getElem? hlength)
  omega

/-- The day of a date that exists lies in the year of the date. -/
theorem Date.dayNumber_mem {d : Date} (h : d.exists = true) :
    yearStart d.year ≤ dayNumber d ∧ dayNumber d < yearStart (d.year + 1) := by
  obtain ⟨hmonth, hday, length, hlength, hle⟩ := Date.exists_iff.1 h
  -- The months before the date, its own and those after it make up the year.
  have hparts : (monthLengths d.year).take (d.month - 1) ++
      length :: (monthLengths d.year).drop (d.month - 1 + 1) = monthLengths d.year := by
    obtain ⟨hindex, rfl⟩ := List.getElem?_eq_some_iff.1 hlength
    rw [← List.drop_eq_getElem_cons, List.take_append_drop]
  have hsum := congrArg List.sum hparts
  rw [List.sum_append, List.sum_cons, sum_monthLengths, ← daysBefore_eq_sum] at hsum
  rw [yearStart_succ, dayNumber]
  omega

end Calendar

/-- The years of the calendar are those of its first and its last instant. -/
theorem Instant.year_mem (t : Instant) {d : Calendar.Date} (h : d.exists = true)
    (hday : Calendar.dayNumber d = t.second / 86400) : -262143 ≤ d.year ∧ d.year ≤ 262142 := by
  obtain ⟨hfirst, hlast⟩ := t.second_mem
  obtain ⟨hstart, hend⟩ := Calendar.Date.dayNumber_mem h
  unfold firstSecond at hfirst
  unfold lastSecond at hlast
  constructor
  · refine Int.not_lt.1 fun hearly => ?_
    have hnext : d.year + 1 ≤ -262143 := hearly
    have := Calendar.yearStart_mono hnext
    omega
  · refine Int.not_lt.1 fun hlate => ?_
    have hnext : 262143 ≤ d.year := hlate
    have := Calendar.yearStart_mono hnext
    omega

end TaskLedger
