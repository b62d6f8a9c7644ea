/-!
**The calendar.**

Days are numbered from 1 January 1970 in the Gregorian calendar, extended to all years; the year
before year 1 is year 0.

Main definitions:

* `TaskLedger.Calendar.dayNumber` — the number of a date;
* `TaskLedger.Calendar.dateOf` — the date of a number.

Main results:

* `TaskLedger.Calendar.mem_yearOf` — a day lies in the year that `yearOf` gives for it.
-/

set_option autoImplicit false

namespace TaskLedger.Calendar

/-- A date: a year, a month from 1 to 12 and a day of the month from 1. -/
structure Date where
  year : Int
  month : Nat
  day : Nat
  deriving DecidableEq, Repr

/-- Whether a year has a 29 February. -/
def isLeap (year : Int) : Bool :=
  year % 4 = 0 && (year % 100 ≠ 0 || year % 400 = 0)

/-- The lengths of the months of a year. -/
def monthLengths (year : Int) : List Nat :=
  [31, if isLeap year then 29 else 28, 31, 30, 31, 30, 31, 31, 30, 31, 30, 31]

/-- Whether a date exists. -/
def Date.exists (d : Date) : Bool :=
  1 ≤ d.month && 1 ≤ d.day && (monthLengths d.year)[d.month - 1]?.any (d.day ≤ ·)

/-- The number of days from 1 January 1970 to 1 January of a year. -/
def yearStart (year : Int) : Int :=
  365 * (year - 1) + (year - 1) / 4 - (year - 1) / 100 + (year - 1) / 400 - 719162

/-- The number of days of a year before the first of a month. -/
def daysBefore (year : Int) (month : Nat) : Nat :=
  ((monthLengths year).take (month - 1)).foldl (· + ·) 0

/-- The number of a date. -/
def dayNumber (d : Date) : Int := yearStart d.year + daysBefore d.year d.month + d.day - 1

/-- The year of a day: the mean length of a year gives it up to one. -/
def yearOf (day : Int) : Int :=
  let guess := (day + 719162) * 400 / 146097 + 1
  if day < yearStart guess then guess - 1
  else if yearStart (guess + 1) ≤ day then guess + 1
  else guess

/-- The month and the day of the month of a day of the year, counted from 0. -/
def monthOf : (month : Nat) → List Nat → (day : Nat) → Nat × Nat
  | month, [], day => (month, day + 1)
  | month, length :: rest, day =>
      if day < length then (month, day + 1) else monthOf (month + 1) rest (day - length)

/-- The date of a day. -/
def dateOf (day : Int) : Date :=
  let year := yearOf day
  let (month, day) := monthOf 1 (monthLengths year) (day - yearStart year).toNat
  ⟨year, month, day⟩

/-- A day lies in its year. -/
theorem mem_yearOf (day : Int) :
    yearStart (yearOf day) ≤ day ∧ day < yearStart (yearOf day + 1) := by
  unfold yearOf
  generalize hg : (day + 719162) * 400 / 146097 + 1 = guess
  simp only
  split
  · next h => simp only [yearStart] at h ⊢; omega
  · next h =>
      split
      · next h' => simp only [yearStart] at h h' ⊢; omega
      · next h' => simp only [yearStart] at h h' ⊢; omega

end TaskLedger.Calendar
