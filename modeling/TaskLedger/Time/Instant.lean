import TaskLedger.Time.Calendar
import TaskLedger.Time.Span

/-!
**Instants.**

An instant is a whole second, counted from the beginning of 1970 without leap seconds, and a part of
it in nanoseconds.  Only the last second of a minute may be prolonged by a leap second, whose
nanoseconds run on from those of that second.  Instants lie in the years -262143 to 262142.

Main definitions:

* `TaskLedger.Instant` — instants, with their bounds;
* `TaskLedger.Instant.ticks`, `TaskLedger.Instant.since` — position and distance in nanoseconds;
* `TaskLedger.Instant.shift?` — an instant some time later or earlier;
* `TaskLedger.Instant.precedes` — the order in which records are listed.

Main results:

* `TaskLedger.Instant.since_lt` — no two instants are further apart than the longest span that can be
  compared with their distance.
-/

set_option autoImplicit false

namespace TaskLedger

/-- The first second of the first year. -/
def firstSecond : Int := Calendar.yearStart (-262143) * 86400

/-- The last second of the last year. -/
def lastSecond : Int := Calendar.yearStart 262143 * 86400 - 1

/-- An instant. -/
structure Instant where
  second : Int
  nanos : Nat
  second_mem : firstSecond ≤ second ∧ second ≤ lastSecond
  nanos_lt : nanos < 1000000000 ∨ (second % 60 = 59 ∧ nanos < 2000000000)
  deriving DecidableEq, Repr

namespace Instant

/-- The beginning of 1970. -/
def epoch : Instant := ⟨0, 0, by decide, by decide⟩

/-- The instant of a second and a part of it, if there is one. -/
def ofParts? (second : Int) (nanos : Nat) : Option Instant :=
  if h : (firstSecond ≤ second ∧ second ≤ lastSecond) ∧
      (nanos < 1000000000 ∨ (second % 60 = 59 ∧ nanos < 2000000000)) then
    some ⟨second, nanos, h.1, h.2⟩
  else none

/-- The position of an instant in nanoseconds. -/
def ticks (t : Instant) : Int := t.second * 1000000000 + t.nanos

/-- The instant at a position, if it is in range. -/
def ofTicks? (ticks : Int) : Option Instant :=
  ofParts? (ticks / 1000000000) (ticks % 1000000000).toNat

/-- Whether an instant lies in a leap second. -/
def isLeap (t : Instant) : Bool := 1000000000 ≤ t.nanos

/-- The second of its day that an instant lies in. -/
def secondOfDay (t : Instant) : Int := t.second % 86400

/-- The nanoseconds by which leap seconds change the distance of two instants.  Days are counted
without leap seconds, times of day with those that the two instants lie in: if the earlier of two
times of day lies in a leap second, that second has passed before the later one. -/
def leapBetween (t earlier : Instant) : Int :=
  if earlier.isLeap ∧ earlier.secondOfDay < t.secondOfDay then 1000000000
  else if t.isLeap ∧ t.secondOfDay < earlier.secondOfDay then -1000000000
  else 0

/-- The nanoseconds from `earlier` to an instant; negative if it lies before. -/
def since (t earlier : Instant) : Int := t.ticks - earlier.ticks + t.leapBetween earlier

/-- The instant some milliseconds later, or earlier; none if it would be out of range.  A way that
begins in a leap second counts what it goes through of that second, and no other leap second. -/
def shift? (t : Instant) (millis : Int) : Option Instant :=
  let distance := millis * 1000000
  if t.isLeap ∧ -1000000000 < distance ∧ t.nanos + distance < 2000000000 then
    ofParts? t.second (t.nanos + distance).toNat
  else if t.isLeap ∧ 0 < distance then ofTicks? (t.ticks - 1000000000 + distance)
  else ofTicks? (t.ticks + distance)

/-- Whether an instant comes before another. -/
def precedes (a b : Instant) : Bool :=
  a.second < b.second || (a.second = b.second && a.nanos < b.nanos)

@[simp] theorem since_self (t : Instant) : t.since t = 0 := by simp [since, leapBetween]

/-- Leap seconds change a distance by a second at most. -/
theorem leapBetween_le (t earlier : Instant) : t.leapBetween earlier ≤ 1000000000 := by
  unfold leapBetween
  split
  · omega
  · split <;> omega

/-- The longest span, in nanoseconds, that is compared with the distance of two instants: the greatest
number of 63 bits, in milliseconds. -/
def longestDistance : Nat := 9223372036854775807 * 1000000

/-- No two instants are as far apart as the longest distance. -/
theorem since_lt (a b : Instant) : a.since b < longestDistance := by
  have ha := a.second_mem
  have hb := b.second_mem
  have hn := a.nanos_lt
  have hf : firstSecond = -8334601228800 := by decide
  have hl : lastSecond = 8210266876799 := by decide
  have hs := leapBetween_le a b
  simp only [since, ticks, longestDistance]
  rw [hf] at hb
  rw [hl] at ha
  omega

end Instant

end TaskLedger
