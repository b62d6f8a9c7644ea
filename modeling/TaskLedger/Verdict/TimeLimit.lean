import TaskLedger.Time.Instant

/-!
**The time limit of tasks.**

Main definitions:

* `TaskLedger.exceeds` — whether more than a span has passed between two instants;
* `TaskLedger.TimeLimit`, `TaskLedger.TimeLimit.isExpired` — the limit on the age of a task.

Main results:

* `TaskLedger.exceeds_iff` — the comparison is exact, for all spans.
-/

set_option autoImplicit false

namespace TaskLedger

/-- Whether more than a span has passed from one instant to another.  A span longer than any
distance of two instants is never exceeded. -/
def exceeds (span : Span) (start now : Instant) : Bool :=
  if span.ticks ≤ Instant.longestDistance then decide ((span.ticks : Int) < now.since start)
  else false

/-- The comparison is exact, for all spans. -/
theorem exceeds_iff {span : Span} {start now : Instant} :
    exceeds span start now = true ↔ (span.ticks : Int) < now.since start := by
  have := Instant.since_lt now start
  unfold exceeds
  split
  · simp
  · constructor
    · intro h; simp at h
    · intro h; omega

/-- The limit on the age of a task, if there is one. -/
structure TimeLimit where
  limit : Option Span
  deriving DecidableEq, Repr

/-- Whether a task created at one instant has outlived its limit at another. -/
def TimeLimit.isExpired (l : TimeLimit) (createdAt now : Instant) : Bool :=
  match l.limit with
  | none => false
  | some span => exceeds span createdAt now

end TaskLedger
