import Mathlib.Data.Set.Basic
import TaskLedger.Proofs.Broker.Retention

/-!
**Expiry is exact.**

A time limit and a retention are given as spans, of up to as many seconds as 64 bits can count, and
are compared with the distance of two instants.  Spans above a certain length are not compared at all:
they are never exceeded.  This is sound because of the calendar: its first and its last instant are
not that far apart.  So the comparison is that of unbounded numbers of nanoseconds, for all spans and
all instants, whichever comes first.

That what has expired stays so is a property of the clock rather than of the comparison.  It is shown
for instants among which distances are exact, that is, are differences of positions that grow with
the order of the instants.  All instants outside of leap seconds are such, and so are all instants of
one minute, its leap second included; the whole calendar with its leap seconds is not.

Main definitions:

* `TaskLedger.Instant.Exact` — distances are exact among the instants of a set;
* `TaskLedger.ExpiresExactly` — what it is for a comparison with a span to be exact.

Main results:

* `TaskLedger.Instant.exact_plain`, `TaskLedger.Instant.exact_minute` — where distances are exact;
* `TaskLedger.Instant.not_exact_univ` — in the whole calendar they are not;
* `TaskLedger.expired_exactly` — **limits and retentions expire exactly**, over the whole calendar and
  for all spans.
-/

set_option autoImplicit false

namespace TaskLedger

/-! ### Exact distances -/

namespace Instant

/-- Distances are exact among the instants of a set: they are the differences of positions, in
nanoseconds, and the later of two instants has the greater position. -/
structure Exact (position : Instant → Int) (instants : Set Instant) : Prop where
  since_eq : ∀ t ∈ instants, ∀ s ∈ instants, t.since s = position t - position s
  precedes_iff : ∀ t ∈ instants, ∀ s ∈ instants, t.precedes s = true ↔ position t < position s

/-- Distances are exact outside of leap seconds. -/
theorem exact_plain : Exact ticks {t | t.isLeap = false} where
  since_eq _ ht _ hs := since_of_plain ht hs
  precedes_iff _ ht _ hs := precedes_iff_of_plain ht hs

/-- A leap second is the last of its minute. -/
theorem nanos_lt_of_second_lt {t s : Instant} (h : t.second / 60 = s.second / 60)
    (hlt : t.second < s.second) : t.nanos < 1000000000 := by
  have := t.nanos_lt
  omega

/-- Distances are exact within a minute, its leap second included. -/
theorem exact_minute (minute : Int) : Exact ticks {t | t.second / 60 = minute} where
  since_eq t ht s hs := by
    have hts : t.second / 60 = s.second / 60 := Eq.trans ht hs.symm
    have hzero : t.leapBetween s = 0 := by
      unfold leapBetween secondOfDay
      -- The seconds of a minute are in the order of their day, and only the last may be a leap second.
      rw [if_neg, if_neg]
      · rintro ⟨hleap, hlt⟩
        have := nanos_lt_of_second_lt hts (by omega)
        simp only [isLeap, decide_eq_true_eq] at hleap
        omega
      · rintro ⟨hleap, hlt⟩
        have := nanos_lt_of_second_lt hts.symm (by omega)
        simp only [isLeap, decide_eq_true_eq] at hleap
        omega
    rw [since, hzero, Int.add_zero]
  precedes_iff t ht s hs := by
    have hts : t.second / 60 = s.second / 60 := Eq.trans ht hs.symm
    have ht' := t.nanos_lt
    have hs' := s.nanos_lt
    simp only [precedes, ticks, Bool.or_eq_true, Bool.and_eq_true, decide_eq_true_eq]
    omega

/-- With leap seconds there are no positions from which all distances could be told: from the first
second of a day more time has passed late in its leap second than at the midnight after it. -/
theorem not_exact_univ (position : Instant → Int) : ¬ Exact position Set.univ := by
  intro h
  have hleap := h.since_eq ⟨86399, 1900000000, by decide, by decide⟩ trivial epoch trivial
  have hnext := h.since_eq ⟨86400, 0, by decide, by decide⟩ trivial epoch trivial
  have hlt := (h.precedes_iff ⟨86399, 1900000000, by decide, by decide⟩ trivial
    ⟨86400, 0, by decide, by decide⟩ trivial).1 (by decide)
  simp only [since, ticks, leapBetween, isLeap, secondOfDay, epoch] at hleap hnext
  omega

end Instant

/-! ### Exact expiry -/

/-- A comparison of spans with the time from one instant to another is exact: a span has expired if it
is shorter than the distance, as numbers of nanoseconds without bound.  Hence it has expired if it is
shorter than the difference of their positions, where distances are exact, and there it expires the
sooner the earlier it began and the shorter it is, and does not come back. -/
structure ExpiresExactly (expired : Span → Instant → Instant → Bool) : Prop where
  iff_since : ∀ (span : Span) (start now : Instant),
    expired span start now = true ↔ (span.ticks : Int) < now.since start
  iff_position : ∀ {position : Instant → Int} {instants : Set Instant},
    Instant.Exact position instants → ∀ (span : Span), ∀ start ∈ instants, ∀ now ∈ instants,
      (expired span start now = true ↔ (span.ticks : Int) < position now - position start)
  mono : ∀ {position : Instant → Int} {instants : Set Instant}, Instant.Exact position instants →
    ∀ {span shorter : Span}, shorter.ticks ≤ span.ticks →
    ∀ start ∈ instants, ∀ earlier ∈ instants, start.precedes earlier = false →
    ∀ now ∈ instants, ∀ later ∈ instants, later.precedes now = false →
      expired span start now = true → expired shorter earlier later = true
  never : ∀ (span : Span) (start now : Instant), Instant.longestDistance < span.ticks →
    expired span start now = false

/-- An instant that another one does not precede has no smaller position. -/
theorem Instant.Exact.position_le {position : Instant → Int} {instants : Set Instant}
    (h : Instant.Exact position instants) {t s : Instant} (ht : t ∈ instants) (hs : s ∈ instants)
    (hts : s.precedes t = false) : position t ≤ position s := by
  rw [← Int.not_lt, ← h.precedes_iff s hs t ht, hts]
  decide

/-- It is enough to compare with the distance. -/
theorem ExpiresExactly.of_iff_since {expired : Span → Instant → Instant → Bool}
    (h : ∀ span start now, expired span start now = true ↔ (span.ticks : Int) < now.since start) :
    ExpiresExactly expired where
  iff_since := h
  iff_position := by
    intro position instants hexact span start hstart now hnow
    rw [h, hexact.since_eq now hnow start hstart]
  mono := by
    intro position instants hexact span shorter hspan start hstart earlier hearlier hbefore now hnow
      later hlater hafter hexpired
    have hfrom := hexact.position_le hearlier hstart hbefore
    have huntil := hexact.position_le hnow hlater hafter
    rw [h, hexact.since_eq now hnow start hstart] at hexpired
    rw [h, hexact.since_eq later hlater earlier hearlier]
    omega
  never span start now hlong := by
    -- No two instants of the calendar are that far apart.
    have hlt := Instant.since_lt now start
    rw [← Bool.not_eq_true, h]
    omega

/-- **Limits and retentions expire exactly.**  A time limit is exceeded, and a job is past the
retention of a broker, exactly if the span is shorter than the time from the beginning to now, for
all spans and all instants in either order, also where the span is too long to be compared.  Distances
are exact outside of leap seconds, and within a minute with its leap second. -/
theorem expired_exactly (m : Broker.Memory) (job : Broker.Job) :
    ExpiresExactly (fun span start now => (TimeLimit.mk (some span)).isExpired start now) ∧
    ExpiresExactly (fun span start now =>
      ({ m with retention := span } : Broker.Memory).isExpired now { job with changedAt := start }) ∧
    Instant.Exact Instant.ticks {t | t.isLeap = false} ∧
    ∀ minute : Int, Instant.Exact Instant.ticks {t | t.second / 60 = minute} :=
  ⟨.of_iff_since fun _ _ _ => exceeds_iff, .of_iff_since fun _ _ _ => exceeds_iff,
    Instant.exact_plain, Instant.exact_minute⟩

/-- Five minutes have not expired after five minutes, but a nanosecond later. -/
example : exceeds (.ofSeconds 300) .epoch ⟨300, 0, by decide, by decide⟩ = false ∧
    exceeds (.ofSeconds 300) .epoch ⟨300, 1, by decide, by decide⟩ = true := by decide

end TaskLedger
