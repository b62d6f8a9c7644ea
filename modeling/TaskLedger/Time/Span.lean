/-!
**Spans of time.**

A span is a number of whole seconds, of 64 bits, and a part of a second in nanoseconds.

Main definitions:

* `TaskLedger.Span` — spans, with the bound on the part of a second;
* `TaskLedger.Span.ticks` — a span in nanoseconds;
* `TaskLedger.Span.toText` — the short text of a span, in the largest unit that is not zero.
-/

set_option autoImplicit false

namespace TaskLedger

/-- A span of time. -/
structure Span where
  seconds : UInt64
  nanos : Nat
  nanos_lt : nanos < 1000000000 := by omega
  deriving DecidableEq, Repr

namespace Span

/-- A span of whole seconds. -/
def ofSeconds (seconds : UInt64) : Span := { seconds, nanos := 0 }

/-- The span of some seconds and nanoseconds, of which there may be a second or more; none if the
seconds outgrow 64 bits. -/
def ofParts? (seconds nanos : Nat) : Option Span :=
  let total := seconds + nanos / 1000000000
  if total < UInt64.size then
    some { seconds := .ofNat total, nanos := nanos % 1000000000,
           nanos_lt := Nat.mod_lt _ (by decide) }
  else none

/-- The length of a span in nanoseconds. -/
def ticks (d : Span) : Nat := d.seconds.toNat * 1000000000 + d.nanos

@[simp] theorem ticks_ofSeconds (seconds : UInt64) :
    (ofSeconds seconds).ticks = seconds.toNat * 1000000000 := by simp [ticks, ofSeconds]

/-- The decimal places of a part of a unit, without zeros at their end, after a point. -/
def places (width part : Nat) : List Char :=
  let digits := Nat.toDigits 10 part
  let all := List.replicate (width - digits.length) '0' ++ digits
  match (all.reverse.dropWhile (· = '0')).reverse with
  | [] => []
  | shown => '.' :: shown

/-- The text of a span: seconds, or below one second milliseconds, microseconds or nanoseconds. -/
def toText (d : Span) : String :=
  if 0 < d.seconds.toNat then s!"{d.seconds}" ++ .ofList (places 9 d.nanos) ++ "s"
  else if 1000000 ≤ d.nanos then
    s!"{d.nanos / 1000000}" ++ .ofList (places 6 (d.nanos % 1000000)) ++ "ms"
  else if 1000 ≤ d.nanos then
    s!"{d.nanos / 1000}" ++ .ofList (places 3 (d.nanos % 1000)) ++ "µs"
  else s!"{d.nanos}ns"

end Span

end TaskLedger
