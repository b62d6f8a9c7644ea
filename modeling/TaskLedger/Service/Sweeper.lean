import TaskLedger.Service.Sweep

/-!
**Sweepers.**

A sweeper sweeps, waits for an interval, and sweeps again, until it is told to stop or its owner is
gone.

Main definitions:

* `TaskLedger.Service.SweeperSettings` — how a sweeper is set up;
* `TaskLedger.Service.SweeperStats` — what a sweeper has done so far;
* `TaskLedger.Service.Signal` — what the owner of a sweeper wants of it;
* `TaskLedger.Service.Sweeper` — a sweeper as its owner sees it.
-/

set_option autoImplicit false

namespace TaskLedger.Service

/-- How a sweeper is set up. -/
structure SweeperSettings where
  interval : Span := .ofSeconds 60
  maxConcurrent : UInt64 := 1
  name : String := "task-sweeper"
  deriving DecidableEq, Repr

/-- The pause between two sweeps in milliseconds. -/
def SweeperSettings.pause (s : SweeperSettings) : Nat := s.interval.ticks / 1000000

/-- What a sweeper has done so far. -/
structure SweeperStats where
  sweeps : Nat := 0
  tasksExamined : Nat := 0
  tasksFailed : Nat := 0
  reconcileErrors : Nat := 0
  listErrors : Nat := 0
  lastSweepAt : Option Instant := none
  deriving DecidableEq

/-- The statistics after one more sweep, with its report unless the records could not be listed. -/
def SweeperStats.add (s : SweeperStats) (endedAt : Instant) : Option SweepReport → SweeperStats
  | some report =>
      { s with
        sweeps := s.sweeps + 1
        tasksExamined := s.tasksExamined + report.examined
        tasksFailed := s.tasksFailed + report.failed
        reconcileErrors := s.reconcileErrors + report.errors
        lastSweepAt := some endedAt }
  | none =>
      { s with
        sweeps := s.sweeps + 1
        listErrors := s.listErrors + 1
        lastSweepAt := some endedAt }

/-- What the owner of a sweeper wants of it: to carry on, or to stop; an owner who is gone wants
nothing more after the present sweep. -/
inductive Signal where
  | carryOn
  | stop
  | abandoned
  deriving DecidableEq, Repr

/-- What remains of a signal when the owner is gone: a sweeper that was told to stop stops. -/
def Signal.abandon (s : Signal) : Signal := if s = .stop then .stop else .abandoned

/-- A sweeper as its owner sees it. -/
structure Sweeper where
  settings : SweeperSettings
  limit : TimeLimit
  stats : SweeperStats := {}
  signal : Signal := .carryOn
  ended : Bool := false

end TaskLedger.Service
