import TaskLedger.Service.Cancel
import TaskLedger.Service.Reconcile
import TaskLedger.Service.Sweeper
import TaskLedger.Wire.Scalar

/-!
**Results of operations as JSON.**

A result with several cases is an object whose member `outcome` names the case.
-/

set_option autoImplicit false

namespace TaskLedger

open Json Service

/-- A verdict as an object. -/
def Verdict.toJson (v : Verdict) : Json :=
  .ofMembers [("is_fail", .bool v.isFail),
    match v with
    | .leave reason => ("leave", reason.toJson)
    | .fail kind => ("fail", kind.toJson)]

/-- The number of records at each stage as an object.  The numbers are written as words of 64 bits,
so they go round beyond the greatest of these. -/
def Store.Counts.toJson (c : Store.Counts) : Json :=
  .ofMembers (Status.all.map fun s => (s.name, .nat (c.at s % UInt64.size)))

/-- The outcome of a conditional write as an object. -/
def Store.Outcome.toJson : Store.Outcome → Json
  | .applied => .ofMembers [("outcome", .text "applied"), ("applied", .bool true)]
  | .rejected current =>
      .ofMembers [("outcome", .text "rejected"), ("current", current.toJson),
        ("applied", .bool false)]
  | .notFound => .ofMembers [("outcome", .text "not_found"), ("applied", .bool false)]

/-- A finding as an object. -/
def Service.Finding.toJson (f : Finding) : Json :=
  .ofMembers (("outcome", .text f.name) ::
    match f with
    | .notFound => []
    | .ended status => [("status", status.toJson)]
    | .left reason => [("reason", reason.toJson)]
    | .failed kind => [("kind", kind.toJson)]
    | .lostRace current => [("current", current.toJson)])

/-- What became of a cancellation, as an object. -/
def Service.Cancellation.toJson : Cancellation → Json
  | .cancelled revoked =>
      .ofMembers [("outcome", .text "cancelled"), ("revoked", .bool revoked)]
  | .ended status =>
      .ofMembers [("outcome", .text "already_terminal"), ("status", status.toJson)]

/-- The report of a sweep as an object. -/
def Service.SweepReport.toJson (r : SweepReport) : Json :=
  .ofMembers [
    ("examined", .nat r.examined),
    ("failed", .nat r.failed),
    ("left", .nat r.left),
    ("already_terminal", .nat r.ended),
    ("lost_race", .nat r.lostRace),
    ("not_found", .nat r.notFound),
    ("errors", .nat r.errors)]

/-- How a sweeper is set up, as an object. -/
def Service.SweeperSettings.toJson (s : SweeperSettings) : Json :=
  .ofMembers [("interval", s.interval.toJson), ("max_concurrent", .nat s.maxConcurrent.toNat),
    ("name", .text s.name)]

/-- What a sweeper has done, as an object. -/
def Service.SweeperStats.toJson (s : SweeperStats) : Json :=
  .ofMembers [
    ("sweeps", .nat s.sweeps),
    ("tasks_examined", .nat s.tasksExamined),
    ("tasks_failed", .nat s.tasksFailed),
    ("reconcile_errors", .nat s.reconcileErrors),
    ("list_errors", .nat s.listErrors),
    ("last_sweep_at", (s.lastSweepAt.map Instant.toJson).getD .null)]

end TaskLedger
