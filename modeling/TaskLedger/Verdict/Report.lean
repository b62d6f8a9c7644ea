import TaskLedger.Task.Record
import TaskLedger.Verdict.Basic
import TaskLedger.Verdict.TimeLimit

/-!
**Reports of failures.**

A report says how a task failed and gives operators the evidence.  Users see a fixed message for each
kind of failure, never the evidence.

Main definitions:

* `TaskLedger.FailureReport` — a kind and a technical detail;
* `TaskLedger.FailureReport.timedOut`, `TaskLedger.FailureReport.fromRemote`,
  `TaskLedger.FailureReport.byWorker` — the three sources of evidence;
* `TaskLedger.FailureReport.toUpdate` — the final update of the record.
-/

set_option autoImplicit false

namespace TaskLedger

/-- How a task failed, with the evidence. -/
structure FailureReport where
  kind : FailureKind
  technicalDetail : String
  deriving DecidableEq, Repr

namespace FailureReport

/-- The age of a task in whole seconds; one created in the future has age zero. -/
def ageSeconds (createdAt now : Instant) : Nat :=
  (Int.tdiv (now.since createdAt) 1000000000).toNat

/-- A task that outlived its limit. -/
def timedOut (limit : Span) (createdAt now : Instant) : FailureReport :=
  { kind := .timedOut
    technicalDetail := s!"task exceeded its configured time limit of {limit.seconds}s (age "
      ++ s!"{ageSeconds createdAt now}s)" }

/-- The report on a task created at one instant, if it has outlived its limit at another. -/
def ofLimit? (l : TimeLimit) (createdAt now : Instant) : Option FailureReport :=
  match l.limit with
  | some limit => if l.isExpired createdAt now then some (timedOut limit createdAt now) else none
  | none => none

/-- There is no report exactly if the task has not outlived its limit. -/
theorem ofLimit?_eq_none_iff {l : TimeLimit} {createdAt now : Instant} :
    ofLimit? l createdAt now = none ↔ l.isExpired createdAt now = false := by
  rcases l with ⟨_ | span⟩
  · simp [ofLimit?, TimeLimit.isExpired]
  · simp [ofLimit?]

/-- The evidence in the state of the job. -/
def remoteEvidence (remote : RemoteState) : String :=
  "remote state " ++ remote.name ++
    (if remote = .unknown then ": no record found at the remote system" else "")

/-- A task whose job the broker reports as lost; a detail that is not blank is added. -/
def fromRemote (kind : FailureKind) (remote : RemoteState) (detail : Option String) :
    FailureReport :=
  { kind
    technicalDetail := remoteEvidence remote ++
      (match detail.filter (!Text.isBlankText ·) with
        | some d => "; " ++ d
        | none => "") }

/-- A task whose job reported its own failure. -/
def byWorker (kind : FailureKind) (detail : String) : FailureReport :=
  { kind, technicalDetail := "failure reported by worker: " ++ detail }

/-- The final update of the record of the task. -/
def toUpdate (r : FailureReport) (endedAt : Instant) : FinalUpdate :=
  (FinalUpdate.failed endedAt r.kind.userMessage r.technicalDetail).withLog r.kind.logLine

@[simp] theorem status_toUpdate (r : FailureReport) (endedAt : Instant) :
    (r.toUpdate endedAt).status = .failed := rfl

end FailureReport

end TaskLedger
