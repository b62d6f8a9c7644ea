import TaskLedger.Remote.State
import TaskLedger.Task.Status

/-!
**What is to be done with a record.**

The stage that a record shows and the state that the broker reports decide together whether the task
has to be declared failed.

| record  | pending, started | success | failure, revoked, rejected | unknown    |
|---------|------------------|---------|----------------------------|------------|
| pending | leave            | leave   | failed to start            | leave      |
| running | leave            | leave   | stopped unexpectedly       | vanished   |
| ended   | leave            | leave   | leave                      | leave      |

A job that succeeded is left alone: only its body knows the result, so only it records completion.

Main definitions:

* `TaskLedger.FailureKind`, `TaskLedger.LeaveReason`, `TaskLedger.Verdict`;
* `TaskLedger.Verdict.of` — the table;
* `TaskLedger.Verdict.ofReportedFailure` — the verdict when the job itself reported its failure.

Main results:

* `TaskLedger.Verdict.of_eq_fail_iff` — when the table says that a task failed, and how.
-/

set_option autoImplicit false

namespace TaskLedger

/-- How a task failed. -/
inductive FailureKind where
  | failedToStart
  | stoppedUnexpectedly
  | vanished
  | timedOut
  deriving DecidableEq, Repr

/-- Why a record is left as it is. -/
inductive LeaveReason where
  | terminal
  | awaitingProgress
  | completionPending
  deriving DecidableEq, Repr

/-- What is to be done with a record. -/
inductive Verdict where
  | leave (reason : LeaveReason)
  | fail (kind : FailureKind)
  deriving DecidableEq, Repr

namespace FailureKind

/-- All kinds. -/
def all : List FailureKind := [failedToStart, stoppedUnexpectedly, vanished, timedOut]

/-- The name of a kind. -/
def name : FailureKind → String
  | failedToStart => "failed_to_start"
  | stoppedUnexpectedly => "stopped_unexpectedly"
  | vanished => "vanished"
  | timedOut => "timed_out"

/-- The kind with exactly the given name. -/
def named? (s : String) : Option FailureKind := all.find? (·.name == s)

/-- The first sentence of the message for users. -/
def headline : FailureKind → String
  | failedToStart => "Task failed to start."
  | stoppedUnexpectedly | vanished => "Task stopped unexpectedly."
  | timedOut => "Task exceeded its time limit."

/-- The sentence that ends every message for users. -/
def supportHint : String := "Please try again, or contact support if the problem persists."

/-- The message for users. -/
def userMessage (kind : FailureKind) : String := kind.headline ++ " " ++ supportHint

/-- The line for the log of the task. -/
def logLine : FailureKind → String
  | failedToStart => "Task failed to start"
  | stoppedUnexpectedly => "Task stopped unexpectedly"
  | vanished => "Task stopped unexpectedly (no remote record found)"
  | timedOut => "Task exceeded its time limit"

@[simp] theorem named?_name (k : FailureKind) : named? k.name = some k := by cases k <;> decide

end FailureKind

namespace LeaveReason

/-- All reasons. -/
def all : List LeaveReason := [terminal, awaitingProgress, completionPending]

/-- The name of a reason. -/
def name : LeaveReason → String
  | terminal => "terminal"
  | awaitingProgress => "awaiting_progress"
  | completionPending => "completion_pending"

/-- The reason with exactly the given name. -/
def named? (s : String) : Option LeaveReason := all.find? (·.name == s)

@[simp] theorem named?_name (r : LeaveReason) : named? r.name = some r := by cases r <;> decide

end LeaveReason

namespace Verdict

/-- Whether a verdict declares a task failed. -/
def isFail : Verdict → Bool
  | .fail _ => true
  | .leave _ => false

/-- The verdict on a record at a stage whose job is in a state. -/
def of (status : Status) (remote : RemoteState) : Verdict :=
  if status.isTerminal then .leave .terminal
  else if remote = .success then .leave .completionPending
  else match status, remote.isDead, remote with
    | .pending, true, _ => .fail .failedToStart
    | .running, true, _ => .fail .stoppedUnexpectedly
    | .running, false, .unknown => .fail .vanished
    | _, _, _ => .leave .awaitingProgress

/-- The verdict on a record at a stage whose job reported its own failure. -/
def ofReportedFailure : Status → Verdict
  | .pending => .fail .failedToStart
  | .running => .fail .stoppedUnexpectedly
  | .completed | .failed | .cancelled => .leave .terminal

/-- When the table says that a task failed, and how. -/
theorem of_eq_fail_iff {status : Status} {remote : RemoteState} {kind : FailureKind} :
    Verdict.of status remote = .fail kind ↔
      (kind = .failedToStart ∧ status = .pending ∧ remote.isDead = true) ∨
      (kind = .stoppedUnexpectedly ∧ status = .running ∧ remote.isDead = true) ∨
      (kind = .vanished ∧ status = .running ∧ remote = .unknown) := by
  cases status <;> cases remote <;> cases kind <;> decide

/-- The table declares no task failed whose job is waiting or at work. -/
theorem isLive_eq_false_of_fail {status : Status} {remote : RemoteState} {kind : FailureKind}
    (h : Verdict.of status remote = .fail kind) : remote.isLive = false := by
  rcases of_eq_fail_iff.1 h with ⟨-, -, hdead⟩ | ⟨-, -, hdead⟩ | ⟨-, -, rfl⟩
  · cases remote <;> first | rfl | cases hdead
  · cases remote <;> first | rfl | cases hdead
  · rfl

end Verdict

end TaskLedger
