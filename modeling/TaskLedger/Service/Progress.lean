import TaskLedger.Service.Call

/-!
**What a job tells of its own task.**

The body of a job marks its task as running, adds lines to its log and records how it ended.
Completion is recorded from here only.
-/

set_option autoImplicit false

namespace TaskLedger.Service.Progress

/-- The job begins to run. -/
def start (id : TaskId) : Action (Except Store.Fault Store.Outcome) := markRunning id

/-- The job adds a line to the log. -/
def log (id : TaskId) (message : String) : Action (Except Store.Fault Store.Outcome) :=
  appendLog id message

/-- The job is done, with a result. -/
def complete (id : TaskId) (result : Json) : Action (Except Store.Fault Store.Outcome) := do
  let endedAt ← now
  finish id ((FinalUpdate.completed endedAt result).withLog "Task completed")

/-- The job found that it cannot succeed. -/
def fail (id : TaskId) (userMessage technicalDetail : String) :
    Action (Except Store.Fault Store.Outcome) := do
  let endedAt ← now
  finish id ((FinalUpdate.failed endedAt userMessage technicalDetail).withLog "Task failed")

/-- Whether the job may as well stop: its task has ended, or there is no such task. -/
def shouldStop (id : TaskId) : Action (Except Store.Fault Bool) := do
  match ← get id with
  | .error fault => return .error fault
  | .ok none => return .ok true
  | .ok (some record) => return .ok record.isTerminal

end TaskLedger.Service.Progress
