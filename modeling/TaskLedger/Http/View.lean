import TaskLedger.Wire.Record

/-!
**What users see of a task.**

A view leaves out the payload, the handle and the detail meant for operators.
-/

set_option autoImplicit false

namespace TaskLedger

/-- What users see of a task. -/
structure View where
  id : TaskId
  taskType : String
  status : Status
  createdAt : Instant
  completedAt : Option Instant
  log : List String
  errorMessage : Option String
  result : Option Json
  deriving DecidableEq

/-- The view of a record. -/
def Record.view (r : Record) : View where
  id := r.id
  taskType := r.taskType
  status := r.status
  createdAt := r.createdAt
  completedAt := r.completedAt
  log := r.log
  errorMessage := r.errorMessage
  result := r.result

/-- A view as an object.  Without a message or a result there is no member for it; a result that is
null has one. -/
def View.toJson (v : View) : Json :=
  .ofMembers ([
    ("task_id", v.id.toJson),
    ("task_type", .text v.taskType),
    ("status", v.status.toJson),
    ("created_at", v.createdAt.toJson),
    ("completed_at", (v.completedAt.map Instant.toJson).getD .null),
    ("log_messages", .list (v.log.map .text))] ++
    (v.errorMessage.toList.map fun message => ("error_message", .text message)) ++
    (v.result.toList.map fun result => ("result", result)))

end TaskLedger
