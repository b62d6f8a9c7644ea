import TaskLedger.Json.Embedded
import TaskLedger.Task.Record
import TaskLedger.Wire.Scalar

/-!
**Records and updates as JSON.**

All parts are written, absent ones as null.  Reading checks the shape only: any combination of parts
is accepted.  A result that is null reads as no result, and an embedded text in a payload or a result
as the value that it denotes.

Main definitions:

* `TaskLedger.Record.parts`, `TaskLedger.Record.toJson`, `TaskLedger.Record.ofJson?`;
* `TaskLedger.FinalUpdate.parts`, `TaskLedger.FinalUpdate.toJson`, `TaskLedger.FinalUpdate.ofJson?`.
-/

set_option autoImplicit false

namespace TaskLedger

open Json

/-- The parts of a record under their names, in their places. -/
def Record.parts (r : Record) : List (String × Json) :=
  [ ("task_id", r.id.toJson),
    ("remote_handle", (r.handle.map Handle.toJson).getD .null),
    ("task_type", .text r.taskType),
    ("payload", r.payload),
    ("status", r.status.toJson),
    ("created_at", r.createdAt.toJson),
    ("completed_at", (r.completedAt.map Instant.toJson).getD .null),
    ("log_messages", .list (r.log.map .text)),
    ("error_message", .ofText? r.errorMessage),
    ("technical_detail", .ofText? r.technicalDetail),
    ("result", r.result.getD .null)]

/-- A record as an object. -/
def Record.toJson (r : Record) : Json := .ofMembers r.parts

/-- Reads a record. -/
def Record.ofJson? (j : Json) : Option Record := do
  let parts ← Composite.of? 11 j
  return {
    id := ← parts.required 0 "task_id" TaskId.ofJson?
    handle := ← parts.optional 1 "remote_handle" Handle.ofJson?
    taskType := ← parts.required 2 "task_type" textOf?
    payload := ← parts.required 3 "payload" resolve?
    status := ← parts.required 4 "status" Status.ofJson?
    createdAt := ← parts.required 5 "created_at" Instant.ofJson?
    completedAt := ← parts.optional 6 "completed_at" Instant.ofJson?
    log := ← parts.required 7 "log_messages" textsOf?
    errorMessage := ← parts.optional 8 "error_message" textOf?
    technicalDetail := ← parts.optional 9 "technical_detail" textOf?
    result := ← parts.optional 10 "result" resolve? }

/-- The parts of an update under their names, in their places. -/
def FinalUpdate.parts (u : FinalUpdate) : List (String × Json) :=
  [ ("status", u.status.toJson),
    ("at", u.endedAt.toJson),
    ("error_message", .ofText? u.errorMessage),
    ("technical_detail", .ofText? u.technicalDetail),
    ("result", u.result.getD .null),
    ("log_message", .ofText? u.logMessage)]

/-- An update as an object. -/
def FinalUpdate.toJson (u : FinalUpdate) : Json := .ofMembers u.parts

/-- Reads an update. -/
def FinalUpdate.ofJson? (j : Json) : Option FinalUpdate := do
  let parts ← Composite.of? 6 j
  return {
    status := ← parts.required 0 "status" Status.ofJson?
    endedAt := ← parts.required 1 "at" Instant.ofJson?
    errorMessage := ← parts.optional 2 "error_message" textOf?
    technicalDetail := ← parts.optional 3 "technical_detail" textOf?
    result := ← parts.optional 4 "result" resolve?
    logMessage := ← parts.optional 5 "log_message" textOf? }

end TaskLedger
