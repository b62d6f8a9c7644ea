import TaskLedger.Service.JobFailure
import TaskLedger.Settings.Basic
import TaskLedger.Wire.Scalar

/-!
**Settings, limits, failures and submissions as JSON.**

Main definitions:

* `TaskLedger.Settings.toJson`, `TaskLedger.Settings.ofJson?`;
* `TaskLedger.TimeLimit.toJson`, `TaskLedger.TimeLimit.ofJson?`;
* `TaskLedger.JobFailure.toJson`, `TaskLedger.JobFailure.ofJson?`.
-/

set_option autoImplicit false

namespace TaskLedger

open Json

/-- A number of 64 bits. -/
def Json.word (n : UInt64) : Json := .nat n.toNat

/-- Settings as an object. -/
def Settings.toJson (c : Settings) : Json :=
  .ofMembers [
    ("task_timeout_secs", (c.taskTimeout.map Json.word).getD .null),
    ("sweep_interval_secs", .word c.sweepInterval),
    ("sweep_concurrency", .word c.sweepConcurrency),
    ("remote_retention_secs", .word c.retention),
    ("database_url", .ofText? c.databaseUrl),
    ("bind_addr", .text c.bindAddress)]

/-- Reads settings; what is missing keeps its default. -/
def Settings.ofJson? (j : Json) : Option Settings := do
  let parts ← Composite.of? 6 j
  let d : Settings := {}
  return {
    taskTimeout := ← parts.defaulted 0 "task_timeout_secs" d.taskTimeout (nullable wordOf?)
    sweepInterval := ← parts.defaulted 1 "sweep_interval_secs" d.sweepInterval wordOf?
    sweepConcurrency := ← parts.defaulted 2 "sweep_concurrency" d.sweepConcurrency wordOf?
    retention := ← parts.defaulted 3 "remote_retention_secs" d.retention wordOf?
    databaseUrl := ← parts.defaulted 4 "database_url" d.databaseUrl (nullable textOf?)
    bindAddress := ← parts.defaulted 5 "bind_addr" d.bindAddress textOf? }

/-- A time limit as an object. -/
def TimeLimit.toJson (l : TimeLimit) : Json :=
  .ofMembers [("limit", (l.limit.map Span.toJson).getD .null)]

/-- Reads a time limit. -/
def TimeLimit.ofJson? (j : Json) : Option TimeLimit := do
  let parts ← Composite.of? 1 j
  return { limit := ← parts.optional 0 "limit" Span.ofJson? }

/-- A reported failure as an object; without a traceback there is no member for it. -/
def JobFailure.toJson (f : JobFailure) : Json :=
  .ofMembers ([("error_type", .text f.errorType), ("message", .text f.message)] ++
    f.traceback.toList.map fun traceback => ("traceback", .text traceback))

/-- Reads a reported failure. -/
def JobFailure.ofJson? (j : Json) : Option JobFailure := do
  let parts ← Composite.of? 3 j
  return {
    errorType := ← parts.required 0 "error_type" textOf?
    message := ← parts.required 1 "message" textOf?
    traceback := ← parts.defaulted 2 "traceback" none (nullable textOf?) }

end TaskLedger
