import TaskLedger.Sql.Statement
import TaskLedger.Store.Query
import TaskLedger.Text.Quoted

/-!
**Records as rows.**

A record is held in one row.  The row may hold what no record does, a blank handle or an unknown
stage, and is then corrupt.

Main definitions:

* `TaskLedger.Sql.TaskRow` — the values of a row by their types;
* `TaskLedger.Sql.TaskRow.ofRecord`, `TaskLedger.Sql.TaskRow.toRecord` — writing and reading records;
* `TaskLedger.Sql.TaskRow.values`, `TaskLedger.Sql.TaskRow.ofRow` — the row as it is sent, and as it
  is received.
-/

set_option autoImplicit false

namespace TaskLedger.Sql

/-- The values of a row by their types. -/
structure TaskRow where
  taskId : Uuid
  remoteHandle : Option String
  taskType : String
  payload : Json
  status : String
  createdAt : Instant
  completedAt : Option Instant
  logMessages : List String
  errorMessage : Option String
  technicalDetail : Option String
  result : Option Json
  deriving DecidableEq

/-- Reads a stage from a row. -/
def readStatus (s : String) : Except Store.Fault Status :=
  (Status.parse s).mapError fun error =>
    .corrupt s!"bad status {Text.quote s}: {error.message}"

/-- Reads a handle from a row. -/
def readHandle (s : String) : Except Store.Fault Handle :=
  (Handle.parse s).mapError fun error => .corrupt s!"bad remote handle: {error.message}"

namespace TaskRow

/-- The row of a record. -/
def ofRecord (r : Record) : TaskRow where
  taskId := r.id.uuid
  remoteHandle := r.handle.map Handle.text
  taskType := r.taskType
  payload := r.payload
  status := r.status.name
  createdAt := r.createdAt
  completedAt := r.completedAt
  logMessages := r.log
  errorMessage := r.errorMessage
  technicalDetail := r.technicalDetail
  result := r.result

/-- The record in a row. -/
def toRecord (row : TaskRow) : Except Store.Fault Record := do
  let handle ← match row.remoteHandle with
    | some s => some <$> readHandle s
    | none => .ok none
  let status ← readStatus row.status
  return {
    id := ⟨row.taskId⟩
    handle
    taskType := row.taskType
    payload := row.payload
    status
    createdAt := row.createdAt
    completedAt := row.completedAt
    log := row.logMessages
    errorMessage := row.errorMessage
    technicalDetail := row.technicalDetail
    result := row.result }

/-- The value of a column. -/
def value (row : TaskRow) : Column → Value
  | .taskId => .uuid row.taskId
  | .remoteHandle => .ofOption .text row.remoteHandle
  | .taskType => .text row.taskType
  | .payload => .json row.payload
  | .status => .text row.status
  | .createdAt => .moment row.createdAt
  | .completedAt => .ofOption .moment row.completedAt
  | .logMessages => .texts row.logMessages
  | .errorMessage => .ofOption .text row.errorMessage
  | .technicalDetail => .ofOption .text row.technicalDetail
  | .result => .ofOption .json row.result

/-- The values of some columns. -/
def values (row : TaskRow) (columns : List Column) : List Value := columns.map row.value

/-- A row as it is received when some columns are asked for. -/
def toRow (row : TaskRow) (columns : List Column) : Row :=
  columns.map fun c => (c.name, row.value c)

/-- Reads the columns of a row, in the order of the table. -/
def ofRow (row : Row) : Except RowFault TaskRow := do
  return {
    taskId := ← row.required Column.taskId.name Value.uuid?
    remoteHandle := ← row.optional Column.remoteHandle.name Value.text?
    taskType := ← row.required Column.taskType.name Value.text?
    payload := ← row.required Column.payload.name Value.json?
    status := ← row.required Column.status.name Value.text?
    createdAt := ← row.required Column.createdAt.name Value.moment?
    completedAt := ← row.optional Column.completedAt.name Value.moment?
    logMessages := ← row.required Column.logMessages.name Value.texts?
    errorMessage := ← row.optional Column.errorMessage.name Value.text?
    technicalDetail := ← row.optional Column.technicalDetail.name Value.text?
    result := ← row.optional Column.result.name Value.json? }

end TaskRow

/-- The record in a row as it is received. -/
def readRecord (row : Row) : Except Store.Fault Record :=
  match TaskRow.ofRow row with
  | .error fault => .error (.corrupt s!"failed to deserialize task row: {fault.message}")
  | .ok row => row.toRecord

end TaskLedger.Sql
