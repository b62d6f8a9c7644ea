import TaskLedger.Json.Basic
import TaskLedger.Task.Error
import TaskLedger.Time.Instant

/-!
**Task records.**

A record holds what is known of one task.  It changes by four operations, each of which checks all
its conditions before it changes anything: a handle is recorded once, a task starts only with a
handle, its log grows while it is open, and it ends once.

Main definitions:

* `TaskLedger.FinalUpdate` — what is to be recorded when a task ends;
* `TaskLedger.Record` — records, and `TaskLedger.Record.create` for a new one;
* `TaskLedger.Record.assignHandle`, `TaskLedger.Record.start`, `TaskLedger.Record.appendLog`,
  `TaskLedger.Record.finish` — the four operations;
* `TaskLedger.Record.isConsistent` — what holds of every record that was only changed by them.

Main results:

* `TaskLedger.Record.finish_eq_ok_iff` and its neighbours — when an operation succeeds, and with
  which record;
* `TaskLedger.Record.id_of_finish` and its neighbours — the identifier never changes.
-/

set_option autoImplicit false

namespace TaskLedger

/-- What is to be recorded when a task ends.  Texts and results that do not belong to the stage
reached are disregarded. -/
structure FinalUpdate where
  status : Status
  endedAt : Instant
  errorMessage : Option String := none
  technicalDetail : Option String := none
  result : Option Json := none
  logMessage : Option String := none
  deriving DecidableEq

namespace FinalUpdate

/-- A failure, with a message for users and a detail for operators. -/
def failed (endedAt : Instant) (errorMessage technicalDetail : String) : FinalUpdate :=
  { status := .failed, endedAt, errorMessage := some errorMessage,
    technicalDetail := some technicalDetail }

/-- A completion with its result, which may be null. -/
def completed (endedAt : Instant) (result : Json) : FinalUpdate :=
  { status := .completed, endedAt, result := some result }

/-- A cancellation. -/
def cancelled (endedAt : Instant) : FinalUpdate :=
  { status := .cancelled, endedAt }

/-- The update with a line for the log. -/
def withLog (u : FinalUpdate) (message : String) : FinalUpdate :=
  { u with logMessage := some message }

/-- The update with a detail for operators. -/
def withTechnicalDetail (u : FinalUpdate) (detail : String) : FinalUpdate :=
  { u with technicalDetail := some detail }

end FinalUpdate

/-- What is known of one task. -/
structure Record where
  id : TaskId
  handle : Option Handle
  taskType : String
  payload : Json
  status : Status
  createdAt : Instant
  completedAt : Option Instant
  log : List String
  errorMessage : Option String
  technicalDetail : Option String
  result : Option Json
  deriving DecidableEq

namespace Record

/-- The record of a task of which nothing but its submission is known. -/
def fresh (id : TaskId) (taskType : String) (payload : Json) (createdAt : Instant) : Record :=
  { id, handle := none, taskType, payload, status := .pending, createdAt, completedAt := none,
    log := [], errorMessage := none, technicalDetail := none, result := none }

/-- A pending record, if its type is not blank. -/
def create (id : TaskId) (taskType : String) (payload : Json) (createdAt : Instant) :
    Except TaskError Record :=
  if Text.isBlankText taskType then .error .blankTaskType
  else .ok (fresh id taskType payload createdAt)

/-- Whether the task has ended. -/
def isTerminal (r : Record) : Bool := r.status.isTerminal

/-- Records the handle of the task's job, once. -/
def assignHandle (r : Record) (handle : Handle) : Except TaskError Record :=
  if r.isTerminal then .error (.finished r.id r.status)
  else if r.handle.isSome then .error (.handleTaken r.id)
  else .ok { r with handle := some handle }

/-- Marks the task as running. -/
def start (r : Record) : Except TaskError Record :=
  if !r.status.canBecome .running then .error (.invalidTransition r.status .running)
  else if r.handle.isNone then .error (.handleMissing r.id)
  else .ok { r with status := .running }

/-- Adds a line to the log. -/
def appendLog (r : Record) (message : String) : Except TaskError Record :=
  if r.isTerminal then .error (.logClosed r.id r.status)
  else .ok { r with log := r.log ++ [message] }

/-- The record of a task that has ended.  The message for users is kept only of a failure and the
result only of a completion; a detail for operators replaces an earlier one. -/
def ended (r : Record) (u : FinalUpdate) : Record :=
  { r with
    status := u.status
    completedAt := some u.endedAt
    errorMessage := if u.status = .failed then u.errorMessage else r.errorMessage
    result := if u.status = .completed then u.result else r.result
    technicalDetail := u.technicalDetail.or r.technicalDetail
    log := r.log ++ u.logMessage.toList }

/-- Ends the task. -/
def finish (r : Record) (u : FinalUpdate) : Except TaskError Record :=
  if !u.status.isTerminal then .error (.notTerminal u.status)
  else if !r.status.canBecome u.status then .error (.invalidTransition r.status u.status)
  else .ok (r.ended u)

/-- A time of completion stands exactly in an ended record, and a running one has a handle. -/
def isConsistent (r : Record) : Bool :=
  (r.completedAt.isSome == r.isTerminal) &&
    (r.status = .pending || r.handle.isSome || r.isTerminal)

/-! ### When the operations succeed, and what they make of the record -/

theorem create_eq_ok_iff {id : TaskId} {taskType : String} {payload : Json} {createdAt : Instant}
    {r : Record} :
    create id taskType payload createdAt = .ok r ↔
      Text.isBlankText taskType = false ∧ r = fresh id taskType payload createdAt := by
  unfold create
  cases Text.isBlankText taskType <;> simp [eq_comm]

theorem assignHandle_eq_ok_iff {r c : Record} {handle : Handle} :
    r.assignHandle handle = .ok c ↔
      r.isTerminal = false ∧ r.handle = none ∧ c = { r with handle := some handle } := by
  unfold assignHandle
  cases r.isTerminal <;> cases hr : r.handle <;> simp [eq_comm]

theorem start_eq_ok_iff {r c : Record} :
    r.start = .ok c ↔
      r.status = .pending ∧ r.handle.isSome = true ∧ c = { r with status := .running } := by
  unfold start
  cases r.status <;> cases hr : r.handle <;> simp [Status.canBecome, Status.sources, eq_comm]

theorem appendLog_eq_ok_iff {r c : Record} {message : String} :
    r.appendLog message = .ok c ↔ r.isTerminal = false ∧ c = { r with log := r.log ++ [message] } := by
  unfold appendLog
  cases r.isTerminal <;> simp [eq_comm]

theorem finish_eq_ok_iff {r c : Record} {u : FinalUpdate} :
    r.finish u = .ok c ↔
      u.status.isTerminal = true ∧ r.status.canBecome u.status = true ∧ c = r.ended u := by
  unfold finish
  cases u.status.isTerminal <;> cases r.status.canBecome u.status <;> simp [eq_comm]

/-! ### What the operations keep -/

theorem id_of_assignHandle {r c : Record} {handle : Handle} (h : r.assignHandle handle = .ok c) :
    c.id = r.id := by
  obtain ⟨-, -, rfl⟩ := assignHandle_eq_ok_iff.1 h
  rfl

theorem id_of_start {r c : Record} (h : r.start = .ok c) : c.id = r.id := by
  obtain ⟨-, -, rfl⟩ := start_eq_ok_iff.1 h
  rfl

theorem id_of_appendLog {r c : Record} {message : String} (h : r.appendLog message = .ok c) :
    c.id = r.id := by
  obtain ⟨-, rfl⟩ := appendLog_eq_ok_iff.1 h
  rfl

theorem id_of_finish {r c : Record} {u : FinalUpdate} (h : r.finish u = .ok c) : c.id = r.id := by
  obtain ⟨-, -, rfl⟩ := finish_eq_ok_iff.1 h
  rfl

end Record

end TaskLedger
