import TaskLedger.Service.Call
import TaskLedger.Verdict.Basic

/-!
**Submitting a task.**

A record is written first and its job dispatched next, so that no job runs of which there is no
record.  If the job cannot be dispatched, the record ends as failed.  If the task ended while its job
was being dispatched, nobody else knew the handle, so the job is revoked here.

Main definitions:

* `TaskLedger.Service.Fault` — why an operation on behalf of a user failed;
* `TaskLedger.Service.submit` — the operation.
-/

set_option autoImplicit false

namespace TaskLedger.Service

/-- Why an operation on behalf of a user failed. -/
inductive Fault where
  | notFound (id : TaskId)
  | invalid (error : TaskError)
  | store (fault : Store.Fault)
  | dispatch (fault : Broker.Fault)
  deriving DecidableEq, Repr

/-- The wording of a fault. -/
def Fault.message : Fault → String
  | .notFound id => s!"task not found: {id.toText}"
  | .invalid error => s!"validation error: {error.message}"
  | .store fault => fault.message
  | .dispatch fault => s!"dispatch failed: {fault.message}"

/-- The final update of a task whose job could not be dispatched. -/
def undispatched (endedAt : Instant) (fault : Broker.Fault) : FinalUpdate :=
  (FinalUpdate.failed endedAt FailureKind.failedToStart.userMessage
    s!"dispatch failed: {fault.message}").withLog FailureKind.failedToStart.logLine

/-- Ends a record whose job could not be dispatched. -/
def giveUp (id : TaskId) (fault : Broker.Fault) : Action (Except Fault TaskId) := do
  let endedAt ← now
  match ← finish id (undispatched endedAt fault) with
  | .error e => return .error (.store e)
  | .ok _ => return .error (.dispatch fault)

/-- Records the handle of a dispatched job; if the task has ended meanwhile, revokes the job. -/
def settle (id : TaskId) (handle : Handle) : Action (Except Fault TaskId) := do
  match ← setHandle id handle with
  | .error e => return .error (.store e)
  | .ok (.rejected current) =>
      if current.isTerminal then do
        let _ ← revoke handle
        return .ok id
      else return .ok id
  | .ok _ => return .ok id

/-- Dispatches the job of a record that was just written. -/
def launch (id : TaskId) (taskType : String) (payload : Json) : Action (Except Fault TaskId) := do
  match ← dispatch id taskType payload with
  | .error fault => giveUp id fault
  | .ok handle => settle id handle

/-- Submits a task: writes its record and dispatches its job. -/
def submit (taskType : String) (payload : Json) : Action (Except Fault TaskId) := do
  let createdAt ← now
  let id ← freshId
  match Record.create id taskType payload createdAt with
  | .error error => return .error (.invalid error)
  | .ok record =>
      match ← insert record with
      | .error fault => return .error (.store fault)
      | .ok id => launch id taskType payload

end TaskLedger.Service
