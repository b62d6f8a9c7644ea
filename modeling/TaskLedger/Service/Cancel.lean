import TaskLedger.Service.Submit

/-!
**Cancelling a task.**

The job is asked to stop first, and the record is ended whether or not the broker could be reached.

Main definitions:

* `TaskLedger.Service.Cancellation` — what became of the request;
* `TaskLedger.Service.cancel` — the operation.
-/

set_option autoImplicit false

namespace TaskLedger.Service

/-- What became of a request to cancel a task. -/
inductive Cancellation where
  | cancelled (revoked : Bool)
  | ended (status : Status)
  deriving DecidableEq, Repr

/-- Revokes the job of a handle, if there is one; tells whether the broker acknowledged it. -/
def revokeIfAny : Option Handle → Action Bool
  | none => return false
  | some handle => do
      match ← revoke handle with
      | .ok acknowledged => return acknowledged
      | .error _ => return false

/-- Cancels a task. -/
def cancel (id : TaskId) : Action (Except Fault Cancellation) := do
  match ← get id with
  | .error fault => return .error (.store fault)
  | .ok none => return .error (.notFound id)
  | .ok (some record) =>
      if record.isTerminal then return .ok (.ended record.status)
      else
        let revoked ← revokeIfAny record.handle
        let endedAt ← now
        match ← finish id ((FinalUpdate.cancelled endedAt).withLog "Task cancelled") with
        | .error fault => return .error (.store fault)
        | .ok .applied => return .ok (.cancelled revoked)
        | .ok (.rejected current) => return .ok (.ended current)
        | .ok .notFound => return .error (.notFound id)

end TaskLedger.Service
