import TaskLedger.Text.Blank
import TaskLedger.Text.Uuid
import TaskLedger.Task.Status

/-!
**Identifiers and refusals.**

Main definitions:

* `TaskLedger.TaskId`, `TaskLedger.Handle` — the identifier of a task, and the name under which the
  broker knows its job;
* `TaskLedger.TaskError` — why a change of a record, or a text for one of these, is refused;
* `TaskLedger.TaskId.parse`, `TaskLedger.Handle.parse` — reading them.
-/

set_option autoImplicit false

namespace TaskLedger

/-- The identifier of a task. -/
structure TaskId where
  uuid : Uuid
  deriving DecidableEq, Repr

/-- The name under which the broker knows a job. -/
structure Handle where
  text : String
  deriving DecidableEq, Repr

/-- The written form of an identifier. -/
def TaskId.toText (id : TaskId) : String := id.uuid.toText

/-- Why something is refused. -/
inductive TaskError where
  | blankTaskType
  | unknownStatus (text : String)
  | notTerminal (status : Status)
  | invalidId (fault : UuidFault)
  | blankHandle
  | invalidTransition (source target : Status)
  | finished (id : TaskId) (status : Status)
  | handleTaken (id : TaskId)
  | handleMissing (id : TaskId)
  | logClosed (id : TaskId) (status : Status)
  deriving DecidableEq, Repr

/-- The wording of a refusal. -/
def TaskError.message : TaskError → String
  | .blankTaskType => "validation failed: task_type must not be empty"
  | .unknownStatus text => s!"validation failed: unknown task status: {text}"
  | .notTerminal status => s!"validation failed: {status.name} is not a terminal status"
  | .invalidId fault => s!"invalid identifier: TaskId: {fault.message}"
  | .blankHandle => "invalid identifier: RemoteHandle: must not be empty"
  | .invalidTransition source target =>
      s!"invalid transition: {source.name} -> {target.name}"
  | .finished id status =>
      s!"invariant violated: task {id.toText} is {status.name} and can no longer change"
  | .handleTaken id => s!"invariant violated: task {id.toText} already has a remote handle"
  | .handleMissing id =>
      s!"invariant violated: task {id.toText} cannot run before it has a remote handle"
  | .logClosed id status =>
      s!"invariant violated: task {id.toText} is {status.name}; its log is closed"

/-- Reads the identifier of a task. -/
def TaskId.parse (s : String) : Except TaskError TaskId :=
  match Uuid.parse s with
  | .ok u => .ok ⟨u⟩
  | .error fault => .error (.invalidId fault)

/-- Whether an identifier comes before another. -/
def TaskId.precedes (a b : TaskId) : Bool := a.uuid.precedes b.uuid

/-- Takes a text as a handle, just as it is, unless it is blank. -/
def Handle.parse (s : String) : Except TaskError Handle :=
  if Text.isBlankText s then .error .blankHandle else .ok ⟨s⟩

/-- Reads a stage from its name in any case of its letters. -/
def Status.parse (s : String) : Except TaskError Status :=
  match Status.parse? s with
  | some status => .ok status
  | none => .error (.unknownStatus s)

end TaskLedger
