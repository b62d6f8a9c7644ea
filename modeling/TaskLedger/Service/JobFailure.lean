import TaskLedger.Json.Printer
import TaskLedger.Service.Reconcile

/-!
**A failure reported by a job.**

When the body of a job fails, its runtime reports the failure with the arguments of the job, from
which the task is recognised.  Arguments that name no task change nothing.

Main definitions:

* `TaskLedger.JobFailure` — what the runtime knows of the failure, and its one text;
* `TaskLedger.Service.taskOf` — the task that the arguments of a job name;
* `TaskLedger.Service.onFailure` — the operation.
-/

set_option autoImplicit false

namespace TaskLedger

/-- What is known of the failure of a job. -/
structure JobFailure where
  errorType : String
  message : String
  traceback : Option String := none
  deriving DecidableEq, Repr

namespace JobFailure

/-- A list of characters up to a double colon. -/
def untilColons : List Char → List Char
  | ':' :: ':' :: _ => []
  | c :: cs => c :: untilColons cs
  | [] => []

/-- The bare name of a type: its path without parameters, after the last double colon. -/
def bareName (path : String) : String :=
  .ofList (untilColons (path.toList.takeWhile (· ≠ '<')).reverse).reverse

/-- The failure of an error of a type, given by its path. -/
def ofError (path message : String) : JobFailure := { errorType := bareName path, message }

/-- The text of a failure: type and message, and below them a traceback that is not blank. -/
def detail (f : JobFailure) : String :=
  s!"{f.errorType}: {f.message}" ++
    match f.traceback.filter (!Text.isBlankText ·) with
    | some traceback => "\n" ++ traceback
    | none => ""

end JobFailure

namespace Service

/-- Why a reported failure was not recorded. -/
inductive CallbackFault where
  | missingTaskId
  | notAText (value : Json)
  | invalidTaskId (error : TaskError)
  | reconcile (fault : ReconcileFault)
  deriving DecidableEq

/-- The wording of a fault. -/
def CallbackFault.message : CallbackFault → String
  | .missingTaskId => "job arguments carry no task_id"
  | .notAText value =>
      s!"job arguments carry an invalid task_id: expected a string, got {value.compact}"
  | .invalidTaskId error => s!"job arguments carry an invalid task_id: {error.message}"
  | .reconcile fault => fault.message

/-- The value that stands for the task among the arguments of a job: a member of the arguments or of
the first of them, or else the first of them itself. -/
def taskArgument? : Json → Option Json
  | .object members => Json.find? "task_id" members
  | .list (.object members :: _) => Json.find? "task_id" members
  | .list (first :: _) => some first
  | _ => none

/-- The task that the arguments of a job name. -/
def taskOf (args : Json) : Except CallbackFault TaskId :=
  match taskArgument? args with
  | none | some .null => .error .missingTaskId
  | some (.text s) => (TaskId.parse s).mapError .invalidTaskId
  | some value => .error (.notAText value)

/-- Records the failure of a job in the record of the task that its arguments name. -/
def onFailure (limit : TimeLimit) (args : Json) (failure : JobFailure) :
    Action (Except CallbackFault Finding) :=
  match taskOf args with
  | .error fault => return .error fault
  | .ok id => do
      match ← reconcileWithFailure limit id failure.detail with
      | .error fault => return .error (.reconcile fault)
      | .ok finding => return .ok finding

end Service

end TaskLedger
