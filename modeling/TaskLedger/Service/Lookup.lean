import TaskLedger.Service.Reconcile
import TaskLedger.Service.Submit

/-!
**Looking a task up.**

Whoever asks for a task sees it as it is now: the record is reconciled first.  If that is not
possible the record is shown as it stands.
-/

set_option autoImplicit false

namespace TaskLedger.Service

/-- The record of a task, reconciled if possible. -/
def lookup (limit : TimeLimit) (id : TaskId) : Action (Except Fault (Option Record)) := do
  let _ ← reconcile limit id
  match ← get id with
  | .error fault => return .error (.store fault)
  | .ok record? => return .ok record?

/-- The number of records at each stage. -/
def tally : Action (Except Fault Store.Counts) := do
  match ← counts with
  | .error fault => return .error (.store fault)
  | .ok c => return .ok c

end TaskLedger.Service
