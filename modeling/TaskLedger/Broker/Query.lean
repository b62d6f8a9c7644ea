import TaskLedger.Dialogue
import TaskLedger.Json.Basic
import TaskLedger.Remote.State
import TaskLedger.Task.Error

/-!
**What a broker of jobs is asked.**

Main definitions:

* `TaskLedger.Broker.Fault` — why a broker cannot answer;
* `TaskLedger.Broker.Query` — the four questions, and `TaskLedger.Broker.interface`.
-/

set_option autoImplicit false

namespace TaskLedger.Broker

/-- Why a broker cannot answer. -/
inductive Fault where
  | unavailable (detail : String)
  | rejected (detail : String)
  deriving DecidableEq, Repr

/-- The wording of a fault. -/
def Fault.message : Fault → String
  | .unavailable detail => s!"queue unavailable: {detail}"
  | .rejected detail => s!"queue rejected request: {detail}"

/-- A question to a broker. -/
inductive Query where
  | dispatch (id : TaskId) (taskType : String) (payload : Json)
  | state (handle : Handle)
  | failureDetail (handle : Handle)
  | revoke (handle : Handle)

/-- What a broker answers if it can. -/
abbrev Query.Value : Query → Type
  | .dispatch _ _ _ => Handle
  | .state _ => RemoteState
  | .failureDetail _ => Option String
  | .revoke _ => Bool

/-- The questions to a broker with their answers. -/
abbrev interface : Interface where
  Question := Query
  Answer q := Except Fault q.Value

end TaskLedger.Broker
