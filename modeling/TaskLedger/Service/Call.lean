import TaskLedger.Broker.Query
import TaskLedger.Store.Query

/-!
**The calls of an operation.**

Every operation of the service is a dialogue with a store, a broker, a clock and a supply of fresh
identifiers.  What happens between two of its calls is open: other operations may make calls of their
own.

Main definitions:

* `TaskLedger.Service.Call`, `TaskLedger.Service.calls` — the calls with their replies;
* `TaskLedger.Service.Action` — operations, and one action for each call.

Main results:

* `TaskLedger.Service.bind_get` and its neighbours — an operation that begins with a call asks it.
-/

set_option autoImplicit false

namespace TaskLedger.Service

/-- A call of an operation. -/
inductive Call where
  | store (query : Store.Query)
  | broker (query : Broker.Query)
  | now
  | freshId

/-- The reply to a call. -/
abbrev Call.Reply : Call → Type
  | .store query => Except Store.Fault query.Value
  | .broker query => Except Broker.Fault query.Value
  | .now => Instant
  | .freshId => TaskId

/-- The calls with their replies. -/
abbrev calls : Interface where
  Question := Call
  Answer := Call.Reply

/-- An operation, seen as its calls. -/
abbrev Action := Dialogue calls

/-! ### Calls to the store -/

/-- Adds a record. -/
def insert (record : Record) : Action (Except Store.Fault TaskId) :=
  .request (I := calls) (.store (.insert record))

/-- Looks a record up. -/
def get (id : TaskId) : Action (Except Store.Fault (Option Record)) :=
  .request (I := calls) (.store (.get id))

/-- Records the handle of a task. -/
def setHandle (id : TaskId) (handle : Handle) : Action (Except Store.Fault Store.Outcome) :=
  .request (I := calls) (.store (.setHandle id handle))

/-- Marks a task as running. -/
def markRunning (id : TaskId) : Action (Except Store.Fault Store.Outcome) :=
  .request (I := calls) (.store (.markRunning id))

/-- Adds a line to the log of a task. -/
def appendLog (id : TaskId) (message : String) : Action (Except Store.Fault Store.Outcome) :=
  .request (I := calls) (.store (.appendLog id message))

/-- Ends a task. -/
def finish (id : TaskId) (update : FinalUpdate) : Action (Except Store.Fault Store.Outcome) :=
  .request (I := calls) (.store (.finish id update))

/-- Ends a task that is still at a given stage. -/
def finishFrom (id : TaskId) (source : Status) (update : FinalUpdate) :
    Action (Except Store.Fault Store.Outcome) :=
  .request (I := calls) (.store (.finishFrom id source update))

/-- Lists the records of tasks that have not ended. -/
def listOpen : Action (Except Store.Fault (List Record)) :=
  .request (I := calls) (.store .listOpen)

/-- Counts the records at each stage. -/
def counts : Action (Except Store.Fault Store.Counts) :=
  .request (I := calls) (.store .counts)

/-! ### Calls to the broker -/

/-- Hands a job over. -/
def dispatch (id : TaskId) (taskType : String) (payload : Json) :
    Action (Except Broker.Fault Handle) :=
  .request (I := calls) (.broker (.dispatch id taskType payload))

/-- Asks for the state of a job. -/
def remoteState (handle : Handle) : Action (Except Broker.Fault RemoteState) :=
  .request (I := calls) (.broker (.state handle))

/-- Asks why a job failed. -/
def failureDetail (handle : Handle) : Action (Except Broker.Fault (Option String)) :=
  .request (I := calls) (.broker (.failureDetail handle))

/-- Requests the revocation of a job. -/
def revoke (handle : Handle) : Action (Except Broker.Fault Bool) :=
  .request (I := calls) (.broker (.revoke handle))

/-! ### Other calls -/

/-- Reads the clock. -/
def now : Action Instant := .request (I := calls) .now

/-- Takes an identifier that nobody has used. -/
def freshId : Action TaskId := .request (I := calls) .freshId

/-! ### Operations that begin with a call -/

section Bind

variable {β : Type} (id : TaskId) (handle : Handle)

@[simp] theorem bind_insert (record : Record) (f : Except Store.Fault TaskId → Action β) :
    Dialogue.bind (insert record) f = .ask (I := calls) (.store (.insert record)) f := rfl

@[simp] theorem bind_get (f : Except Store.Fault (Option Record) → Action β) :
    Dialogue.bind (get id) f = .ask (I := calls) (.store (.get id)) f := rfl

@[simp] theorem bind_setHandle (f : Except Store.Fault Store.Outcome → Action β) :
    Dialogue.bind (setHandle id handle) f =
      .ask (I := calls) (.store (.setHandle id handle)) f := rfl

@[simp] theorem bind_finish (update : FinalUpdate)
    (f : Except Store.Fault Store.Outcome → Action β) :
    Dialogue.bind (finish id update) f = .ask (I := calls) (.store (.finish id update)) f := rfl

@[simp] theorem bind_finishFrom (source : Status) (update : FinalUpdate)
    (f : Except Store.Fault Store.Outcome → Action β) :
    Dialogue.bind (finishFrom id source update) f =
      .ask (I := calls) (.store (.finishFrom id source update)) f := rfl

@[simp] theorem bind_dispatch (taskType : String) (payload : Json)
    (f : Except Broker.Fault Handle → Action β) :
    Dialogue.bind (dispatch id taskType payload) f =
      .ask (I := calls) (.broker (.dispatch id taskType payload)) f := rfl

@[simp] theorem bind_remoteState (f : Except Broker.Fault RemoteState → Action β) :
    Dialogue.bind (remoteState handle) f = .ask (I := calls) (.broker (.state handle)) f := rfl

@[simp] theorem bind_failureDetail (f : Except Broker.Fault (Option String) → Action β) :
    Dialogue.bind (failureDetail handle) f =
      .ask (I := calls) (.broker (.failureDetail handle)) f := rfl

@[simp] theorem bind_revoke (f : Except Broker.Fault Bool → Action β) :
    Dialogue.bind (revoke handle) f = .ask (I := calls) (.broker (.revoke handle)) f := rfl

@[simp] theorem bind_now (f : Instant → Action β) :
    Dialogue.bind now f = .ask (I := calls) .now f := rfl

@[simp] theorem bind_freshId (f : TaskId → Action β) :
    Dialogue.bind freshId f = .ask (I := calls) .freshId f := rfl

end Bind

end TaskLedger.Service
