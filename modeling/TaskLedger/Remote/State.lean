/-!
**What the broker tells about a job.**

Main definitions:

* `TaskLedger.RemoteState` — the states of a dispatched job as its broker reports them;
* `TaskLedger.RemoteState.isDead` — the states that a job does not survive;
* `TaskLedger.RemoteState.isLive` — those in which it can still be revoked.
-/

set_option autoImplicit false

namespace TaskLedger

/-- The state of a job as its broker reports it. -/
inductive RemoteState where
  | pending
  | started
  | success
  | failure
  | revoked
  | rejected
  | unknown
  deriving DecidableEq, Repr

namespace RemoteState

/-- All states, in the order of their declaration. -/
def all : List RemoteState := [pending, started, success, failure, revoked, rejected, unknown]

/-- Whether a job has ended without success. -/
def isDead : RemoteState → Bool
  | failure | revoked | rejected => true
  | pending | started | success | unknown => false

/-- Whether a job is waiting or at work. -/
def isLive : RemoteState → Bool
  | pending | started => true
  | success | failure | revoked | rejected | unknown => false

/-- The name of a state. -/
def name : RemoteState → String
  | pending => "PENDING"
  | started => "STARTED"
  | success => "SUCCESS"
  | failure => "FAILURE"
  | revoked => "REVOKED"
  | rejected => "REJECTED"
  | unknown => "UNKNOWN"

/-- The state with exactly the given name. -/
def named? (s : String) : Option RemoteState := all.find? (·.name == s)

theorem mem_all (s : RemoteState) : s ∈ all := by cases s <;> decide

@[simp] theorem named?_name (s : RemoteState) : named? s.name = some s := by cases s <;> decide

end RemoteState

end TaskLedger
