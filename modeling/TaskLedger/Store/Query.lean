import TaskLedger.Dialogue
import TaskLedger.Task.Record

/-!
**What a store of records is asked.**

Main definitions:

* `TaskLedger.Store.Fault` — why a store cannot answer;
* `TaskLedger.Store.Outcome` — what became of a conditional write;
* `TaskLedger.Store.Counts` — the number of records at each stage;
* `TaskLedger.Store.Query` — the nine questions, and `TaskLedger.Store.interface`.
-/

set_option autoImplicit false

namespace TaskLedger.Store

/-- Why a store cannot answer. -/
inductive Fault where
  | alreadyExists (id : TaskId)
  | corrupt (detail : String)
  | storage (detail : String)
  deriving DecidableEq, Repr

/-- The wording of a fault. -/
def Fault.message : Fault → String
  | .alreadyExists id => s!"task already exists: {id.toText}"
  | .corrupt detail => s!"corrupt task row: {detail}"
  | .storage detail => s!"storage error: {detail}"

/-- What became of a conditional write: done, refused because of the stage of the record, or without
a record to change. -/
inductive Outcome where
  | applied
  | rejected (current : Status)
  | notFound
  deriving DecidableEq, Repr

/-- The number of records at each stage. -/
structure Counts where
  pending : Nat := 0
  running : Nat := 0
  completed : Nat := 0
  failed : Nat := 0
  cancelled : Nat := 0
  deriving DecidableEq, Repr

/-- The counts with some more records at one stage. -/
def Counts.add (c : Counts) : Status → Nat → Counts
  | .pending, n => { c with pending := c.pending + n }
  | .running, n => { c with running := c.running + n }
  | .completed, n => { c with completed := c.completed + n }
  | .failed, n => { c with failed := c.failed + n }
  | .cancelled, n => { c with cancelled := c.cancelled + n }

/-- The count of one stage. -/
def Counts.at (c : Counts) : Status → Nat
  | .pending => c.pending
  | .running => c.running
  | .completed => c.completed
  | .failed => c.failed
  | .cancelled => c.cancelled

@[simp] theorem Counts.at_add (c : Counts) (s t : Status) (n : Nat) :
    (c.add s n).at t = c.at t + if s = t then n else 0 := by
  cases s <;> cases t <;> simp [Counts.add, Counts.at]

/-- A question to a store. -/
inductive Query where
  | insert (record : Record)
  | get (id : TaskId)
  | setHandle (id : TaskId) (handle : Handle)
  | markRunning (id : TaskId)
  | appendLog (id : TaskId) (message : String)
  | finish (id : TaskId) (update : FinalUpdate)
  | finishFrom (id : TaskId) (source : Status) (update : FinalUpdate)
  | listOpen
  | counts

/-- What a store answers if it can. -/
abbrev Query.Value : Query → Type
  | .insert _ => TaskId
  | .get _ => Option Record
  | .setHandle _ _ | .markRunning _ | .appendLog _ _ | .finish _ _ | .finishFrom _ _ _ => Outcome
  | .listOpen => List Record
  | .counts => Counts

/-- The questions to a store with their answers. -/
abbrev interface : Interface where
  Question := Query
  Answer q := Except Fault q.Value

end TaskLedger.Store
