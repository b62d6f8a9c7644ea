import TaskLedger.Broker.Memory
import TaskLedger.Service.Call
import TaskLedger.Store.Memory

/-!
**A whole backend in memory.**

A store, a broker and a clock in memory, with a supply of fresh identifiers and handles, answer all
calls of all operations.

Main definitions:

* `TaskLedger.Supply` — the identifiers and handles to be given out, in their order;
* `TaskLedger.Backend` — the backend;
* `TaskLedger.Backend.answer` — its replies to the calls of an operation;
* `TaskLedger.Backend.perform` — an operation that nobody interrupts.
-/

set_option autoImplicit false

namespace TaskLedger

open Service

/-- The identifiers and handles to be given out, in their order. -/
structure Supply where
  taskId : Nat → TaskId
  handle : Nat → Handle

/-- A store, a broker, a clock, and how much of the supply is used. -/
structure Backend where
  store : Store.Memory
  broker : Broker.Memory
  clock : Instant
  supply : Supply
  idsUsed : Nat := 0
  handlesUsed : Nat := 0

namespace Backend

/-- A backend without records and jobs. -/
def empty (retention : Span) (clock : Instant) (supply : Supply) : Backend where
  store := .empty
  broker := .empty retention
  clock := clock
  supply := supply

/-- The number of handles that a question to an available broker uses up. -/
def handlesFor (b : Broker.Memory) : Broker.Query → Nat
  | .dispatch _ _ _ => if b.available then 1 else 0
  | _ => 0

/-- The replies of the backend to the calls of an operation. -/
def answer : (call : Call) → Backend → call.Reply × Backend
  | .store query, s =>
      let (reply, store) := Store.Memory.answer query s.store
      (reply, { s with store })
  | .broker query, s =>
      let (reply, broker) :=
        Broker.Memory.answer s.clock (s.supply.handle s.handlesUsed) query s.broker
      (reply, { s with broker, handlesUsed := s.handlesUsed + handlesFor s.broker query })
  | .now, s => (s.clock, s)
  | .freshId, s => (s.supply.taskId s.idsUsed, { s with idsUsed := s.idsUsed + 1 })

/-- An operation from its first call to its last, with no other in between. -/
def perform {α : Type} (action : Action α) (s : Backend) : α × Backend := action.run answer s

@[simp] theorem answer_store (query : Store.Query) (s : Backend) :
    answer (.store query) s =
      ((Store.Memory.answer query s.store).1,
        { s with store := (Store.Memory.answer query s.store).2 }) := rfl

@[simp] theorem answer_now (s : Backend) : answer .now s = (s.clock, s) := rfl

end Backend

end TaskLedger
