import TaskLedger.Proofs.Broker.Change
import TaskLedger.Proofs.Dialogue.History

/-!
**What a broker is told, and what it keeps of a job.**

Whoever runs the jobs tells the broker how they fare; jobs may be forgotten, and the broker may be out
of reach.  Whatever it is told and asked, the broker changes a job in its state only.  What the job
was dispatched with stays as it was, and there is no job but those that were dispatched.

Main definitions:

* `TaskLedger.Broker.Notice`, `TaskLedger.Broker.Memory.heed` — what a broker is told, and what it
  makes of it;
* `TaskLedger.Broker.Order`, `TaskLedger.Broker.Memory.orders` — what a job was dispatched with, and
  the orders of the retained jobs.

Main results:

* `TaskLedger.Broker.Memory.orders_heed` — no notice brings a job;
* `TaskLedger.Broker.Memory.mem_orders_answer` — **a question brings no job but the one that it
  dispatches**.
-/

set_option autoImplicit false

namespace TaskLedger.Broker

/-- What a broker is told: that a job is in a state or has failed, that it is to be forgotten, or that
the broker can be reached from now on or cannot. -/
inductive Notice where
  | state (handle : Handle) (state : RemoteState)
  | failure (handle : Handle) (detail : String)
  | forget (handle : Handle)
  | availability (available : Bool)

/-- A broker after it was told something. -/
def Memory.heed (m : Memory) (now : Instant) : Notice → Memory
  | .state handle state => (m.setState now handle state).2
  | .failure handle detail => (m.fail now handle detail).2
  | .forget handle => (m.forget handle).2
  | .availability available => m.setAvailable available

/-- What a job was dispatched with, and the handle that it was given. -/
structure Order where
  handle : Handle
  taskId : TaskId
  taskType : String
  payload : Json
  deriving DecidableEq

/-- The order of a job. -/
def Job.order (job : Job) : Order := ⟨job.handle, job.taskId, job.taskType, job.payload⟩

namespace Memory

/-- The orders of the retained jobs. -/
def orders (m : Memory) : List Order := m.jobs.map Job.order

variable {m : Memory} {now : Instant}

/-! ### Changes of the jobs -/

theorem orders_keep (m : Memory) (p : Job → Bool) : (m.keep p).orders ⊆ m.orders :=
  (List.filter_sublist.map Job.order).subset

/-- A change that leaves the order of a job as it is leaves all orders as they are. -/
theorem orders_change (m : Memory) (handle : Handle) (f : Job → Job)
    (keeps : ∀ job, (f job).handle = job.handle) (hf : ∀ job, (f job).order = job.order) :
    (m.change handle f keeps).2.orders = m.orders := by
  simp only [orders, change, mapJobs, List.map_map]
  refine List.map_congr_left fun job _ => ?_
  by_cases h : job.handle = handle <;> simp [h, hf]

theorem orders_setState (m : Memory) (now : Instant) (handle : Handle) (state : RemoteState) :
    (m.setState now handle state).2.orders = m.orders :=
  orders_change m handle _ _ fun _ => rfl

theorem orders_fail (m : Memory) (now : Instant) (handle : Handle) (detail : String) :
    (m.fail now handle detail).2.orders = m.orders :=
  orders_change m handle _ _ fun _ => rfl

theorem orders_add (m : Memory) (job : Job) : (m.add job).orders ⊆ job.order :: m.orders := by
  intro o ho
  simp only [orders, add, List.map_append, List.mem_append, List.mem_map, List.mem_filter,
    List.map_cons, List.map_nil, List.mem_singleton] at ho
  rcases ho with ⟨other, ⟨hother, -⟩, rfl⟩ | rfl
  · exact List.mem_cons_of_mem _ (List.mem_map_of_mem hother)
  · exact List.mem_cons_self

/-! ### Notices and questions -/

/-- No notice brings a job. -/
theorem orders_heed (m : Memory) (now : Instant) (n : Notice) : (m.heed now n).orders ⊆ m.orders := by
  cases n with
  | state handle state =>
      rw [heed, orders_setState]
      exact List.Subset.refl _
  | failure handle detail =>
      rw [heed, orders_fail]
      exact List.Subset.refl _
  | forget handle => exact m.orders_keep _
  | availability available => exact List.Subset.refl _

theorem orders_revoke (m : Memory) (now : Instant) (handle : Handle) :
    (m.revoke now handle).2.orders = m.orders := by
  unfold revoke
  dsimp only
  split
  · exact orders_setState _ now handle .revoked
  · rfl

/-- **A question brings no job but the one that it dispatches**, under the handle that it answers. -/
theorem mem_orders_answer {fresh : Handle} {q : Query} {o : Order}
    (ho : o ∈ (answer now fresh q m).2.orders) :
    o ∈ m.orders ∨ (⟨q, (answer now fresh q m).1⟩ : Exchange interface) =
      ⟨.dispatch o.taskId o.taskType o.payload, .ok o.handle⟩ := by
  cases havailable : m.available with
  | false =>
      rw [answer_of_unavailable now fresh havailable] at ho
      exact Or.inl ho
  | true =>
      cases q with
      | dispatch id taskType payload =>
          rw [answer_dispatch now fresh havailable] at ho ⊢
          rcases List.mem_cons.1 (orders_add _ _ ho) with rfl | hkept
          · exact Or.inr rfl
          · exact Or.inl (m.orders_keep _ hkept)
      | state handle =>
          rw [answer_state now fresh havailable] at ho
          exact Or.inl (m.orders_keep _ ho)
      | failureDetail handle =>
          rw [answer_failureDetail now fresh havailable] at ho
          exact Or.inl (m.orders_keep _ ho)
      | revoke handle =>
          rw [answer_revoke now fresh havailable] at ho
          exact Or.inl (m.orders_revoke now handle ▸ ho)

end Memory

end TaskLedger.Broker
