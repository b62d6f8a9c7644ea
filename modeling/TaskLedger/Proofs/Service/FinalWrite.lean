import TaskLedger.Proofs.Service.Ledger

/-!
**A task is ended once, and everyone learns how.**

Many operations may set out to end one and the same task: a cancellation, the job itself, a
submission whose job could not be dispatched, and as many reconciliations as there are polls and
sweeps.  Each of them reads, decides and writes, and between any two of its calls the others go on.
Still one of the writes at most is applied, the operation that reports to have ended the task is the
one whose write it was, and all the others that report an end report the same one.

Nothing is used of the operations but that they tell what an exchange has told them, and nothing of
the order of their calls.

Main definitions:

* `TaskLedger.Service.sideBySide` — operations that run side by side.

Main results:

* `TaskLedger.Service.one_final_write` — **at most one write ends a task, and every report of its
  end is true**.
-/

set_option autoImplicit false

namespace TaskLedger.Service

variable {ι : Type} [DecidableEq ι]

/-- Operations that run side by side: what has come of them after a series of moves. -/
def sideBySide (ops : ι → Operation) (b : Backend) (moves : List (Move ι Incident)) :
    Scene calls (fun i => (ops i).Result) Backend :=
  (Scene.start (fun i => (ops i).action) b).play Backend.world moves

/-- What has been said when operations run side by side, with the backend at that moment. -/
abbrev RunOf {ε : Type} (w : World calls Backend ε) (ops : ι → Operation) (b : Backend)
    (said : Said calls ι) (s : Backend) : Prop :=
  Run w (fun i => (ops i).action) b said s

/-- If nothing happens but the calls of the operations, they run side by side in a quiet world. -/
theorem run_quietWorld (ops : ι → Operation) (b : Backend) (order : List ι) :
    RunOf Backend.quietWorld ops b
      (sideBySide ops b (order.map .next)).said (sideBySide ops b (order.map .next)).state := by
  have hrun := Scene.run_play Backend.quietWorld (fun i => (ops i).action) b (order.map .next)
  rwa [Scene.play_next_congr Backend.quietWorld Backend.world rfl] at hrun

/-- An operation that gets as many turns as it may make calls comes to its end. -/
theorem exists_result_of_turns (ops : ι → Operation) (b : Backend) {i : ι} {n : Nat}
    {order : List ι} (h : (ops i).action.AsksAtMost n) (hn : n ≤ turns i order) :
    ∃ result, (sideBySide ops b (order.map .next)).result? i = some result :=
  Scene.exists_result?_of_turns Backend.world (Scene.start (fun i => (ops i).action) b) h hn

variable {ops : ι → Operation} {b : Backend} {moves : List (Move ι Incident)} {id : TaskId}

/-- What a result tells stands in the ledger, under the name of its operation. -/
theorem mem_accounts_of_result {i : ι} {result : (ops i).Result} {a : Account}
    (hresult : (sideBySide ops b moves).result? i = some result)
    (ha : (ops i).account id result = some a) :
    (i, a) ∈ accounts id (sideBySide ops b moves).said := by
  have hends := Scene.ends_of_result? hresult
  obtain ⟨x, hx, htells⟩ := (ops i).told hends a ha
  exact mem_accounts.2 ⟨x, mem_historyOf.1 hx, htells⟩

/-- **At most one write ends a task, and every report of its end is true.**  One write is applied
exactly if the task began open and has ended.  An operation that reports to have ended the task made
that write, and a terminal stage that is reported, by whomever, is the one the record has. -/
theorem one_final_write (ops : ι → Operation) (b : Backend) (moves : List (Move ι Incident))
    (id : TaskId) :
    let c := sideBySide ops b moves
    let told := accounts id c.said
    (finalWrites told).length ≤ 1 ∧
      ((finalWrites told).length = 1 ↔
        (∃ r₀, firstRecord? (b.store.find? id) told = some r₀ ∧ r₀.isTerminal = false) ∧
          ∃ r, c.state.store.find? id = some r ∧ r.isTerminal = true) ∧
      ∀ i result, c.result? i = some result →
        (∀ status, (ops i).account id result = some (.wrote status) →
          finalWrites told = [(i, status)] ∧
            ∃ r, c.state.store.find? id = some r ∧ r.status = status) ∧
        ∀ status, (ops i).account id result = some (.found status) → status.isTerminal = true →
          ∃ r, c.state.store.find? id = some r ∧ r.status = status := by
  intro c told
  have hreport : ∀ {i result a}, c.result? i = some result → (ops i).account id result = some a →
      (i, a) ∈ told := mem_accounts_of_result
  have hledger : Ledger (b.store.find? id) told (c.state.store.find? id) :=
    ledger_of_run (Scene.run_play Backend.world (fun i => (ops i).action) b moves) id
  refine ⟨hledger.length_finalWrites_le, hledger.length_finalWrites_eq_one_iff, ?_⟩
  intro i result hresult
  constructor
  · intro status hwrote
    exact hledger.of_mem_wrote (hreport hresult hwrote)
  · intro status hfound hstatus
    exact hledger.of_mem_found (hreport hresult hfound) hstatus

end TaskLedger.Service
