import TaskLedger.Proofs.Service.Diagnosis
import TaskLedger.Service.Lookup

/-!
**Reconciling a record again.**

A reconciliation may end the record as failed, and its lookups may cost the broker a job that is past
its retention.  A second one, at the same time and with nobody in between, finds the store and the
broker as the first has left them.  That is no longer what the first one found, and still nothing is
left to do: a record that failed has ended and is not judged again, and in every other case the same
is found once more, even if it is that the broker is out of reach.  So after any reconciliation the
task is settled.

Main definitions:

* `TaskLedger.Service.Settled` — reconciling a task comes to a result and leaves everything as it is;
* `TaskLedger.Service.again` — what is found the second time.

Main results:

* `TaskLedger.Service.Diagnosis.settled` — in every case, a task is settled after one look;
* `TaskLedger.Service.settled_reconciliation` — **a reconciled task is settled**;
* `TaskLedger.Service.unmoved_when_repeated` — a second reconciliation moves nothing, and who looks a
  task up twice sees the same record.
-/

set_option autoImplicit false

namespace TaskLedger

/-- A second lookup of a job at the same time drops nothing that the first has left. -/
theorem Broker.Memory.lookup_snd_lookup (m : Broker.Memory) (now : Instant) (handle : Handle) :
    ((m.lookup now handle).2.lookup now handle).2 = (m.lookup now handle).2 := by
  refine eq_of_jobs ?_ rfl rfl rfl
  simp only [lookup, keep, List.filter_filter]
  exact List.filter_congr fun job _ => Bool.and_self _

namespace Service

open Dialogue

/-- Reconciling a task comes to a result and leaves everything as it is. -/
def Settled (limit : TimeLimit) (id : TaskId) (reported : Option String) (b : Backend)
    (result : Reconciled) : Prop :=
  b.perform (reconciliation limit id reported) = (result, b)

/-- What is found the second time: a record that failed the first time has ended, and all else is
found as before. -/
def again : Reconciled → Reconciled
  | .ok (.failed _) => .ok (.ended .failed)
  | result => result

theorem again_of_ne_failed {result : Reconciled} (h : ∀ kind, result ≠ .ok (.failed kind)) :
    again result = result := by
  match result with
  | .ok (.failed kind) => exact absurd rfl (h kind)
  | .ok .notFound | .ok (.ended _) | .ok (.left _) | .ok (.lostRace _) | .error _ => rfl

variable {limit : TimeLimit} {b : Backend} {id : TaskId} {reported : Option String}

/-! ### One look -/

/-- With nobody else around, one look is all that a reconciliation comes to. -/
theorem perform_reconciliation_eq (limit : TimeLimit) (b : Backend) (id : TaskId)
    (reported : Option String) :
    b.perform (reconciliation limit id reported) = b.perform (examine limit id reported) := by
  obtain ⟨result, detail?, hd⟩ := exists_diagnosis limit b id reported
  obtain ⟨rfl, -⟩ := hd.perform_examine
  exact perform_reconciliation hd.ne_lostRace

theorem settled_iff {result : Reconciled} :
    Settled limit id reported b result ↔
      b.perform (examine limit id reported) = (result, b) := by
  rw [Settled, perform_reconciliation_eq]

/-- A task is settled if one look leaves everything as it is. -/
theorem settled_of_unmoved (h : (b.perform (examine limit id reported)).2 = b) :
    Settled limit id reported b (b.perform (examine limit id reported)).1 :=
  settled_iff.2 (Prod.ext rfl h)

/-! ### What is not looked at any further -/

/-- A task without a record is settled. -/
theorem settled_of_missing (h : b.store.find? id = none) :
    Settled limit id reported b (.ok .notFound) := by
  rw [settled_iff]
  simp only [Backend.perform, examine, bind_def, bind_get, run_ask, Backend.answer_store,
    Store.Memory.answer, h]
  rfl

/-- A task that has ended is settled. -/
theorem settled_of_ended {r : Record} (h : b.store.find? id = some r) (hended : r.isTerminal = true) :
    Settled limit id reported b (.ok (.ended r.status)) := by
  rw [settled_iff]
  simp only [Backend.perform, examine, bind_def, bind_get, run_ask, Backend.answer_store,
    Store.Memory.answer, h, hended, if_true]
  rfl

/-- A task that was found to have failed is settled: its record has ended. -/
theorem Aftermath.settled {after : Backend} {kind : FailureKind} {detail? : Option String}
    (h : Aftermath b id (.ok (.failed kind)) detail? after.store) :
    Settled limit id reported after (.ok (.ended .failed)) := by
  generalize hstore : after.store = store at h
  cases h with
  | unchanged hnot => exact absurd rfl (hnot kind)
  | @failed r _ detail hr =>
      have hid : r.id = id := Store.Memory.id_of_find? hr
      have hview : after.store.find? id = some (r.failedFor kind detail b.clock) := by
        rw [hstore, Store.Memory.find?_replace id (by simp [Record.failedFor, hid, hr])]
        exact if_pos hid
      exact settled_of_ended hview rfl

/-! ### A broker that is asked again -/

/-- The broker is asked about a job again. -/
theorem Judgeable.after {r : Record} {handle : Handle} (hj : Judgeable limit b id r handle)
    (k : Handle) : Judgeable limit (afterLookup b k) id r handle :=
  ⟨hj.found, hj.inTime, hj.handle, hj.available⟩

theorem stateOf_afterLookup (b : Backend) (k handle : Handle) :
    (afterLookup b k).stateOf handle = b.stateOf handle := by
  have hjob : (afterLookup b k).job? handle = b.job? handle := job?_lookup b k handle
  rw [Backend.stateOf, hjob, Backend.stateOf]

theorem afterLookup_afterLookup (b : Backend) (handle : Handle) :
    afterLookup (afterLookup b handle) handle = afterLookup b handle :=
  congrArg (fun broker => { b with broker }) (b.broker.lookup_snd_lookup b.clock handle)

/-- A task whose job does not tell that it has failed is left, and the broker has looked the job
up. -/
theorem Judgeable.perform_of_leave {r : Record} {handle : Handle} {reason : LeaveReason}
    (hj : Judgeable limit b id r handle) (hopen : r.isTerminal = false)
    (hverdict : Verdict.of r.status (b.stateOf handle) = .leave reason) :
    b.perform (examine limit id none) = (.ok (.left reason), afterLookup b handle) := by
  rw [hj.perform_examine hopen, perform_judge id r.status handle hj.available, hverdict]

/-- The second time the job tells the same, and the broker has nothing more to drop. -/
theorem Judgeable.settled {r : Record} {handle : Handle} {reason : LeaveReason}
    (hj : Judgeable limit b id r handle) (hopen : r.isTerminal = false)
    (hverdict : Verdict.of r.status (b.stateOf handle) = .leave reason) :
    Settled limit id none (b.perform (examine limit id none)).2 (.ok (.left reason)) := by
  rw [hj.perform_of_leave hopen hverdict, settled_iff]
  have hagain : Verdict.of r.status ((afterLookup b handle).stateOf handle) = .leave reason := by
    rw [stateOf_afterLookup, hverdict]
  rw [(hj.after handle).perform_of_leave hopen hagain, afterLookup_afterLookup]

/-! ### Reconciling again -/

/-- A task that was not handed over is left without a question to the broker. -/
theorem perform_examine_of_undispatched {r : Record} (hr : b.store.find? id = some r)
    (hopen : r.isTerminal = false) (htime : ¬ Overdue limit r b.clock) (hhandle : r.handle = none) :
    b.perform (examine limit id none) = (.ok (.left .awaitingProgress), b) := by
  rw [perform_examine_of_open hr hopen, ofLimit?_of_not_overdue htime, hhandle]

/-- A broker out of reach is left as it is. -/
theorem perform_examine_of_outage {r : Record} {handle : Handle} (hr : b.store.find? id = some r)
    (hopen : r.isTerminal = false) (htime : ¬ Overdue limit r b.clock)
    (hhandle : r.handle = some handle) (havailable : b.broker.available = false) :
    (b.perform (examine limit id none)).2 = b := by
  rw [perform_examine_of_open hr hopen, ofLimit?_of_not_overdue htime, hhandle]
  have hstate : b.answer (.broker (.state handle)) = (.error Broker.Memory.outage, b) := by
    rw [Backend.answer_of_looksUp (.state handle), Broker.Memory.answer_of_unavailable _ _ havailable]
  simp only [Backend.perform, judge, bind_def, bind_remoteState, run_ask, hstate]
  rfl

/-- **In every case a task is settled after one look.** -/
theorem Diagnosis.settled {result : Reconciled} {detail? : Option String}
    (h : Diagnosis limit b id reported result detail?) :
    Settled limit id reported (b.perform (examine limit id reported)).2 (again result) := by
  have isOpen : ∀ (r : Record), r.status ∈ [.pending, .running] → r.isTerminal = false :=
    fun _ => Status.mem_openStages.1
  obtain ⟨hresult, hafter⟩ := h.perform_examine
  by_cases hfailed : ∃ kind, result = .ok (.failed kind)
  · obtain ⟨kind, rfl⟩ := hfailed
    exact hafter.settled
  rw [again_of_ne_failed fun kind hkind => hfailed ⟨kind, hkind⟩]
  -- Everything is as it was, but for what a lookup has dropped.
  have stays : (b.perform (examine limit id reported)).2 = b →
      Settled limit id reported (b.perform (examine limit id reported)).2 result := by
    intro hsame
    have hsettled := settled_of_unmoved hsame
    rw [hresult] at hsettled
    rwa [hsame]
  cases h with
  | notFound hr => exact stays (congrArg Prod.snd (settled_iff.1 (settled_of_missing hr)))
  | @ended _ r hr hended =>
      have hterminal : r.isTerminal = true := by
        rw [← Bool.not_eq_false, Record.isTerminal, ← Status.mem_openStages]
        revert hended
        cases r.status <;> decide
      exact stays (congrArg Prod.snd (settled_iff.1 (settled_of_ended hr hterminal)))
  | notDispatched hr hopen htime hhandle =>
      exact stays (congrArg Prod.snd
        (perform_examine_of_undispatched hr (isOpen _ hopen) htime hhandle))
  | outage hr hopen htime hhandle havailable =>
      exact stays (perform_examine_of_outage hr (isOpen _ hopen) htime hhandle havailable)
  | completionPending hj hopen hstate =>
      exact hj.settled (isOpen _ hopen) (by rw [hstate, of_success hopen])
  | alive hj hopen hstate => exact hj.settled (isOpen _ hopen) (of_alive hopen hstate)
  | notYetKnown hj hpending hstate =>
      refine hj.settled (isOpen _ (by simp [hpending])) ?_
      rw [hpending, hstate]
      rfl
  | timedOut | reportedPending | reportedRunning | failedToStart | stopped | vanished =>
      exact absurd ⟨_, rfl⟩ hfailed

/-- **A reconciled task is settled.** -/
theorem settled_reconciliation (limit : TimeLimit) (b : Backend) (id : TaskId)
    (reported : Option String) :
    Settled limit id reported (b.perform (reconciliation limit id reported)).2
      (again (b.perform (reconciliation limit id reported)).1) := by
  obtain ⟨result, detail?, hd⟩ := exists_diagnosis limit b id reported
  obtain ⟨rfl, -⟩ := hd.perform_examine
  rw [perform_reconciliation_eq]
  exact hd.settled

/-- Who looks a task up sees the record that reconciling it has left. -/
theorem perform_lookup (limit : TimeLimit) (b : Backend) (id : TaskId) :
    b.perform (lookup limit id) =
      (.ok ((b.perform (reconcile limit id)).2.store.find? id),
        (b.perform (reconcile limit id)).2) := by
  simp only [Backend.perform, lookup, bind_def, run_bind, bind_get, run_ask, Backend.answer_store,
    Store.Memory.answer]
  rfl

/-- **A second reconciliation moves nothing**, at the same time and with nobody in between, whatever
the store and the broker are like, and whether or not the job has reported a failure.  It finds that
the record has ended as failed if the first one has ended it so, and otherwise what the first one
found.  And who looks a task up twice sees the same record twice. -/
theorem unmoved_when_repeated (limit : TimeLimit) (b : Backend) (id : TaskId) :
    (∀ reported,
      let once := b.perform (reconciliation limit id reported)
      once.2.perform (reconciliation limit id reported) = (again once.1, once.2)) ∧
    let once := b.perform (lookup limit id)
    ∃ record?, once.1 = .ok record? ∧ once.2.perform (lookup limit id) = (.ok record?, once.2) := by
  constructor
  · intro reported
    exact settled_reconciliation limit b id reported
  · have hsettled : (b.perform (reconcile limit id)).2.perform (reconcile limit id) =
        (again (b.perform (reconcile limit id)).1, (b.perform (reconcile limit id)).2) :=
      settled_reconciliation limit b id none
    simp only [perform_lookup, hsettled]
    exact ⟨_, rfl, rfl⟩

end Service

end TaskLedger
