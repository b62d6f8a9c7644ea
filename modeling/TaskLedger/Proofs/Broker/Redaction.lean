import TaskLedger.Proofs.Broker.Notice

/-!
**A broker with its internal texts left out.**

The reason why a job has failed is meant for operators.  The broker keeps it and hands it out when it
is asked for, and decides nothing by it: a broker without the reasons answers the same, and becomes
the same, but for them.

Main definitions:

* `TaskLedger.Broker.Job.redacted`, `TaskLedger.Broker.Memory.redacted` — what is left without the
  reasons;
* `TaskLedger.Broker.Notice.Alike` — a broker is told the same, but for them.

Main results:

* `TaskLedger.Broker.Memory.redacted_answer`, `TaskLedger.Broker.Memory.answer_redacted_fst` — **the
  reasons decide nothing**, and no other answer tells them;
* `TaskLedger.Broker.Memory.heed_alike` — brokers that are told the like are alike.
-/

set_option autoImplicit false

namespace TaskLedger

namespace Broker

/-- A job without the reason why it has failed. -/
def Job.redacted (job : Job) : Job := { job with failureDetail := none }

/-- The broker is told the same, or that a job has failed for another reason. -/
inductive Notice.Alike : Notice → Notice → Prop
  | same (n : Notice) : Alike n n
  | failure (handle : Handle) (detail detail' : String) :
      Alike (.failure handle detail) (.failure handle detail')

namespace Memory

variable {m m' : Memory}

/-- A broker without the reasons why jobs have failed. -/
def redacted (m : Memory) : Memory := m.mapJobs Job.redacted fun _ => rfl

theorem find?_redacted (m : Memory) (handle : Handle) :
    m.redacted.find? handle = (m.find? handle).map Job.redacted := List.find?_map ..

theorem keep_redacted (m : Memory) {p : Job → Bool} (hp : ∀ job : Job, p job.redacted = p job) :
    m.redacted.keep p = (m.keep p).redacted := by
  refine eq_of_jobs ?_ rfl rfl rfl
  have hsame : p ∘ Job.redacted = p := funext hp
  simp only [keep, redacted, mapJobs, List.filter_map, hsame]

theorem change_redacted (m : Memory) (handle : Handle) {f g : Job → Job}
    (hf : ∀ job, (f job).handle = job.handle) (hg : ∀ job, (g job).handle = job.handle)
    (h : ∀ job : Job, g job.redacted = (f job).redacted) :
    m.redacted.change handle g hg = ((m.change handle f hf).1, (m.change handle f hf).2.redacted) := by
  refine Prod.ext ?_ (eq_of_jobs ?_ rfl rfl rfl)
  · simp only [change, find?_redacted, Option.isSome_map]
  · simp only [change, redacted, mapJobs, List.map_map]
    refine List.map_congr_left fun job _ => ?_
    change (if job.handle = handle then _ else _) = Job.redacted (if _ then _ else _)
    split
    · exact h job
    · rfl

theorem add_redacted (m : Memory) (job : Job) : m.redacted.add job.redacted = (m.add job).redacted := by
  refine eq_of_jobs ?_ rfl rfl rfl
  simp only [add, redacted, mapJobs, List.filter_map, List.map_append, List.map_cons, List.map_nil]
  rfl

theorem setState_redacted (m : Memory) (now : Instant) (handle : Handle) (state : RemoteState) :
    m.redacted.setState now handle state =
      ((m.setState now handle state).1, (m.setState now handle state).2.redacted) :=
  m.change_redacted handle _ _ fun _ => rfl

/-- It makes no difference for what reason a job has failed. -/
theorem fail_redacted (m : Memory) (now : Instant) (handle : Handle) (detail : String) :
    m.redacted.change handle
        (fun job => { job with state := .failure, failureDetail := none, changedAt := now })
        (fun _ => rfl) =
      ((m.fail now handle detail).1, (m.fail now handle detail).2.redacted) :=
  m.change_redacted handle _ _ fun _ => rfl

theorem lookup_redacted (m : Memory) (now : Instant) (handle : Handle) :
    m.redacted.lookup now handle =
      ((m.lookup now handle).1.map Job.redacted, (m.lookup now handle).2.redacted) := by
  have hkeep := m.keep_redacted (p := fun job => !(job.handle = handle && m.isExpired now job))
    fun _ => rfl
  refine Prod.ext ?_ hkeep
  change (m.redacted.keep _).find? handle = _
  exact (congrArg (find? · handle) hkeep).trans (find?_redacted _ handle)

theorem dispatch_redacted (m : Memory) (now : Instant) (handle : Handle) (id : TaskId)
    (taskType : String) (payload : Json) :
    m.redacted.dispatch now handle id taskType payload =
      (m.dispatch now handle id taskType payload).redacted := by
  have hkeep := m.keep_redacted (p := fun job => !m.isExpired now job) fun _ => rfl
  exact (congrArg (add · _) hkeep).trans (add_redacted (m.keep fun job => !m.isExpired now job)
    ⟨handle, id, taskType, payload, .pending, none, now⟩)

theorem revoke_redacted (m : Memory) (now : Instant) (handle : Handle) :
    m.redacted.revoke now handle =
      ((m.revoke now handle).1, (m.revoke now handle).2.redacted) := by
  have hlive : ((m.find? handle).map Job.redacted).any (·.state.isLive) =
      (m.find? handle).any (·.state.isLive) := by
    cases m.find? handle <;> rfl
  unfold revoke
  change (if (m.redacted.find? handle).any (·.state.isLive) then _ else _) = _
  rw [find?_redacted, hlive]
  change _ = ((if (m.find? handle).any (·.state.isLive) then _ else _ : Bool × Memory).1,
    (if (m.find? handle).any (·.state.isLive) then _ else _ : Bool × Memory).2.redacted)
  split
  · exact setState_redacted { m with revocations := remember m.revocations handle } now handle .revoked
  · rfl

/-- **The reasons why jobs have failed decide nothing.** -/
theorem redacted_answer (m : Memory) (now : Instant) (fresh : Handle) (q : Query) :
    (answer now fresh q m).2.redacted = (answer now fresh q m.redacted).2 := by
  cases havailable : m.available with
  | false =>
      rw [answer_of_unavailable now fresh havailable,
        answer_of_unavailable now fresh (m := m.redacted) havailable]
  | true =>
      have hredacted : m.redacted.available = true := havailable
      cases q with
      | dispatch id taskType payload =>
          rw [answer_dispatch now fresh havailable, answer_dispatch now fresh hredacted]
          exact (m.dispatch_redacted now fresh id taskType payload).symm
      | state handle =>
          rw [answer_state now fresh havailable, answer_state now fresh hredacted, lookup_redacted]
      | failureDetail handle =>
          rw [answer_failureDetail now fresh havailable, answer_failureDetail now fresh hredacted,
            lookup_redacted]
      | revoke handle =>
          rw [answer_revoke now fresh havailable, answer_revoke now fresh hredacted, revoke_redacted]

/-- Nothing that the broker answers tells them, unless it is asked for one of them. -/
theorem answer_redacted_fst (m : Memory) (now : Instant) (fresh : Handle) {q : Query}
    (hq : ∀ handle, q ≠ .failureDetail handle) :
    (answer now fresh q m.redacted).1 = (answer now fresh q m).1 := by
  cases havailable : m.available with
  | false =>
      rw [answer_of_unavailable now fresh havailable,
        answer_of_unavailable now fresh (m := m.redacted) havailable]
  | true =>
      have hredacted : m.redacted.available = true := havailable
      cases q with
      | dispatch id taskType payload =>
          rw [answer_dispatch now fresh havailable, answer_dispatch now fresh hredacted]
      | state handle =>
          rw [answer_state now fresh havailable, answer_state now fresh hredacted, lookup_redacted,
            Option.map_map]
          rfl
      | failureDetail handle => exact absurd rfl (hq handle)
      | revoke handle =>
          rw [answer_revoke now fresh havailable, answer_revoke now fresh hredacted, revoke_redacted]

/-- Brokers that are told the like are alike. -/
theorem heed_alike (hm : m.redacted = m'.redacted) (now : Instant) {n n' : Notice}
    (hn : n.Alike n') : (m.heed now n).redacted = (m'.heed now n').redacted := by
  have hfail : ∀ handle detail detail',
      (m.fail now handle detail).2.redacted = (m'.fail now handle detail').2.redacted := by
    intro handle detail detail'
    have h := m.fail_redacted now handle detail
    rw [hm, m'.fail_redacted now handle detail'] at h
    exact (congrArg Prod.snd h).symm
  cases hn with
  | failure handle detail detail' => exact hfail handle detail detail'
  | same =>
      cases n with
      | state handle state =>
          have h := m.setState_redacted now handle state
          rw [hm, m'.setState_redacted now handle state] at h
          exact (congrArg Prod.snd h).symm
      | failure handle detail => exact hfail handle detail detail
      | forget handle =>
          have h := m.keep_redacted (p := (·.handle ≠ handle)) fun _ => rfl
          rw [hm, m'.keep_redacted (p := (·.handle ≠ handle)) fun _ => rfl] at h
          exact h.symm
      | availability available => exact congrArg (setAvailable · available) hm

end Memory

end Broker

end TaskLedger
