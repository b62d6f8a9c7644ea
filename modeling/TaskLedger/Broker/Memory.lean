import TaskLedger.Broker.Query
import TaskLedger.Verdict.TimeLimit

/-!
**A broker in memory that forgets.**

The broker keeps a job until more than its retention has passed since the job last changed.  A job
past that is dropped when it is next asked for, or when another job is dispatched.  Job bodies are
run elsewhere: whoever runs them tells the broker how they fare.

Main definitions:

* `TaskLedger.Broker.Job`, `TaskLedger.Broker.Memory` — a job, and the broker;
* `TaskLedger.Broker.Memory.find?` — the retained job of a handle;
* `TaskLedger.Broker.Memory.setState`, `TaskLedger.Broker.Memory.fail`,
  `TaskLedger.Broker.Memory.forget` — what is told to the broker;
* `TaskLedger.Broker.Memory.answer` — its answers to all questions, at an instant;
* `TaskLedger.Broker.Memory.describe` — the text it is shown as.

Main results:

* `TaskLedger.Broker.Memory.length_remember_le` — the log of revocations is bounded.
-/

set_option autoImplicit false

namespace TaskLedger.Broker

/-- A job as the broker knows it. -/
structure Job where
  handle : Handle
  taskId : TaskId
  taskType : String
  payload : Json
  state : RemoteState
  failureDetail : Option String
  changedAt : Instant
  deriving DecidableEq

/-- The jobs that a broker retains, in the order of their dispatch and each handle once, the handles
of which revocation was last requested, and how the broker is set up. -/
structure Memory where
  jobs : List Job
  revocations : List Handle
  available : Bool
  retention : Span
  distinct : (jobs.map Job.handle).Nodup

/-- How long jobs are retained if nothing else is said: a day. -/
def defaultRetention : Span := .ofSeconds 86400

/-- How many requested revocations are remembered. -/
def revocationCap : Nat := 1024

namespace Memory

/-- The broker without jobs. -/
def empty (retention : Span) : Memory where
  jobs := []
  revocations := []
  available := true
  retention := retention
  distinct := by simp

/-- The retained job of a handle. -/
def find? (m : Memory) (handle : Handle) : Option Job := m.jobs.find? (·.handle = handle)

/-- The handle of a retained job of a task. -/
def handleFor? (m : Memory) (id : TaskId) : Option Handle :=
  (m.jobs.find? (·.taskId = id)).map Job.handle

/-- Whether a job is past its retention. -/
def isExpired (m : Memory) (now : Instant) (job : Job) : Bool :=
  exceeds m.retention job.changedAt now

/-- The broker as it is shown to a developer: how it is set up, but not what it holds. -/
def describe (m : Memory) : String :=
  "InMemoryQueue \x7b retention: " ++ m.retention.toText ++ ", available: " ++ toString m.available
    ++ ", .. \x7d"

/-! ### Changing the jobs -/

/-- The broker with those jobs only that satisfy a condition. -/
def keep (m : Memory) (p : Job → Bool) : Memory :=
  { m with
    jobs := m.jobs.filter p
    distinct := m.distinct.sublist (List.filter_sublist.map _) }

/-- The broker with its jobs changed, but for their handles. -/
def mapJobs (m : Memory) (f : Job → Job) (keeps : ∀ job, (f job).handle = job.handle) : Memory :=
  { m with
    jobs := m.jobs.map f
    distinct := by
      have : (m.jobs.map f).map Job.handle = m.jobs.map Job.handle := by
        rw [List.map_map]
        exact List.map_congr_left fun job _ => keeps job
      rw [this]
      exact m.distinct }

/-- The broker with one more job, in place of an earlier one of the same handle. -/
def add (m : Memory) (job : Job) : Memory :=
  { m with
    jobs := (m.jobs.filter (·.handle ≠ job.handle)) ++ [job]
    distinct := by
      rw [List.map_append, List.nodup_append]
      refine ⟨m.distinct.sublist (List.filter_sublist.map _), by simp, ?_⟩
      intro a ha b hb e
      simp only [List.map_cons, List.map_nil, List.mem_singleton] at hb
      obtain ⟨other, ho, rfl⟩ := List.mem_map.1 ha
      have := (List.mem_filter.1 ho).2
      simp [e, hb] at this }

/-- Changes the job of a handle; tells whether there was one. -/
def change (m : Memory) (handle : Handle) (f : Job → Job)
    (keeps : ∀ job, (f job).handle = job.handle) : Bool × Memory :=
  ((m.find? handle).isSome,
    m.mapJobs (fun job => if job.handle = handle then f job else job) (fun job => by
      by_cases h : job.handle = handle <;> simp [h]
      simpa [h] using keeps job))

/-! ### What the broker is told -/

/-- A job is now in a state; tells whether the job was known. -/
def setState (m : Memory) (now : Instant) (handle : Handle) (state : RemoteState) :
    Bool × Memory :=
  m.change handle (fun job => { job with state, changedAt := now }) fun _ => rfl

/-- A job has failed, for a reason; tells whether the job was known. -/
def fail (m : Memory) (now : Instant) (handle : Handle) (detail : String) : Bool × Memory :=
  m.change handle
    (fun job => { job with state := .failure, failureDetail := some detail, changedAt := now })
    fun _ => rfl

/-- A job is to be forgotten; tells whether it was known. -/
def forget (m : Memory) (handle : Handle) : Bool × Memory :=
  ((m.find? handle).isSome, m.keep (·.handle ≠ handle))

/-- The broker can be reached from now on, or cannot. -/
def setAvailable (m : Memory) (available : Bool) : Memory := { m with available }

/-! ### What the broker is asked -/

/-- The fault of a broker that cannot be reached. -/
def outage : Fault := .unavailable "broker connection refused"

/-- The job of a handle, which is dropped first if it is past its retention. -/
def lookup (m : Memory) (now : Instant) (handle : Handle) : Option Job × Memory :=
  let kept := m.keep fun job => !(job.handle = handle && m.isExpired now job)
  (kept.find? handle, kept)

/-- Takes a job on under a fresh handle, after dropping all that are past their retention. -/
def dispatch (m : Memory) (now : Instant) (handle : Handle) (taskId : TaskId) (taskType : String)
    (payload : Json) : Memory :=
  (m.keep fun job => !m.isExpired now job).add
    { handle, taskId, taskType, payload, state := .pending, failureDetail := none,
      changedAt := now }

/-- A log of revocations with one more; the oldest gives way when the log is full. -/
def remember (log : List Handle) (handle : Handle) : List Handle :=
  (if revocationCap ≤ log.length then log.drop 1 else log) ++ [handle]

/-- Requests the revocation of a job; tells whether the job was waiting or at work. -/
def revoke (m : Memory) (now : Instant) (handle : Handle) : Bool × Memory :=
  let m := { m with revocations := remember m.revocations handle }
  if (m.find? handle).any (·.state.isLive) then m.setState now handle .revoked else (false, m)

/-- The answers of the broker at an instant.  `fresh` is the handle that a job dispatched now would
be given. -/
def answer (now : Instant) (fresh : Handle) :
    (q : Query) → Memory → interface.Answer q × Memory
  | q, m =>
    if !m.available then (.error outage, m)
    else match q with
      | .dispatch id taskType payload => (.ok fresh, m.dispatch now fresh id taskType payload)
      | .state handle =>
          let (job, m) := m.lookup now handle
          (.ok ((job.map Job.state).getD .unknown), m)
      | .failureDetail handle =>
          let (job, m) := m.lookup now handle
          (.ok (job.bind Job.failureDetail), m)
      | .revoke handle =>
          let (acknowledged, m) := m.revoke now handle
          (.ok acknowledged, m)

/-! ### The log of revocations -/

/-- The log never outgrows its bound. -/
theorem length_remember_le {log : List Handle} (h : log.length ≤ revocationCap) (handle : Handle) :
    (remember log handle).length ≤ revocationCap := by
  unfold remember
  by_cases hc : revocationCap ≤ log.length
  · simp only [if_pos hc, List.length_append, List.length_drop, List.length_cons, List.length_nil]
    have : 1 ≤ revocationCap := by decide
    omega
  · simp only [if_neg hc, List.length_append, List.length_cons, List.length_nil]
    omega

end Memory

end TaskLedger.Broker
