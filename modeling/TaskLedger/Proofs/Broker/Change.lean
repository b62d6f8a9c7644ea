import Mathlib.Data.List.Nodup
import TaskLedger.Broker.Memory

/-!
**What a question does to a broker.**

What a broker knows of a handle is the job that it finds for it.  Dropping jobs, changing one and
looking one up are described by what becomes of the job that is found, and with them the questions
to the broker.

Main definitions:

* `TaskLedger.Broker.Memory.Retains` — the broker can be reached and retains a job in a state.

Main results:

* `TaskLedger.Broker.Memory.find?_keep`, `TaskLedger.Broker.Memory.find?_change` — the view after
  a change;
* `TaskLedger.Broker.Memory.find?_lookup`, `TaskLedger.Broker.Memory.find?_revoke` — the view after
  a question;
* `TaskLedger.Broker.Memory.Retains.answer` — **a job that is retained stays so whatever the broker
  is asked**, unless it is handed another job.
-/

set_option autoImplicit false

namespace TaskLedger.Broker.Memory

theorem eq_of_jobs {m m' : Memory} (hjobs : m.jobs = m'.jobs)
    (hrevocations : m.revocations = m'.revocations) (havailable : m.available = m'.available)
    (hretention : m.retention = m'.retention) : m = m' := by
  obtain ⟨_, _, _, _, _⟩ := m
  obtain ⟨_, _, _, _, _⟩ := m'
  cases hjobs
  cases hrevocations
  cases havailable
  cases hretention
  rfl

/-! ### The view after a change -/

/-- Of jobs with different handles, a handle finds the same job among those that satisfy a
condition, if that job does. -/
theorem find?_filter_of_nodup {jobs : List Job} (hnodup : (jobs.map Job.handle).Nodup)
    (p : Job → Bool) (handle : Handle) :
    (jobs.filter p).find? (·.handle = handle) =
      (jobs.find? (·.handle = handle)).filter p := by
  induction jobs with
  | nil => rfl
  | cons job jobs ih =>
      rw [List.map_cons, List.nodup_cons] at hnodup
      obtain ⟨hnew, hnodup⟩ := hnodup
      by_cases hjob : job.handle = handle
      · subst hjob
        cases hp : p job with
        | true => simp [hp, Option.filter_some]
        | false =>
            -- The job is dropped, and no other one has its handle.
            have hnone : (jobs.filter p).find? (·.handle = job.handle) = none := by
              rw [List.find?_eq_none]
              intro other hother
              have hmem : other.handle ∈ jobs.map Job.handle :=
                List.mem_map_of_mem (List.mem_filter.1 hother).1
              simpa using fun h : other.handle = job.handle => hnew (h ▸ hmem)
            simp [hp, hnone, Option.filter_some]
      · have htail := ih hnodup
        cases hp : p job <;> simpa [hp, hjob] using htail

/-- Of the jobs that are kept, a handle finds the one that it found before, if that is kept. -/
theorem find?_keep (m : Memory) (p : Job → Bool) (handle : Handle) :
    (m.keep p).find? handle = (m.find? handle).filter p :=
  find?_filter_of_nodup m.distinct p handle

theorem find?_mapJobs (m : Memory) (f : Job → Job) (keeps : ∀ job, (f job).handle = job.handle)
    (handle : Handle) : (m.mapJobs f keeps).find? handle = (m.find? handle).map f := by
  simp only [find?, mapJobs, List.find?_map, Function.comp_def, keeps]

theorem handle_of_find? {m : Memory} {handle : Handle} {job : Job}
    (h : m.find? handle = some job) : job.handle = handle := by
  simpa using List.find?_some h

/-- The job of a handle is changed, and no other. -/
theorem find?_change (m : Memory) (k : Handle) (f : Job → Job)
    (keeps : ∀ job, (f job).handle = job.handle) (handle : Handle) :
    (m.change k f keeps).2.find? handle =
      if k = handle then (m.find? handle).map f else m.find? handle := by
  simp only [change, find?_mapJobs]
  cases h : m.find? handle with
  | none => simp
  | some job =>
      rw [Option.map_some, handle_of_find? h]
      by_cases hk : k = handle
      · simp [hk]
      · simp [hk, Ne.symm hk]

/-- A job that is to be forgotten is gone, and no other. -/
theorem find?_forget (m : Memory) (k handle : Handle) :
    (m.forget k).2.find? handle = if k = handle then none else m.find? handle := by
  rw [forget, find?_keep]
  cases h : m.find? handle with
  | none => simp
  | some job =>
      by_cases hk : k = handle
      · simp [Option.filter_some, handle_of_find? h, hk]
      · simp [Option.filter_some, handle_of_find? h, hk, Ne.symm hk]

/-! ### The view after a question -/

/-- A lookup finds a job unless it is past its retention. -/
theorem lookup_fst (m : Memory) (now : Instant) (handle : Handle) :
    (m.lookup now handle).1 = (m.find? handle).filter (!m.isExpired now ·) := by
  simp only [lookup, find?_keep]
  cases h : m.find? handle with
  | none => simp
  | some job => simp [Option.filter_some, handle_of_find? h]

/-- A lookup drops the job that it looks up if it is past its retention, and no other. -/
theorem find?_lookup (m : Memory) (now : Instant) (k handle : Handle) :
    (m.lookup now k).2.find? handle =
      if k = handle then (m.find? handle).filter (!m.isExpired now ·) else m.find? handle := by
  simp only [lookup, find?_keep]
  cases h : m.find? handle with
  | none => simp
  | some job =>
      by_cases hk : k = handle
      · simp [Option.filter_some, handle_of_find? h, hk]
      · simp [Option.filter_some, handle_of_find? h, hk, Ne.symm hk]

/-- Whether a revocation is acknowledged depends on the state of the job. -/
theorem revoke_fst (m : Memory) (now : Instant) (handle : Handle) :
    (m.revoke now handle).1 = (m.find? handle).any (·.state.isLive) := by
  have hsame : ∀ log, ({ m with revocations := log } : Memory).find? handle = m.find? handle :=
    fun _ => rfl
  simp only [revoke, hsame]
  cases hjob : m.find? handle with
  | none => simp
  | some job => cases hlive : job.state.isLive <;> simp [hlive, setState, change, hsame, hjob]

/-- A job that is waiting or at work is revoked, and no other is changed. -/
theorem find?_revoke (m : Memory) (now : Instant) (k handle : Handle) :
    (m.revoke now k).2.find? handle =
      if k = handle then (m.find? handle).map fun job =>
          if job.state.isLive then { job with state := .revoked, changedAt := now } else job
      else m.find? handle := by
  have hsame : ∀ log k, ({ m with revocations := log } : Memory).find? k = m.find? k :=
    fun _ _ => rfl
  simp only [revoke, hsame]
  cases hlive : (m.find? k).any (·.state.isLive) with
  | true =>
      simp only [if_true, setState, find?_change, hsame]
      by_cases hk : k = handle
      · subst hk
        cases hjob : m.find? k with
        | none => simp [hjob] at hlive
        | some job =>
            have hlive : job.state.isLive = true := by simpa [hjob] using hlive
            simp [hlive]
      · simp only [if_neg hk]
  | false =>
      simp only [Bool.false_eq_true, if_false, hsame]
      by_cases hk : k = handle
      · subst hk
        cases hjob : m.find? k with
        | none => simp
        | some job =>
            have hdead : job.state.isLive = false := by simpa [hjob] using hlive
            simp [hdead]
      · simp only [if_neg hk]

/-- A revocation leaves the broker as reachable as it was. -/
theorem available_revoke (m : Memory) (now : Instant) (k : Handle) :
    (m.revoke now k).2.available = m.available := by
  unfold Memory.revoke
  dsimp only
  split <;> rfl

theorem retention_revoke (m : Memory) (now : Instant) (k : Handle) :
    (m.revoke now k).2.retention = m.retention := by
  unfold Memory.revoke
  dsimp only
  split <;> rfl

/-- A revocation does not make a job older. -/
theorem isExpired_revoke (m : Memory) (now later : Instant) (k : Handle) (job : Job) :
    (m.revoke now k).2.isExpired later job = m.isExpired later job := by
  rw [isExpired, isExpired, retention_revoke]

/-- A job that has just changed is not past any retention. -/
theorem isExpired_of_changed (m : Memory) {now : Instant} {job : Job} (h : job.changedAt = now) :
    m.isExpired now job = false := by
  rw [← Bool.not_eq_true, isExpired, exceeds_iff, h, Instant.since_self]
  omega

/-! ### The answers -/

section Answers

variable {m : Memory} (now : Instant) (fresh : Handle)

/-- A broker that cannot be reached says so, whatever it is asked. -/
theorem answer_of_unavailable (h : m.available = false) (q : Query) :
    answer now fresh q m = (.error outage, m) := by
  simp [answer, h]

theorem answer_dispatch (h : m.available = true) (id : TaskId) (taskType : String)
    (payload : Json) : answer now fresh (.dispatch id taskType payload) m =
      (.ok fresh, m.dispatch now fresh id taskType payload) := by
  simp [answer, h]

theorem answer_state (h : m.available = true) (handle : Handle) :
    answer now fresh (.state handle) m =
      (.ok (((m.lookup now handle).1.map Job.state).getD .unknown), (m.lookup now handle).2) := by
  simp [answer, h]

theorem answer_failureDetail (h : m.available = true) (handle : Handle) :
    answer now fresh (.failureDetail handle) m =
      (.ok ((m.lookup now handle).1.bind Job.failureDetail), (m.lookup now handle).2) := by
  simp [answer, h]

theorem answer_revoke (h : m.available = true) (handle : Handle) :
    answer now fresh (.revoke handle) m =
      (.ok (m.revoke now handle).1, (m.revoke now handle).2) := by
  simp [answer, h]

end Answers

/-! ### A job that is retained -/

/-- The broker retains a job for a handle, in a state. -/
structure Retains (m : Memory) (now : Instant) (handle : Handle) (state : RemoteState) : Prop where
  available : m.available = true
  job : ∃ job, m.find? handle = some job ∧ m.isExpired now job = false ∧ job.state = state

variable {m : Memory} {now : Instant} {handle : Handle} {state : RemoteState}

/-- The state of a job that is retained is what the broker answers. -/
theorem Retains.answer_state (h : m.Retains now handle state) (fresh : Handle) :
    (answer now fresh (.state handle) m).1 = .ok state := by
  obtain ⟨job, hjob, hretained, rfl⟩ := h.job
  simp [answer, h.available, lookup_fst, hjob, hretained, Option.filter_some]

/-- A job that is retained is revoked if it is waiting or at work. -/
theorem Retains.answer_revoke (h : m.Retains now handle state) (fresh : Handle) :
    (answer now fresh (.revoke handle) m).1 = .ok state.isLive := by
  obtain ⟨job, hjob, -, rfl⟩ := h.job
  simp [answer, h.available, revoke_fst, hjob]

/-- No lookup changes what is retained. -/
theorem Retains.lookup (h : m.Retains now handle state) (k : Handle) :
    (m.lookup now k).2.Retains now handle state := by
  obtain ⟨job, hjob, hretained, rfl⟩ := h.job
  refine ⟨h.available, job, ?_, hretained, rfl⟩
  rw [find?_lookup, hjob, Option.filter_some, hretained]
  simp

/-- Of the jobs that are retained a revocation changes the one that it is about, if that is waiting
or at work, and even then the job is retained. -/
theorem Retains.revoke (h : m.Retains now handle state) (k : Handle) :
    (m.revoke now k).2.Retains now handle
      (if k = handle ∧ state.isLive = true then .revoked else state) := by
  obtain ⟨job, hjob, hretained, rfl⟩ := h.job
  have hsame := (m.isExpired_revoke now now k job).trans hretained
  refine ⟨(m.available_revoke now k).trans h.available, ?_⟩
  rw [find?_revoke, hjob]
  by_cases hk : k = handle
  · cases hlive : job.state.isLive with
    | false => exact ⟨job, by simp [hk, hlive], hsame, by simp⟩
    | true =>
        exact ⟨{ job with state := .revoked, changedAt := now }, by simp [hk, hlive],
          isExpired_of_changed _ rfl, by simp [hk]⟩
  · exact ⟨job, by simp [hk], hsame, by simp [hk]⟩

/-- **A job that is retained stays so whatever the broker is asked**, unless it is handed another
job; its state changes only if its revocation is requested while it is waiting or at work. -/
theorem Retains.answer (h : m.Retains now handle state) (fresh : Handle) (q : Query)
    (hq : ∀ id taskType payload, q ≠ .dispatch id taskType payload) :
    (q ≠ .revoke handle → (answer now fresh q m).2.Retains now handle state) ∧
      (q = .revoke handle → (answer now fresh q m).2.Retains now handle
        (if state.isLive = true then .revoked else state)) := by
  cases q with
  | dispatch id taskType payload => exact absurd rfl (hq id taskType payload)
  | state k => simpa [Memory.answer, h.available] using h.lookup k
  | failureDetail k => simpa [Memory.answer, h.available] using h.lookup k
  | revoke k =>
      have hrevoke := h.revoke k
      constructor
      · intro hk
        have hne : k ≠ handle := fun heq => hk (heq ▸ rfl)
        simpa [Memory.answer, h.available, hne] using hrevoke
      · rintro ⟨⟩
        simpa [Memory.answer, h.available] using hrevoke

end TaskLedger.Broker.Memory
