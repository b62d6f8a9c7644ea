import Mathlib.Data.List.DropRight
import TaskLedger.Proofs.Broker.Chronicle

/-!
**The log of revocations is the tail of the requests.**

A broker remembers of which handles revocation was requested, in the order of the requests, and of
more than a fixed number of them only the last.  It does so before it looks at the job, so that it
makes no difference whether there is one, what state it is in and whether the revocation is
acknowledged.  What was requested can be told from the events alone: a request counts if the broker
could be reached, and that is what it was last told about itself.

Main definitions:

* `TaskLedger.Broker.Chronicle.requests` — the handles of which revocation was requested while the
  broker could be reached, in the order of the requests.

Main results:

* `TaskLedger.Broker.Memory.remember_rtake` — a full log that takes one more is again the tail of what
  it was to take;
* `TaskLedger.Broker.Chronicle.revocations_after` — so it is after any events, whatever came before;
* `TaskLedger.Broker.Chronicle.log_is_tail_of_requests` — **the log is the tail of the requests**, and
  nothing else changes it.
-/

set_option autoImplicit false

namespace TaskLedger

namespace Broker

namespace Memory

/-! ### One more request -/

/-- The last entries of a list, of which the first gives way to one more if there are as many as there
may be, are the last entries of the longer list. -/
theorem drop_rtake_concat {α : Type} {count : Nat} (hcount : 0 < count) (xs : List α) (x : α) :
    (if count ≤ (xs.rtake count).length then (xs.rtake count).drop 1 else xs.rtake count) ++ [x] =
      (xs ++ [x]).rtake count := by
  obtain ⟨rest, rfl⟩ := Nat.exists_eq_succ_of_ne_zero (Nat.ne_of_gt hcount)
  rw [List.rtake_concat_succ]
  congr 1
  have hlength : (xs.rtake (rest + 1)).length = min xs.length (rest + 1) := by
    rw [List.rtake, List.length_drop]
    omega
  rw [hlength]
  by_cases hfull : rest + 1 ≤ min xs.length (rest + 1)
  · rw [if_pos hfull, List.rtake, List.drop_drop, List.rtake]
    congr 1
    omega
  · -- Nothing was left out yet.
    rw [if_neg hfull, List.rtake, List.rtake]
    congr 1
    omega

/-- The tail of a history, with one more handle remembered, is the tail of the longer history. -/
theorem remember_rtake (history : List Handle) (handle : Handle) :
    remember (history.rtake revocationCap) handle = (history ++ [handle]).rtake revocationCap :=
  drop_rtake_concat (by decide) history handle

theorem revocations_revoke (m : Memory) (now : Instant) (handle : Handle) :
    (m.revoke now handle).2.revocations = remember m.revocations handle := by
  unfold revoke
  dsimp only
  split <;> rfl

/-- No question changes whether the broker can be reached. -/
theorem available_answer (m : Memory) (now : Instant) (fresh : Handle) (q : Query) :
    (answer now fresh q m).2.available = m.available := by
  cases havailable : m.available with
  | false => rw [answer_of_unavailable now fresh havailable, havailable]
  | true =>
      cases q with
      | dispatch id taskType payload => rw [answer_dispatch now fresh havailable]; exact havailable
      | state handle => rw [answer_state now fresh havailable]; exact havailable
      | failureDetail handle => rw [answer_failureDetail now fresh havailable]; exact havailable
      | revoke handle =>
          rw [answer_revoke now fresh havailable]
          exact (m.available_revoke now handle).trans havailable

end Memory

namespace Chronicle

/-! ### What is requested -/

/-- Whether the broker can be reached after an event, if it is known whether it could before. -/
def Event.reachable (available : Bool) : Event → Bool
  | notice (.availability now) => now
  | notice (.state _ _) | notice (.failure _ _) | notice (.forget _) | reading _ | question _ _ =>
      available

/-- The handle of which an event requests revocation, if the broker can be reached. -/
def Event.request? (available : Bool) : Event → Option Handle
  | question _ (.revoke handle) => if available then some handle else none
  | question _ (.dispatch _ _ _) | question _ (.state _) | question _ (.failureDetail _)
  | notice _ | reading _ => none

/-- The handles of which revocation was requested while the broker could be reached, in the order of
the requests. -/
def requests : (available : Bool) → List Event → List Handle
  | _, [] => []
  | available, event :: events =>
      (event.request? available).toList ++ requests (event.reachable available) events

/-! ### What becomes of the log -/

theorem available_step (c : Chronicle) (event : Event) :
    (c.step event).broker.available = event.reachable c.broker.available := by
  cases event with
  | reading now => rfl
  | notice n => cases n <;> rfl
  | question fresh q => exact c.broker.available_answer c.clock fresh q

/-- A request is remembered, whether the revocation is acknowledged or not, and any other event leaves
the log as it is. -/
theorem revocations_step (c : Chronicle) (event : Event) :
    (c.step event).broker.revocations =
      (event.request? c.broker.available).elim c.broker.revocations
        (Memory.remember c.broker.revocations) := by
  cases event with
  | reading now => rfl
  | notice n => cases n <;> rfl
  | question fresh q =>
      cases havailable : c.broker.available with
      | false =>
          simp only [step, Memory.answer_of_unavailable c.clock fresh havailable]
          cases q <;> rfl
      | true =>
          cases q with
          | dispatch id taskType payload =>
              simp only [step, Memory.answer_dispatch c.clock fresh havailable]
              rfl
          | state handle =>
              simp only [step, Memory.answer_state c.clock fresh havailable]
              rfl
          | failureDetail handle =>
              simp only [step, Memory.answer_failureDetail c.clock fresh havailable]
              rfl
          | revoke handle =>
              simp only [step, Memory.answer_revoke c.clock fresh havailable]
              exact c.broker.revocations_revoke c.clock handle

/-- **A log that is the tail of a history stays so**: after any events it is the tail of the history
with the requests among them. -/
theorem revocations_after (c : Chronicle) (events : List Event) (history : List Handle)
    (h : c.broker.revocations = history.rtake revocationCap) :
    (c.after events).broker.revocations =
      (history ++ requests c.broker.available events).rtake revocationCap := by
  -- By induction from the beginning of the run; the history grows by what the first event requests.
  induction events generalizing c history with
  | nil => simpa [requests, after] using h
  | cons event events ih =>
      have hstep : (c.step event).broker.revocations =
          (history ++ (event.request? c.broker.available).toList).rtake revocationCap := by
        rw [revocations_step, h]
        cases event.request? c.broker.available with
        | none => rw [Option.elim_none, Option.toList_none, List.append_nil]
        | some handle => rw [Option.elim_some, Memory.remember_rtake, Option.toList_some]
      have hrest := ih (c.step event) _ hstep
      rw [available_step, List.append_assoc] at hrest
      exact hrest

/-- The last entries of a history that is not longer are all of it. -/
theorem rtake_min_length {α : Type} (history : List α) (n : Nat) :
    history.rtake (min history.length n) = history.rtake n := by
  rw [List.rtake, List.rtake]
  congr 1
  omega

/-- **The log of revocations is the tail of the requests.**  After anything that a broker was asked and
told, at any readings of its clock, the log holds the last 1024 of the handles of which revocation was
requested while the broker could be reached, or all of them if there are fewer, in the order of the
requests.  It is the same before and after every event that is not such a request, and no request
during an outage is. -/
theorem log_is_tail_of_requests (retention : Span) (clock : Instant) (events : List Event) :
    ((start retention clock).after events).broker.revocations =
        (requests true events).rtake (min (requests true events).length 1024) ∧
      ∀ event, event.request? ((start retention clock).after events).broker.available = none →
        ((start retention clock).after (events ++ [event])).broker.revocations =
          ((start retention clock).after events).broker.revocations := by
  constructor
  · rw [rtake_min_length]
    exact revocations_after (start retention clock) events [] rfl
  · intro event hevent
    rw [after_snoc, revocations_step, hevent, Option.elim_none]

/-- The revocation of the jobs of all handles of a list is requested, one after the other. -/
def revokeAll (handles : List Handle) : List Event :=
  handles.map fun handle => .question ⟨"next"⟩ (.revoke handle)

theorem requests_revokeAll (handles : List Handle) (events : List Event) :
    requests true (revokeAll handles ++ events) = handles ++ requests true events := by
  induction handles with
  | nil => rfl
  | cons handle handles ih => exact congrArg (handle :: ·) ih

/-- As many handles as are remembered, and two more. -/
def manyHandles : List Handle := (List.range 1026).map fun n => ⟨s!"job {n}"⟩

/-- All of them are requested to be revoked, and then the broker is out of reach. -/
def manyRevoked : List Event := revokeAll manyHandles ++ [.notice (.availability false)]

/-- Of so many requests the first two are not remembered any more, and a request during the outage is
not remembered at all. -/
theorem log_is_tail_of_requests_overflowing :
    ((start defaultRetention .epoch).after manyRevoked).broker.revocations = manyHandles.drop 2 ∧
      ((start defaultRetention .epoch).after
          (manyRevoked ++ [.question ⟨"next"⟩ (.revoke ⟨"job"⟩)])).broker.revocations =
        manyHandles.drop 2 := by
  obtain ⟨htail, hsame⟩ := log_is_tail_of_requests defaultRetention .epoch manyRevoked
  have hrequests : requests true manyRevoked = manyHandles := by
    rw [manyRevoked, requests_revokeAll]
    exact List.append_nil manyHandles
  have hlength : manyHandles.length = 1026 := by rw [manyHandles, List.length_map, List.length_range]
  have hdropped : manyHandles.rtake (min manyHandles.length 1024) = manyHandles.drop 2 := by
    rw [List.rtake, hlength]
    rfl
  have houtage : ((start defaultRetention .epoch).after manyRevoked).broker.available = false := by
    rw [manyRevoked, after_snoc, available_step]
    rfl
  rw [hrequests, hdropped] at htail
  refine ⟨htail, ?_⟩
  rw [hsame (.question ⟨"next"⟩ (.revoke ⟨"job"⟩)) (by rw [houtage]; rfl), htail]

end Chronicle

end Broker

end TaskLedger
