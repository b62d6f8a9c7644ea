import TaskLedger.Proofs.Broker.Chronicle

/-!
**What a broker has forgotten it never knows again.**

That a job is past its retention is no lasting matter: the clock may go back, and a change that comes
late has the job retained anew.  But once the broker has answered that a job is unknown, the job is
gone.  For the question itself has dropped it, or found that there was none, and only a dispatch
brings a job; and a handle that is given out then is not one that somebody has already asked about.

The one way to have a job unknown that is still there is to tell the broker so.

Main definitions:

* `TaskLedger.Broker.Memory.Definite` — the job of a handle, if there is one, is not told to be
  unknown;
* `TaskLedger.Broker.Memory.KnowsNothing` — the broker answers as if there had never been a job;
* `TaskLedger.Broker.Chronicle.Fresh` — every handle is given out before anything is about it.

Main results:

* `TaskLedger.Broker.Memory.Definite.find?_of_unknown` — what is answered to be unknown is gone;
* `TaskLedger.Broker.Chronicle.find?_after_eq_none` — what is gone stays so, unless its handle is
  given out;
* `TaskLedger.Broker.Chronicle.forgotten_for_good` — **a job that was unknown once is unknown from
  then on**, whatever the clock does.
-/

set_option autoImplicit false

namespace TaskLedger

namespace Broker

namespace Memory

variable {m : Memory} {handle : Handle}

/-! ### Jobs that are told to be unknown -/

/-- The job of a handle, if there is one, is not told to be unknown. -/
def Definite (m : Memory) (handle : Handle) : Prop :=
  ∀ job, m.find? handle = some job → job.state ≠ .unknown

namespace Definite

theorem empty (retention : Span) (handle : Handle) : (Memory.empty retention).Definite handle := by
  intro job hjob
  cases hjob

/-- Jobs are dropped. -/
theorem keep (h : m.Definite handle) (p : Job → Bool) : (m.keep p).Definite handle := by
  intro job hjob
  rw [find?_keep, Option.filter_eq_some_iff] at hjob
  exact h job hjob.1

/-- A job is changed, and not so that it is unknown. -/
theorem change (h : m.Definite handle) {k : Handle} {f : Job → Job}
    {keeps : ∀ job, (f job).handle = job.handle}
    (hf : k = handle → ∀ job, job.state ≠ .unknown → (f job).state ≠ .unknown) :
    (m.change k f keeps).2.Definite handle := by
  intro job hjob
  rw [find?_change] at hjob
  split at hjob
  · next hk =>
      obtain ⟨old, hold, rfl⟩ := Option.map_eq_some_iff.1 hjob
      exact hf hk old (h old hold)
  · exact h job hjob

theorem revoke (h : m.Definite handle) (now : Instant) (k : Handle) :
    (m.revoke now k).2.Definite handle := by
  have hlogged : ∀ log, ({ m with revocations := log } : Memory).Definite handle := fun _ => h
  simp only [Memory.revoke]
  split
  · exact (hlogged _).change fun _ _ _ => by simp
  · exact h

/-- A job is waiting when it is taken on. -/
theorem dispatch (h : m.Definite handle) (now : Instant) (fresh : Handle) (id : TaskId)
    (taskType : String) (payload : Json) :
    (m.dispatch now fresh id taskType payload).Definite handle := by
  intro job hjob
  rw [Memory.dispatch, find?_add] at hjob
  split at hjob
  · obtain rfl := Option.some.inj hjob
    simp
  · exact h.keep _ job hjob

/-- No question has a job unknown. -/
theorem answer (h : m.Definite handle) (now : Instant) (fresh : Handle) (q : Query) :
    (answer now fresh q m).2.Definite handle := by
  cases havailable : m.available with
  | false => rwa [answer_of_unavailable now fresh havailable]
  | true =>
      cases q with
      | dispatch id taskType payload =>
          rw [answer_dispatch now fresh havailable]
          exact h.dispatch now fresh id taskType payload
      | state k =>
          rw [answer_state now fresh havailable]
          exact h.keep _
      | failureDetail k =>
          rw [answer_failureDetail now fresh havailable]
          exact h.keep _
      | revoke k =>
          rw [answer_revoke now fresh havailable]
          exact h.revoke now k

/-- No notice has a job unknown but the one that says so. -/
theorem heed (h : m.Definite handle) (now : Instant) {n : Notice}
    (hn : n ≠ .state handle .unknown) : (m.heed now n).Definite handle := by
  cases n with
  | state k state =>
      refine h.change fun hk _ _ hstate => hn ?_
      rw [hk, show state = .unknown from hstate]
  | failure k detail => exact h.change fun _ _ _ => by simp
  | forget k => exact h.keep _
  | availability available => exact h

/-- **What is answered to be unknown is gone**: the question has dropped it if it was there. -/
theorem find?_of_unknown (h : m.Definite handle) {now : Instant} {fresh : Handle}
    (hunknown : (Memory.answer now fresh (.state handle) m).1 = .ok .unknown) :
    (Memory.answer now fresh (.state handle) m).2.find? handle = none := by
  cases havailable : m.available with
  | false =>
      rw [answer_of_unavailable now fresh havailable] at hunknown
      cases hunknown
  | true =>
      rw [answer_state now fresh havailable] at hunknown ⊢
      -- The lookup answers with what it leaves, and no state of a job says that it is unknown.
      cases hleft : (m.lookup now handle).2.find? handle with
      | none => rfl
      | some job =>
          have hfound : (m.lookup now handle).1 = some job := hleft
          rw [hfound] at hunknown
          exact absurd (Except.ok.inj hunknown) (h.keep _ job hleft)

end Definite

/-! ### Jobs that are gone -/

/-- The broker answers about a handle as if there had never been a job, if it can be reached, and
turns down what it is told. -/
structure KnowsNothing (m : Memory) (now : Instant) (handle : Handle) : Prop where
  state : ∀ fresh, (answer now fresh (.state handle) m).1 =
    if m.available then .ok .unknown else .error outage
  failureDetail : ∀ fresh, (answer now fresh (.failureDetail handle) m).1 =
    if m.available then .ok none else .error outage
  revoke : ∀ fresh, (answer now fresh (.revoke handle) m).1 =
    if m.available then .ok false else .error outage
  setState : ∀ state, (m.setState now handle state).1 = false
  fail : ∀ detail, (m.fail now handle detail).1 = false
  forget : (m.forget handle).1 = false

/-- Of a handle without a job the broker knows nothing. -/
theorem knowsNothing_of_none (h : m.find? handle = none) (now : Instant) :
    m.KnowsNothing now handle := by
  have hlookup : (m.lookup now handle).1 = none := by rw [lookup_fst, h, Option.filter_none]
  have hrevoke : (m.revoke now handle).1 = false := by rw [revoke_fst, h, Option.any_none]
  refine ⟨fun fresh => ?_, fun fresh => ?_, fun fresh => ?_, fun state => ?_, fun detail => ?_, ?_⟩
  · cases havailable : m.available with
    | false => simp [answer_of_unavailable now fresh havailable]
    | true => simp [answer_state now fresh havailable, hlookup]
  · cases havailable : m.available with
    | false => simp [answer_of_unavailable now fresh havailable]
    | true => simp [answer_failureDetail now fresh havailable, hlookup]
  · cases havailable : m.available with
    | false => simp [answer_of_unavailable now fresh havailable]
    | true => simp [answer_revoke now fresh havailable, hrevoke]
  · simp [Memory.setState, change, h]
  · simp [Memory.fail, change, h]
  · simp [Memory.forget, h]

/-- A handle has no job exactly if no job was dispatched under it. -/
theorem find?_eq_none_iff : m.find? handle = none ↔ ∀ o ∈ m.orders, o.handle ≠ handle := by
  simp [find?, orders, Job.order, List.find?_eq_none]

end Memory

namespace Chronicle

/-! ### Handles that are given out -/

/-- The handle that an event has given out, if it has a job taken on. -/
def given? (c : Chronicle) : Event → Option Handle
  | .question fresh (.dispatch _ _ _) => if c.broker.available then some fresh else none
  | .question _ (.state _) | .question _ (.failureDetail _) | .question _ (.revoke _)
  | .reading _ | .notice _ => none

/-- The handle that an event is about, or that it has given out. -/
def handle? (c : Chronicle) : Event → Option Handle
  | .question _ (.state handle) | .question _ (.failureDetail handle)
  | .question _ (.revoke handle) | .notice (.state handle _) | .notice (.failure handle _)
  | .notice (.forget handle) => some handle
  | .question fresh (.dispatch id taskType payload) =>
      c.given? (.question fresh (.dispatch id taskType payload))
  | .reading _ | .notice (.availability _) => none

/-- The handles that are given out in the course of some events. -/
def given (c : Chronicle) : List Event → List Handle
  | [] => []
  | event :: events => (c.given? event).toList ++ given (c.step event) events

/-- Every handle is given out before anything is about it, and once. -/
def Fresh (c : Chronicle) : List Event → Prop
  | [] => True
  | event :: events =>
      (∀ handle ∈ c.handle? event, handle ∉ (c.step event).given events) ∧
        Fresh (c.step event) events

instance decidableFresh : (c : Chronicle) → (events : List Event) → Decidable (c.Fresh events)
  | _, [] => inferInstanceAs (Decidable True)
  | c, event :: events =>
      have := decidableFresh (c.step event) events
      inferInstanceAs (Decidable ((∀ handle ∈ c.handle? event, handle ∉ (c.step event).given events) ∧
        Fresh (c.step event) events))

variable {c : Chronicle} {handle : Handle} {events : List Event}

/-- What is left of a run gives out fresh handles. -/
theorem Fresh.after {before later : List Event} (h : c.Fresh (before ++ later)) :
    (c.after before).Fresh later := by
  induction before generalizing c with
  | nil => exact h
  | cons event before ih => exact ih h.2

/-! ### Whole runs -/

/-- No job is unknown that the broker was not told to be unknown. -/
theorem definite_after (h : c.broker.Definite handle)
    (htold : Event.notice (.state handle .unknown) ∉ events) :
    (c.after events).broker.Definite handle := by
  induction events generalizing c with
  | nil => exact h
  | cons event events ih =>
      refine ih ?_ (List.not_mem_of_not_mem_cons htold)
      cases event with
      | reading now => exact h
      | question fresh q => exact h.answer c.clock fresh q
      | notice n => exact h.heed c.clock fun hn => List.ne_of_not_mem_cons htold (by rw [hn])

/-- An event brings no job but under the handle that it gives out. -/
theorem mem_orders_step {event : Event} {o : Order} (ho : o ∈ (c.step event).broker.orders) :
    o ∈ c.broker.orders ∨ c.given? event = some o.handle := by
  cases event with
  | reading now => exact Or.inl ho
  | notice n => exact Or.inl (c.broker.orders_heed c.clock n ho)
  | question fresh q =>
      rcases Memory.mem_orders_answer ho with hold | hnew
      · exact Or.inl hold
      · obtain ⟨rfl, hanswer⟩ := Exchange.mk.inj hnew
        cases havailable : c.broker.available with
        | false =>
            rw [Memory.answer_of_unavailable c.clock fresh havailable] at hanswer
            cases hanswer
        | true =>
            rw [Memory.answer_dispatch c.clock fresh havailable] at hanswer
            refine Or.inr ?_
            rw [given?, havailable, if_pos rfl, Except.ok.inj (eq_of_heq hanswer)]

/-- **What is gone stays so**, unless its handle is given out. -/
theorem find?_after_eq_none (h : c.broker.find? handle = none) (hgiven : handle ∉ c.given events) :
    (c.after events).broker.find? handle = none := by
  induction events generalizing c with
  | nil => exact h
  | cons event events ih =>
      rw [given, List.mem_append, not_or, Option.mem_toList] at hgiven
      refine ih (Memory.find?_eq_none_iff.2 fun o ho hhandle => ?_) hgiven.2
      rcases mem_orders_step ho with hold | hnew
      · exact Memory.find?_eq_none_iff.1 h o hold hhandle
      · exact hgiven.1 (hhandle ▸ hnew)

/-- **A job that was unknown once is unknown from then on.**  Let a broker start without jobs, and be
asked and told anything at any readings of its clock, which may go back, and let every handle that it
gives out be fresh.  If it then answers once that a job is unknown, without having been told so, then
after whatever follows it knows nothing of the job: unless it cannot be reached it answers that the
job is unknown, has no reason of a failure, and declines a revocation; and whether the job is said to
be in a state, to have failed or to be forgotten, it was not known. -/
theorem forgotten_for_good (retention : Span) (clock : Instant) (before later : List Event)
    (handle spare : Handle) (c : Chronicle)
    (hc : (start retention clock).after (before ++ .question spare (.state handle) :: later) = c)
    (hfresh : (start retention clock).Fresh (before ++ .question spare (.state handle) :: later))
    (htold : Event.notice (.state handle .unknown) ∉ before)
    (hunknown : (((start retention clock).after before).broker.answer
      ((start retention clock).after before).clock spare (.state handle)).1 = .ok .unknown) :
    c.broker.KnowsNothing c.clock handle := by
  subst hc
  have hdefinite : ((start retention clock).after before).broker.Definite handle :=
    definite_after (.empty retention handle) htold
  have hgone : (((start retention clock).after before).step
      (.question spare (.state handle))).broker.find? handle = none :=
    hdefinite.find?_of_unknown hunknown
  rw [after_append]
  -- The question was about the handle, so that nobody is given it any more.
  exact Memory.knowsNothing_of_none (find?_after_eq_none hgone (hfresh.after.1 handle rfl)) _

/-- A job is dispatched and at work, and more than an hour goes by. -/
def longAtWork : List Event :=
  [.question ⟨"job"⟩ (.dispatch ⟨⟨1⟩⟩ "report" .null), .notice (.state ⟨"job"⟩ .started),
    .reading ⟨3601, 0, by decide, by decide⟩]

/-- The clock goes back, the broker is told of the job, and there is another one. -/
def clockBack : List Event :=
  [.reading .epoch, .notice (.state ⟨"job"⟩ .started),
    .question ⟨"next"⟩ (.dispatch ⟨⟨1⟩⟩ "report" .null)]

/-- With a retention of an hour, a job that was looked up too late is gone, and the clock does not
bring it back. -/
theorem forgotten_for_good_clock_back :
    ((start (.ofSeconds 3600) .epoch).after
      (longAtWork ++ .question ⟨"spare"⟩ (.state ⟨"job"⟩) :: clockBack)).broker.KnowsNothing
        .epoch ⟨"job"⟩ :=
  forgotten_for_good (.ofSeconds 3600) .epoch longAtWork clockBack ⟨"job"⟩ ⟨"spare"⟩ _ rfl
    (by decide) (by simp [longAtWork]) rfl

/-- Without the lookup the clock does bring it back. -/
example :
    (((start (.ofSeconds 3600) .epoch).after (longAtWork ++ clockBack)).broker.answer .epoch
      ⟨"spare"⟩ (.state ⟨"job"⟩)).1 = .ok .started := rfl

end Chronicle

end Broker

end TaskLedger
