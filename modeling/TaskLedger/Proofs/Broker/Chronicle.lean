import Mathlib.Data.List.Induction
import TaskLedger.Proofs.Broker.Journal

/-!
**A broker that forgets answers like one that does not.**

A broker, its clock and the journal of what the broker has acknowledged are followed through all
that happens.  Seen through its answers the broker is the journal: the last entry about a handle, for
as long as the retention has not passed since it was written.  That jobs are dropped on the way, by
lookups and when other jobs are dispatched, cannot be seen.

What is past its retention has to stay so, and this is a matter of the clock.  Distances of instants
in leap seconds do not add up, and of two readings the later may show that less time has passed.

Main definitions:

* `TaskLedger.Instant.Steady` — the time that has passed since a reading of a clock never shrinks;
* `TaskLedger.Broker.Chronicle` — a broker, its clock and the journal, and what becomes of them;
* `TaskLedger.Broker.Chronicle.Sound` — the invariant of the three.

Main results:

* `TaskLedger.Instant.steady_of_plain` — a clock that never goes back is steady without leap seconds;
* `TaskLedger.Broker.Chronicle.Sound.question` and its neighbours — what is asked, told and read keeps
  the invariant;
* `TaskLedger.Broker.Chronicle.answers_by_journal` — **the broker answers by its journal**, and after
  a dispatch it retains nothing past the retention;
* `TaskLedger.Broker.Chronicle.dropped_in_leap_second` — a job that a leap second has cost the broker.
-/

set_option autoImplicit false

namespace TaskLedger

/-! ### Steady clocks -/

namespace Instant

/-- The readings of a clock, in their order, are steady: the time that has passed since one of them
never shrinks. -/
def Steady (readings : List Instant) : Prop :=
  ∀ t now later, List.Sublist [t, now, later] readings → now.since t ≤ later.since t

theorem Steady.sublist {readings more : List Instant} (h : Steady more)
    (hsub : readings.Sublist more) : Steady readings :=
  fun t now later ht => h t now later (ht.trans hsub)

/-- A clock that never goes back is steady outside of leap seconds. -/
theorem steady_of_plain {readings : List Instant}
    (hforward : readings.Pairwise fun earlier later => later.precedes earlier = false)
    (hplain : ∀ t ∈ readings, t.isLeap = false) : Steady readings := by
  intro t now later h
  obtain ⟨ht, hnow, hlater⟩ : t.isLeap = false ∧ now.isLeap = false ∧ later.isLeap = false := by
    refine ⟨hplain t (h.subset ?_), hplain now (h.subset ?_), hplain later (h.subset ?_)⟩ <;> simp
  have hpast : now.Past later := by
    have hpair : [t, now, later].Pairwise fun earlier later => later.precedes earlier = false :=
      hforward.sublist h
    simp only [List.pairwise_cons] at hpair
    exact past_of_not_precedes hnow hlater (hpair.2.1 later (by simp))
  rw [since_of_plain hnow ht, since_of_plain hlater ht]
  have := hpast.le
  omega

end Instant

namespace Broker

/-! ### Chronicles -/

/-- A broker and its clock, with the journal of what the broker has acknowledged. -/
structure Chronicle where
  broker : Memory
  clock : Instant
  journal : Journal

namespace Chronicle

/-- What may happen: the clock is read, the broker is asked a question, for which it has a handle
ready, or it is told something. -/
inductive Event where
  | reading (now : Instant)
  | question (fresh : Handle) (q : Query)
  | notice (n : Notice)

/-- The reading of the clock. -/
def Event.reading? : Event → Option Instant
  | reading now => some now
  | question _ _ | notice _ => none

/-- The chronicle of a broker without jobs. -/
def start (retention : Span) (clock : Instant) : Chronicle := ⟨.empty retention, clock, .empty⟩

/-- What becomes of broker, clock and journal. -/
def step (c : Chronicle) : Event → Chronicle
  | .reading now => { c with clock := now }
  | .question fresh q =>
      let (answer, broker) := c.broker.answer c.clock fresh q
      { c with broker, journal := c.journal.record c.clock q answer }
  | .notice n =>
      { c with broker := c.broker.heed c.clock n, journal := c.journal.hear c.broker c.clock n }

/-- A chronicle after a series of events. -/
def after (c : Chronicle) (events : List Event) : Chronicle := events.foldl step c

/-- All readings of the clock, in their order. -/
def readings (clock : Instant) (events : List Event) : List Instant :=
  clock :: events.filterMap Event.reading?

/-! ### What every chronicle keeps -/

/-- No event changes the retention. -/
theorem retention_step (c : Chronicle) (event : Event) :
    (c.step event).broker.retention = c.broker.retention := by
  cases event with
  | reading now => rfl
  | question fresh q => exact c.broker.retention_answer c.clock fresh q
  | notice n => cases n <;> rfl

/-- What an event brings into the journal is of its time. -/
theorem grows_step (c : Chronicle) (event : Event) :
    Journal.Grows c.journal (c.step event).journal c.clock := by
  cases event with
  | reading now => exact .refl c.journal c.clock
  | question fresh q => exact c.journal.grows_record c.clock q _
  | notice n => exact c.journal.grows_hear c.broker c.clock n

/-- Nothing comes into the journal but what was dispatched, if the broker has nothing else. -/
theorem orderly_step {c : Chronicle} (h : c.journal.Orderly)
    (hknown : ∀ handle, (c.broker.find? handle).isSome = true → handle ∈ c.journal.dispatched)
    (event : Event) : (c.step event).journal.Orderly := by
  cases event with
  | reading now => exact h
  | question fresh q =>
      cases havailable : c.broker.available with
      | false =>
          simp only [step, Memory.answer_of_unavailable c.clock fresh havailable]
          cases q <;> exact h
      | true =>
          cases q with
          | dispatch id taskType payload =>
              simp only [step, Memory.answer_dispatch c.clock fresh havailable]
              exact h.note (Or.inl rfl)
          | state | failureDetail => exact h
          | revoke k =>
              simp only [step, Memory.answer_revoke c.clock fresh havailable]
              refine h.noteIf fun hacknowledged => hknown k ?_
              rw [Memory.revoke_fst] at hacknowledged
              cases hjob : c.broker.find? k with
              | none => simp [hjob] at hacknowledged
              | some job => rfl
  | notice n =>
      cases n with
      | state k state => exact h.noteIf (hknown k)
      | failure k detail => exact h.noteIf (hknown k)
      | forget k => exact h.forget k
      | availability available => exact h

/-- Broker and journal are together, after some readings of the clock. -/
structure Sound (c : Chronicle) (retention : Span) (readings : List Instant) : Prop where
  retention : c.broker.retention = retention
  orderly : c.journal.Orderly
  follows : ∀ handle, Follows c.broker c.clock c.journal handle
  clock : c.clock ∈ readings
  times : ∀ e ∈ c.journal.changes, e.time = c.clock ∨ List.Sublist [e.time, c.clock] readings

variable {c : Chronicle} {retention : Span} {readings : List Instant}

theorem sound_start (retention : Span) (clock : Instant) :
    Sound (start retention clock) retention [clock] where
  retention := rfl
  orderly := .empty
  follows := fun handle => Or.inl (by simp [start, Memory.find?, Memory.empty, Journal.account?,
    Journal.latest?, Journal.about, Journal.empty])
  clock := List.mem_singleton.2 rfl
  times := by simp [start, Journal.empty]

namespace Sound

/-- What is found in the broker was dispatched. -/
theorem mem_dispatched (h : c.Sound retention readings) (handle : Handle)
    (hknown : (c.broker.find? handle).isSome = true) : handle ∈ c.journal.dispatched :=
  (h.follows handle).mem_dispatched h.orderly hknown

/-- The clock is read. -/
theorem reading (h : c.Sound retention readings) {now : Instant}
    (hsteady : Instant.Steady (readings ++ [now])) :
    (c.step (.reading now)).Sound retention (readings ++ [now]) where
  retention := h.retention
  orderly := h.orderly
  clock := by simp [step]
  times := by
    intro e he
    -- The entry was written at one of the readings before.
    have hold : e.time ∈ readings := by
      rcases h.times e he with heq | hsub
      · exact heq ▸ h.clock
      · exact hsub.subset (by simp)
    exact Or.inr ((List.singleton_sublist.2 hold).append (List.Sublist.refl [now]))
  follows := by
    intro handle
    refine Follows.later (h.follows handle) fun a ha hpassed => ?_
    obtain ⟨e, he, -, hchanged⟩ := Journal.exists_of_account? ha
    rw [← hchanged] at hpassed ⊢
    rcases h.times e he with heq | hsub
    · -- No time has passed since the change.
      simp [heq] at hpassed
    · exact hsteady _ _ _ (hsub.append (List.Sublist.refl [now]))

/-- The broker is asked a question. -/
theorem question (h : c.Sound retention readings) (fresh : Handle) (q : Query)
    (hfresh : (c.step (.question fresh q)).journal.dispatched.Nodup) :
    (c.step (.question fresh q)).Sound retention readings where
  retention := (retention_step c _).trans h.retention
  clock := h.clock
  times := by
    intro e he
    rcases (grows_step c _).mem he with hnow | hold
    · exact Or.inl hnow
    · exact h.times e hold
  orderly := orderly_step h.orderly h.mem_dispatched _
  follows := by
    intro handle
    cases havailable : c.broker.available with
    | false =>
        simp only [step, Memory.answer_of_unavailable c.clock fresh havailable]
        cases q <;> exact h.follows handle
    | true =>
        cases q with
        | dispatch id taskType payload =>
            simp only [step, Memory.answer_dispatch c.clock fresh havailable] at hfresh ⊢
            rw [Journal.record, Journal.dispatched_note, if_pos rfl] at hfresh
            exact (h.follows handle).dispatch h.orderly (List.nodup_cons.1 hfresh).1 ..
        | state k =>
            simp only [step, Memory.answer_state c.clock fresh havailable]
            exact (h.follows handle).lookup k
        | failureDetail k =>
            simp only [step, Memory.answer_failureDetail c.clock fresh havailable]
            exact (h.follows handle).lookup k
        | revoke k =>
            simp only [step, Memory.answer_revoke c.clock fresh havailable]
            exact (h.follows handle).revoke k

/-- The broker is told something. -/
theorem notice (h : c.Sound retention readings) (n : Notice) :
    (c.step (.notice n)).Sound retention readings where
  retention := (retention_step c _).trans h.retention
  clock := h.clock
  times := by
    intro e he
    rcases (grows_step c _).mem he with hnow | hold
    · exact Or.inl hnow
    · exact h.times e hold
  orderly := orderly_step h.orderly h.mem_dispatched _
  follows := by
    intro handle
    cases n with
    | state k state => exact (h.follows handle).change fun _ => rfl
    | failure k detail => exact (h.follows handle).change fun _ => rfl
    | forget k => exact (h.follows handle).forget h.orderly k
    | availability available => exact h.follows handle

end Sound

/-! ### Whole chronicles -/

/-- No event strikes a dispatch from the journal. -/
theorem dispatched_step (c : Chronicle) (event : Event) :
    c.journal.dispatched.Sublist (c.step event).journal.dispatched :=
  (grows_step c event).dispatched

theorem after_append (c : Chronicle) (before later : List Event) :
    c.after (before ++ later) = (c.after before).after later := List.foldl_append

theorem after_snoc (c : Chronicle) (events : List Event) (event : Event) :
    c.after (events ++ [event]) = (c.after events).step event := by
  simp [after]

theorem readings_snoc (clock : Instant) (events : List Event) (event : Event) :
    Chronicle.readings clock (events ++ [event]) =
      Chronicle.readings clock events ++ event.reading?.toList := by
  cases event <;> simp [Chronicle.readings, Event.reading?]

/-- Broker and journal stay together, under a steady clock and as long as no handle is given out
twice. -/
theorem sound_after {clock : Instant} {events : List Event}
    (hsteady : Instant.Steady (Chronicle.readings clock events))
    (hfresh : ((start retention clock).after events).journal.dispatched.Nodup) :
    ((start retention clock).after events).Sound retention (Chronicle.readings clock events) := by
  induction events using List.reverseRec with
  | nil => exact sound_start retention clock
  | append_singleton events event ih =>
      rw [readings_snoc] at hsteady ⊢
      rw [after_snoc] at hfresh ⊢
      have hsound := ih (hsteady.sublist (List.sublist_append_left _ _))
        (hfresh.sublist (dispatched_step _ event))
      cases event with
      | reading now => exact hsound.reading hsteady
      | question fresh q => simpa [Event.reading?] using hsound.question fresh q hfresh
      | notice n => simpa [Event.reading?] using hsound.notice n

/-- What a broker retains after a dispatch is not past its retention. -/
theorem since_le_of_mem_dispatch {m : Memory} {now : Instant} {fresh : Handle} {id : TaskId}
    {taskType : String} {payload : Json} {job : Job}
    (hjob : job ∈ (m.dispatch now fresh id taskType payload).jobs) :
    now.since job.changedAt ≤ m.retention.ticks := by
  simp only [Memory.dispatch, Memory.add, Memory.keep, List.mem_append, List.mem_filter,
    List.mem_singleton] at hjob
  rcases hjob with ⟨⟨-, hretained⟩, -⟩ | rfl
  · have hretained : ¬ exceeds m.retention job.changedAt now = true := by
      simpa [Memory.isExpired] using hretained
    rwa [exceeds_iff, Int.not_lt] at hretained
  · simp

/-- **The broker answers by its journal.**  After anything that it was asked and told under a steady
clock, every handle given out once, a broker that can be reached answers the state that the latest
change has left the job in, and the reason of its latest failure, unless the job was to be forgotten
or more than the retention has passed since the change: then the job is unknown.  And it takes on
every job, and retains nothing past the retention when it does. -/
theorem answers_by_journal (retention : Span) (clock : Instant) (events : List Event)
    (c : Chronicle) (hc : (start retention clock).after events = c)
    (hsteady : Instant.Steady (Chronicle.readings clock events))
    (hfresh : c.journal.dispatched.Nodup) (havailable : c.broker.available = true)
    (handle fresh : Handle) :
    (c.broker.answer c.clock fresh (.state handle)).1 =
        .ok (c.journal.state retention c.clock handle) ∧
      (c.broker.answer c.clock fresh (.failureDetail handle)).1 =
        .ok (c.journal.failureDetail retention c.clock handle) ∧
      ∀ id taskType payload,
        (c.broker.answer c.clock fresh (.dispatch id taskType payload)).1 = .ok fresh ∧
          ∀ job ∈ (c.broker.answer c.clock fresh (.dispatch id taskType payload)).2.jobs,
            c.clock.since job.changedAt ≤ retention.ticks := by
  subst hc
  have hsound := sound_after hsteady hfresh
  generalize (start retention clock).after events = c at *
  have hlookup := (hsound.follows handle).lookup_fst
  rw [hsound.retention] at hlookup
  obtain ⟨hstate, hdetail⟩ := c.journal.state_eq_and_failureDetail_eq retention c.clock handle
  refine ⟨?_, ?_, fun id taskType payload => ?_⟩
  · rw [Memory.answer_state c.clock fresh havailable, hstate, ← hlookup, Option.map_map]
    rfl
  · rw [Memory.answer_failureDetail c.clock fresh havailable, hdetail, ← hlookup, Option.bind_map]
    rfl
  · rw [Memory.answer_dispatch c.clock fresh havailable]
    exact ⟨rfl, fun job hjob => hsound.retention ▸ since_le_of_mem_dispatch hjob⟩

/-- A job is dispatched and fails half a minute later, and most of another minute goes by. -/
def failedLately : List Event :=
  [.question ⟨"job"⟩ (.dispatch ⟨⟨1⟩⟩ "report" .null), .reading ⟨30, 0, by decide, by decide⟩,
    .notice (.failure ⟨"job"⟩ "out of memory"), .reading ⟨80, 0, by decide, by decide⟩]

/-- The broker, clock and journal after that, with a retention of a minute. -/
def failureKept : Chronicle := (start (.ofSeconds 60) .epoch).after failedLately

/-- More than a minute after its dispatch the job is known, since it has changed meanwhile. -/
theorem answers_by_journal_failed_lately :
    (failureKept.broker.answer failureKept.clock ⟨"next"⟩ (.state ⟨"job"⟩)).1 = .ok .failure ∧
      (failureKept.broker.answer failureKept.clock ⟨"next"⟩ (.failureDetail ⟨"job"⟩)).1 =
        .ok (some "out of memory") := by
  have h := answers_by_journal (.ofSeconds 60) .epoch failedLately failureKept rfl
    (Instant.steady_of_plain (by decide) (by decide)) (by decide) rfl ⟨"job"⟩ ⟨"next"⟩
  exact ⟨h.1, h.2.1⟩

/-- A job is dispatched one second before a leap second, and looked up in it and right after it. -/
def acrossLeapSecond : List Event :=
  [.question ⟨"job"⟩ (.dispatch ⟨⟨1⟩⟩ "report" .null),
    .reading ⟨1435708799, 1900000000, by decide, by decide⟩,
    .question ⟨"next"⟩ (.state ⟨"job"⟩), .reading ⟨1435708800, 0, by decide, by decide⟩]

/-- The broker, clock and journal after that, with a retention of one and a half second. -/
def leapSecondOver : Chronicle :=
  (start ⟨1, 500000000, by decide⟩ ⟨1435708799, 0, by decide, by decide⟩).after acrossLeapSecond

/-- **A job that a leap second has cost the broker.**  Within the leap second more time had passed
since the dispatch than the retention, and the job was dropped; after it less has passed, and by the
journal the job is waiting. -/
theorem dropped_in_leap_second :
    (Chronicle.readings ⟨1435708799, 0, by decide, by decide⟩ acrossLeapSecond).Pairwise
        (fun earlier later => later.precedes earlier = false) ∧
      leapSecondOver.journal.dispatched.Nodup ∧ leapSecondOver.broker.available = true ∧
      leapSecondOver.journal.state ⟨1, 500000000, by decide⟩ leapSecondOver.clock ⟨"job"⟩ =
        .pending ∧
      (leapSecondOver.broker.answer leapSecondOver.clock ⟨"next"⟩ (.state ⟨"job"⟩)).1 =
        .ok .unknown :=
  ⟨by decide, by decide, rfl, rfl, rfl⟩

end Chronicle

end Broker

end TaskLedger
