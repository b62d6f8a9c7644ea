import TaskLedger.Proofs.Broker.Chronicle

/-!
**Jobs that were overlooked.**

A broker drops a job past its retention when the job is asked for and when another one is dispatched,
and at no other time.  A revocation takes the job as it finds it: a job that is past its retention,
but that nobody has looked at while it was, is still there, and its revocation is acknowledged
although the broker would have answered, had it been asked, that the job is unknown.

What is still there can be told from the history.  The broker has of a job what is known by the
journal, exactly as long as no more than the retention had passed since the latest change whenever the
broker looked.  Nothing is assumed of the clock, which may go back and forth.

Main definitions:

* `TaskLedger.Broker.Chronicle.inspects` — an event has the broker look at the retention of a job;
* `TaskLedger.Broker.Chronicle.Spared` — whenever the broker has looked since the latest change, the
  job was not past its retention;
* `TaskLedger.Broker.Chronicle.Overlooked` — the job is past it now, and could still be revoked.

Main results:

* `TaskLedger.Broker.Chronicle.keeps_after` — the broker has what is known by the journal, as long as
  the job was spared;
* `TaskLedger.Broker.Chronicle.revoked_as_reported_iff` — **a revocation is acknowledged exactly if
  the job is reported to be waiting or at work, unless the job was overlooked**;
* `TaskLedger.Broker.Chronicle.overlooked_job_revoked` — an unknown job whose revocation is
  acknowledged.
-/

set_option autoImplicit false

namespace TaskLedger

namespace Broker

/-! ### What is retained, handle by handle -/

/-- What the broker has for a handle is what is known by the journal, if the latest change is of a
time that was spared. -/
def Keeps (m : Memory) (j : Journal) (handle : Handle) (spared : Instant → Prop) : Prop :=
  ∀ a, (m.find? handle).map Job.account = some a ↔
    j.account? handle = some a ∧ spared a.changedAt

namespace Keeps

variable {m m' : Memory} {j j' : Journal} {handle : Handle} {spared spared' : Instant → Prop}

theorem account?_eq (h : Keeps m j handle spared) {job : Job} (hjob : m.find? handle = some job) :
    j.account? handle = some job.account ∧ spared job.changedAt :=
  (h job.account).1 (by rw [hjob]; rfl)

/-- What is found in the broker was dispatched. -/
theorem mem_dispatched (h : Keeps m j handle spared) (hj : j.Orderly)
    (hknown : (m.find? handle).isSome = true) : handle ∈ j.dispatched := by
  obtain ⟨job, hjob⟩ := Option.isSome_iff_exists.1 hknown
  exact hj.mem_dispatched (h.account?_eq hjob).1

/-- Nothing has changed about a handle. -/
theorem of_same (h : Keeps m j handle spared) (hfind : m'.find? handle = m.find? handle)
    (haccount : j'.account? handle = j.account? handle) (hspared : ∀ t, spared' t ↔ spared t) :
    Keeps m' j' handle spared' := by
  intro a
  rw [hfind, haccount, hspared]
  exact h a

/-- The broker has looked at the job, and dropped it if it was past its retention. -/
theorem inspected {now : Instant} (h : Keeps m j handle spared)
    (hfind : m'.find? handle = (m.find? handle).filter (!m.isExpired now ·))
    (haccount : j'.account? handle = j.account? handle)
    (hspared : ∀ t, spared' t ↔ spared t ∧ now.since t ≤ m.retention.ticks) :
    Keeps m' j' handle spared' := by
  intro a
  rw [hfind, haccount, hspared, ← and_assoc, ← h a]
  have hexpired : ∀ job, (!m.isExpired now job) = true ↔
      now.since job.changedAt ≤ m.retention.ticks := by
    intro job
    rw [Bool.not_eq_true', ← Bool.not_eq_true, Memory.isExpired, exceeds_iff, Int.not_lt]
  cases hjob : m.find? handle with
  | none => simp
  | some job =>
      rw [Option.filter_some]
      by_cases hkept : (!m.isExpired now job) = true
      · rw [if_pos hkept, Option.map_some, Option.some.injEq, iff_self_and]
        rintro rfl
        exact (hexpired job).1 hkept
      · rw [if_neg hkept, Option.map_none, Option.map_some, Option.some.injEq]
        refine iff_of_false (Option.some_ne_none _).symm ?_
        rintro ⟨rfl, hle⟩
        exact hkept ((hexpired job).2 hle)

/-- Broker and journal have the same change of the job, of a time that is spared. -/
theorem of_changed {a : Account} (hfind : (m'.find? handle).map Job.account = some a)
    (haccount : j'.account? handle = some a) (hspared : spared' a.changedAt) :
    Keeps m' j' handle spared' := by
  intro b
  rw [hfind, haccount, Option.some.injEq, iff_self_and]
  rintro rfl
  exact hspared

/-- Neither broker nor journal know of the job. -/
theorem of_gone (hfind : m'.find? handle = none) (haccount : j'.account? handle = none) :
    Keeps m' j' handle spared' := by
  intro a
  simp [hfind, haccount]

end Keeps

/-- What may become of a handle in the broker and in the journal: nothing; the broker looks at the
job, and drops it if it is past its retention; the job changes, and both have the change; or both know
nothing of the job any more. -/
inductive Turn (m m' : Memory) (j j' : Journal) (now : Instant) (handle : Handle) :
    (inspected : Bool) → Prop
  | untouched : m'.find? handle = m.find? handle → j'.account? handle = j.account? handle →
      j'.about handle = j.about handle → Turn m m' j j' now handle false
  | inspected : m'.find? handle = (m.find? handle).filter (!m.isExpired now ·) →
      j'.account? handle = j.account? handle → j'.about handle = j.about handle →
      Turn m m' j j' now handle true
  | changed {inspected : Bool} (a : Account) (e : Entry) :
      (m'.find? handle).map Job.account = some a → j'.account? handle = some a →
      j'.about handle = e :: j.about handle → Turn m m' j j' now handle inspected
  | gone {inspected : Bool} : m'.find? handle = none → j'.account? handle = none →
      Turn m m' j j' now handle inspected

namespace Turn

variable {m m' : Memory} {j : Journal} {now : Instant} {handle : Handle} {spared : Instant → Prop}

/-- A job changes, and if the broker knew it the journal has the change. -/
theorem of_change (h : Keeps m j handle spared) (hsame : m'.find? handle = m.find? handle)
    {k : Handle} {f : Job → Job} {keeps : ∀ job, (f job).handle = job.handle} {c : Change}
    (hf : ∀ job, (f job).account = ⟨c.state, c.reason?.or job.failureDetail, now⟩) :
    Turn m (m'.change k f keeps).2 j (j.noteIf (m'.change k f keeps).1 ⟨k, c, now⟩) now handle
      false := by
  have hfind := m'.find?_change k f keeps handle
  rw [hsame] at hfind
  by_cases hk : k = handle
  · subst hk
    rw [if_pos rfl] at hfind
    have hknown : (m'.change k f keeps).1 = (m.find? k).isSome := congrArg Option.isSome hsame
    cases hjob : m.find? k with
    | none =>
        rw [hjob, Option.map_none] at hfind
        rw [hknown, hjob]
        exact .untouched (hfind.trans hjob.symm) rfl rfl
    | some job =>
        rw [hjob, Option.map_some] at hfind
        rw [hknown, hjob]
        refine .changed ⟨c.state, c.reason?.or job.failureDetail, now⟩ ⟨k, c, now⟩ ?_ ?_ ?_
        · rw [hfind, Option.map_some, hf]
        · exact Journal.account?_note_of_account? (h.account?_eq hjob).1 c now
        · simp [Journal.noteIf, Journal.about, Journal.note]
  · rw [if_neg hk] at hfind
    cases (m'.change k f keeps).1 with
    | false => exact .untouched hfind rfl rfl
    | true =>
        refine .untouched hfind ?_ ?_
        · exact (j.account?_note _ _).trans (if_neg hk)
        · simp [Journal.noteIf, Journal.about, Journal.note, hk]

/-- A job is looked up. -/
theorem of_lookup (k : Handle) : Turn m (m.lookup now k).2 j j now handle (k = handle) := by
  have hfind := m.find?_lookup now k handle
  by_cases hk : k = handle
  · rw [if_pos hk] at hfind
    rw [decide_eq_true hk]
    exact .inspected hfind rfl rfl
  · rw [if_neg hk] at hfind
    rw [decide_eq_false hk]
    exact .untouched hfind rfl rfl

/-- A job is taken on under a handle that was never given out. -/
theorem of_dispatch (hj : j.Orderly) {fresh : Handle} (hfresh : fresh ∉ j.dispatched) (id : TaskId)
    (taskType : String) (payload : Json) :
    Turn m (m.dispatch now fresh id taskType payload) j (j.note ⟨fresh, .dispatched, now⟩) now
      handle true := by
  have hfind := Memory.find?_add (m.keep fun job => !m.isExpired now job)
    { handle := fresh, taskId := id, taskType, payload, state := .pending, failureDetail := none,
      changedAt := now } handle
  by_cases hk : fresh = handle
  · subst hk
    rw [if_pos rfl] at hfind
    refine .changed ⟨.pending, none, now⟩ ⟨fresh, .dispatched, now⟩ ?_
      (hj.account?_note_dispatched hfresh now) (by simp [Journal.about, Journal.note])
    exact congrArg (Option.map Job.account) hfind
  · rw [if_neg hk, Memory.find?_keep] at hfind
    refine .inspected hfind ?_ (by simp [Journal.about, Journal.note, hk])
    rw [Journal.account?_note, if_neg hk]

/-- The revocation of a job is requested. -/
theorem of_revoke (h : Keeps m j handle spared) (k : Handle) :
    Turn m (m.revoke now k).2 j (j.noteIf (m.revoke now k).1 ⟨k, .revoked, now⟩) now handle false := by
  have hlogged : ∀ log, ({ m with revocations := log } : Memory).find? handle = m.find? handle :=
    fun _ => rfl
  simp only [Memory.revoke]
  split
  · exact of_change h (hlogged _) fun _ => rfl
  · exact .untouched rfl rfl rfl

/-- A job is forgotten. -/
theorem of_forget (hj : j.Orderly) (k : Handle) :
    Turn m (m.forget k).2 j (j.forget k) now handle false := by
  by_cases hk : k = handle
  · subst hk
    exact .gone (by rw [Memory.find?_forget, if_pos rfl]) (hj.account?_forget_self k)
  · refine .untouched ?_ ?_ ?_
    · rw [Memory.find?_forget, if_neg hk]
    · rw [Journal.account?_forget, if_neg fun hboth => hk hboth.1]
    · rw [Journal.about_forget]

end Turn

namespace Memory

variable {m : Memory}

/-- A job that is waiting or at work is past its retention, and retained all the same. -/
def Lingers (m : Memory) (now : Instant) (handle : Handle) : Prop :=
  ∃ job, m.find? handle = some job ∧ job.state.isLive = true ∧ m.isExpired now job = true

/-- The state of a job as a lookup has it. -/
def stateAt (m : Memory) (now : Instant) (handle : Handle) : RemoteState :=
  ((m.lookup now handle).1.map Job.state).getD .unknown

/-- The revocation of a job is acknowledged as its state demands, unless the job lingers. -/
theorem revoke_eq_isLive_iff (m : Memory) (now : Instant) (handle : Handle) :
    (m.revoke now handle).1 = (m.stateAt now handle).isLive ↔ ¬ m.Lingers now handle := by
  rw [revoke_fst, stateAt, lookup_fst, Lingers]
  cases hjob : m.find? handle with
  | none => simp [RemoteState.isLive]
  | some job =>
      cases hexpired : m.isExpired now job with
      | false =>
          rw [Option.filter_some, hexpired]
          simp [hexpired]
      | true =>
          rw [Option.filter_some, hexpired]
          simp [hexpired, RemoteState.isLive]

/-- A job that lingers is reported to be unknown, and its revocation is acknowledged. -/
theorem Lingers.unknown_and_revoked {m : Memory} {now : Instant} {handle : Handle}
    (h : m.Lingers now handle) :
    m.stateAt now handle = .unknown ∧ (m.revoke now handle).1 = true := by
  obtain ⟨job, hjob, hlive, hexpired⟩ := h
  rw [revoke_fst, stateAt, lookup_fst]
  simp [hjob, Option.filter_some, hlive, hexpired]

/-- Right after its revocation was requested a job is revoked if that was acknowledged, and else
reported as before. -/
theorem answer_state_of_revoke (h : m.available = true) (now : Instant) (fresh : Handle)
    (handle : Handle) :
    (answer now fresh (.state handle) (m.revoke now handle).2).1 =
      if (m.revoke now handle).1 then .ok .revoked else (answer now fresh (.state handle) m).1 := by
  have hexpired := m.isExpired_revoke now now handle
  rw [answer_state now fresh ((m.available_revoke now handle).trans h), answer_state now fresh h,
    revoke_fst, lookup_fst, lookup_fst, find?_revoke, if_pos rfl]
  cases hjob : m.find? handle with
  | none => simp
  | some job =>
      cases hlive : job.state.isLive with
      | false => simp [Option.filter_some, hlive, hexpired]
      | true =>
          have hfresh : m.isExpired now { job with state := .revoked, changedAt := now } = false :=
            m.isExpired_of_changed rfl
          simp [Option.filter_some, hlive, hexpired, hfresh]

end Memory

namespace Chronicle

/-! ### When the broker looks at a job -/

/-- Whether an event has the broker look at the retention of the job of a handle: the job is asked
for, or one is dispatched, and the broker can be reached. -/
def inspects (c : Chronicle) (handle : Handle) : Event → Bool
  | .question _ (.dispatch _ _ _) => c.broker.available
  | .question _ (.state k) | .question _ (.failureDetail k) => c.broker.available && k = handle
  | .question _ (.revoke _) | .reading _ | .notice _ => false

/-- At every moment since the latest change of a job at which the broker has looked at its retention,
no more than the retention had passed since an instant. -/
def Spared (c : Chronicle) (events : List Event) (handle : Handle) (t : Instant) : Prop :=
  ∀ before event later, events = before ++ event :: later →
    (c.after before).journal.about handle = (c.after events).journal.about handle →
    (c.after before).inspects handle event = true →
    (c.after before).clock.since t ≤ c.broker.retention.ticks

variable {c : Chronicle} {events : List Event} {event : Event} {handle : Handle} {t : Instant}

/-- The journal only grows. -/
theorem about_suffix_after (c : Chronicle) (events : List Event) (handle : Handle) :
    c.journal.about handle <:+ (c.after events).journal.about handle := by
  induction events generalizing c with
  | nil => exact List.suffix_refl _
  | cons event events ih => exact ((grows_step c event).suffix.filter _).trans (ih (c.step event))

/-- One more event at the end of a run is the one in question, or comes after it. -/
theorem snoc_eq_append_cons {before later : List Event} {e : Event}
    (h : events ++ [event] = before ++ e :: later) :
    (before = events ∧ e = event) ∨ ∃ rest, events = before ++ e :: rest := by
  rcases List.eq_nil_or_concat later with rfl | ⟨rest, last, rfl⟩
  · obtain ⟨hbefore, he⟩ := List.append_inj' h rfl
    exact Or.inl ⟨hbefore.symm, (List.singleton_inj.1 he).symm⟩
  · rw [List.concat_eq_append, ← List.cons_append, ← List.append_assoc] at h
    exact Or.inr ⟨rest, (List.append_inj' h rfl).1⟩

/-- One more event spares a job if the broker does not look at it, or looks in time. -/
theorem spared_snoc_of_same
    (h : (c.after (events ++ [event])).journal.about handle = (c.after events).journal.about handle) :
    c.Spared (events ++ [event]) handle t ↔ c.Spared events handle t ∧
      ((c.after events).inspects handle event = true →
        (c.after events).clock.since t ≤ c.broker.retention.ticks) := by
  constructor
  · intro hspared
    refine ⟨fun before e later hsplit habout => ?_, hspared events event [] rfl h.symm⟩
    exact hspared before e (later ++ [event]) (by simp [hsplit]) (habout.trans h.symm)
  · rintro ⟨hspared, hlast⟩ before e later hsplit habout hinspects
    rcases snoc_eq_append_cons hsplit with ⟨rfl, rfl⟩ | ⟨rest, hrest⟩
    · exact hlast hinspects
    · exact hspared before e rest hrest (habout.trans h) hinspects

/-- A job that has just changed is spared. -/
theorem spared_snoc_of_changed {e : Entry} (h : (c.after (events ++ [event])).journal.about handle =
    e :: (c.after events).journal.about handle) : c.Spared (events ++ [event]) handle t := by
  intro before e' later hsplit habout
  -- Before the change the journal had one entry less.
  have hsuffix : (c.after before).journal.about handle <:+ (c.after events).journal.about handle := by
    rcases snoc_eq_append_cons hsplit with ⟨rfl, -⟩ | ⟨rest, rfl⟩
    · exact List.suffix_refl _
    · rw [after_append]
      exact about_suffix_after _ _ _
  have hle := hsuffix.length_le
  rw [habout, h, List.length_cons] at hle
  omega

/-! ### Whole runs -/

/-- What becomes of a handle in one event. -/
theorem turn_step {spared : Instant → Prop} (h : Keeps c.broker c.journal handle spared)
    (hj : c.journal.Orderly) (hfresh : (c.step event).journal.dispatched.Nodup) :
    Turn c.broker (c.step event).broker c.journal (c.step event).journal c.clock handle
      (c.inspects handle event) := by
  cases event with
  | reading now => exact .untouched rfl rfl rfl
  | notice n =>
      cases n with
      | state k state => exact .of_change h rfl fun _ => rfl
      | failure k detail => exact .of_change h rfl fun _ => rfl
      | forget k => exact .of_forget hj k
      | availability available => exact .untouched rfl rfl rfl
  | question fresh q =>
      cases havailable : c.broker.available with
      | false =>
          simp only [step, Memory.answer_of_unavailable c.clock fresh havailable]
          cases q <;> simpa only [inspects, havailable, Bool.false_and] using .untouched rfl rfl rfl
      | true =>
          cases q with
          | dispatch id taskType payload =>
              simp only [step, Memory.answer_dispatch c.clock fresh havailable] at hfresh ⊢
              rw [Journal.record, Journal.dispatched_note, if_pos rfl] at hfresh
              rw [inspects, havailable]
              exact .of_dispatch hj (List.nodup_cons.1 hfresh).1 id taskType payload
          | state k =>
              simp only [step, Memory.answer_state c.clock fresh havailable, inspects, havailable,
                Bool.true_and]
              exact .of_lookup k
          | failureDetail k =>
              simp only [step, Memory.answer_failureDetail c.clock fresh havailable, inspects,
                havailable, Bool.true_and]
              exact .of_lookup k
          | revoke k =>
              simp only [step, Memory.answer_revoke c.clock fresh havailable]
              exact .of_revoke h k

/-- What becomes of a handle is what the journal and the looks of the broker say of it. -/
theorem keeps_snoc (h : Keeps (c.after events).broker (c.after events).journal handle
      (c.Spared events handle))
    (hturn : Turn (c.after events).broker (c.after (events ++ [event])).broker
      (c.after events).journal (c.after (events ++ [event])).journal (c.after events).clock handle
      ((c.after events).inspects handle event))
    (hretention : (c.after events).broker.retention = c.broker.retention) :
    Keeps (c.after (events ++ [event])).broker (c.after (events ++ [event])).journal handle
      (c.Spared (events ++ [event]) handle) := by
  generalize hinspects : (c.after events).inspects handle event = inspected at hturn
  cases hturn with
  | untouched hfind haccount habout =>
      refine h.of_same hfind haccount fun t => ?_
      rw [spared_snoc_of_same habout, hinspects]
      simp
  | inspected hfind haccount habout =>
      refine h.inspected hfind haccount fun t => ?_
      rw [spared_snoc_of_same habout, hinspects, hretention]
      simp
  | changed a e hfind haccount habout => exact .of_changed hfind haccount (spared_snoc_of_changed habout)
  | gone hfind haccount => exact .of_gone hfind haccount

/-- **The broker has what is known by the journal, as long as the job was spared**, whatever the
clock does, if no handle is given out twice. -/
theorem keeps_after {retention : Span} {clock : Instant}
    (hfresh : ((start retention clock).after events).journal.dispatched.Nodup) :
    ((start retention clock).after events).broker.retention = retention ∧
      ((start retention clock).after events).journal.Orderly ∧
      ∀ handle, Keeps ((start retention clock).after events).broker
        ((start retention clock).after events).journal handle
        ((start retention clock).Spared events handle) := by
  induction events using List.reverseRec with
  | nil => exact ⟨rfl, .empty, fun handle => .of_gone rfl rfl⟩
  | append_singleton events event ih =>
      have hsnoc := after_snoc (start retention clock) events event
      rw [hsnoc] at hfresh
      obtain ⟨hretention, hj, hkeeps⟩ := ih (hfresh.sublist (dispatched_step _ event))
      refine ⟨?_, ?_, fun handle => keeps_snoc (hkeeps handle) ?_ hretention⟩
      · rw [hsnoc, retention_step, hretention]
      · rw [hsnoc]
        exact orderly_step hj (fun k hk => (hkeeps k).mem_dispatched hj hk) event
      · rw [hsnoc]
        exact turn_step (hkeeps handle) hj hfresh

/-! ### Revocations -/

/-- A job is overlooked: by its latest change it is waiting or at work, and more than the retention has
passed since then, but never when the broker has looked. -/
def Overlooked (c : Chronicle) (events : List Event) (handle : Handle) : Prop :=
  ∃ a, (c.after events).journal.account? handle = some a ∧ a.state.isLive = true ∧
    c.Spared events handle a.changedAt ∧
    (c.broker.retention.ticks : Int) < (c.after events).clock.since a.changedAt

/-- The jobs that linger are those that were overlooked. -/
theorem overlooked_iff {retention : Span} {clock : Instant}
    (hfresh : ((start retention clock).after events).journal.dispatched.Nodup) (handle : Handle) :
    (start retention clock).Overlooked events handle ↔
      ((start retention clock).after events).broker.Lingers
        ((start retention clock).after events).clock handle := by
  obtain ⟨hretention, -, hkeeps⟩ := keeps_after hfresh
  constructor
  · rintro ⟨a, haccount, hlive, hspared, hpast⟩
    obtain ⟨job, hjob, rfl⟩ := Option.map_eq_some_iff.1 ((hkeeps handle a).2 ⟨haccount, hspared⟩)
    refine ⟨job, hjob, hlive, ?_⟩
    rw [Memory.isExpired, hretention, exceeds_iff]
    exact hpast
  · rintro ⟨job, hjob, hlive, hexpired⟩
    obtain ⟨haccount, hspared⟩ := (hkeeps handle).account?_eq hjob
    rw [Memory.isExpired, hretention, exceeds_iff] at hexpired
    exact ⟨job.account, haccount, hlive, hspared, hexpired⟩

/-- **A revocation is acknowledged as the job is reported, unless the job was overlooked.**  After
anything that a broker was asked and told at any readings of its clock, every handle given out once,
the broker, if it can be reached, acknowledges the revocation of a job exactly if it would have
answered at the same moment that the job is waiting or at work, unless the job is past its retention
and the broker has not looked at it since it is; such a job is reported to be unknown, and its
revocation is acknowledged all the same.  Afterwards the job is reported as revoked if that was
acknowledged, and else as before. -/
theorem revoked_as_reported_iff (retention : Span) (clock : Instant) (events : List Event)
    (c : Chronicle) (hc : (start retention clock).after events = c)
    (hfresh : c.journal.dispatched.Nodup) (havailable : c.broker.available = true)
    (handle spare : Handle) :
    ∃ (state : RemoteState) (revoked : Bool),
      (c.broker.answer c.clock spare (.state handle)).1 = .ok state ∧
      (c.broker.answer c.clock spare (.revoke handle)).1 = .ok revoked ∧
      (revoked = state.isLive ↔ ¬ (start retention clock).Overlooked events handle) ∧
      ((start retention clock).Overlooked events handle → state = .unknown ∧ revoked = true) ∧
      ((c.broker.answer c.clock spare (.revoke handle)).2.answer c.clock spare (.state handle)).1 =
        .ok (if revoked then .revoked else state) := by
  subst hc
  have hoverlooked := overlooked_iff hfresh handle
  generalize (start retention clock).after events = c at *
  have hstate : (c.broker.answer c.clock spare (.state handle)).1 =
      .ok (c.broker.stateAt c.clock handle) := by
    rw [Memory.answer_state c.clock spare havailable]
    rfl
  have hafter := Memory.answer_state_of_revoke havailable c.clock spare handle
  rw [hstate] at hafter
  rw [hoverlooked, Memory.answer_revoke c.clock spare havailable]
  refine ⟨c.broker.stateAt c.clock handle, (c.broker.revoke c.clock handle).1, hstate, rfl,
    c.broker.revoke_eq_isLive_iff c.clock handle, Memory.Lingers.unknown_and_revoked, ?_⟩
  rw [hafter]
  split <;> rfl

/-- A job is dispatched, told to be at work and looked up in time; then nobody asks for it until more
than half an hour has passed since it was told, though somebody asks for another one. -/
def askedInTime : List Event :=
  [.question ⟨"job"⟩ (.dispatch ⟨⟨1⟩⟩ "report" .null), .reading ⟨900, 0, by decide, by decide⟩,
    .notice (.state ⟨"job"⟩ .started), .reading ⟨1700, 0, by decide, by decide⟩,
    .question ⟨"next"⟩ (.state ⟨"job"⟩), .reading ⟨2701, 0, by decide, by decide⟩,
    .question ⟨"next"⟩ (.state ⟨"other"⟩)]

/-- With a retention of half an hour the job was overlooked, as can be told from its revocation. -/
theorem revoked_as_reported_iff_asked_in_time :
    (start (.ofSeconds 1800) .epoch).Overlooked askedInTime ⟨"job"⟩ := by
  obtain ⟨state, revoked, hstate, hrevoked, hiff, -, -⟩ :=
    revoked_as_reported_iff (.ofSeconds 1800) .epoch askedInTime _ rfl (by decide) rfl ⟨"job"⟩ ⟨"next"⟩
  obtain rfl : .unknown = state := Except.ok.inj hstate
  obtain rfl : true = revoked := Except.ok.inj hrevoked
  by_contra hspared
  cases hiff.2 hspared

/-- A job is dispatched, and more than half an hour goes by. -/
def longForgotten : List Event :=
  [.question ⟨"job"⟩ (.dispatch ⟨⟨1⟩⟩ "report" .null), .reading ⟨1801, 0, by decide, by decide⟩]

/-- The broker, clock and journal after that, with a retention of half an hour. -/
def aged : Chronicle := (start (.ofSeconds 1800) .epoch).after longForgotten

/-- **An unknown job whose revocation is acknowledged.**  The broker would have answered that it does
not know the job, acknowledges its revocation, and then has it revoked. -/
theorem overlooked_job_revoked :
    aged.journal.dispatched.Nodup ∧ aged.broker.available = true ∧
      (aged.broker.answer aged.clock ⟨"next"⟩ (.state ⟨"job"⟩)).1 = .ok .unknown ∧
      (aged.broker.answer aged.clock ⟨"next"⟩ (.revoke ⟨"job"⟩)).1 = .ok true ∧
      ((aged.broker.answer aged.clock ⟨"next"⟩ (.revoke ⟨"job"⟩)).2.answer aged.clock
        ⟨"next"⟩ (.state ⟨"job"⟩)).1 = .ok .revoked :=
  ⟨by decide, rfl, rfl, rfl, rfl⟩

end Chronicle

end Broker

end TaskLedger
