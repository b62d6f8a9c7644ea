import Mathlib.Data.List.Induction
import TaskLedger.Proofs.Broker.Retention
import TaskLedger.Proofs.Dialogue.Turns
import TaskLedger.Proofs.Service.Grounds
import TaskLedger.Proofs.Service.Ledger
import TaskLedger.Settings.Basic

/-!
**Whoever is warned of nothing loses no task.**

The settings come with a warning if the broker could forget a job that is merely slow.  If there is no
warning, a task outlives its limit before the broker can have forgotten its job, and as the limit is
looked at first, no task is ever taken for a vanished one.

The argument follows a handle from the dispatch of its job to the question for its state.  As long as
no more than the retention has passed since the record was created, the broker recalls the job.  The
question is asked only of a task within its limit, which is no longer than the retention, and at the
time at which that was found.

Main definitions:

* `TaskLedger.Record.FailedAs` — the record says that its task has failed in a way;
* `TaskLedger.Service.Orderly` — what may happen besides the calls of the users;
* `TaskLedger.Service.Sound` — the invariant of all users and the backend together.

Main results:

* `TaskLedger.Service.Sound.answered`, `TaskLedger.Service.Sound.play` — a call keeps the invariant,
  and so does a play;
* `TaskLedger.Service.never_vanished` — **without a warning no task vanishes**, and one whose job is
  forgotten has timed out.
-/

set_option autoImplicit false

namespace TaskLedger

/-- The record says that its task has failed in a way: that is what the last line of its log says. -/
def Record.FailedAs (r : Record) (kind : FailureKind) : Prop :=
  r.status = .failed ∧ r.log.getLast? = some kind.logLine

namespace Service

open Dialogue

/-- Whether a call asks for the state of a job. -/
def Call.asksState : Call → Bool
  | .broker (.state _) => true
  | .broker (.dispatch _ _ _) | .broker (.failureDetail _) | .broker (.revoke _) => false
  | .store _ | .now | .freshId => false

/-- Whether an operation is about to ask for the state of a job. -/
def awaitsState {α : Type} : Action α → Bool
  | .done _ => false
  | .ask q _ => Call.asksState q

/-! ### What a call leaves as it is -/

theorem evolves_answer (b : Backend) (q : Call) : b.store.Evolves (b.answer q).2.store := by
  cases q with
  | store query => exact Store.Memory.evolves_answer b.store query
  | broker | now | freshId => exact .refl _

theorem retention_answer (b : Backend) (q : Call) :
    (b.answer q).2.broker.retention = b.broker.retention := by
  cases q with
  | broker query => exact Broker.Memory.retention_answer _ _ _ _
  | store | now | freshId => rfl

theorem recalls_answer {b : Backend} {handle : Handle} {t : Instant}
    (h : b.broker.Recalls b.clock handle t) (hplain : b.clock.isLeap = false) (q : Call) :
    (b.answer q).2.broker.Recalls (b.answer q).2.clock handle t := by
  cases q with
  | broker query => exact h.answer hplain _ query
  | store | now | freshId => exact h

/-! ### Records -/

/-- A record was created in the past, the broker recalls its job, and it does not say that the task
has vanished. -/
structure SoundRecord (b : Backend) (r : Record) : Prop where
  created : r.createdAt.Past b.clock
  recalled : ∀ handle, r.handle = some handle → b.broker.Recalls b.clock handle r.createdAt
  honest : ¬ r.FailedAs .vanished

theorem not_failedAs_of_status {r : Record} {kind : FailureKind} (h : r.status ≠ .failed) :
    ¬ r.FailedAs kind :=
  fun hfailed => h hfailed.1

theorem status_ne_failed_of_open {r : Record} (h : r.isTerminal = false) : r.status ≠ .failed := by
  intro hfailed
  rw [Record.isTerminal, hfailed] at h
  cases h

namespace SoundRecord

variable {b : Backend} {r c : Record}

/-- A record is sound as long as nothing is forgotten and time goes by. -/
theorem of_backend {b' : Backend} (h : SoundRecord b r) (hclock : b.clock.Past b'.clock)
    (hrecalls : ∀ handle, b.broker.Recalls b.clock handle r.createdAt →
      b'.broker.Recalls b'.clock handle r.createdAt) : SoundRecord b' r where
  created := h.created.trans hclock
  recalled := fun handle hhandle => hrecalls handle (h.recalled handle hhandle)
  honest := h.honest

/-- A record that was just created is sound. -/
theorem fresh {id : TaskId} {taskType : String} {payload : Json} {createdAt : Instant}
    (h : createdAt.Past b.clock) : SoundRecord b (.fresh id taskType payload createdAt) where
  created := h
  recalled := nofun
  honest := not_failedAs_of_status nofun

theorem assignHandle {handle : Handle} (h : SoundRecord b r) (hc : r.assignHandle handle = .ok c)
    (hrecalls : b.broker.Recalls b.clock handle r.createdAt) : SoundRecord b c := by
  obtain ⟨hopen, -, rfl⟩ := Record.assignHandle_eq_ok_iff.1 hc
  refine ⟨h.created, ?_, not_failedAs_of_status (status_ne_failed_of_open hopen)⟩
  rintro _ ⟨⟩
  exact hrecalls

theorem start (h : SoundRecord b r) (hc : r.start = .ok c) : SoundRecord b c := by
  obtain ⟨-, -, rfl⟩ := Record.start_eq_ok_iff.1 hc
  exact ⟨h.created, h.recalled, not_failedAs_of_status nofun⟩

theorem appendLog {message : String} (h : SoundRecord b r) (hc : r.appendLog message = .ok c) :
    SoundRecord b c := by
  obtain ⟨hopen, rfl⟩ := Record.appendLog_eq_ok_iff.1 hc
  exact ⟨h.created, h.recalled, not_failedAs_of_status (status_ne_failed_of_open hopen)⟩

theorem finish {u : FinalUpdate} (h : SoundRecord b r) (hc : r.finish u = .ok c)
    (hline : ∃ line, u.logMessage = some line ∧ line ≠ FailureKind.vanished.logLine) :
    SoundRecord b c := by
  obtain ⟨-, -, rfl⟩ := Record.finish_eq_ok_iff.1 hc
  obtain ⟨line, hmessage, hne⟩ := hline
  refine ⟨h.created, h.recalled, ?_⟩
  rintro ⟨-, hlast⟩
  simp only [Record.ended, hmessage, Option.toList_some, List.getLast?_append,
    List.getLast?_singleton, Option.some_or, Option.some.injEq] at hlast
  exact hne hlast

end SoundRecord

/-! ### The invariant -/

section Invariant

variable {ι : Type} [DecidableEq ι] {α : ι → Type} {limit : TimeLimit} {retention : Span}

/-- What holds of all users and the backend together, whenever all calls are made on their grounds:
what was read and found is still true, or lies in the past; of every task whose job was dispatched the
broker recalls the job; and it has not said of any job that it is unknown. -/
structure Sound (limit : TimeLimit) (retention : Span) (c : Scene calls α Backend) : Prop where
  plain : c.state.clock.isLeap = false
  retention_eq : c.state.broker.retention = retention
  grounded : ∀ i, Grounded limit (historyOf i c.said) (c.rest i)
  read : ∀ i t, (i, ⟨.now, t⟩) ∈ c.said → t.Past c.state.clock
  records : ∀ id r, c.state.store.find? id = some r → SoundRecord c.state r
  inserted : ∀ i record id, (i, ⟨.store (.insert record), .ok id⟩) ∈ c.said →
    ∃ r, c.state.store.find? id = some r
  dispatched : ∀ i id taskType payload handle,
    (i, ⟨.broker (.dispatch id taskType payload), .ok handle⟩) ∈ c.said →
    ∃ r, c.state.store.find? id = some r ∧
      c.state.broker.Recalls c.state.clock handle r.createdAt
  seen : ∀ i id r, (i, ⟨.store (.get id), .ok (some r)⟩) ∈ c.said →
    ∃ later, c.state.store.find? id = some later ∧ r.Evolves later
  timely : ∀ i handle next t, c.rest i = .ask (I := calls) (.broker (.state handle)) next →
    lastReading? (historyOf i c.said) = some t → t = c.state.clock
  known : ∀ i handle, (i, ⟨.broker (.state handle), .ok .unknown⟩) ∉ c.said

variable {c : Scene calls α Backend} {i : ι} {q : Call} {next : q.Reply → Action (α i)}

namespace Sound

/-- The grounds of the call that is made next. -/
theorem grounds (hs : Sound limit retention c) (hrest : c.rest i = .ask (I := calls) q next) :
    q.Grounds limit (historyOf i c.said) := by
  have hgrounded := hs.grounded i
  rw [hrest] at hgrounded
  cases hgrounded with
  | ask hq => exact hq

/-- A job whose state is asked for is not unknown: its task is within its limit, which is no longer
than the retention. -/
theorem not_unknown (hs : Sound limit retention c)
    (hlimit : ∃ span, limit.limit = some span ∧ span.ticks ≤ retention.ticks) {handle : Handle}
    {next : Except Broker.Fault RemoteState → Action (α i)}
    (hrest : c.rest i = .ask (I := calls) (.broker (.state handle)) next) :
    (c.state.answer (.broker (.state handle))).1 ≠ .ok .unknown := by
  intro hunknown
  obtain ⟨front, id, record, asked, hhistory, hhandle, hwithin⟩ := hs.grounds hrest
  -- The clock still shows what was read, and the record still has what was found.
  have hasked : asked = c.state.clock := by
    refine hs.timely i handle next asked hrest ?_
    rw [hhistory, ← lastReading?_snoc_now (front ++ [⟨.store (.get id), .ok (some record)⟩]) asked]
    simp
  have hget : (i, ⟨.store (.get id), .ok (some record)⟩) ∈ c.said :=
    mem_historyOf.1 (by simp [hhistory])
  obtain ⟨later, hlater, hevolves⟩ := hs.seen i id record hget
  have hrecalls := (hs.records id later hlater).recalled handle (hevolves.handle_kept handle hhandle)
  have hexceeds := hrecalls.exceeds_of_unknown hs.plain
    (c.state.supply.handle c.state.handlesUsed) hunknown
  obtain ⟨span, hspan, hle⟩ := hlimit
  have hexpired : limit.isExpired record.createdAt asked = true := by
    simp only [TimeLimit.isExpired, hspan]
    rw [hevolves.createdAt_eq, hs.retention_eq] at hexceeds
    rw [hevolves.createdAt_eq] at hrecalls
    rw [hasked]
    exact exceeds_mono hle (.refl hrecalls.past.plain) (.refl hs.plain) hrecalls.past.plain hs.plain
      hexceeds
  rw [FailureReport.ofLimit?_eq_none_iff, hexpired] at hwithin
  cases hwithin

/-- What becomes of a sound record by a call that has its grounds. -/
theorem records_answer (hs : Sound limit retention c)
    (hrest : c.rest i = .ask (I := calls) q next) {id : TaskId} {r : Record}
    (hr : (c.state.answer q).2.store.find? id = some r) : SoundRecord (c.state.answer q).2 r := by
  have hgrounds := hs.grounds hrest
  -- As long as the record is what it was, it is enough that nothing is forgotten.
  have hsame : ∀ {r}, SoundRecord c.state r → SoundRecord (c.state.answer q).2 r := by
    intro r h
    refine h.of_backend ?_ fun handle hrecalls => recalls_answer hrecalls hs.plain q
    rw [Backend.clock_answer]
    exact .refl hs.plain
  cases q with
  | broker | now | freshId => exact hsame (hs.records id r hr)
  | store query =>
      have hmakes := c.state.store.makes_answer query id
      change (Store.Memory.answer query c.state.store).2.find? id = some r at hr
      rw [hr] at hmakes
      generalize hbefore : c.state.store.find? id = before? at hmakes
      cases hmakes with
      | same => exact hsame (hs.records id r hbefore)
      | new record hq hid =>
          subst hq
          obtain ⟨_, _, _, createdAt, rfl, hread⟩ := hgrounds
          exact hsame (.fresh (hs.read i createdAt (mem_historyOf.1 hread)))
      | @changed r₀ _ change hwrites hchange =>
          have hsound := hs.records id r₀ hbefore
          have hfinish : ∀ {u : FinalUpdate}, (∃ line, u.logMessage = some line ∧
              (line = FailureKind.vanished.logLine → ∃ handle,
                ⟨.broker (.state handle), .ok .unknown⟩ ∈ historyOf i c.said)) →
              ∃ line, u.logMessage = some line ∧ line ≠ FailureKind.vanished.logLine := by
            rintro u ⟨line, hline, hvanished⟩
            refine ⟨line, hline, fun heq => ?_⟩
            obtain ⟨handle, hunknown⟩ := hvanished heq
            exact hs.known i handle (mem_historyOf.1 hunknown)
          cases hwrites with
          | setHandle _ handle =>
              obtain ⟨taskType, payload, hdispatch⟩ := hgrounds
              obtain ⟨r', hr', hrecalls⟩ := hs.dispatched i id taskType payload handle
                (mem_historyOf.1 hdispatch)
              obtain rfl := Option.some.inj (hbefore.symm.trans hr')
              exact hsame (hsound.assignHandle hchange hrecalls)
          | markRunning => exact hsame (hsound.start hchange)
          | appendLog => exact hsame (hsound.appendLog hchange)
          | finish => exact hsame (hsound.finish hchange (hfinish hgrounds))
          | finishFrom =>
              exact hsame (hsound.finish (Store.Memory.finishAt_eq_ok_iff.1 hchange).2
                (hfinish hgrounds))

/-- What is left of each user after a call still makes its calls on their grounds. -/
theorem grounded_answer (hs : Sound limit retention c) (hrest : c.rest i = .ask (I := calls) q next)
    (a : q.Reply) (j : ι) :
    Grounded limit (historyOf j (c.said ++ [(i, ⟨q, a⟩)])) (Function.update c.rest i (next a) j) := by
  by_cases hj : i = j
  · subst hj
    have hgrounded := hs.grounded i
    rw [hrest] at hgrounded
    cases hgrounded with
    | ask _ hnext => simpa using hnext a
  · simpa [historyOf_cons_of_ne _ _ hj, Function.update_of_ne (Ne.symm hj)] using hs.grounded j

/-- The job of a task that is dispatched is recalled since the task was created. -/
theorem recalls_dispatched (hs : Sound limit retention c) {id : TaskId} {taskType : String}
    {payload : Json} {handle : Handle} {next : Except Broker.Fault Handle → Action (α i)}
    (hrest : c.rest i = .ask (I := calls) (.broker (.dispatch id taskType payload)) next)
    (hanswer : (c.state.answer (.broker (.dispatch id taskType payload))).1 = .ok handle) :
    ∃ r, c.state.store.find? id = some r ∧
      (c.state.answer (.broker (.dispatch id taskType payload))).2.broker.Recalls c.state.clock handle
        r.createdAt := by
  obtain ⟨record, hinsert⟩ := hs.grounds hrest
  obtain ⟨r, hr⟩ := hs.inserted i record id (mem_historyOf.1 hinsert)
  exact ⟨r, hr, Broker.Memory.recalls_of_dispatched (hs.records id r hr).created hs.plain hanswer⟩

/-- Who asks for the state of a job after a call has read the clock as it still is: just now, or else
it was asking for it already. -/
theorem timely_answer (hs : Sound limit retention c) {j : ι} {handle : Handle}
    {next' : Except Broker.Fault RemoteState → Action (α j)} {t : Instant}
    (hask : Function.update c.rest i (next (c.state.answer q).1) j =
      .ask (I := calls) (.broker (.state handle)) next')
    (hread : lastReading? (historyOf j (c.said ++ [(i, ⟨q, (c.state.answer q).1⟩)])) = some t) :
    t = c.state.clock := by
  by_cases hj : i = j
  · subst hj
    have hhistory : historyOf i (c.said ++ [(i, (⟨q, (c.state.answer q).1⟩ : Exchange calls))]) =
        historyOf i c.said ++ [⟨q, (c.state.answer q).1⟩] := by simp
    rw [hhistory] at hread
    by_cases hq : q = .now
    · subst hq
      rw [lastReading?_snoc_now] at hread
      exact (Option.some.inj hread).symm
    · rw [lastReading?_snoc_of_ne _ _ hq] at hread
      cases hread
  · rw [Function.update_of_ne (Ne.symm hj)] at hask
    simp only [historyOf_append, historyOf_cons_of_ne _ _ hj, historyOf_nil, List.append_nil] at hread
    exact hs.timely j handle next' t hask hread

/-- The scene after a call and its reply. -/
theorem answered (hs : Sound limit retention c)
    (hlimit : ∃ span, limit.limit = some span ∧ span.ticks ≤ retention.ticks)
    (hrest : c.rest i = .ask (I := calls) q next) :
    Sound limit retention
      { state := (c.state.answer q).2
        rest := Function.update c.rest i (next (c.state.answer q).1)
        said := c.said ++ [(i, ⟨q, (c.state.answer q).1⟩)] } := by
  have hclock := Backend.clock_answer c.state q
  have hevolves := evolves_answer c.state q
  -- Whatever was said before is still true; the last exchange is looked at case by case.
  have hlast : ∀ {j} {q' : Call} {a : q'.Reply},
      (j, (⟨q', a⟩ : Exchange calls)) ∈ c.said ++ [(i, ⟨q, (c.state.answer q).1⟩)] →
      (j, ⟨q', a⟩) ∈ c.said ∨ (q' = q ∧ (c.state.answer q').1 = a) := by
    intro j q' a hmem
    rcases List.mem_append.1 hmem with hearlier | hnew
    · exact Or.inl hearlier
    · obtain ⟨-, hx⟩ := Prod.mk.inj (List.mem_singleton.1 hnew)
      obtain rfl : q' = q := congrArg Exchange.question hx
      exact Or.inr ⟨rfl, (eq_of_heq (Exchange.mk.inj hx).2).symm⟩
  constructor
  case plain => exact hclock ▸ hs.plain
  case retention_eq => exact (retention_answer c.state q).trans hs.retention_eq
  case grounded => exact hs.grounded_answer hrest _
  case records => exact fun id r hr => hs.records_answer hrest hr
  case timely =>
    intro j handle next' t hask hread
    exact (hs.timely_answer hask hread).trans hclock.symm
  case read =>
    intro j t ht
    change t.Past (c.state.answer q).2.clock
    rw [hclock]
    rcases hlast ht with ht | ⟨rfl, rfl⟩
    · exact hs.read j t ht
    · exact .refl hs.plain
  case inserted =>
    intro j record id hid
    rcases hlast hid with hid | ⟨rfl, hinsert⟩
    · obtain ⟨r, hr⟩ := hs.inserted j record id hid
      exact (hevolves id r hr).imp fun _ h => h.1
    · exact ⟨record, Store.Memory.find?_of_insert_eq_ok hinsert⟩
  case dispatched =>
    intro j id taskType payload handle hid
    rcases hlast hid with hid | ⟨rfl, hanswer⟩
    · obtain ⟨r, hr, hrecall⟩ := hs.dispatched j id taskType payload handle hid
      obtain ⟨later, hlater, hr'⟩ := hevolves id r hr
      exact ⟨later, hlater, hr'.createdAt_eq ▸ recalls_answer hrecall hs.plain q⟩
    · exact hs.recalls_dispatched hrest hanswer
  case seen =>
    intro j id r hid
    rcases hlast hid with hid | ⟨rfl, hfound⟩
    · obtain ⟨later, hlater, hr⟩ := hs.seen j id r hid
      obtain ⟨later', hlater', hr'⟩ := hevolves id later hlater
      exact ⟨later', hlater', hr.trans hr'⟩
    · exact hevolves id r (Except.ok.inj hfound)
  case known =>
    intro j handle hunknown
    rcases hlast hunknown with hunknown | ⟨rfl, hanswer⟩
    · exact hs.known j handle hunknown
    · exact hs.not_unknown hlimit hrest hanswer

/-- Something that happens besides the calls of the users: nobody has asked for anything. -/
theorem happened (hs : Sound limit retention c) {b : Backend}
    (hstore : b.store = c.state.store) (hplain : b.clock.isLeap = false)
    (hclock : c.state.clock.Past b.clock) (hretention : b.broker.retention = retention)
    (hrecalls : ∀ {handle t}, c.state.broker.Recalls c.state.clock handle t →
      b.broker.Recalls b.clock handle t)
    (htimely : b.clock = c.state.clock ∨ ∀ i, awaitsState (c.rest i) = false) :
    Sound limit retention { c with state := b } where
  plain := hplain
  retention_eq := hretention
  grounded := hs.grounded
  read := fun i t ht => (hs.read i t ht).trans hclock
  records := fun id r hr =>
    (hs.records id r (hstore ▸ hr)).of_backend hclock fun _ hrecall => hrecalls hrecall
  inserted := fun i record id hid => hstore ▸ hs.inserted i record id hid
  dispatched := by
    intro i id taskType payload handle hid
    obtain ⟨r, hr, hrecall⟩ := hs.dispatched i id taskType payload handle hid
    exact ⟨r, hstore ▸ hr, hrecalls hrecall⟩
  seen := fun i id r hid => hstore ▸ hs.seen i id r hid
  timely := by
    intro i handle next t hask hread
    rcases htimely with heq | hnobody
    · exact (hs.timely i handle next t hask hread).trans heq.symm
    · have hnot := hnobody i
      rw [show c.rest i = _ from hask] at hnot
      cases hnot
  known := hs.known

end Sound

/-! ### Plays -/

/-- What may happen besides the calls of the users: the clock moves on, but not while someone who has
read it is about to ask for the state of a job; a job is told its state, other than that it is unknown,
or that it has failed; and the broker can be reached or not. -/
inductive Orderly (c : Scene calls α Backend) : Move ι Incident → Prop
  | next (i : ι) : Orderly c (.next i)
  | clock {now : Instant} : now.precedes c.state.clock = false →
      (∀ i, awaitsState (c.rest i) = false) → Orderly c (.event (.clock now))
  | setState (handle : Handle) {state : RemoteState} : state ≠ .unknown →
      Orderly c (.event (.broker (c.state.broker.setState c.state.clock handle state).2))
  | fail (handle : Handle) (detail : String) :
      Orderly c (.event (.broker (c.state.broker.fail c.state.clock handle detail).2))
  | setAvailable (available : Bool) :
      Orderly c (.event (.broker (c.state.broker.setAvailable available)))

/-- No clock that is shown in some moves lies in a leap second. -/
def Plain (moves : List (Move ι Incident)) : Prop :=
  ∀ now, Move.event (.clock now) ∈ moves → now.isLeap = false

namespace Sound

variable {move : Move ι Incident}

/-- An orderly move keeps the invariant. -/
theorem step (hs : Sound limit retention c)
    (hlimit : ∃ span, limit.limit = some span ∧ span.ticks ≤ retention.ticks)
    (horderly : Orderly c move) (hplain : ∀ now, move = .event (.clock now) → now.isLeap = false) :
    Sound limit retention (c.step Backend.world move) := by
  cases horderly with
  | next i =>
      cases hrest : c.rest i with
      | done r => rwa [Scene.step_next_of_done hrest]
      | ask q next =>
          simp only [Scene.step, hrest]
          exact hs.answered hlimit hrest
  | @clock now hnow hnobody =>
      have hleap := hplain now rfl
      have hpast := Instant.past_of_not_precedes hs.plain hleap hnow
      exact hs.happened rfl hleap hpast hs.retention_eq
        (fun hrecall => hrecall.later hpast hleap) (Or.inr hnobody)
  | setState handle hstate =>
      exact hs.happened rfl hs.plain (.refl hs.plain) hs.retention_eq
        (fun hrecall => hrecall.setState hs.plain handle hstate) (Or.inl rfl)
  | fail handle detail =>
      exact hs.happened rfl hs.plain (.refl hs.plain) hs.retention_eq
        (fun hrecall => hrecall.fail hs.plain handle detail) (Or.inl rfl)
  | setAvailable available =>
      exact hs.happened rfl hs.plain (.refl hs.plain) hs.retention_eq
        (fun hrecall => ⟨hrecall.past, hrecall.known⟩) (Or.inl rfl)

/-- **An orderly play keeps the invariant.** -/
theorem play {moves : List (Move ι Incident)} (hs : Sound limit retention c)
    (hlimit : ∃ span, limit.limit = some span ∧ span.ticks ≤ retention.ticks)
    (horderly : Scene.Along Backend.world Orderly c moves) (hplain : Plain moves) :
    Sound limit retention (c.play Backend.world moves) := by
  induction moves generalizing c with
  | nil => exact hs
  | cons move moves ih =>
      obtain ⟨hmove, hmoves⟩ := horderly
      exact ih (hs.step hlimit hmove fun now h => hplain now (h ▸ List.mem_cons_self)) hmoves
        fun now h => hplain now (List.mem_cons_of_mem _ h)

end Sound

/-- Before anything is asked, there is nothing to be forgotten. -/
theorem sound_start {d : (i : ι) → Action (α i)} {clock : Instant} {supply : Supply}
    (hd : ∀ i, Grounded limit [] (d i)) (hclock : clock.isLeap = false) :
    Sound limit retention (Scene.start d (.empty retention clock supply)) := by
  have hnobody : ∀ {i x}, (i, x) ∉ (Scene.start d (Backend.empty retention clock supply)).said :=
    List.not_mem_nil
  constructor
  case plain => exact hclock
  case retention_eq => rfl
  case grounded => exact hd
  case records =>
    intro id r hr
    simp [Scene.start, Backend.empty] at hr
  case timely =>
    intro i handle next t _ hread
    cases hread
  case read => exact fun _ _ h => absurd h hnobody
  case inserted => exact fun _ _ _ h => absurd h hnobody
  case dispatched => exact fun _ _ _ _ _ h => absurd h hnobody
  case seen => exact fun _ _ _ h => absurd h hnobody
  case known => exact fun _ _ => hnobody

end Invariant

/-- Whoever ends a task has the grounds of the line that is left. -/
theorem grounds_finishCall {limit : TimeLimit} {h : List (Exchange calls)} {id : TaskId}
    {source : Option Status} {update : FinalUpdate}
    (hgrounds : (finishCall id source update).Grounds limit h) :
    ∃ line, update.logMessage = some line ∧ (line = FailureKind.vanished.logLine →
      ∃ handle, ⟨.broker (.state handle), .ok .unknown⟩ ∈ h) := by
  cases source <;> exact hgrounds

/-! ### What follows from the settings -/

/-- If there is no warning, there is a limit, and it is no longer than the retention. -/
theorem limit_le_of_no_warning {settings : Settings} (h : settings.retentionWarning = none) :
    ∃ span, settings.timeLimit.limit = some span ∧ span.ticks ≤ settings.retentionSpan.ticks := by
  unfold Settings.retentionWarning at h
  split at h
  · cases h
  · next timeout htimeout =>
    split at h
    · cases h
    · next hle =>
      refine ⟨.ofSeconds timeout, by simp [Settings.timeLimit, htimeout], ?_⟩
      have hle' : timeout.toNat ≤ settings.retention.toNat := Nat.le_of_not_lt hle
      simp only [Settings.retentionSpan, Span.ticks_ofSeconds]
      omega

/-- A task past its limit, reconciled with nobody else around, has timed out. -/
theorem perform_reconcile_of_expired {b : Backend} {limit : TimeLimit} {id : TaskId} {r : Record}
    (hr : b.store.find? id = some r) (hopen : r.isTerminal = false)
    (hexpired : limit.isExpired r.createdAt b.clock = true) :
    (b.perform (reconcile limit id)).1 = .ok (.failed .timedOut) := by
  obtain ⟨report, hreport⟩ : ∃ report,
      FailureReport.ofLimit? limit r.createdAt b.clock = some report := by
    rw [← Option.ne_none_iff_exists', Ne, FailureReport.ofLimit?_eq_none_iff, hexpired]
    decide
  have hkind := kind_of_ofLimit? hreport
  have happlied : (b.store.modify id (·.finish (report.toUpdate b.clock))).1 = .applied := by
    have hfinish : r.finish (report.toUpdate b.clock) = .ok (r.ended (report.toUpdate b.clock)) :=
      Record.finish_eq_ok_iff.2 ⟨rfl, Status.canBecome_of_open hopen (Or.inl rfl), rfl⟩
    simp only [Store.Memory.modify, hr, hfinish]
  have hexamine : b.perform (examine limit id none) =
      (.ok (.failed .timedOut), (b.perform (examine limit id none)).2) := by
    refine Prod.ext ?_ rfl
    simp only [Backend.perform, examine, bind_def, bind_get, bind_now, run_ask, Backend.answer_store,
      Store.Memory.answer, hr, hopen, Bool.false_eq_true, if_false, Backend.answer_now, hreport,
      writeFailure, finishGuarded, bind_finish, Store.Memory.answer.done, happlied]
    simp [pure_def, Finding.ofWrite, hkind]
  simp only [Backend.perform, reconcile, bind_def, run_bind] at hexamine ⊢
  rw [hexamine]
  rfl

/-! ### Users of a service without a warning -/

section Main

variable {ι : Type} [DecidableEq ι]

/-- The users of a service, before anything was asked. -/
abbrev opening (settings : Settings) (users : ι → User) (clock : Instant) (supply : Supply) :
    Scene calls (fun i => (users i).Result) Backend :=
  .start (fun i => (users i).action settings.timeLimit) (.empty settings.retentionSpan clock supply)

/-- **Without a warning no task vanishes.**  Nobody ever writes that one has, so that no record says
it; and whoever reconciles an open task whose job is forgotten reports that it has timed out. -/
theorem never_vanished (settings : Settings) (users : ι → User) (clock : Instant) (supply : Supply)
    (moves : List (Move ι Incident)) (hwarning : settings.retentionWarning = none)
    (hclock : clock.isLeap = false) (hplain : Plain moves)
    (horderly : Scene.Along Backend.world Orderly (opening settings users clock supply)
      moves) :
    let c := (opening settings users clock supply).play Backend.world moves
    (∀ i id source (report : FailureReport) endedAt,
        (i, finishCall id source (report.toUpdate endedAt)) ∈
          asked c.said → report.kind ≠ .vanished) ∧
      (∀ id r, c.state.store.find? id = some r → ¬ r.FailedAs .vanished) ∧
      ∀ id r handle, c.state.store.find? id = some r → r.isTerminal = false →
        r.handle = some handle → (c.state.broker.lookup c.state.clock handle).1 = none →
        (c.state.perform (reconcile settings.timeLimit id)).1 = .ok (.failed .timedOut) := by
  intro c
  have hlimit := limit_le_of_no_warning hwarning
  have hs : Sound settings.timeLimit settings.retentionSpan c :=
    (sound_start (fun i => grounded_action (users i)) hclock).play hlimit horderly hplain
  refine ⟨?_, fun id r hr => (hs.records id r hr).honest, ?_⟩
  · intro i id source report endedAt hasked hkind
    obtain ⟨a, ha⟩ := mem_asked.1 hasked
    obtain ⟨before, later, hsaid⟩ := List.append_of_mem ha
    have hrun : Run Backend.world _ _ c.said c.state := Scene.run_play Backend.world _ _ moves
    rw [hsaid] at hrun
    obtain ⟨-, -, hasks, -⟩ := hrun.moment
    have hgrounds := (grounded_action (users i)).grounds_of_asks hasks
    obtain ⟨line, hline, hvanished⟩ := grounds_finishCall hgrounds
    obtain rfl : report.kind.logLine = line := Option.some.inj hline
    obtain ⟨handle, hunknown⟩ := hvanished (by rw [hkind])
    refine hs.known i handle ?_
    rw [hsaid]
    exact List.mem_append_left _ (mem_historyOf.1 hunknown)
  · intro id r handle hr hopen hhandle hforgotten
    have hrecalls := (hs.records id r hr).recalled handle hhandle
    have hexceeds := hrecalls.exceeds_of_lookup hs.plain hforgotten
    obtain ⟨span, hspan, hle⟩ := hlimit
    refine perform_reconcile_of_expired hr hopen ?_
    simp only [TimeLimit.isExpired, hspan]
    rw [hs.retention_eq] at hexceeds
    exact exceeds_mono hle (.refl hrecalls.past.plain) (.refl hs.plain) hrecalls.past.plain hs.plain
      hexceeds

end Main

/-! ### Two clocks -/

/-- Someone who submits a task, the job of the task, and someone who reconciles it. -/
inductive Trio where
  | submitter
  | job
  | reconciler
  deriving DecidableEq, Repr

/-- What the three do. -/
abbrev trio : Trio → User
  | .submitter => .submit "report" .null
  | .job => .start ⟨⟨1⟩⟩
  | .reconciler => .reconcile ⟨⟨1⟩⟩

/-- Settings under which tasks and jobs last for a minute. -/
def minutely : Settings := { taskTimeout := some 60, retention := 60 }

/-- A task is submitted and its job begins to run. -/
def underway : List (Move Trio Incident) :=
  List.replicate 5 (.next .submitter) ++ [.next .job]

/-- The task is submitted at the beginning of 1970, and the job is heard of no more. -/
def unheard : List (Move Trio Incident) :=
  underway ++ [.event (.clock ⟨61, 0, by decide, by decide⟩)]

theorem never_vanished_unheard :
    minutely.retentionWarning = none ∧ Instant.epoch.isLeap = false ∧ Plain unheard ∧
      Scene.Along Backend.world Orderly
        (opening minutely trio .epoch Backend.vacant.supply) unheard ∧
      (((opening minutely trio .epoch Backend.vacant.supply).play Backend.world
        unheard).state.perform (reconcile minutely.timeLimit ⟨⟨1⟩⟩)).1 = .ok (.failed .timedOut) := by
  have hplain : Plain unheard := by
    intro now hnow
    simp [unheard, underway] at hnow
    subst hnow
    rfl
  have horderly : Scene.Along Backend.world Orderly
      (opening minutely trio .epoch Backend.vacant.supply) unheard :=
    ⟨.next _, .next _, .next _, .next _, .next _, .next _,
      .clock (by decide) (by rintro (_ | _ | _) <;> rfl), trivial⟩
  refine ⟨rfl, rfl, hplain, horderly, ?_⟩
  exact (never_vanished minutely trio .epoch Backend.vacant.supply unheard rfl rfl hplain
    horderly).2.2 ⟨⟨1⟩⟩ _ ⟨"job"⟩ rfl rfl rfl rfl

/-- An instant in the leap second at the end of 2016. -/
def inLeapSecond : Instant := ⟨1483228799, 1900000000, by decide, by decide⟩

/-- The broker when the job is told, a tenth of a second later, that it has started. -/
def toldStarted : Broker.Memory :=
  (((opening minutely trio inLeapSecond Backend.vacant.supply).play Backend.world
    underway).state.broker.setState ⟨1483228800, 0, by decide, by decide⟩ ⟨"job"⟩ .started).2

/-- The task is submitted in the leap second, and the job is told that it has started right after it.
It is reconciled a minute and a half second later. -/
def acrossLeapSecond : List (Move Trio Incident) :=
  underway ++
    [.event (.clock ⟨1483228800, 0, by decide, by decide⟩), .event (.broker toldStarted),
      .event (.clock ⟨1483228860, 500000000, by decide, by decide⟩)] ++
    List.replicate 5 (.next .reconciler)

/-- **A task that vanishes although there is no warning**: it was submitted in a leap second, from
which less time passes than from the moment right after it. -/
theorem vanished_across_leap_second :
    minutely.retentionWarning = none ∧
      Scene.Along Backend.world Orderly
        (opening minutely trio inLeapSecond Backend.vacant.supply) acrossLeapSecond ∧
      ((opening minutely trio inLeapSecond Backend.vacant.supply).play Backend.world
        acrossLeapSecond).result? .reconciler = some (.ok (.failed .vanished)) ∧
      ∃ r, ((opening minutely trio inLeapSecond Backend.vacant.supply).play Backend.world
        acrossLeapSecond).state.store.find? ⟨⟨1⟩⟩ = some r ∧ r.FailedAs .vanished := by
  refine ⟨rfl, ?_, rfl, _, rfl, rfl, rfl⟩
  exact ⟨.next _, .next _, .next _, .next _, .next _, .next _,
    .clock (by decide) (by rintro (_ | _ | _) <;> rfl), .setState ⟨"job"⟩ nofun,
    .clock (by decide) (by rintro (_ | _ | _) <;> rfl),
    .next _, .next _, .next _, .next _, .next _, trivial⟩

end Service

end TaskLedger
