import TaskLedger.Proofs.Dialogue.History
import TaskLedger.Service.Cancel
import TaskLedger.Service.Reconcile

/-!
**The courses of the operations.**

What an operation asks at a moment, and with what it ends, is told by the exchanges it has had.
Here this is read off the operations once, for all replies whatsoever, so that statements about
operations among others need not look at their definitions again.

Main definitions:

* `TaskLedger.Service.lastReading?` — the time, if the clock was read last;
* `TaskLedger.Service.cancellation` — the final update of a task that is cancelled;
* `TaskLedger.Service.Cancellation.ofRecord`, `TaskLedger.Service.Cancellation.ofWrite` — what the
  answers to the reading and the writing mean to whoever cancels;
* `TaskLedger.Service.SubmitAsks` — what submitting may ask, and after which exchanges;
* `TaskLedger.Service.LookAsks` — what reconciling may ask, and for which reasons.

Main results:

* `TaskLedger.Service.ends_cancel`, `TaskLedger.Service.asks_cancel` — the course of a cancellation;
* `TaskLedger.Service.asks_submit`, `TaskLedger.Service.ends_submit` — the course of a submission;
* `TaskLedger.Service.asks_examine`, `TaskLedger.Service.asks_reconcile` — reconciling asks nothing
  without a reason.
-/

set_option autoImplicit false

namespace TaskLedger.Service

open Dialogue

variable {id : TaskId} {h : List (Exchange calls)} {q : Call}

/-! ### The last reading of the clock -/

/-- What the last of some exchanges has read from the clock, if that was what it did. -/
def lastReading? (h : List (Exchange calls)) : Option Instant :=
  match h.getLast? with
  | some ⟨.now, time⟩ => some time
  | _ => none

theorem lastReading?_snoc_now (h : List (Exchange calls)) (time : Instant) :
    lastReading? (h ++ [⟨.now, time⟩]) = some time := by
  simp [lastReading?]

theorem lastReading?_snoc_of_ne (h : List (Exchange calls)) {q : Call} (a : q.Reply) (hq : q ≠ .now) :
    lastReading? (h ++ [⟨q, a⟩]) = none := by
  cases q with
  | now => exact absurd rfl hq
  | store | broker | freshId => simp [lastReading?]

theorem exists_of_lastReading? {h : List (Exchange calls)} {time : Instant}
    (hread : lastReading? h = some time) : ∃ front, h = front ++ [⟨.now, time⟩] := by
  rcases List.eq_nil_or_concat h with rfl | ⟨front, ⟨q, a⟩, rfl⟩
  · cases hread
  · rw [List.concat_eq_append] at hread ⊢
    by_cases hq : q = .now
    · subst hq
      rw [lastReading?_snoc_now] at hread
      exact ⟨front, by rw [Option.some.inj hread]⟩
    · rw [lastReading?_snoc_of_ne _ _ hq] at hread
      cases hread

/-! ### Cancelling -/

/-- The final update of a task that is cancelled. -/
def cancellation (endedAt : Instant) : FinalUpdate :=
  (FinalUpdate.cancelled endedAt).withLog "Task cancelled"

/-- What it means that no open record was found. -/
def Cancellation.ofRecord (id : TaskId) :
    Except Store.Fault (Option Record) → Except Fault Cancellation
  | .error fault => .error (.store fault)
  | .ok none => .error (.notFound id)
  | .ok (some record) => .ok (.ended record.status)

/-- What the outcome of writing a cancellation means. -/
def Cancellation.ofWrite (id : TaskId) (acknowledged : Bool) :
    Except Store.Fault Store.Outcome → Except Fault Cancellation
  | .error fault => .error (.store fault)
  | .ok .applied => .ok (.cancelled acknowledged)
  | .ok (.rejected current) => .ok (.ended current)
  | .ok .notFound => .error (.notFound id)

/-- The job of a handle is asked to stop, and nothing is asked if there is no handle. -/
theorem ends_revokeIfAny {handle? : Option Handle} {acknowledged : Bool} :
    (revokeIfAny handle?).Ends h acknowledged ↔
      (handle? = none ∧ h = [] ∧ acknowledged = false) ∨
        ∃ handle reply, handle? = some handle ∧ h = [⟨.broker (.revoke handle), reply⟩] ∧
          acknowledged = reply.toOption.getD false := by
  cases handle? with
  | none => simp [revokeIfAny, ends_pure]
  | some handle =>
      simp only [revokeIfAny, bind_def, bind_revoke, ends_ask, reduceCtorEq, false_and, false_or,
        Option.some.injEq]
      constructor
      · rintro ⟨reply, h', rfl, hends⟩
        refine ⟨handle, reply, rfl, ?_⟩
        rcases reply with fault | acknowledged' <;>
          simpa [ends_pure, Except.toOption] using hends
      · rintro ⟨_, reply, rfl, rfl, rfl⟩
        refine ⟨reply, [], rfl, ?_⟩
        rcases reply with fault | acknowledged' <;> simp [ends_pure, Except.toOption]

theorem asks_revokeIfAny {handle? : Option Handle} :
    (revokeIfAny handle?).Asks h q ↔
      ∃ handle, handle? = some handle ∧ h = [] ∧ q = .broker (.revoke handle) := by
  cases handle? with
  | none => simp [revokeIfAny]
  | some handle =>
      simp only [revokeIfAny, bind_def, bind_revoke, asks_ask, Option.some.injEq, exists_eq_left']
      constructor
      · rintro (hh | ⟨reply, h', rfl, hasks⟩)
        · exact hh
        · rcases reply with fault | acknowledged <;> simp at hasks
      · exact Or.inl

/-- A cancellation makes four calls at most. -/
theorem asksAtMost_cancel (id : TaskId) : (cancel id).AsksAtMost 4 := by
  simp only [cancel, bind_def, bind_get]
  refine .ask fun reply => ?_
  rcases reply with fault | _ | record
  · exact .done _ 3
  · exact .done _ 3
  · simp only
    split
    · exact .done _ 3
    · have hrevoke : (revokeIfAny record.handle).AsksAtMost 1 := by
        cases record.handle with
        | none => exact .done _ 1
        | some handle =>
            simp only [revokeIfAny, bind_def, bind_revoke]
            refine .ask fun answer => ?_
            rcases answer with fault | acknowledged <;> exact .done _ 0
      refine AsksAtMost.bind (m := 2) hrevoke fun acknowledged => ?_
      simp only [bind_now, bind_finish]
      refine .ask fun endedAt => .ask fun w => ?_
      rcases w with fault | _ | current | _ <;> exact .done _ 0

/-- **The course of a cancellation**: it ends at once if there is no open record, or else it has the
job stopped, reads the clock and writes. -/
theorem ends_cancel {r : Except Fault Cancellation} (hends : (cancel id).Ends h r) :
    (∃ reply, h = [⟨.store (.get id), reply⟩] ∧
        (∀ record, reply = .ok (some record) → record.isTerminal = true) ∧
        r = Cancellation.ofRecord id reply) ∨
      ∃ record acknowledged front endedAt w, record.isTerminal = false ∧
        (revokeIfAny record.handle).Ends front acknowledged ∧
        h = ⟨.store (.get id), .ok (some record)⟩ :: (front ++
          [⟨.now, endedAt⟩, ⟨.store (.finish id (cancellation endedAt)), w⟩]) ∧
        r = Cancellation.ofWrite id acknowledged w := by
  simp only [cancel, bind_def, bind_get, ends_ask] at hends
  obtain ⟨reply, h', rfl, hends⟩ := hends
  rcases reply with fault | _ | record
  · obtain ⟨rfl, rfl⟩ := ends_pure.1 hends
    exact Or.inl ⟨_, rfl, by simp, rfl⟩
  · obtain ⟨rfl, rfl⟩ := ends_pure.1 hends
    exact Or.inl ⟨_, rfl, by simp, rfl⟩
  · simp only at hends
    cases hopen : record.isTerminal with
    | true =>
        simp only [hopen, if_true, ends_pure] at hends
        obtain ⟨rfl, rfl⟩ := hends
        exact Or.inl ⟨_, rfl, by simp [hopen], rfl⟩
    | false =>
        simp only [hopen, Bool.false_eq_true, if_false] at hends
        obtain ⟨acknowledged, front, h₂, rfl, hrevoke, hends⟩ := ends_bind.1 hends
        simp only [bind_now, bind_finish, ends_ask] at hends
        obtain ⟨endedAt, h₃, rfl, w, h₄, rfl, hw⟩ := hends
        refine Or.inr ⟨record, acknowledged, front, endedAt, w, hopen, hrevoke, ?_⟩
        rcases w with fault | _ | current | _ <;> obtain ⟨rfl, rfl⟩ := ends_pure.1 hw <;>
          exact ⟨rfl, rfl⟩

/-- The course of a cancellation that has cancelled its task. -/
theorem ends_cancel_cancelled {acknowledged : Bool}
    (hends : (cancel id).Ends h (.ok (.cancelled acknowledged))) :
    ∃ record front endedAt, (revokeIfAny record.handle).Ends front acknowledged ∧
      h = ⟨.store (.get id), .ok (some record)⟩ :: (front ++
        [⟨.now, endedAt⟩, ⟨.store (.finish id (cancellation endedAt)), .ok .applied⟩]) := by
  rcases ends_cancel hends with
    ⟨reply, -, -, hr⟩ | ⟨record, _, front, endedAt, w, -, hfront, rfl, hr⟩
  · rcases reply with fault | _ | found <;> cases hr
  · rcases w with fault | _ | current | _
    · cases hr
    · cases hr
      exact ⟨record, front, endedAt, hfront, rfl⟩
    · cases hr
    · cases hr

/-- The write of a cancellation that has cancelled its task was applied. -/
theorem applied_of_ends_cancelled {acknowledged : Bool} {u : FinalUpdate}
    {w : Except Store.Fault Store.Outcome}
    (hends : (cancel id).Ends h (.ok (.cancelled acknowledged)))
    (hmem : ⟨.store (.finish id u), w⟩ ∈ h) : w = .ok .applied ∧ u.status = .cancelled := by
  obtain ⟨record, front, endedAt, hfront, rfl⟩ := ends_cancel_cancelled hends
  have hlast : u = cancellation endedAt ∧ w = .ok .applied := by
    rcases ends_revokeIfAny.1 hfront with ⟨-, rfl, -⟩ | ⟨_, _, -, rfl, -⟩ <;> simpa using hmem
  obtain ⟨rfl, rfl⟩ := hlast
  exact ⟨rfl, rfl⟩

/-- What a cancellation asks: for the record, that the job be stopped, for the time, and at last
that the record be ended. -/
theorem asks_cancel (hasks : (cancel id).Asks h q) :
    (h = [] ∧ q = .store (.get id)) ∨
      ∃ record, record.isTerminal = false ∧
        ((∃ handle, record.handle = some handle ∧ q = .broker (.revoke handle) ∧
            h = [⟨.store (.get id), .ok (some record)⟩]) ∨
          ∃ acknowledged front, (revokeIfAny record.handle).Ends front acknowledged ∧
            ((q = .now ∧ h = ⟨.store (.get id), .ok (some record)⟩ :: front) ∨
              ∃ endedAt, q = .store (.finish id (cancellation endedAt)) ∧
                h = ⟨.store (.get id), .ok (some record)⟩ :: (front ++ [⟨.now, endedAt⟩]))) := by
  simp only [cancel, bind_def, bind_get, asks_ask] at hasks
  rcases hasks with hget | ⟨reply, h', rfl, hasks⟩
  · exact Or.inl hget
  · rcases reply with fault | _ | record
    · simp at hasks
    · simp at hasks
    · simp only at hasks
      cases hopen : record.isTerminal with
      | true => simp [hopen] at hasks
      | false =>
          simp only [hopen, Bool.false_eq_true, if_false] at hasks
          refine Or.inr ⟨record, hopen, ?_⟩
          rcases asks_bind.1 hasks with hrevoke | ⟨acknowledged, front, h₂, rfl, hrevoke, hasks⟩
          · obtain ⟨handle, hhandle, rfl, rfl⟩ := asks_revokeIfAny.1 hrevoke
            exact Or.inl ⟨handle, hhandle, rfl, rfl⟩
          · refine Or.inr ⟨acknowledged, front, hrevoke, ?_⟩
            simp only [bind_now, bind_finish, asks_ask] at hasks
            rcases hasks with ⟨rfl, rfl⟩ | ⟨endedAt, h₃, rfl, ⟨rfl, rfl⟩ | ⟨w, h₄, rfl, hw⟩⟩
            · exact Or.inl ⟨rfl, by simp⟩
            · exact Or.inr ⟨endedAt, rfl, rfl⟩
            · rcases w with fault | _ | current | _ <;> simp at hw

/-- The record is what a cancellation asks for first. -/
theorem asks_get_cancel {k : TaskId} (hasks : (cancel id).Asks h (.store (.get k))) : h = [] := by
  rcases asks_cancel hasks with
    ⟨hnil, -⟩ | ⟨_, -, ⟨_, -, hq, -⟩ | ⟨_, _, -, ⟨hq, -⟩ | ⟨_, hq, -⟩⟩⟩
  · exact hnil
  all_goals cases hq

/-- A cancellation has the job stopped when it knows nothing but the record. -/
theorem asks_revoke_cancel {handle : Handle}
    (hasks : (cancel id).Asks h (.broker (.revoke handle))) :
    ∃ record, h = [⟨.store (.get id), .ok (some record)⟩] := by
  rcases asks_cancel hasks with
    ⟨-, hq⟩ | ⟨record, -, ⟨_, -, -, hh⟩ | ⟨_, _, -, ⟨hq, -⟩ | ⟨_, hq, -⟩⟩⟩
  · cases hq
  · exact ⟨record, hh⟩
  all_goals cases hq

/-- A cancellation writes once: it has written nothing when it comes to write. -/
theorem asks_finish_cancel {u v : FinalUpdate} {w : Except Store.Fault Store.Outcome}
    (hasks : (cancel id).Asks h (.store (.finish id u))) : ⟨.store (.finish id v), w⟩ ∉ h := by
  rcases asks_cancel hasks with
    ⟨-, hq⟩ | ⟨_, -, ⟨_, -, hq, -⟩ | ⟨_, front, hfront, ⟨hq, -⟩ | ⟨_, -, hh⟩⟩⟩
  · cases hq
  · cases hq
  · cases hq
  · rcases ends_revokeIfAny.1 hfront with ⟨-, rfl, -⟩ | ⟨_, _, -, rfl, -⟩ <;> simp [hh]

/-! ### Submitting -/

/-- The handle of a dispatched job is recorded, and if the task has ended the job is stopped. -/
theorem ends_settle {handle : Handle} {r : Except Fault TaskId}
    (hends : (settle id handle).Ends h r) :
    ∃ reply tail, h = ⟨.store (.setHandle id handle), reply⟩ :: tail ∧
      ((∃ current answer, reply = .ok (.rejected current) ∧ current.isTerminal = true ∧
          tail = [⟨.broker (.revoke handle), answer⟩]) ∨
        (∀ current, reply = .ok (.rejected current) → current.isTerminal = false) ∧ tail = []) := by
  simp only [settle, bind_def, bind_setHandle, ends_ask] at hends
  obtain ⟨reply, tail, rfl, hends⟩ := hends
  refine ⟨reply, tail, rfl, ?_⟩
  rcases reply with fault | _ | current | _
  · exact Or.inr ⟨by simp, (ends_pure.1 hends).1⟩
  · exact Or.inr ⟨by simp, (ends_pure.1 hends).1⟩
  · simp only at hends
    cases hterminal : current.isTerminal with
    | true =>
        simp only [hterminal, if_true, bind_revoke, ends_ask, ends_pure] at hends
        obtain ⟨answer, _, rfl, rfl, -⟩ := hends
        exact Or.inl ⟨current, answer, rfl, hterminal, rfl⟩
    | false =>
        simp only [hterminal, Bool.false_eq_true, if_false, ends_pure] at hends
        refine Or.inr ⟨?_, hends.1⟩
        rintro _ ⟨⟩
        exact hterminal
  · exact Or.inr ⟨by simp, (ends_pure.1 hends).1⟩

/-- The exchanges of a submission up to the moment at which its job was dispatched. -/
def dispatched (id k : TaskId) (taskType : String) (payload : Json) (createdAt : Instant)
    (handle : Handle) : List (Exchange calls) :=
  [⟨.now, createdAt⟩, ⟨.freshId, k⟩,
    ⟨.store (.insert (.fresh k taskType payload createdAt)), .ok id⟩,
    ⟨.broker (.dispatch id taskType payload), .ok handle⟩]

/-- **The course of a submission that has its job dispatched.** -/
theorem ends_submit {taskType : String} {payload : Json} {handle : Handle}
    {r : Except Fault TaskId} (hends : (submit taskType payload).Ends h r)
    (hdispatch : ⟨.broker (.dispatch id taskType payload), .ok handle⟩ ∈ h) :
    ∃ k createdAt reply tail, h = dispatched id k taskType payload createdAt handle ++
        ⟨.store (.setHandle id handle), reply⟩ :: tail ∧
      ((∃ current answer, reply = .ok (.rejected current) ∧ current.isTerminal = true ∧
          tail = [⟨.broker (.revoke handle), answer⟩]) ∨
        (∀ current, reply = .ok (.rejected current) → current.isTerminal = false) ∧ tail = []) := by
  simp only [submit, bind_def, bind_now, bind_freshId, ends_ask] at hends
  obtain ⟨createdAt, _, rfl, k, h₁, rfl, hends⟩ := hends
  cases hcreate : Record.create k taskType payload createdAt with
  | error e =>
      simp only [hcreate, ends_pure] at hends
      simp [hends.1] at hdispatch
  | ok record =>
      obtain ⟨-, rfl⟩ := Record.create_eq_ok_iff.1 hcreate
      simp only [hcreate, bind_insert, ends_ask] at hends
      obtain ⟨inserted, h₂, rfl, hends⟩ := hends
      rcases inserted with fault | inserted
      · simp [(ends_pure.1 hends).1] at hdispatch
      -- From here on the identifier is the one that the store has returned.
      · simp only [launch, bind_def, bind_dispatch, ends_ask] at hends
        obtain ⟨reply, h₃, rfl, hends⟩ := hends
        rcases reply with fault | taken
        · simp only [giveUp, bind_def, bind_now, bind_finish, ends_ask] at hends
          obtain ⟨t, _, rfl, w, h₄, rfl, hends⟩ := hends
          have hnil : h₄ = [] := by
            rcases w with e | w <;> exact (ends_pure.1 hends).1
          simp [hnil] at hdispatch
        · obtain ⟨reply, tail, rfl, htail⟩ := ends_settle hends
          -- A submission dispatches once, so that this is the dispatch that is spoken of.
          have hsame : inserted = id ∧ taken = handle := by
            rcases htail with ⟨current, answer, rfl, -, rfl⟩ | ⟨-, rfl⟩ <;>
              simpa [eq_comm] using hdispatch
          obtain ⟨rfl, rfl⟩ := hsame
          exact ⟨k, createdAt, reply, tail, rfl, htail⟩

/-- The exchanges of a submission up to the moment at which its record was written. -/
def recorded (id k : TaskId) (taskType : String) (payload : Json) (createdAt : Instant) :
    List (Exchange calls) :=
  [⟨.now, createdAt⟩, ⟨.freshId, k⟩,
    ⟨.store (.insert (.fresh k taskType payload createdAt)), .ok id⟩]

/-- What submitting may ask, each with all that was exchanged before. -/
inductive SubmitAsks (taskType : String) (payload : Json) : List (Exchange calls) → Call → Prop
  | created : SubmitAsks taskType payload [] .now
  | freshId {createdAt : Instant} : SubmitAsks taskType payload [⟨.now, createdAt⟩] .freshId
  | insert {createdAt : Instant} {k : TaskId} :
      SubmitAsks taskType payload [⟨.now, createdAt⟩, ⟨.freshId, k⟩]
        (.store (.insert (.fresh k taskType payload createdAt)))
  | dispatch {createdAt : Instant} {id k : TaskId} :
      SubmitAsks taskType payload (recorded id k taskType payload createdAt)
        (.broker (.dispatch id taskType payload))
  | ended {createdAt : Instant} {id k : TaskId} {fault : Broker.Fault} :
      SubmitAsks taskType payload (recorded id k taskType payload createdAt ++
        [⟨.broker (.dispatch id taskType payload), .error fault⟩]) .now
  | giveUp {createdAt endedAt : Instant} {id k : TaskId} {fault : Broker.Fault} :
      SubmitAsks taskType payload (recorded id k taskType payload createdAt ++
        [⟨.broker (.dispatch id taskType payload), .error fault⟩, ⟨.now, endedAt⟩])
        (.store (.finish id (undispatched endedAt fault)))
  | setHandle {createdAt : Instant} {id k : TaskId} {handle : Handle} :
      SubmitAsks taskType payload (dispatched id k taskType payload createdAt handle)
        (.store (.setHandle id handle))
  | revoke {createdAt : Instant} {id k : TaskId} {handle : Handle} {current : Status} :
      SubmitAsks taskType payload (dispatched id k taskType payload createdAt handle ++
        [⟨.store (.setHandle id handle), .ok (.rejected current)⟩]) (.broker (.revoke handle))

/-- **What a submission asks, it asks at its place**: each call has all the earlier ones before it
and nothing else. -/
theorem asks_submit {taskType : String} {payload : Json}
    (hasks : (submit taskType payload).Asks h q) : SubmitAsks taskType payload h q := by
  simp only [submit, bind_def, bind_now, bind_freshId, asks_ask] at hasks
  rcases hasks with ⟨rfl, rfl⟩ | ⟨createdAt, _, rfl, ⟨rfl, rfl⟩ | ⟨k, h₁, rfl, hasks⟩⟩
  · exact .created
  · exact .freshId
  cases hcreate : Record.create k taskType payload createdAt with
  | error e => simp [hcreate] at hasks
  | ok record =>
      obtain ⟨-, rfl⟩ := Record.create_eq_ok_iff.1 hcreate
      simp only [hcreate, bind_insert, asks_ask] at hasks
      rcases hasks with ⟨rfl, rfl⟩ | ⟨inserted, h₂, rfl, hasks⟩
      · exact .insert
      rcases inserted with fault | id
      · simp at hasks
      simp only [launch, bind_def, bind_dispatch, asks_ask] at hasks
      rcases hasks with ⟨rfl, rfl⟩ | ⟨reply, h₃, rfl, hasks⟩
      · exact .dispatch
      rcases reply with fault | handle
      · simp only [giveUp, bind_def, bind_now, bind_finish, asks_ask] at hasks
        rcases hasks with ⟨rfl, rfl⟩ | ⟨endedAt, _, rfl, ⟨rfl, rfl⟩ | ⟨w, h₄, rfl, hasks⟩⟩
        · exact .ended
        · exact .giveUp
        · rcases w with e | w <;> simp at hasks
      · simp only [settle, bind_def, bind_setHandle, asks_ask] at hasks
        rcases hasks with ⟨rfl, rfl⟩ | ⟨reply, h₄, rfl, hasks⟩
        · exact .setHandle
        rcases reply with e | _ | current | _
        · simp at hasks
        · simp at hasks
        · simp only at hasks
          split at hasks
          · simp only [bind_revoke, asks_ask, not_asks_pure, and_false, exists_false,
              or_false] at hasks
            obtain ⟨rfl, rfl⟩ := hasks
            exact .revoke
          · simp at hasks
        · simp at hasks

/-- A submission records a handle only right after its job was dispatched. -/
theorem asks_setHandle_submit {taskType : String} {payload : Json} {handle : Handle}
    (hasks : (submit taskType payload).Asks h (.store (.setHandle id handle))) :
    ∃ k createdAt, h = dispatched id k taskType payload createdAt handle := by
  cases asks_submit hasks with
  | @setHandle createdAt _ k => exact ⟨k, createdAt, rfl⟩

/-! ### Reconciling -/

/-- What reconciling a record may ask after some exchanges, each with the reasons for it. -/
inductive LookAsks (limit : TimeLimit) (id : TaskId) (reported : Option String)
    (h : List (Exchange calls)) : Call → Prop
  | get : LookAsks limit id reported h (.store (.get id))
  | now : LookAsks limit id reported h .now
  | state {record : Record} {handle : Handle} :
      ⟨.store (.get id), .ok (some record)⟩ ∈ h → record.isTerminal = false →
      record.handle = some handle → LookAsks limit id reported h (.broker (.state handle))
  | detail {handle : Handle} {remote : RemoteState} :
      ⟨.broker (.state handle), .ok remote⟩ ∈ h → remote.isDead = true →
      LookAsks limit id reported h (.broker (.failureDetail handle))
  | late {record : Record} {asked endedAt : Instant} {report : FailureReport} :
      ⟨.store (.get id), .ok (some record)⟩ ∈ h → record.isTerminal = false → ⟨.now, asked⟩ ∈ h →
      FailureReport.ofLimit? limit record.createdAt asked = some report → ⟨.now, endedAt⟩ ∈ h →
      LookAsks limit id reported h (.store (.finish id (report.toUpdate endedAt)))
  | told {record : Record} {detail : String} {kind : FailureKind} {endedAt : Instant} :
      ⟨.store (.get id), .ok (some record)⟩ ∈ h → record.isTerminal = false →
      reported = some detail → Verdict.ofReportedFailure record.status = .fail kind →
      ⟨.now, endedAt⟩ ∈ h → LookAsks limit id reported h
        (.store (.finish id ((FailureReport.byWorker kind detail).toUpdate endedAt)))
  | dead {record : Record} {handle : Handle} {remote : RemoteState} {kind : FailureKind}
      {detail : Option String} {endedAt : Instant} :
      ⟨.store (.get id), .ok (some record)⟩ ∈ h → record.isTerminal = false →
      record.handle = some handle → ⟨.broker (.state handle), .ok remote⟩ ∈ h →
      Verdict.of record.status remote = .fail kind → ⟨.now, endedAt⟩ ∈ h →
      LookAsks limit id reported h (.store (.finishFrom id record.status
        ((FailureReport.fromRemote kind remote detail).toUpdate endedAt)))

variable {limit : TimeLimit} {reported : Option String}

/-- Reasons remain reasons after more exchanges. -/
theorem LookAsks.mono {h' : List (Exchange calls)} (hq : LookAsks limit id reported h q)
    (hsub : h ⊆ h') : LookAsks limit id reported h' q := by
  cases hq with
  | get => exact .get
  | now => exact .now
  | state hget hopen hhandle => exact .state (hsub hget) hopen hhandle
  | detail hstate hdead => exact .detail (hsub hstate) hdead
  | late hget hopen hasked hreport hended =>
      exact .late (hsub hget) hopen (hsub hasked) hreport (hsub hended)
  | told hget hopen hreported hkind hended =>
      exact .told (hsub hget) hopen hreported hkind (hsub hended)
  | dead hget hopen hhandle hstate hkind hended =>
      exact .dead (hsub hget) hopen hhandle (hsub hstate) hkind (hsub hended)

/-- The call of a write that ends a task; if a stage is given, only while the record is still at
it. -/
def finishCall (id : TaskId) : Option Status → FinalUpdate → Call
  | some stage, update => .store (.finishFrom id stage update)
  | none, update => .store (.finish id update)

/-- A failure is written at the time that was read just before. -/
theorem asks_writeFailure {source : Option Status} {report : FailureReport}
    (hasks : (writeFailure id source report).Asks h q) :
    (h = [] ∧ q = .now) ∨ ∃ endedAt, h = [⟨.now, endedAt⟩] ∧
      q = finishCall id source (report.toUpdate endedAt) := by
  cases source with
  | none =>
      simp only [writeFailure, finishGuarded, bind_def, bind_now, bind_finish, asks_ask,
        not_asks_pure, and_false, exists_false, or_false] at hasks
      rcases hasks with hnow | ⟨endedAt, _, rfl, rfl, rfl⟩
      · exact Or.inl hnow
      · exact Or.inr ⟨endedAt, rfl, rfl⟩
  | some stage =>
      simp only [writeFailure, finishGuarded, bind_def, bind_now, bind_finishFrom, asks_ask,
        not_asks_pure, and_false, exists_false, or_false] at hasks
      rcases hasks with hnow | ⟨endedAt, _, rfl, rfl, rfl⟩
      · exact Or.inl hnow
      · exact Or.inr ⟨endedAt, rfl, rfl⟩

/-- The broker is asked for details of a dead job only. -/
theorem asks_evidence {handle : Handle} {remote : RemoteState}
    (hasks : (evidence handle remote).Asks h q) :
    remote.isDead = true ∧ q = .broker (.failureDetail handle) := by
  unfold evidence at hasks
  split at hasks
  · next hdead =>
      simp only [bind_def, bind_failureDetail, asks_ask] at hasks
      rcases hasks with ⟨-, rfl⟩ | ⟨reply, h', -, hasks⟩
      · exact ⟨hdead, rfl⟩
      · rcases reply with fault | detail <;> simp at hasks
  · simp at hasks

theorem asks_judge {status : Status} {handle : Handle}
    (hasks : (judge id status handle).Asks h q) :
    (h = [] ∧ q = .broker (.state handle)) ∨
      ∃ remote h', h = ⟨.broker (.state handle), .ok remote⟩ :: h' ∧
        ∃ kind, Verdict.of status remote = .fail kind ∧
          ((remote.isDead = true ∧ q = .broker (.failureDetail handle)) ∨ q = .now ∨
            ∃ detail endedAt, ⟨.now, endedAt⟩ ∈ h' ∧ q = .store (.finishFrom id status
              ((FailureReport.fromRemote kind remote detail).toUpdate endedAt))) := by
  simp only [judge, bind_def, bind_remoteState, asks_ask] at hasks
  rcases hasks with hstate | ⟨reply, h', rfl, hasks⟩
  · exact Or.inl hstate
  rcases reply with fault | remote
  · simp at hasks
  simp only at hasks
  refine Or.inr ⟨remote, h', rfl, ?_⟩
  cases hverdict : Verdict.of status remote with
  | leave reason => simp [hverdict] at hasks
  | fail kind =>
      simp only [hverdict] at hasks
      refine ⟨kind, rfl, ?_⟩
      rcases asks_bind.1 hasks with hdetail | ⟨detail, h₁, h₂, rfl, -, hwrite⟩
      · exact Or.inl (asks_evidence hdetail)
      · rcases asks_writeFailure hwrite with ⟨-, rfl⟩ | ⟨endedAt, rfl, rfl⟩
        · exact Or.inr (Or.inl rfl)
        · exact Or.inr (Or.inr ⟨detail, endedAt, by simp, rfl⟩)

/-- What one look at a record asks, it asks for a reason. -/
theorem asks_examine (hasks : (examine limit id reported).Asks h q) :
    LookAsks limit id reported h q := by
  simp only [examine, bind_def, bind_get, asks_ask] at hasks
  rcases hasks with ⟨-, rfl⟩ | ⟨reply, h', rfl, hasks⟩
  · exact .get
  rcases reply with fault | _ | record
  · simp at hasks
  · simp at hasks
  simp only at hasks
  cases hopen : record.isTerminal with
  | true => simp [hopen] at hasks
  | false =>
      simp only [hopen, Bool.false_eq_true, if_false, bind_now, asks_ask] at hasks
      rcases hasks with ⟨-, rfl⟩ | ⟨asked, h₁, rfl, hasks⟩
      · exact .now
      have hget : ⟨.store (.get id), .ok (some record)⟩ ∈
          (⟨.store (.get id), .ok (some record)⟩ :: ⟨.now, asked⟩ :: h₁ : List (Exchange calls)) :=
        List.mem_cons_self
      have hasked : ⟨.now, asked⟩ ∈
          (⟨.store (.get id), .ok (some record)⟩ :: ⟨.now, asked⟩ :: h₁ : List (Exchange calls)) :=
        List.mem_cons_of_mem _ List.mem_cons_self
      split at hasks
      · next report hreport =>
          rcases asks_writeFailure hasks with ⟨-, rfl⟩ | ⟨endedAt, rfl, rfl⟩
          · exact .now
          · exact .late hget hopen hasked hreport (by simp)
      · next detail hreport =>
          cases hverdict : Verdict.ofReportedFailure record.status with
          | leave reason => simp [judgeReported, hverdict] at hasks
          | fail kind =>
              simp only [judgeReported, hverdict] at hasks
              rcases asks_writeFailure hasks with ⟨-, rfl⟩ | ⟨endedAt, rfl, rfl⟩
              · exact .now
              · exact .told hget hopen rfl hverdict (by simp)
      · simp at hasks
      · next handle hreport hhandle =>
          rcases asks_judge hasks with ⟨-, rfl⟩ | ⟨remote, h₂, rfl, kind, hkind, hq⟩
          · exact .state hget hopen hhandle
          · rcases hq with ⟨hdead, rfl⟩ | rfl | ⟨detail, endedAt, hended, rfl⟩
            · exact .detail (by simp) hdead
            · exact .now
            · exact .dead hget hopen hhandle (by simp) hkind (by simp [hended])

/-- What reconciling asks, it asks for a reason, in its first look or in the second. -/
theorem asks_reconcile (hasks : (reconcile limit id).Asks h q) : LookAsks limit id none h q := by
  simp only [reconcile, bind_def] at hasks
  rcases asks_bind.1 hasks with hfirst | ⟨result, h₁, h₂, rfl, -, hasks⟩
  · exact asks_examine hfirst
  · split at hasks
    · split at hasks
      · simp at hasks
      -- The reasons of the second look are exchanges of its own, and these are the last ones.
      · exact (asks_examine hasks).mono (List.subset_append_right h₁ h₂)
    · simp at hasks

/-! ### How many calls reconciling makes -/

theorem asksAtMost_writeFailure (id : TaskId) (source : Option Status) (report : FailureReport) :
    (writeFailure id source report).AsksAtMost 2 := by
  cases source with
  | none => exact .ask fun _ => .ask fun _ => .done _ 0
  | some stage => exact .ask fun _ => .ask fun _ => .done _ 0

theorem asksAtMost_evidence (handle : Handle) (remote : RemoteState) :
    (evidence handle remote).AsksAtMost 1 := by
  unfold evidence
  split
  · refine .ask fun reply => ?_
    rcases reply with fault | detail <;> exact .done _ 0
  · exact .done _ 1

theorem asksAtMost_judge (id : TaskId) (status : Status) (handle : Handle) :
    (judge id status handle).AsksAtMost 4 := by
  simp only [judge, bind_def, bind_remoteState]
  refine .ask fun reply => ?_
  rcases reply with fault | remote
  · exact .done _ 3
  · simp only
    split
    · exact .done _ 3
    · exact (asksAtMost_evidence handle remote).bind fun _ => asksAtMost_writeFailure id _ _

theorem asksAtMost_examine (limit : TimeLimit) (id : TaskId) (reported : Option String) :
    (examine limit id reported).AsksAtMost 6 := by
  simp only [examine, bind_def, bind_get]
  refine .ask fun reply => ?_
  rcases reply with fault | _ | record
  · exact .done _ 5
  · exact .done _ 5
  · simp only
    split
    · exact .done _ 5
    · simp only [bind_now]
      refine .ask fun asked => ?_
      split
      · exact (asksAtMost_writeFailure id none _).mono (by omega)
      · unfold judgeReported
        split
        · exact .done _ 4
        · exact (asksAtMost_writeFailure id none _).mono (by omega)
      · exact .done _ 4
      · exact asksAtMost_judge id record.status _

/-- Reconciling makes twelve calls at most, six for each look. -/
theorem asksAtMost_reconcile (limit : TimeLimit) (id : TaskId) :
    (reconcile limit id).AsksAtMost 12 := by
  simp only [reconcile, bind_def]
  refine AsksAtMost.bind (asksAtMost_examine limit id none) (m := 6) fun result => ?_
  split
  · split
    · exact .done _ 6
    · exact asksAtMost_examine limit id none
  · exact .done _ 6

end TaskLedger.Service
