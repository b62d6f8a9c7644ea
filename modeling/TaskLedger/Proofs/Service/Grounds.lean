import TaskLedger.Proofs.Service.Course
import TaskLedger.Service.JobFailure
import TaskLedger.Service.Lookup
import TaskLedger.Service.Progress
import TaskLedger.Service.Sweep

/-!
**The grounds on which calls are made.**

Some calls are made only after others.  A record that is written was created at a time that was read
before, its job is dispatched only after that, and only a handle that the broker has given is recorded.
A job's state is asked for right after the record was read and the clock, and only if the task is
within its limit.  And whoever ends a task leaves a line in its log, which says that the task has
vanished only if the broker has said that it does not know the job.

This is all that is used of the operations where it matters how long a broker remembers.  It holds of
an operation whatever the replies are, and it is shown for an operation from its parts.

Main definitions:

* `TaskLedger.Service.Call.Grounds` — the grounds of a call, in what was exchanged before;
* `TaskLedger.Service.Grounded` — a dialogue that makes no call without grounds;
* `TaskLedger.Service.User` — those who use the service: submitters, jobs, sweepers and others.

Main results:

* `TaskLedger.Service.Grounded.bind` — grounded dialogues that follow each other are grounded;
* `TaskLedger.Service.grounded_action` — **no user of the service makes a call without grounds**.
-/

set_option autoImplicit false

namespace TaskLedger.Service

open Dialogue

/-! ### Grounds -/

/-- The grounds of a call, in what was exchanged before. -/
def Call.Grounds (limit : TimeLimit) (h : List (Exchange calls)) : Call → Prop
  | .store (.insert record) => ∃ id taskType payload createdAt,
      record = .fresh id taskType payload createdAt ∧ ⟨.now, createdAt⟩ ∈ h
  | .store (.setHandle id handle) =>
      ∃ taskType payload, ⟨.broker (.dispatch id taskType payload), .ok handle⟩ ∈ h
  | .store (.finish _ update) | .store (.finishFrom _ _ update) =>
      ∃ line, update.logMessage = some line ∧
        (line = FailureKind.vanished.logLine → ∃ handle, ⟨.broker (.state handle), .ok .unknown⟩ ∈ h)
  | .broker (.dispatch id _ _) => ∃ record, ⟨.store (.insert record), .ok id⟩ ∈ h
  | .broker (.state handle) => ∃ front id record asked,
      h = front ++ [⟨.store (.get id), .ok (some record)⟩, ⟨.now, asked⟩] ∧
        record.handle = some handle ∧
        FailureReport.ofLimit? limit record.createdAt asked = none
  | .store (.get _) | .store (.markRunning _) | .store (.appendLog _ _) | .store .listOpen
  | .store .counts | .broker (.failureDetail _) | .broker (.revoke _) | .now | .freshId => True

variable {limit : TimeLimit} {α β : Type}

/-- What was exchanged still earlier takes no grounds away. -/
theorem Call.Grounds.prepend {h : List (Exchange calls)} {q : Call} (hq : q.Grounds limit h)
    (front : List (Exchange calls)) : q.Grounds limit (front ++ h) := by
  have hmem : ∀ {x}, x ∈ h → x ∈ front ++ h := fun hx => List.mem_append_right _ hx
  cases q with
  | now | freshId => trivial
  | store q =>
      cases q with
      | insert record =>
          obtain ⟨id, taskType, payload, createdAt, hrecord, hread⟩ := hq
          exact ⟨id, taskType, payload, createdAt, hrecord, hmem hread⟩
      | setHandle id handle =>
          obtain ⟨taskType, payload, hdispatch⟩ := hq
          exact ⟨taskType, payload, hmem hdispatch⟩
      | finish | finishFrom =>
          obtain ⟨line, hline, hvanished⟩ := hq
          exact ⟨line, hline, fun heq => (hvanished heq).imp fun _ hx => hmem hx⟩
      | get | markRunning | appendLog | listOpen | counts => trivial
  | broker q =>
      cases q with
      | dispatch =>
          obtain ⟨record, hinsert⟩ := hq
          exact ⟨record, hmem hinsert⟩
      | state handle =>
          obtain ⟨before, id, record, asked, rfl, hhandle, hlimit⟩ := hq
          exact ⟨front ++ before, id, record, asked, by simp, hhandle, hlimit⟩
      | failureDetail | revoke => trivial

/-- A dialogue that makes no call without grounds, after some exchanges. -/
inductive Grounded (limit : TimeLimit) : List (Exchange calls) → Action α → Prop
  | done {h : List (Exchange calls)} (r : α) : Grounded limit h (.done r)
  | ask {h : List (Exchange calls)} {q : Call} {next : q.Reply → Action α} :
      q.Grounds limit h → (∀ a, Grounded limit (h ++ [⟨q, a⟩]) (next a)) →
      Grounded limit h (.ask (I := calls) q next)

namespace Grounded

variable {h : List (Exchange calls)}

theorem prepend {d : Action α} (hd : Grounded limit h d) (front : List (Exchange calls)) :
    Grounded limit (front ++ h) d := by
  induction hd with
  | done r => exact .done r
  | ask hq _ ih =>
      refine .ask (hq.prepend front) fun a => ?_
      rw [List.append_assoc]
      exact ih a

/-- What is grounded from its beginning is grounded after anything else. -/
theorem after {d : Action α} (hd : Grounded limit [] d) (h : List (Exchange calls)) :
    Grounded limit h d := by
  simpa using hd.prepend h

/-- **Grounded dialogues that follow each other are grounded.** -/
theorem bind {d : Action α} {f : α → Action β} (hd : Grounded limit h d)
    (hf : ∀ r, Grounded limit [] (f r)) : Grounded limit h (Dialogue.bind d f) := by
  induction hd with
  | done r => exact (hf r).after _
  | ask hq _ ih => exact .ask hq ih

/-- What is left of a grounded dialogue is grounded, after what was exchanged. -/
theorem leaves {d rest : Action α} {more : List (Exchange calls)} (hd : Grounded limit h d)
    (hrest : d.Leaves more rest) : Grounded limit (h ++ more) rest := by
  induction hrest generalizing h with
  | all d => simpa using hd
  | later a _ ih =>
      cases hd with
      | ask _ hnext => simpa using ih (hnext a)

/-- A call is made on its grounds. -/
theorem grounds_of_asks {d : Action α} {q : Call} {more : List (Exchange calls)}
    (hd : Grounded limit h d) (hasks : d.Asks more q) : q.Grounds limit (h ++ more) := by
  obtain ⟨next, hrest⟩ := hasks
  cases hd.leaves hrest with
  | ask hq => exact hq

/-- A call that needs no grounds. -/
theorem request {q : Call} (hq : q.Grounds limit h) :
    Grounded limit h (Dialogue.request (I := calls) q) :=
  .ask hq fun a => .done a

end Grounded

/-! ### The operations -/

/-- Whoever ends a task with a line that does not say that it has vanished needs no other grounds. -/
theorem grounds_of_line {h : List (Exchange calls)} {update : FinalUpdate} {line : String}
    (hupdate : update.logMessage = some line) (hline : line ≠ FailureKind.vanished.logLine) :
    ∃ line, update.logMessage = some line ∧
      (line = FailureKind.vanished.logLine →
        ∃ handle, (⟨.broker (.state handle), .ok .unknown⟩ : Exchange calls) ∈ h) :=
  ⟨line, hupdate, fun heq => absurd heq hline⟩

theorem grounded_submit (taskType : String) (payload : Json) :
    Grounded limit [] (submit taskType payload) := by
  simp only [submit, bind_def, bind_now, bind_freshId]
  refine .ask trivial fun createdAt => .ask trivial fun k => ?_
  cases hcreate : Record.create k taskType payload createdAt with
  | error e => exact .done _
  | ok record =>
      obtain ⟨-, rfl⟩ := Record.create_eq_ok_iff.1 hcreate
      simp only [bind_insert]
      refine .ask ⟨k, taskType, payload, createdAt, rfl, by simp⟩ fun inserted => ?_
      rcases inserted with fault | id
      · exact .done _
      · simp only [launch, bind_def, bind_dispatch]
        refine .ask ⟨.fresh k taskType payload createdAt, by simp⟩ fun reply => ?_
        rcases reply with fault | handle
        · simp only [giveUp, bind_def, bind_now, bind_finish]
          refine .ask trivial fun endedAt => .ask (grounds_of_line rfl (by decide)) fun w => ?_
          rcases w with e | o <;> exact .done _
        · simp only [settle, bind_def, bind_setHandle]
          refine .ask ⟨taskType, payload, by simp⟩ fun w => ?_
          rcases w with e | _ | current | _
          · exact .done _
          · exact .done _
          · simp only
            split
            · exact .ask trivial fun _ => .done _
            · exact .done _
          · exact .done _

theorem grounded_cancel (id : TaskId) : Grounded limit [] (cancel id) := by
  simp only [cancel, bind_def, bind_get]
  refine .ask trivial fun reply => ?_
  rcases reply with fault | _ | record
  · exact .done _
  · exact .done _
  · simp only
    split
    · exact .done _
    · have hrevoke : Grounded limit [] (revokeIfAny record.handle) := by
        cases record.handle with
        | none => exact .done _
        | some handle =>
            simp only [revokeIfAny, bind_def, bind_revoke]
            refine .ask trivial fun answer => ?_
            rcases answer with fault | acknowledged <;> exact .done _
      refine (hrevoke.after _).bind fun acknowledged => ?_
      simp only [bind_now, bind_finish]
      refine .ask trivial fun endedAt => .ask (grounds_of_line rfl (by decide)) fun w => ?_
      rcases w with fault | _ | current | _ <;> exact .done _

/-- A failure is written on the grounds of its line. -/
theorem grounded_writeFailure {h : List (Exchange calls)} {id : TaskId} {source : Option Status}
    {report : FailureReport}
    (hvanished : report.kind = .vanished → ∃ handle, ⟨.broker (.state handle), .ok .unknown⟩ ∈ h) :
    Grounded limit h (writeFailure id source report) := by
  have hline : ∀ endedAt : Instant, ∃ line, (report.toUpdate endedAt).logMessage = some line ∧
      (line = FailureKind.vanished.logLine → ∃ handle,
        ⟨.broker (.state handle), .ok .unknown⟩ ∈ h ++ [(⟨.now, endedAt⟩ : Exchange calls)]) := by
    intro endedAt
    refine ⟨report.kind.logLine, rfl, fun heq => ?_⟩
    have hkind : report.kind = .vanished := by
      revert heq
      cases report.kind <;> decide
    exact (hvanished hkind).imp fun _ hx => List.mem_append_left _ hx
  cases source with
  | none =>
      exact .ask trivial fun endedAt => .ask (hline endedAt) fun w => .done _
  | some stage =>
      exact .ask trivial fun endedAt => .ask (hline endedAt) fun w => .done _

/-- A state that is asked for was asked for on its grounds, and what follows from it has them. -/
theorem grounded_judge {h : List (Exchange calls)} {id : TaskId} {status : Status} {handle : Handle}
    (hstate : (Call.broker (.state handle)).Grounds limit h) :
    Grounded limit h (judge id status handle) := by
  simp only [judge, bind_def, bind_remoteState]
  refine .ask hstate fun reply => ?_
  rcases reply with fault | remote
  · exact .done _
  · simp only
    split
    · exact .done _
    · next kind hverdict =>
      -- A task is said to have vanished only if its job is unknown.
      have hunknown : kind = .vanished → remote = .unknown := by
        rintro rfl
        rcases Verdict.of_eq_fail_iff.1 hverdict with ⟨h, -⟩ | ⟨h, -⟩ | ⟨-, -, h⟩
        · cases h
        · cases h
        · exact h
      have hwrite : ∀ detail more, Grounded limit
          (h ++ [⟨.broker (.state handle), .ok remote⟩] ++ more)
          (writeFailure id (some status) (.fromRemote kind remote detail)) := by
        intro detail more
        refine grounded_writeFailure fun hkind => ⟨handle, ?_⟩
        rw [hunknown hkind]
        simp
      simp only [evidence]
      split
      · simp only [bind_def, bind_failureDetail, bind_ask]
        refine .ask trivial fun reply => ?_
        rcases reply with fault | detail <;> exact hwrite _ _
      · rw [pure_def, bind_done]
        simpa using hwrite none []

/-- A task past its limit has timed out. -/
theorem kind_of_ofLimit? {createdAt now : Instant} {report : FailureReport}
    (h : FailureReport.ofLimit? limit createdAt now = some report) : report.kind = .timedOut := by
  unfold FailureReport.ofLimit? at h
  split at h
  · obtain ⟨-, hreport⟩ := Option.ite_none_right_eq_some.1 h
    rw [← Option.some.inj hreport]
    rfl
  · cases h

theorem grounded_examine (id : TaskId) (reported : Option String) :
    Grounded limit [] (examine limit id reported) := by
  simp only [examine, bind_def, bind_get, bind_now]
  refine .ask trivial fun reply => ?_
  rcases reply with fault | _ | record
  · exact .done _
  · exact .done _
  · simp only
    split
    · exact .done _
    · refine .ask trivial fun asked => ?_
      split
      · next report hreport =>
        refine grounded_writeFailure fun hkind => ?_
        rw [kind_of_ofLimit? hreport] at hkind
        cases hkind
      · next detail hreport =>
        unfold judgeReported
        split
        · exact .done _
        · next kind hverdict =>
          refine grounded_writeFailure fun hkind => ?_
          have hnot : Verdict.ofReportedFailure record.status ≠ .fail .vanished := by
            cases record.status <;> decide
          exact absurd (hkind ▸ hverdict) hnot
      · exact .done _
      · next handle hreport hhandle =>
        exact grounded_judge ⟨[], id, record, asked, rfl, hhandle, hreport⟩

theorem grounded_reconcile (id : TaskId) : Grounded limit [] (reconcile limit id) := by
  refine (grounded_examine id none).bind fun r => ?_
  split
  · split
    · exact .done _
    · exact grounded_examine id none
  · exact .done _

theorem grounded_lookup (id : TaskId) : Grounded limit [] (lookup limit id) := by
  refine (grounded_reconcile id).bind fun _ => .ask trivial fun reply => ?_
  rcases reply with fault | record? <;> exact .done _

theorem grounded_onFailure (args : Json) (failure : JobFailure) :
    Grounded limit [] (onFailure limit args failure) := by
  unfold onFailure
  split
  · exact .done _
  · refine (grounded_examine _ _).bind fun r => ?_
    rcases r with fault | finding <;> exact .done _

theorem grounded_reconcileAll (ids : List TaskId) (report : SweepReport) :
    Grounded limit [] (reconcileAll limit ids report) := by
  induction ids generalizing report with
  | nil => exact .done _
  | cons id ids ih => exact (grounded_reconcile id).bind fun result => ih _

theorem grounded_sweep (maxConcurrent : UInt64) : Grounded limit [] (sweep limit maxConcurrent) := by
  rw [sweep_eq]
  refine .ask trivial fun listed => ?_
  rcases listed with fault | records
  · exact .done _
  · simp only
    split
    · exact .done _
    · exact ((grounded_reconcileAll _ _).bind fun report => .done _).after _

/-- A report of a job on its own end. -/
theorem grounded_finishNow (id : TaskId) (update : Instant → FinalUpdate) {line : String}
    (hupdate : ∀ t, (update t).logMessage = some line) (hline : line ≠ FailureKind.vanished.logLine) :
    Grounded limit [] (now >>= fun t => finish id (update t)) :=
  .ask trivial fun t => .ask (grounds_of_line (hupdate t) hline) fun _ => .done _

/-! ### The users of the service -/

/-- Those who use the service: users who submit, cancel and look up tasks, reconciliations, sweeps
that reconcile one task after the other, the listing of a sweep that reconciles them side by side, the
handler of failed jobs, and the jobs themselves. -/
inductive User where
  | submit (taskType : String) (payload : Json)
  | cancel (id : TaskId)
  | lookup (id : TaskId)
  | tally
  | reconcile (id : TaskId)
  | sweep (maxConcurrent : UInt64)
  | list
  | onFailure (args : Json) (failure : JobFailure)
  | start (id : TaskId)
  | log (id : TaskId) (message : String)
  | complete (id : TaskId) (result : Json)
  | fail (id : TaskId) (userMessage technicalDetail : String)
  | shouldStop (id : TaskId)

/-- What the use of the service results in. -/
abbrev User.Result : User → Type
  | .submit _ _ => Except Fault TaskId
  | .cancel _ => Except Fault Cancellation
  | .lookup _ => Except Fault (Option Record)
  | .tally => Except Fault Store.Counts
  | .reconcile _ => Reconciled
  | .sweep _ => Except SweepFault SweepReport
  | .list => Except Store.Fault (List Record)
  | .onFailure _ _ => Except CallbackFault Finding
  | .start _ | .log _ _ | .complete _ _ | .fail _ _ _ => Except Store.Fault Store.Outcome
  | .shouldStop _ => Except Store.Fault Bool

/-- The calls of a user, with one limit for all tasks. -/
def User.action (limit : TimeLimit) : (u : User) → Action u.Result
  | .submit taskType payload => Service.submit taskType payload
  | .cancel id => Service.cancel id
  | .lookup id => Service.lookup limit id
  | .tally => Service.tally
  | .reconcile id => Service.reconcile limit id
  | .sweep maxConcurrent => Service.sweep limit maxConcurrent
  | .list => listOpen
  | .onFailure args failure => Service.onFailure limit args failure
  | .start id => Progress.start id
  | .log id message => Progress.log id message
  | .complete id result => Progress.complete id result
  | .fail id userMessage technicalDetail => Progress.fail id userMessage technicalDetail
  | .shouldStop id => Progress.shouldStop id

/-- **No user of the service makes a call without grounds.** -/
theorem grounded_action (u : User) : Grounded limit [] (u.action limit) := by
  cases u with
  | submit taskType payload => exact grounded_submit taskType payload
  | cancel id => exact grounded_cancel id
  | lookup id => exact grounded_lookup id
  | tally =>
      refine .ask trivial fun reply => ?_
      rcases reply with fault | c <;> exact .done _
  | reconcile id => exact grounded_reconcile id
  | sweep maxConcurrent => exact grounded_sweep maxConcurrent
  | list => exact .request trivial
  | onFailure args failure => exact grounded_onFailure args failure
  | start id => exact .request trivial
  | log id message => exact .request trivial
  | complete id result =>
      exact grounded_finishNow id
        (fun t => (FinalUpdate.completed t result).withLog "Task completed") (fun _ => rfl) (by decide)
  | fail id userMessage technicalDetail =>
      exact grounded_finishNow id
        (fun t => (FinalUpdate.failed t userMessage technicalDetail).withLog "Task failed")
        (fun _ => rfl) (by decide)
  | shouldStop id =>
      refine .ask trivial fun reply => ?_
      rcases reply with fault | _ | record <;> exact .done _

end TaskLedger.Service
