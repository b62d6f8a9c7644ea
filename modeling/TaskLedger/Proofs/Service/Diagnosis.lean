import TaskLedger.Proofs.Service.Apart
import TaskLedger.Proofs.Service.FailureWrite

/-!
**What reconciling a record comes to.**

With nobody else around, what a reconciliation reports and writes is a matter of the record, the
clock and the broker as they are.  All cases are listed here, the earlier ones first: a record that is
missing or has ended; a task past its limit, whatever else is known of it; a failure that the job has
reported; a task that was not handed over yet; a broker out of reach; and at last the state of the
job, which counts as unknown if the broker has forgotten it or should have.

The list speaks of the contents of the store and of the broker only, and of instants as they are
compared in nanoseconds.  It does not look at how the operation is put together; that the operation
follows it, in what it returns and in what it leaves in the store, is proved here.

Main definitions:

* `TaskLedger.Backend.job?`, `TaskLedger.Backend.stateOf` — the job of a handle within its retention,
  and its state;
* `TaskLedger.Service.Diagnosis` — the cases, with the result and the evidence of each;
* `TaskLedger.Service.Aftermath` — what is in the store afterwards.

Main results:

* `TaskLedger.Service.exists_diagnosis` — every state of affairs is one of the cases;
* `TaskLedger.Service.Diagnosis.perform_examine` — in each case that is what one look comes to;
* `TaskLedger.Service.diagnosis_iff` — **reconciling a record comes to what its case says**.
-/

set_option autoImplicit false

namespace TaskLedger

/-! ### What the broker knows -/

namespace Backend

/-- The job of a handle, if the broker has it and at most the retention has passed since it last
changed. -/
def job? (b : Backend) (handle : Handle) : Option Broker.Job :=
  (b.broker.find? handle).filter fun job =>
    b.clock.since job.changedAt ≤ b.broker.retention.ticks

/-- The state of the job of a handle; a job that is not known is in no other. -/
def stateOf (b : Backend) (handle : Handle) : RemoteState :=
  ((b.job? handle).map Broker.Job.state).getD .unknown

theorem job?_eq_lookup (b : Backend) (handle : Handle) :
    b.job? handle = (b.broker.lookup b.clock handle).1 := by
  rw [Broker.Memory.lookup_fst, job?]
  congr 1
  funext job
  rw [Bool.eq_iff_iff, decide_eq_true_iff, Bool.not_eq_true', ← Bool.not_eq_true,
    Broker.Memory.isExpired, exceeds_iff, Int.not_lt]

end Backend

/-- The record of a task that has failed. -/
def Record.failedFor (r : Record) (kind : FailureKind) (detail : String) (now : Instant) : Record :=
  { r with
    status := .failed
    completedAt := some now
    errorMessage := some kind.userMessage
    technicalDetail := some detail
    log := r.log ++ [kind.logLine] }

namespace Service

open Dialogue

/-! ### The cases -/

/-- More than the limit has passed since a task was created. -/
def Overdue (limit : TimeLimit) (r : Record) (now : Instant) : Prop :=
  ∃ span, limit.limit = some span ∧ (span.ticks : Int) < now.since r.createdAt

/-- A task is within its limit, and its job can be asked about. -/
structure Judgeable (limit : TimeLimit) (b : Backend) (id : TaskId) (r : Record) (handle : Handle) :
    Prop where
  found : b.store.find? id = some r
  inTime : ¬ Overdue limit r b.clock
  handle : r.handle = some handle
  available : b.broker.available = true

/-- The evidence in the state of a job, with what the job has said about its failure unless that is
blank. -/
def evidenceText (state : RemoteState) (failureDetail : Option String) : String :=
  "remote state " ++ state.name ++
    match failureDetail.filter (!Text.isBlankText ·) with
    | some text => "; " ++ text
    | none => ""

/-- What reconciling a record comes to, with the evidence if the task has failed. -/
inductive Diagnosis (limit : TimeLimit) (b : Backend) (id : TaskId) :
    Option String → Reconciled → Option String → Prop
  | notFound {reported : Option String} :
      b.store.find? id = none → Diagnosis limit b id reported (.ok .notFound) none
  | ended {reported : Option String} {r : Record} :
      b.store.find? id = some r → r.status ∈ [.completed, .failed, .cancelled] →
      Diagnosis limit b id reported (.ok (.ended r.status)) none
  | timedOut {reported : Option String} {r : Record} {span : Span} :
      b.store.find? id = some r → r.status ∈ [.pending, .running] →
      limit.limit = some span → (span.ticks : Int) < b.clock.since r.createdAt →
      Diagnosis limit b id reported (.ok (.failed .timedOut))
        (some (FailureReport.timedOut span r.createdAt b.clock).technicalDetail)
  | reportedPending {r : Record} {text : String} :
      b.store.find? id = some r → r.status = .pending → ¬ Overdue limit r b.clock →
      Diagnosis limit b id (some text) (.ok (.failed .failedToStart))
        (some ("failure reported by worker: " ++ text))
  | reportedRunning {r : Record} {text : String} :
      b.store.find? id = some r → r.status = .running → ¬ Overdue limit r b.clock →
      Diagnosis limit b id (some text) (.ok (.failed .stoppedUnexpectedly))
        (some ("failure reported by worker: " ++ text))
  | notDispatched {r : Record} :
      b.store.find? id = some r → r.status ∈ [.pending, .running] → ¬ Overdue limit r b.clock →
      r.handle = none → Diagnosis limit b id none (.ok (.left .awaitingProgress)) none
  | outage {r : Record} {handle : Handle} :
      b.store.find? id = some r → r.status ∈ [.pending, .running] → ¬ Overdue limit r b.clock →
      r.handle = some handle → b.broker.available = false →
      Diagnosis limit b id none
        (.error (.broker (.unavailable "broker connection refused"))) none
  | failedToStart {r : Record} {handle : Handle} :
      Judgeable limit b id r handle → r.status = .pending →
      b.stateOf handle ∈ [.failure, .revoked, .rejected] →
      Diagnosis limit b id none (.ok (.failed .failedToStart))
        (some (evidenceText (b.stateOf handle) ((b.job? handle).bind Broker.Job.failureDetail)))
  | stopped {r : Record} {handle : Handle} :
      Judgeable limit b id r handle → r.status = .running →
      b.stateOf handle ∈ [.failure, .revoked, .rejected] →
      Diagnosis limit b id none (.ok (.failed .stoppedUnexpectedly))
        (some (evidenceText (b.stateOf handle) ((b.job? handle).bind Broker.Job.failureDetail)))
  | vanished {r : Record} {handle : Handle} :
      Judgeable limit b id r handle → r.status = .running → b.stateOf handle = .unknown →
      Diagnosis limit b id none (.ok (.failed .vanished))
        (some "remote state UNKNOWN: no record found at the remote system")
  | completionPending {r : Record} {handle : Handle} :
      Judgeable limit b id r handle → r.status ∈ [.pending, .running] →
      b.stateOf handle = .success →
      Diagnosis limit b id none (.ok (.left .completionPending)) none
  | alive {r : Record} {handle : Handle} :
      Judgeable limit b id r handle → r.status ∈ [.pending, .running] →
      b.stateOf handle ∈ [.pending, .started] →
      Diagnosis limit b id none (.ok (.left .awaitingProgress)) none
  | notYetKnown {r : Record} {handle : Handle} :
      Judgeable limit b id r handle → r.status = .pending → b.stateOf handle = .unknown →
      Diagnosis limit b id none (.ok (.left .awaitingProgress)) none

/-- The store after a reconciliation: as it was, or with one record that has failed. -/
inductive Aftermath (b : Backend) (id : TaskId) : Reconciled → Option String → Store.Memory → Prop
  | unchanged {result : Reconciled} :
      (∀ kind, result ≠ .ok (.failed kind)) → Aftermath b id result none b.store
  | failed {r : Record} {kind : FailureKind} {detail : String} :
      b.store.find? id = some r →
      Aftermath b id (.ok (.failed kind)) (some detail)
        (b.store.replace (r.failedFor kind detail b.clock))

variable {limit : TimeLimit} {b : Backend} {id : TaskId} {reported : Option String}

/-- If the task has failed, the evidence is in the record afterwards. -/
theorem Aftermath.evidence {result : Reconciled} {detail? : Option String} {after : Store.Memory}
    (h : Aftermath b id result detail? after) :
    (detail? = none ∧ ∀ kind, result ≠ .ok (.failed kind)) ∨
      (∃ kind, result = .ok (.failed kind)) ∧
        (after.find? id).bind Record.technicalDetail = detail? := by
  cases h with
  | unchanged hnot => exact Or.inl ⟨rfl, hnot⟩
  | @failed r kind detail hr =>
      have hid : r.id = id := Store.Memory.id_of_find? hr
      have hview : (b.store.replace (r.failedFor kind detail b.clock)).find? id =
          some (r.failedFor kind detail b.clock) := by
        rw [Store.Memory.find?_replace id (by simp [Record.failedFor, hid, hr])]
        exact if_pos hid
      exact Or.inr ⟨⟨kind, rfl⟩, by rw [hview]; rfl⟩

/-- What is in the store afterwards tells the evidence. -/
theorem Aftermath.evidence_unique {result : Reconciled} {detail? other? : Option String}
    {after : Store.Memory} (h : Aftermath b id result detail? after)
    (h' : Aftermath b id result other? after) : detail? = other? := by
  rcases h.evidence with ⟨rfl, hnot⟩ | ⟨⟨kind, hkind⟩, hdetail⟩
  · rcases h'.evidence with ⟨rfl, -⟩ | ⟨⟨kind, hkind⟩, -⟩
    · rfl
    · exact absurd hkind (hnot kind)
  · rcases h'.evidence with ⟨-, hnot⟩ | ⟨-, hother⟩
    · exact absurd hkind (hnot kind)
    · exact hdetail.symm.trans hother

/-! ### Every state of affairs is one of the cases -/

/-- Every state of a job that can be asked about is in one of the cases. -/
theorem Judgeable.exists_diagnosis {r : Record} {handle : Handle}
    (hj : Judgeable limit b id r handle) (hopen : r.status = .pending ∨ r.status = .running) :
    ∃ result detail?, Diagnosis limit b id none result detail? := by
  have hopen' : r.status ∈ [.pending, .running] := by simpa using hopen
  by_cases hdead : b.stateOf handle ∈ [.failure, .revoked, .rejected]
  · rcases hopen with hpending | hrunning
    · exact ⟨_, _, .failedToStart hj hpending hdead⟩
    · exact ⟨_, _, .stopped hj hrunning hdead⟩
  by_cases hlive : b.stateOf handle ∈ [.pending, .started]
  · exact ⟨_, _, .alive hj hopen' hlive⟩
  cases hstate : b.stateOf handle with
  | success => exact ⟨_, _, .completionPending hj hopen' hstate⟩
  | unknown =>
      rcases hopen with hpending | hrunning
      · exact ⟨_, _, .notYetKnown hj hpending hstate⟩
      · exact ⟨_, _, .vanished hj hrunning hstate⟩
  | pending | started => simp [hstate] at hlive
  | failure | revoked | rejected => simp [hstate] at hdead

theorem exists_diagnosis (limit : TimeLimit) (b : Backend) (id : TaskId)
    (reported : Option String) : ∃ result detail?, Diagnosis limit b id reported result detail? := by
  cases hfound : b.store.find? id with
  | none => exact ⟨_, _, .notFound hfound⟩
  | some r =>
      by_cases hended : r.status ∈ [.completed, .failed, .cancelled]
      · exact ⟨_, _, .ended hfound hended⟩
      have hopen : r.status = .pending ∨ r.status = .running := by
        revert hended
        cases r.status <;> simp
      have hopen' : r.status ∈ [.pending, .running] := by simpa using hopen
      by_cases hoverdue : Overdue limit r b.clock
      · obtain ⟨span, hspan, hexceeds⟩ := hoverdue
        exact ⟨_, _, .timedOut hfound hopen' hspan hexceeds⟩
      cases reported with
      | some text =>
          rcases hopen with hpending | hrunning
          · exact ⟨_, _, .reportedPending hfound hpending hoverdue⟩
          · exact ⟨_, _, .reportedRunning hfound hrunning hoverdue⟩
      | none =>
          cases hhandle : r.handle with
          | none => exact ⟨_, _, .notDispatched hfound hopen' hoverdue hhandle⟩
          | some handle =>
              cases havailable : b.broker.available with
              | false => exact ⟨_, _, .outage hfound hopen' hoverdue hhandle havailable⟩
              | true =>
                  exact Judgeable.exists_diagnosis ⟨hfound, hoverdue, hhandle, havailable⟩ hopen

/-! ### The limit -/

theorem ofLimit?_of_overdue {r : Record} {now : Instant} {span : Span}
    (hspan : limit.limit = some span) (hexceeds : (span.ticks : Int) < now.since r.createdAt) :
    FailureReport.ofLimit? limit r.createdAt now = some (.timedOut span r.createdAt now) := by
  have hexpired : limit.isExpired r.createdAt now = true := by
    simp only [TimeLimit.isExpired, hspan]
    exact exceeds_iff.2 hexceeds
  simp only [FailureReport.ofLimit?, hspan, hexpired, if_true]

theorem ofLimit?_of_not_overdue {r : Record} {now : Instant} (h : ¬ Overdue limit r now) :
    FailureReport.ofLimit? limit r.createdAt now = none := by
  rw [FailureReport.ofLimit?_eq_none_iff]
  cases hspan : limit.limit with
  | none => simp only [TimeLimit.isExpired, hspan]
  | some span =>
      rw [← Bool.not_eq_true]
      intro hexpired
      simp only [TimeLimit.isExpired, hspan] at hexpired
      exact h ⟨span, hspan, exceeds_iff.1 hexpired⟩

/-! ### One look with nobody else around -/

/-- An open record that is found ends as failed. -/
theorem perform_writeFailure {r : Record} (source : Option Status) (report : FailureReport)
    (hr : b.store.find? id = some r) (hopen : r.isTerminal = false)
    (hsource : ∀ stage, source = some stage → r.status = stage) :
    b.perform (writeFailure id source report) =
      (.ok (.failed report.kind),
        { b with store :=
            b.store.replace (r.failedFor report.kind report.technicalDetail b.clock) }) := by
  have hfinish : r.finish (report.toUpdate b.clock) =
      .ok (r.failedFor report.kind report.technicalDetail b.clock) :=
    Record.finish_eq_ok_iff.2 ⟨rfl, Status.canBecome_of_open hopen (Or.inl rfl), rfl⟩
  cases source with
  | none =>
      simp only [Backend.perform, writeFailure, finishGuarded, bind_def, bind_now, bind_finish,
        run_ask, Backend.answer_now, Backend.answer_store, Store.Memory.answer,
        Store.Memory.answer.done, Store.Memory.modify, hr, hfinish]
      rfl
  | some stage =>
      have hstage : Store.Memory.finishAt stage (report.toUpdate b.clock) r =
          .ok (r.failedFor report.kind report.technicalDetail b.clock) :=
        Store.Memory.finishAt_eq_ok_iff.2 ⟨hsource stage rfl, hfinish⟩
      simp only [Backend.perform, writeFailure, finishGuarded, bind_def, bind_now, bind_finishFrom,
        run_ask, Backend.answer_now, Backend.answer_store, Store.Memory.answer,
        Store.Memory.answer.done, Store.Memory.modify, hr, hstage]
      rfl

/-- A lookup of a job leaves what is known of it. -/
theorem job?_lookup (b : Backend) (k handle : Handle) :
    ({ b with broker := (b.broker.lookup b.clock k).2 } : Backend).job? handle = b.job? handle := by
  rw [Backend.job?_eq_lookup, Backend.job?_eq_lookup]
  exact b.broker.lookup_fst_lookup b.clock handle k

/-- The evidence is that of the job if the job is dead. -/
theorem perform_evidence (handle : Handle) (state : RemoteState)
    (havailable : b.broker.available = true) :
    (b.perform (evidence handle state)).1 =
        (if state.isDead then (b.job? handle).bind Broker.Job.failureDetail else none) ∧
      (b.perform (evidence handle state)).2.store = b.store ∧
        (b.perform (evidence handle state)).2.clock = b.clock := by
  unfold evidence
  cases state.isDead with
  | false => exact ⟨rfl, rfl, rfl⟩
  | true =>
      simp only [if_true, Backend.perform, bind_def, bind_failureDetail, run_ask, Backend.answer,
        Broker.Memory.answer_failureDetail b.clock _ havailable, Backend.job?_eq_lookup]
      exact ⟨rfl, rfl, rfl⟩

/-- A backend whose broker has looked a job up. -/
def afterLookup (b : Backend) (handle : Handle) : Backend :=
  { b with broker := (b.broker.lookup b.clock handle).2 }

/-- A task is judged by the state of its job. -/
theorem perform_judge (id : TaskId) (status : Status) (handle : Handle)
    (havailable : b.broker.available = true) :
    b.perform (judge id status handle) =
      match Verdict.of status (b.stateOf handle) with
      | .leave reason => (.ok (.left reason), afterLookup b handle)
      | .fail kind =>
          (afterLookup b handle).perform (Dialogue.bind (evidence handle (b.stateOf handle))
            fun detail =>
              writeFailure id (some status) (.fromRemote kind (b.stateOf handle) detail)) := by
  have hstate : b.answer (.broker (.state handle)) =
      (.ok (b.stateOf handle), afterLookup b handle) := by
    rw [Backend.answer_of_looksUp (.state handle), Broker.Memory.answer_state _ _ havailable,
      Backend.stateOf, Backend.job?_eq_lookup]
    rfl
  simp only [Backend.perform, judge, bind_def, bind_remoteState, run_ask, hstate]
  cases Verdict.of status (b.stateOf handle) <;> rfl

/-- What is looked at of an open record, in this order: its age, what the job has reported, and its
handle. -/
theorem perform_examine_of_open {r : Record} (hr : b.store.find? id = some r)
    (hopen : r.isTerminal = false) :
    b.perform (examine limit id reported) =
      match FailureReport.ofLimit? limit r.createdAt b.clock, reported, r.handle with
      | some report, _, _ => b.perform (writeFailure id none report)
      | none, some text, _ => b.perform (judgeReported id r.status text)
      | none, none, none => (.ok (.left .awaitingProgress), b)
      | none, none, some handle => b.perform (judge id r.status handle) := by
  simp only [Backend.perform, examine, bind_def, bind_get, run_ask, Backend.answer_store,
    Store.Memory.answer, hr, hopen, Bool.false_eq_true, if_false, bind_now, Backend.answer_now]
  cases FailureReport.ofLimit? limit r.createdAt b.clock with
  | some report => rfl
  | none =>
      cases reported with
      | some text => rfl
      | none => cases r.handle <;> rfl

/-- A task whose job has reported its failure ends as failed, with the report as evidence. -/
theorem perform_examine_of_reported {r : Record} {kind : FailureKind} (text : String)
    (hr : b.store.find? id = some r) (hopen : r.isTerminal = false)
    (htime : ¬ Overdue limit r b.clock)
    (hverdict : Verdict.ofReportedFailure r.status = .fail kind) :
    (b.perform (examine limit id (some text))).1 = .ok (.failed kind) ∧
      Aftermath b id (.ok (.failed kind)) (some ("failure reported by worker: " ++ text))
        (b.perform (examine limit id (some text))).2.store := by
  rw [perform_examine_of_open hr hopen, ofLimit?_of_not_overdue htime]
  simp only [judgeReported, hverdict]
  rw [perform_writeFailure none _ hr hopen (by simp)]
  exact ⟨rfl, .failed hr⟩

/-- A job that can be asked about is asked about. -/
theorem Judgeable.perform_examine {r : Record} {handle : Handle}
    (hj : Judgeable limit b id r handle) (hopen : r.isTerminal = false) :
    b.perform (examine limit id none) = b.perform (judge id r.status handle) := by
  rw [perform_examine_of_open hj.found hopen, ofLimit?_of_not_overdue hj.inTime, hj.handle]

/-- A task whose job does not tell that it has failed is left as it is. -/
theorem Judgeable.leaves {r : Record} {handle : Handle} {reason : LeaveReason}
    (hj : Judgeable limit b id r handle) (hopen : r.isTerminal = false)
    (hverdict : Verdict.of r.status (b.stateOf handle) = .leave reason) :
    (b.perform (examine limit id none)).1 = .ok (.left reason) ∧
      Aftermath b id (.ok (.left reason)) none (b.perform (examine limit id none)).2.store := by
  rw [hj.perform_examine hopen, perform_judge id r.status handle hj.available, hverdict]
  exact ⟨rfl, .unchanged (by simp)⟩

/-- A task whose job tells that it has failed ends as failed, with the evidence of the job. -/
theorem Judgeable.fails {r : Record} {handle : Handle} {kind : FailureKind}
    (hj : Judgeable limit b id r handle) (hopen : r.isTerminal = false)
    (hverdict : Verdict.of r.status (b.stateOf handle) = .fail kind) :
    (b.perform (examine limit id none)).1 = .ok (.failed kind) ∧
      Aftermath b id (.ok (.failed kind))
        (some (FailureReport.fromRemote kind (b.stateOf handle)
          (if (b.stateOf handle).isDead then (b.job? handle).bind Broker.Job.failureDetail
            else none)).technicalDetail)
        (b.perform (examine limit id none)).2.store := by
  obtain ⟨hdetail, hstore, hclock⟩ := perform_evidence (b := afterLookup b handle) handle
    (b.stateOf handle) hj.available
  have hjob : (afterLookup b handle).job? handle = b.job? handle := job?_lookup b handle handle
  rw [hjob] at hdetail
  rw [hj.perform_examine hopen, perform_judge id r.status handle hj.available, hverdict]
  simp only [Backend.perform, run_bind] at hdetail hstore hclock ⊢
  have hwrite := perform_writeFailure (b := ((evidence handle (b.stateOf handle)).run Backend.answer
    (afterLookup b handle)).2) (some r.status) (.fromRemote kind (b.stateOf handle)
      ((evidence handle (b.stateOf handle)).run Backend.answer (afterLookup b handle)).1)
    (by rw [hstore]; exact hj.found) hopen (by rintro _ ⟨⟩; rfl)
  simp only [Backend.perform] at hwrite
  rw [hwrite, hdetail, hstore, hclock]
  exact ⟨rfl, .failed hj.found⟩

/-- The evidence in a state that is known. -/
theorem technicalDetail_of_known (kind : FailureKind) {state : RemoteState}
    (hknown : state ≠ .unknown) (detail : Option String) :
    (FailureReport.fromRemote kind state detail).technicalDetail = evidenceText state detail := by
  cases hsaid : detail.filter (!Text.isBlankText ·) <;>
    simp only [FailureReport.fromRemote, FailureReport.remoteEvidence, evidenceText, if_neg hknown,
      String.append_empty, hsaid]

/-- An open task whose job has succeeded is left to report that itself. -/
theorem of_success {status : Status} (hopen : status ∈ [.pending, .running]) :
    Verdict.of status .success = .leave .completionPending := by
  cases status <;> simp at hopen <;> rfl

/-- An open task whose job waits or is at work is left alone. -/
theorem of_alive {status : Status} {state : RemoteState} (hopen : status ∈ [.pending, .running])
    (hstate : state ∈ [.pending, .started]) :
    Verdict.of status state = .leave .awaitingProgress := by
  cases status <;> simp at hopen <;> cases state <;> simp at hstate <;> rfl

/-- **In each case one look comes to what the case says.** -/
theorem Diagnosis.perform_examine {result : Reconciled} {detail? : Option String}
    (h : Diagnosis limit b id reported result detail?) :
    (b.perform (examine limit id reported)).1 = result ∧
      Aftermath b id result detail? (b.perform (examine limit id reported)).2.store := by
  have isOpen : ∀ (r : Record), r.status ∈ [.pending, .running] → r.isTerminal = false :=
    fun _ => Status.mem_openStages.1
  have isDead : ∀ {state : RemoteState}, state ∈ [.failure, .revoked, .rejected] →
      state.isDead = true ∧ state ≠ .unknown := by
    intro state hstate
    cases state <;> simp [RemoteState.isDead] at hstate ⊢
  cases h with
  | notFound hr =>
      simp only [Backend.perform, examine, bind_def, bind_get, run_ask, Backend.answer_store,
        Store.Memory.answer, hr]
      exact ⟨rfl, .unchanged (by simp)⟩
  | @ended _ r hr hended =>
      have hterminal : r.isTerminal = true := by
        simp only [Record.isTerminal]
        revert hended
        cases r.status <;> simp [Status.isTerminal]
      simp only [Backend.perform, examine, bind_def, bind_get, run_ask, Backend.answer_store,
        Store.Memory.answer, hr, hterminal, if_true]
      exact ⟨rfl, .unchanged (by simp)⟩
  | timedOut hr hopen hspan hexceeds =>
      rw [perform_examine_of_open hr (isOpen _ hopen), ofLimit?_of_overdue hspan hexceeds]
      dsimp only
      rw [perform_writeFailure none _ hr (isOpen _ hopen) (by simp)]
      exact ⟨rfl, .failed hr⟩
  | @reportedPending r text hr hpending htime =>
      refine perform_examine_of_reported text hr (isOpen r (by simp [hpending])) htime ?_
      rw [hpending]
      rfl
  | @reportedRunning r text hr hrunning htime =>
      refine perform_examine_of_reported text hr (isOpen r (by simp [hrunning])) htime ?_
      rw [hrunning]
      rfl
  | notDispatched hr hopen htime hhandle =>
      rw [perform_examine_of_open hr (isOpen _ hopen), ofLimit?_of_not_overdue htime, hhandle]
      exact ⟨rfl, .unchanged (by simp)⟩
  | @outage r handle hr hopen htime hhandle havailable =>
      rw [perform_examine_of_open hr (isOpen _ hopen), ofLimit?_of_not_overdue htime, hhandle]
      have hstate : b.answer (.broker (.state handle)) = (.error Broker.Memory.outage, b) := by
        rw [Backend.answer_of_looksUp (.state handle),
          Broker.Memory.answer_of_unavailable _ _ havailable]
      simp only [Backend.perform, judge, bind_def, bind_remoteState, run_ask, hstate]
      exact ⟨rfl, .unchanged (by simp)⟩
  | @failedToStart r handle hj hpending hstate =>
      obtain ⟨hdead, hknown⟩ := isDead hstate
      have hfails := hj.fails (isOpen r (by simp [hpending]))
        (Verdict.of_eq_fail_iff.2 (Or.inl ⟨rfl, hpending, hdead⟩))
      rwa [if_pos hdead, technicalDetail_of_known _ hknown] at hfails
  | @stopped r handle hj hrunning hstate =>
      obtain ⟨hdead, hknown⟩ := isDead hstate
      have hfails := hj.fails (isOpen r (by simp [hrunning]))
        (Verdict.of_eq_fail_iff.2 (Or.inr (Or.inl ⟨rfl, hrunning, hdead⟩)))
      rwa [if_pos hdead, technicalDetail_of_known _ hknown] at hfails
  | @vanished r handle hj hrunning hstate =>
      have hfails := hj.fails (isOpen r (by simp [hrunning]))
        (Verdict.of_eq_fail_iff.2 (Or.inr (Or.inr ⟨rfl, hrunning, hstate⟩)))
      rwa [hstate] at hfails
  | @completionPending r handle hj hopen hstate =>
      exact hj.leaves (isOpen r hopen) (by rw [hstate, of_success hopen])
  | @alive r handle hj hopen hstate =>
      exact hj.leaves (isOpen r hopen) (of_alive hopen hstate)
  | @notYetKnown r handle hj hpending hstate =>
      refine hj.leaves (isOpen r (by simp [hpending])) ?_
      rw [hpending, hstate]
      rfl

/-! ### Reconciling -/

/-- In no case was the record overtaken. -/
theorem Diagnosis.ne_lostRace {result : Reconciled} {detail? : Option String}
    (h : Diagnosis limit b id reported result detail?) (current : Status) :
    result ≠ .ok (.lostRace current) := by
  cases h <;> simp

/-- Nobody else is around to overtake the record, and no second look is needed. -/
theorem perform_reconciliation (h : ∀ current,
    (b.perform (examine limit id reported)).1 ≠ .ok (.lostRace current)) :
    b.perform (reconciliation limit id reported) = b.perform (examine limit id reported) := by
  cases reported with
  | some text => rfl
  | none =>
      generalize hresult : (b.perform (examine limit id none)).1 = result at h
      simp only [Backend.perform] at hresult
      simp only [reconciliation, reconcile, Backend.perform, bind_def, run_bind, hresult]
      exact Prod.ext hresult.symm rfl

/-- **Reconciling a record comes to what its case says**, in the result and in the store, and it comes
to nothing else: of all results and of all evidence, those are returned and written that the state of
the record, the clock and the broker demands. -/
theorem diagnosis_iff (limit : TimeLimit) (b : Backend) (id : TaskId) (reported : Option String)
    (result : Reconciled) (detail? : Option String) :
    Diagnosis limit b id reported result detail? ↔
      (b.perform (reconciliation limit id reported)).1 = result ∧
        Aftermath b id result detail? (b.perform (reconciliation limit id reported)).2.store := by
  obtain ⟨actual, evidence?, hactual⟩ := exists_diagnosis limit b id reported
  obtain ⟨hresult, hafter⟩ := hactual.perform_examine
  rw [perform_reconciliation (hresult ▸ hactual.ne_lostRace)]
  constructor
  · exact fun h => h.perform_examine
  · rintro ⟨rfl, hstore⟩
    subst hresult
    rwa [hstore.evidence_unique hafter]

end Service

end TaskLedger
