import TaskLedger.Service.Call
import TaskLedger.Verdict.Report

/-!
**Reconciling a record with the broker.**

A record that says its task is alive is compared with what the clock, the broker or the job itself
tell.  If the task is dead the record is ended as failed, by one conditional write that another
writer may forestall.  Nothing else is ever written.

Main definitions:

* `TaskLedger.Service.Finding` — what reconciling a record came to;
* `TaskLedger.Service.reconcile` — reconciling by asking the broker, once more if the record moved;
* `TaskLedger.Service.reconcileWithFailure` — reconciling when the job reported its own failure.
-/

set_option autoImplicit false

namespace TaskLedger.Service

/-- What reconciling a record came to. -/
inductive Finding where
  | notFound
  | ended (status : Status)
  | left (reason : LeaveReason)
  | failed (kind : FailureKind)
  | lostRace (current : Status)
  deriving DecidableEq, Repr

/-- The name of a finding. -/
def Finding.name : Finding → String
  | .notFound => "not_found"
  | .ended _ => "already_terminal"
  | .left _ => "left"
  | .failed _ => "failed"
  | .lostRace _ => "lost_race"

/-- Why a record could not be reconciled. -/
inductive ReconcileFault where
  | store (fault : Store.Fault)
  | broker (fault : Broker.Fault)
  deriving DecidableEq, Repr

/-- The wording of a fault. -/
def ReconcileFault.message : ReconcileFault → String
  | .store fault => fault.message
  | .broker fault => fault.message

/-- The result of reconciling. -/
abbrev Reconciled := Except ReconcileFault Finding

/-- Ends a task, if a stage is given only while the record is still at it. -/
def finishGuarded (id : TaskId) (source : Option Status) (update : FinalUpdate) :
    Action (Except Store.Fault Store.Outcome) :=
  match source with
  | some stage => finishFrom id stage update
  | none => finish id update

/-- What the outcome of writing a failure means. -/
def Finding.ofWrite (kind : FailureKind) : Except Store.Fault Store.Outcome → Reconciled
  | .error fault => .error (.store fault)
  | .ok .applied => .ok (.failed kind)
  | .ok (.rejected current) => .ok (.lostRace current)
  | .ok .notFound => .ok .notFound

/-- Ends a record as failed, at the time of the write. -/
def writeFailure (id : TaskId) (source : Option Status) (report : FailureReport) :
    Action Reconciled := do
  let endedAt ← now
  let written ← finishGuarded id source (report.toUpdate endedAt)
  return Finding.ofWrite report.kind written

/-- The detail of a failure, asked only of a job that is dead; without an answer there is none. -/
def evidence (handle : Handle) (remote : RemoteState) : Action (Option String) :=
  if remote.isDead then do
    match ← failureDetail handle with
    | .ok detail => return detail
    | .error _ => return none
  else return none

/-- Judges a task at an open stage by the state of its job. -/
def judge (id : TaskId) (status : Status) (handle : Handle) : Action Reconciled := do
  match ← remoteState handle with
  | .error fault => return .error (.broker fault)
  | .ok remote =>
      match Verdict.of status remote with
      | .leave reason => return .ok (.left reason)
      | .fail kind =>
          let detail ← evidence handle remote
          writeFailure id (some status) (.fromRemote kind remote detail)

/-- Judges a task at an open stage whose job reported its own failure. -/
def judgeReported (id : TaskId) (status : Status) (detail : String) : Action Reconciled :=
  match Verdict.ofReportedFailure status with
  | .leave reason => return .ok (.left reason)
  | .fail kind => writeFailure id none (.byWorker kind detail)

/-- One look at a record.  A task past its limit has failed whatever the broker would say; a failure
that the job reported comes next; a job that has no handle yet is waited for. -/
def examine (limit : TimeLimit) (id : TaskId) (reported : Option String) : Action Reconciled := do
  match ← get id with
  | .error fault => return .error (.store fault)
  | .ok none => return .ok .notFound
  | .ok (some record) =>
      if record.isTerminal then return .ok (.ended record.status)
      else
        let asked ← now
        match FailureReport.ofLimit? limit record.createdAt asked, reported, record.handle with
        | some report, _, _ => writeFailure id none report
        | none, some detail, _ => judgeReported id record.status detail
        | none, none, none => return .ok (.left .awaitingProgress)
        | none, none, some handle => judge id record.status handle

/-- Reconciles a record by asking the broker.  If the record moved to another open stage meanwhile,
the judgement was stale and is made once more. -/
def reconcile (limit : TimeLimit) (id : TaskId) : Action Reconciled := do
  match ← examine limit id none with
  | .ok (.lostRace current) =>
      if current.isTerminal then return .ok (.lostRace current) else examine limit id none
  | result => return result

/-- Reconciles a record whose job reported its own failure. -/
def reconcileWithFailure (limit : TimeLimit) (id : TaskId) (detail : String) :
    Action Reconciled :=
  examine limit id (some detail)

end TaskLedger.Service
