import TaskLedger.Service.Reconcile

/-!
**Sweeping over all open records.**

A sweep lists the records of tasks that have not ended and has each of them reconciled, so that dead
tasks are found that nobody asks for.  Only so many tasks are examined at once: each needs a place,
which is free again when the task has been examined.  Before a task gets its place, and again when it
has it, the sweep may be told to stop.  A fault in reconciling one task is counted and keeps no other
task from being examined.

How the tasks are examined side by side is left open here.  A sweep is a dialogue with someone who
gives out places, lets tasks be examined, and hands in what was found; with nobody else around, that
is done for one task after the other.

Main definitions:

* `TaskLedger.Service.SweepReport`, `TaskLedger.Service.SweepFault` — what became of the records, or
  why nothing did;
* `TaskLedger.Service.SweepStep`, `TaskLedger.Service.sweeping` — the steps of a sweep, and the sweep;
* `TaskLedger.Service.sweep` — a sweep with nobody else around.

Main results:

* `TaskLedger.Service.sweep_eq` — such a sweep reconciles the listed tasks one after the other.
-/

set_option autoImplicit false

namespace TaskLedger.Service

/-- What became of the records over which a sweep went. -/
structure SweepReport where
  examined : Nat := 0
  failed : Nat := 0
  left : Nat := 0
  ended : Nat := 0
  lostRace : Nat := 0
  notFound : Nat := 0
  errors : Nat := 0
  deriving DecidableEq, Repr

/-- A report with one more record in it. -/
def SweepReport.add (r : SweepReport) (result : Reconciled) : SweepReport :=
  let r := { r with examined := r.examined + 1 }
  match result with
  | .ok .notFound => { r with notFound := r.notFound + 1 }
  | .ok (.ended _) => { r with ended := r.ended + 1 }
  | .ok (.left _) => { r with left := r.left + 1 }
  | .ok (.failed _) => { r with failed := r.failed + 1 }
  | .ok (.lostRace _) => { r with lostRace := r.lostRace + 1 }
  | .error _ => { r with errors := r.errors + 1 }

/-- Why a sweep examined nothing: the records could not be listed, or it was set up to examine more
tasks at once than can be examined. -/
inductive SweepFault where
  | store (fault : Store.Fault)
  | tooManyAtOnce
  deriving DecidableEq, Repr

/-- How many tasks are examined at once: at least one. -/
def permits (maxConcurrent : UInt64) : Nat := max 1 maxConcurrent.toNat

theorem one_le_permits (maxConcurrent : UInt64) : 1 ≤ permits maxConcurrent := Nat.le_max_left ..

/-- The most tasks that can ever be examined at once: the greatest number of 61 bits. -/
def permitCap : Nat := 2305843009213693951

/-! ### The steps of a sweep -/

/-- A step of a sweep: it lists the open records, learns whether it is told to stop, gets a place for
a task, lets a task be examined, and takes what was found on one of these tasks. -/
inductive SweepStep where
  | list
  | isStopped
  | place
  | begin (id : TaskId)
  | finding

/-- What a step comes to.  There is no finding left when those on all tasks have been taken. -/
def SweepStep.Result : SweepStep → Type
  | .list => Except Store.Fault (List Record)
  | .isStopped => Bool
  | .place | .begin _ => Unit
  | .finding => Option Reconciled

/-- The steps with their results. -/
abbrev sweepSteps : Interface where
  Question := SweepStep
  Answer := SweepStep.Result

/-- A sweep, seen as its steps. -/
abbrev Sweeping := Dialogue sweepSteps

namespace Sweeping

/-- Lists the open records. -/
def list : Sweeping (Except Store.Fault (List Record)) := .request (I := sweepSteps) .list

/-- Learns whether the sweep is told to stop. -/
def isStopped : Sweeping Bool := .request (I := sweepSteps) .isStopped

/-- Gets a place for a task. -/
def place : Sweeping Unit := .request (I := sweepSteps) .place

/-- Lets a task be examined. -/
def begin (id : TaskId) : Sweeping Unit := .request (I := sweepSteps) (.begin id)

/-- Takes a finding. -/
def finding : Sweeping (Option Reconciled) := .request (I := sweepSteps) .finding

/-- Lets tasks be examined, unless told to stop; the number of those that are examined. -/
def beginAll : List TaskId → (begun : Nat) → Sweeping Nat
  | [], begun => return begun
  | id :: ids, begun => do
      if ← isStopped then return begun
      else
        place
        if ← isStopped then return begun
        else
          begin id
          beginAll ids (begun + 1)

/-- Takes a number of findings. -/
def collect : (count : Nat) → SweepReport → Sweeping SweepReport
  | 0, report => return report
  | count + 1, report => do
      match ← finding with
      | some result => collect count (report.add result)
      | none => return report

end Sweeping

/-- A sweep over all open records. -/
def sweeping (maxConcurrent : UInt64) : Sweeping (Except SweepFault SweepReport) := do
  match ← Sweeping.list with
  | .error fault => return .error (.store fault)
  | .ok records =>
      if permitCap < permits maxConcurrent then return .error .tooManyAtOnce
      else
        let begun ← Sweeping.beginAll (records.map Record.id) 0
        return .ok (← Sweeping.collect begun {})

/-! ### A sweep with nobody else around -/

/-- The steps of a sweep with nobody else around: nobody stops it, there is a place for every task,
and a task is examined at once.  The findings are kept until they are taken. -/
def unaided (limit : TimeLimit) : (step : SweepStep) → StateT (List Reconciled) Action step.Result
  | .list => liftM listOpen
  | .isStopped => return false
  | .place => return ()
  | .begin id => do
      let result ← (liftM (reconcile limit id) : StateT (List Reconciled) Action Reconciled)
      modify (· ++ [result])
  | .finding => modifyGet fun results => (results.head?, results.tail)

/-- Sweeps over all open records, with nobody else around. -/
def sweep (limit : TimeLimit) (maxConcurrent : UInt64) :
    Action (Except SweepFault SweepReport) :=
  ((sweeping maxConcurrent).runIn (unaided limit)).run' []

section Unaided

variable (limit : TimeLimit)

@[simp] theorem runIn_list : Sweeping.list.runIn (unaided limit) = liftM listOpen :=
  Dialogue.runIn_request _ _

@[simp] theorem runIn_isStopped : Sweeping.isStopped.runIn (unaided limit) = pure false :=
  Dialogue.runIn_request _ _

@[simp] theorem runIn_place : Sweeping.place.runIn (unaided limit) = pure () :=
  Dialogue.runIn_request _ _

@[simp] theorem runIn_begin (id : TaskId) :
    (Sweeping.begin id).runIn (unaided limit) = (do
      let result ← (liftM (reconcile limit id) : StateT (List Reconciled) Action Reconciled)
      modify (· ++ [result])) :=
  Dialogue.runIn_request _ _

@[simp] theorem runIn_finding :
    Sweeping.finding.runIn (unaided limit) =
      (modifyGet fun results => (results.head?, results.tail) :
        StateT (List Reconciled) Action (Option Reconciled)) :=
  Dialogue.runIn_request _ _

/-- The findings that are kept all go into the report. -/
theorem run_collect (found : List Reconciled) (report : SweepReport) :
    ((Sweeping.collect found.length report).runIn (unaided limit)).run found =
      pure (found.foldl SweepReport.add report, []) := by
  induction found generalizing report with
  | nil => rfl
  | cons result found ih => simp [Sweeping.collect, Dialogue.runIn_bind, ih]

/-- The tasks are examined one after the other, and every finding goes into the report. -/
theorem run_beginAll_collect (ids : List TaskId) (found : List Reconciled)
    (report : SweepReport) :
    ((do Sweeping.collect (← Sweeping.beginAll ids found.length) report : Sweeping _).runIn
        (unaided limit)).run found =
      (fun more => ((found ++ more).foldl SweepReport.add report, [])) <$>
        ids.mapM (reconcile limit) := by
  induction ids generalizing found with
  | nil => simp [Sweeping.beginAll, run_collect]
  | cons id ids ih =>
      have ih (result : Reconciled) := ih (found ++ [result])
      simp only [Dialogue.runIn_bind, List.length_append, List.length_singleton,
        StateT.run_bind] at ih
      simp [Sweeping.beginAll, Dialogue.runIn_bind, List.mapM_cons, ih]

end Unaided

/-- Reconciles tasks one after the other. -/
def reconcileAll (limit : TimeLimit) : List TaskId → SweepReport → Action SweepReport
  | [], report => return report
  | id :: ids, report => do
      let result ← reconcile limit id
      reconcileAll limit ids (report.add result)

/-- The report is made up of the findings on the tasks. -/
theorem reconcileAll_eq (limit : TimeLimit) (ids : List TaskId) (report : SweepReport) :
    reconcileAll limit ids report =
      (fun results => results.foldl SweepReport.add report) <$> ids.mapM (reconcile limit) := by
  induction ids generalizing report with
  | nil => simp [reconcileAll]
  | cons id ids ih => simp [reconcileAll, ih, List.mapM_cons]

/-- With nobody else around, a sweep reconciles the listed tasks one after the other. -/
theorem sweep_eq (limit : TimeLimit) (maxConcurrent : UInt64) :
    sweep limit maxConcurrent = (do
      match ← listOpen with
      | .error fault => return .error (.store fault)
      | .ok records =>
          if permitCap < permits maxConcurrent then return .error .tooManyAtOnce
          else return .ok (← reconcileAll limit (records.map Record.id) {})) := by
  simp only [sweep, sweeping, Dialogue.runIn_bind, runIn_list, StateT.run'_eq, StateT.run_bind,
    StateT.run_monadLift, monadLift_self, bind_pure_comp, bind_map_left, map_bind]
  refine congrArg _ (funext fun listed => ?_)
  match listed with
  | .error fault => rfl
  | .ok records =>
      have h := congrArg (fun run => (fun p => (.ok p.1 : Except SweepFault SweepReport)) <$> run)
        (run_beginAll_collect limit (records.map Record.id) [] {})
      by_cases many : permitCap < permits maxConcurrent
      · simp [many, Dialogue.runIn_pure]
      · simpa [many, Dialogue.runIn_bind, Dialogue.runIn_map, reconcileAll_eq] using h

end TaskLedger.Service
