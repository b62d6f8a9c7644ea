import TaskLedger.Crew.Turn
import TaskLedger.Service.Sweeper

/-!
**Sweeping in a crew.**

Several sweepers may be at work, together with others who call the store and the broker or sweep on
their own account.  All of them form a crew.  What they share is a world of which nothing is known
here, except that somebody in it answers calls; beside it stand the sweeps that are under way, and the
sweepers.  For each task that a sweep lets be examined one more worker is taken on.

Main definitions:

* `TaskLedger.Service.Workplace` — what is shared;
* `TaskLedger.Service.Job` — work at such a place;
* `TaskLedger.Service.Job.sweep` — a sweep with others around;
* `TaskLedger.Service.Job.startSweeper`, `TaskLedger.Service.Job.tell`,
  `TaskLedger.Service.Job.awaitEnd` — what can be done with a sweeper;
* `TaskLedger.Service.Workplace.run` — all that happens until a job is done.
-/

set_option autoImplicit false

namespace TaskLedger.Service

/-- A sweep that is under way: the places that are free, the number of tasks whose findings have not
been taken yet, and the findings that are ready to be taken. -/
structure Round where
  free : Nat
  untaken : Nat := 0
  found : List Reconciled := []

/-- What the workers share.  Each sweep under way has a number of its own. -/
structure Workplace (ω : Type) where
  world : ω
  rounds : List (Nat × Round) := []
  roundsBegun : Nat := 0
  sweepers : List Sweeper := []

/-- What for a worker is taken on: to be a sweeper, or to reconcile a task for a sweep. -/
inductive Duty where
  | sweeper (index : Nat)
  | reconcile (round : Nat) (limit : TimeLimit) (id : TaskId)

/-- Work at such a place. -/
abbrev Job (ω : Type) := Crew.Work (Workplace ω) Duty

namespace Workplace

variable {ω : Type}

/-- The sweep with a number; without one that is under way, nothing is free or untaken. -/
def round (p : Workplace ω) (number : Nat) : Round := (p.rounds.lookup number).getD { free := 0 }

/-- Changes a sweep that is under way. -/
def modifyRound (number : Nat) (f : Round → Round) (p : Workplace ω) : Workplace ω :=
  { p with rounds := p.rounds.map fun r => if r.1 = number then (r.1, f r.2) else r }

/-- A sweep is no longer under way. -/
def endRound (number : Nat) (p : Workplace ω) : Workplace ω :=
  { p with rounds := p.rounds.filter (·.1 ≠ number) }

/-- Whether a finding of a sweep is ready to be taken. -/
def isFound (number : Nat) (p : Workplace ω) : Bool := !(p.round number).found.isEmpty

/-- Findings that were out of reach are ready again. -/
def giveBack (number : Nat) (held : List Reconciled) : Workplace ω → Workplace ω :=
  modifyRound number fun r => { r with found := r.found ++ held }

/-- Changes a sweeper. -/
def modifySweeper (index : Nat) (f : Sweeper → Sweeper) (p : Workplace ω) : Workplace ω :=
  { p with sweepers := p.sweepers.modify index f }

/-- What the owner of a sweeper wants of it. -/
def signal (p : Workplace ω) (index : Nat) : Signal :=
  (p.sweepers[index]?).elim .stop Sweeper.signal

end Workplace

namespace Job

variable {ω : Type}

instance : MonadStateOf ω (Dialogue (Crew.asks (Workplace ω) Duty)) where
  get := do return (← Crew.look).world
  set world := Crew.change fun p => { p with world }
  modifyGet f := do
    let p ← Crew.look
    let (a, world) := f p.world
    Crew.put { p with world }
    return a

/-! ### Sweeping -/

/-- Takes the first of the findings that are ready. -/
def takeReady (number : Nat) : Job ω (Option Reconciled) := do
  let finding := ((← Crew.look).round number).found.head?
  Crew.change (·.modifyRound number fun r =>
    { r with found := r.found.drop 1, untaken := r.untaken - 1 })
  return finding

/-- Waits once more, and takes a finding. -/
def takeLate (number : Nat) : Job ω (Option Reconciled) := do
  Crew.expect (·.isFound number)
  let _ ← Crew.step
  takeReady number

/-- Waits for a finding and takes it.  Someone who has no step left lets others go first, and the
next finding is out of reach until the next break. -/
def takeNext (number : Nat) : Job ω (Option Reconciled) := do
  Crew.expect (·.isFound number)
  if ← Crew.step then takeReady number
  else
    let held := ((← Crew.look).round number).found.take 1
    Crew.change (·.modifyRound number fun r => { r with found := r.found.drop 1 })
    Crew.later (·.giveBack number held)
    Crew.giveWay
    takeLate number

/-- Takes a finding of a sweep, when there is one. -/
def takeFinding (number : Nat) : Job ω (Option Reconciled) := do
  if ((← Crew.look).round number).untaken = 0 then return none else takeNext number

/-- The steps of a sweep among others. -/
def sweepStep (reply : (call : Call) → Job ω call.Reply) (limit : TimeLimit) (isStopped : Job ω Bool)
    (number : Nat) : (step : SweepStep) → Job ω step.Result
  | .list => listOpen.relay reply
  | .isStopped => isStopped
  | .place => do
      Crew.await (fun p => 0 < (p.round number).free) none
      Crew.change (·.modifyRound number fun r => { r with free := r.free - 1 })
  | .begin id => do
      Crew.change (·.modifyRound number fun r => { r with untaken := r.untaken + 1 })
      Crew.takeOn (.reconcile number limit id)
  | .finding => takeFinding number

/-- Sweeps over all open records with others around, unless told to stop. -/
def sweep (reply : (call : Call) → Job ω call.Reply) (limit : TimeLimit) (maxConcurrent : UInt64)
    (isStopped : Job ω Bool) : Job ω (Except SweepFault SweepReport) := do
  let number := (← Crew.look).roundsBegun
  Crew.change fun p =>
    { p with
      rounds := (number, { free := permits maxConcurrent }) :: p.rounds
      roundsBegun := number + 1 }
  let result ← (sweeping maxConcurrent).relay (sweepStep reply limit isStopped number)
  Crew.change (·.endRound number)
  return result

/-- Hands in a finding for a sweep; the place of the task is free again. -/
def handIn (number : Nat) (result : Reconciled) : Job ω Unit :=
  Crew.change (·.modifyRound number fun r =>
    { r with free := r.free + 1, found := r.found ++ [result] })

/-- Reconciles a task for a sweep. -/
def reconcileFor (reply : (call : Call) → Job ω call.Reply) (number : Nat) (limit : TimeLimit)
    (id : TaskId) : Job ω Unit := do
  handIn number (← (reconcile limit id).relay reply)

/-! ### Sweepers -/

/-- What a sweeper does: it sweeps, and then waits for the interval or until its owner wants
something else of it, for a limited number of sweeps.  It ends when it is told to stop, when its owner
is gone after a sweep, and when a sweep breaks down. -/
def beSweeper (reply : (call : Call) → Job ω call.Reply) (index : Nat) : (sweeps : Nat) → Job ω Unit
  | 0 => leave
  | sweeps + 1 => do
      let some s := (← Crew.look).sweepers[index]? | return
      if s.signal = .stop then leave
      else
        let isStopped : Job ω Bool := do return (← Crew.look).signal index = .stop
        match ← sweep reply s.limit s.settings.maxConcurrent isStopped with
        | .error .tooManyAtOnce => leave
        | result =>
            let endedAt ← now.relay reply
            Crew.change (·.modifySweeper index fun s =>
              { s with stats := s.stats.add endedAt result.toOption })
            Crew.awaitFor s.settings.pause fun p => p.signal index ≠ .carryOn
            if (← Crew.look).signal index = .abandoned then leave
            else beSweeper reply index sweeps
where
  /-- Ends the sweeper. -/
  leave : Job ω Unit := Crew.change (·.modifySweeper index fun s => { s with ended := true })

/-- Starts a sweeper; its number. -/
def startSweeper (settings : SweeperSettings) (limit : TimeLimit) : Job ω Nat := do
  let index := (← Crew.look).sweepers.length
  Crew.change fun p => { p with sweepers := p.sweepers ++ [{ settings, limit }] }
  Crew.takeOn (.sweeper index)
  return index

/-- Tells a sweeper what its owner wants of it. -/
def tell (index : Nat) (f : Signal → Signal) : Job ω Unit :=
  Crew.change (·.modifySweeper index fun s => { s with signal := f s.signal })

/-- Waits until a sweeper has ended. -/
def awaitEnd (index : Nat) : Job ω Unit :=
  Crew.await (fun p => (p.sweepers[index]?).elim true Sweeper.ended) none

/-- The work of someone who was taken on; a sweeper sweeps a limited number of times. -/
def ofDuty (reply : (call : Call) → Job ω call.Reply) (sweeps : Nat) : Duty → Job ω Unit
  | .sweeper index => beSweeper reply index sweeps
  | .reconcile round limit id => reconcileFor reply round limit id

end Job

/-- All that happens in a world until a job is done, for a limited number of turns. -/
def Workplace.run {ω : Type} (reply : (call : Call) → Job ω call.Reply) (turns : Nat) (world : ω)
    (job : Job ω Unit) : ω :=
  ((Crew.ofHead { world } job).run (Job.ofDuty reply turns) turns).shared.world

end TaskLedger.Service
