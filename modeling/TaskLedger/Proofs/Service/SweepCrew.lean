import TaskLedger.Proofs.Crew.Rest
import TaskLedger.Proofs.Service.SweepBooks

/-!
**A sweep in a crew.**

The conductor of a sweep lists the records, waits for places, takes on a worker for each task, and takes
the findings; each of the others examines one task and hands in what it found.  All of them have calls
answered by the same backend, each call after a pause in which others may have their turns.  At any time
between two turns there are books which tell how far the sweep has come, what the conductor has still to
do follows from them, and so does what is left for each of the others.

What the conductor does after the sweep may be anything.  A sweep leads to an invariant of the crew if
the invariant holds while the sweep is under way, and if the conductor goes on in accordance with it
from what the sweep comes to with nobody else around.

Main definitions:

* `TaskLedger.Service.Job.replying`, `TaskLedger.Service.Relayed` — calls that are answered after
  pauses, and what is left of an action that makes such calls;
* `TaskLedger.Service.CrewSweep` — a sweep in a crew;
* `TaskLedger.Service.CrewSweep.Ledger`, `TaskLedger.Service.CrewSweep.Ledger.Stage`,
  `TaskLedger.Service.CrewSweep.Ledger.Manned` — its books, what is left for its conductor, and who
  examines a task;
* `TaskLedger.Service.CrewSweep.UnderWay` — the sweep is under way;
* `TaskLedger.Service.CrewSweep.LeadsTo` — an invariant that a sweep leads to.

Main results:

* `TaskLedger.Service.CrewSweep.afterTurn_sweep`, `TaskLedger.Service.CrewSweep.UnderWay.turn`,
  `TaskLedger.Service.CrewSweep.UnderWay.change` — **what a sweep leads to holds** from its beginning,
  and is kept by everything that happens in the crew;
* `TaskLedger.Service.CrewSweep.UnderWay.card_workers` — no more tasks are examined at once than there
  are places;
* `TaskLedger.Service.CrewSweep.UnderWay.not_atRest` — **a sweep does not come to a standstill**, if
  every pause comes to its end.
-/

set_option autoImplicit false

namespace TaskLedger.Service

open Dialogue Crew

/-- What those share who work for a backend: the backend, and something else beside it. -/
abbrev Site (ρ : Type) : Type := Workplace (Backend × ρ)

variable {ρ : Type}

/-! ### Calls that take their time -/

namespace Job

/-- Has a call answered by a backend, beside which something else may stand. -/
def served (call : Call) : Job (Backend × ρ) call.Reply :=
  modifyGet fun w => ((w.1.answer call).1, ((w.1.answer call).2, w.2))

/-- Has a call answered after a pause. -/
def replying (pause : Call → Job (Backend × ρ) Unit) (call : Call) :
    Job (Backend × ρ) call.Reply := do
  pause call
  served call

end Job

/-- What is left of an action whose calls are answered after pauses: the rest of the pause that has
been begun, and what follows it. -/
inductive Relayed (pause : Call → Job (Backend × ρ) Unit) {α : Type} :
    Action α → Job (Backend × ρ) α → Prop
  | done (r : α) : Relayed pause (.done r) (.done r)
  | ask {call : Call} {next : call.Reply → Action α} {rest : Job (Backend × ρ) Unit} :
      Remainder (pause call) rest → Relayed pause (.ask (I := calls) call next) (rest >>= fun _ =>
        Job.served call >>= fun reply => (next reply).relay (Job.replying pause))

section Relayed

variable {pause : Call → Job (Backend × ρ) Unit} {α : Type}

theorem relayed_relay (action : Action α) :
    Relayed pause action (action.relay (Job.replying pause)) := by
  cases action with
  | done r => exact .done r
  | ask call next =>
      have hassoc : Dialogue.relay (Job.replying pause) (.ask (I := calls) call next) =
          pause call >>= fun _ => Job.served call >>= fun reply =>
            (next reply).relay (Job.replying pause) :=
        Dialogue.bind_assoc (pause call) _ _
      rw [hassoc]
      exact .ask (.all _)

/-- The turn of a worker who is in the middle of an action. -/
theorem afterTurn_relayed {duties : Duty → Job (Backend × ρ) Unit} {isHead : Bool}
    {Q : View (Site ρ) Duty → Prop} {f : α → Job (Backend × ρ) Unit}
    {J : Action α → View (Site ρ) Duty → Prop}
    (hpause : ∀ call, Idle (pause call))
    (hamid : ∀ call next v work, J (.ask (I := calls) call next) v →
      Relayed pause (.ask (I := calls) call next) work → Q (v.join ⟨work >>= f, isHead⟩))
    (hcall : ∀ call next v, J (.ask (I := calls) call next) v →
      J (next (v.shared.world.1.answer call).1) (v.share
        { v.shared with world := ((v.shared.world.1.answer call).2, v.shared.world.2) }))
    (hdone : ∀ r v, J (.done r) v → AfterTurn duties isHead Q (f r) v) {action : Action α}
    {work : Job (Backend × ρ) α} (hwork : Relayed pause action work)
    {v : View (Site ρ) Duty} (hv : J action v) :
    AfterTurn duties isHead Q (work >>= f) v := by
  induction action generalizing work v with
  | done r =>
      cases hwork
      exact hdone r v hv
  | ask call next ih =>
      cases hwork with
      | ask hrest =>
          rw [LawfulMonad.bind_assoc]
          refine afterTurn_idle (hrest.asksOnly (hpause call)) (fun rest hlater => ?_) fun _ => ?_
          · rw [← LawfulMonad.bind_assoc]
            exact hamid _ _ _ _ hv (.ask (hrest.trans hlater))
          · exact ih _ (relayed_relay _) (hcall _ _ _ hv)

/-- Someone who waits for a reply is not stuck. -/
theorem Relayed.not_isStuck (htimely : ∀ call, Timely (pause call)) {call : Call}
    {next : call.Reply → Action α} {work : Job (Backend × ρ) α}
    (hwork : Relayed pause (.ask (I := calls) call next) work) (f : α → Job (Backend × ρ) Unit)
    (isHead : Bool) (shared : Site ρ) :
    ¬ Worker.IsStuck ⟨work >>= f, isHead⟩ shared := by
  cases hwork with
  | ask hrest =>
      rw [LawfulMonad.bind_assoc]
      exact not_isStuck_of_timely (hrest.asksOnly (htimely call)) (fun _ => rfl) isHead shared

end Relayed

/-! ### The sweep in question -/

/-- A sweep in a crew, in which nobody has anything to do but what is to be done for the sweep: how
calls are answered, how the sweep is set up, who conducts it and what follows, and what there was when
it began.  Nobody stops it. -/
structure CrewSweep (ρ : Type) where
  pause : Call → Job (Backend × ρ) Unit
  limit : TimeLimit
  maxConcurrent : UInt64
  isStopped : Job (Backend × ρ) Bool
  isHead : Bool
  after : Except SweepFault SweepReport → Job (Backend × ρ) Unit
  number : Nat
  backend : Backend
  beside : ρ
  sweepers : List Sweeper
  idle : ∀ call, Idle (pause call)
  unstopped : ∃ g, Tells isStopped g ∧ ∀ p, p.sweepers = sweepers → g p = false

namespace Sweeping

/-- Takes findings and reports them. -/
def report (count : Nat) (report : SweepReport) : Sweeping (Except SweepFault SweepReport) := do
  return .ok (← collect count report)

/-- Goes on after a finding was taken. -/
def collectOn (count : Nat) (report : SweepReport) : Option Reconciled → Sweeping SweepReport
  | some result => collect count (report.add result)
  | none => return report

/-- Goes on after a finding was taken, and reports the findings. -/
def reportOn (count : Nat) (report : SweepReport) (finding? : Option Reconciled) :
    Sweeping (Except SweepFault SweepReport) := do
  return .ok (← collectOn count report finding?)

/-- Lets a task be examined for which there is a place, and then others, unless told to stop. -/
def beginNow (id : TaskId) (ids : List TaskId) (begun : Nat) : Sweeping Nat := do
  if ← isStopped then return begun
  else
    begin id
    beginAll ids (begun + 1)

/-- Takes all findings on the tasks that were begun, and reports them. -/
def thenReport (beginning : Sweeping Nat) : Sweeping (Except SweepFault SweepReport) := do
  report (← beginning) {}

/-- Goes on after the records were listed. -/
def listed (maxConcurrent : UInt64) :
    Except Store.Fault (List Record) → Sweeping (Except SweepFault SweepReport)
  | .error fault => return .error (.store fault)
  | .ok records =>
      if permitCap < permits maxConcurrent then return .error .tooManyAtOnce
      else thenReport (beginAll (records.map Record.id) 0)

end Sweeping

namespace CrewSweep

variable (x : CrewSweep ρ)

/-- How calls are answered. -/
def reply (call : Call) : Job (Backend × ρ) call.Reply := Job.replying x.pause call

/-- What is to be done when there is a result. -/
def finish (result : Except SweepFault SweepReport) : Job (Backend × ρ) Unit := do
  Crew.change (·.endRound x.number)
  x.after result

/-- What is left for the conductor to be done, with what is left of the sweep. -/
def conduct (sweep : Sweeping (Except SweepFault SweepReport)) : Job (Backend × ρ) Unit := do
  x.finish (← sweep.relay (Job.sweepStep x.reply x.limit x.isStopped x.number))

theorem conduct_ask (step : SweepStep)
    (next : step.Result → Sweeping (Except SweepFault SweepReport)) :
    x.conduct (.ask (I := sweepSteps) step next) =
      Job.sweepStep x.reply x.limit x.isStopped x.number step >>= fun a => x.conduct (next a) :=
  Dialogue.bind_assoc (Job.sweepStep x.reply x.limit x.isStopped x.number step) _ _

theorem conduct_sweeping : x.conduct (sweeping x.maxConcurrent) =
    listOpen.relay x.reply >>= fun records => x.conduct (Sweeping.listed x.maxConcurrent records) :=
  x.conduct_ask .list _

theorem conduct_report (count : Nat) (report : SweepReport) :
    x.conduct (Sweeping.report (count + 1) report) = Job.takeFinding x.number >>= fun finding? =>
      x.conduct (Sweeping.reportOn count report finding?) :=
  x.conduct_ask .finding _

theorem conduct_place (id : TaskId) (ids : List TaskId) (begun : Nat) :
    x.conduct (Sweeping.thenReport (do Sweeping.place; Sweeping.beginNow id ids begun)) = (do
      Crew.await (fun p => 0 < (p.round x.number).free) none
      Crew.change (·.modifyRound x.number fun r => { r with free := r.free - 1 })
      x.conduct (Sweeping.thenReport (Sweeping.beginNow id ids begun))) := rfl

theorem conduct_begin (id : TaskId) (ids : List TaskId) (begun : Nat) :
    x.conduct (Sweeping.thenReport (do Sweeping.begin id; Sweeping.beginAll ids (begun + 1))) = (do
      Crew.change (·.modifyRound x.number fun r => { r with untaken := r.untaken + 1 })
      Crew.takeOn (.reconcile x.number x.limit id)
      x.conduct (Sweeping.thenReport (Sweeping.beginAll ids (begun + 1)))) := rfl

/-- The books of the sweep. -/
abbrev Ledger : Type := Books x.limit x.backend (permits x.maxConcurrent)

/-- A worker at such a place. -/
abbrev Hand (ρ : Type) : Type := Worker (Site ρ) Duty

variable {x} (k : x.Ledger)

/-- What is shared, according to the books. -/
def Ledger.workplace : Site ρ where
  world := (k.scene.state, x.beside)
  rounds := [(x.number, k.round)]
  roundsBegun := x.number + 1
  sweepers := x.sweepers

/-- A crew with these workers, according to the books. -/
def Ledger.view (hands : Multiset (Hand ρ)) : View (Site ρ) Duty where
  shared := k.workplace
  workers := hands
  delayed := k.held.map fun result => Workplace.giveBack x.number [result]

/-- A worker who examines a task. -/
def Ledger.Examines (id : TaskId) (w : Hand ρ) : Prop :=
  w.isHead = false ∧ ∃ work, Relayed x.pause (k.scene.rest id) work ∧
    w.rest = work >>= Job.handIn x.number

/-- There is one worker for each task that is examined. -/
def Ledger.Manned (hands : Multiset (Hand ρ)) : Prop := Multiset.Rel k.Examines k.busy hands

/-- What is left for the conductor to be done between two turns. -/
inductive Ledger.Stage : Job (Backend × ρ) Unit → Prop
  | listing {work : Job (Backend × ρ) (Except Store.Fault (List Record))} :
      k.begun = [] → k.taken = [] → Relayed x.pause listOpen work →
      Stage (work >>= fun records => x.conduct (Sweeping.listed x.maxConcurrent records))
  | placing {id : TaskId} {ids : List TaskId} : permits x.maxConcurrent ≤ permitCap →
      k.begun ++ id :: ids = x.backend.openIds → k.taken = [] →
      Stage (x.conduct (Sweeping.thenReport (do
        Sweeping.place
        Sweeping.beginNow id ids k.begun.length)))
  | taking {count : Nat} : permits x.maxConcurrent ≤ permitCap →
      k.begun = x.backend.openIds → k.taken.length + (count + 1) = k.begun.length →
      Stage (Job.takeNext x.number >>= fun finding =>
        x.conduct (Sweeping.reportOn count (k.taken.foldl SweepReport.add {}) finding))
  | takingLate {count : Nat} : permits x.maxConcurrent ≤ permitCap →
      k.begun = x.backend.openIds → k.taken.length + (count + 1) = k.begun.length →
      Stage (Job.takeLate x.number >>= fun finding =>
        x.conduct (Sweeping.reportOn count (k.taken.foldl SweepReport.add {}) finding))

variable (x) in
/-- The sweep is under way, and it is nobody's turn. -/
def UnderWay (v : View (Site ρ) Duty) : Prop :=
  ∃ (k : x.Ledger) (conductor : Job (Backend × ρ) Unit) (hands : Multiset (Hand ρ)),
    k.Stage conductor ∧ k.Manned hands ∧ v = k.view (⟨conductor, x.isHead⟩ ::ₘ hands)

/-- Nothing is under way any more. -/
def ended (x : CrewSweep ρ) (b : Backend) : View (Site ρ) Duty where
  shared := { world := (b, x.beside), roundsBegun := x.number + 1, sweepers := x.sweepers }

/-! ### The entries in the books, as they are seen -/

namespace Ledger

@[simp] theorem round_workplace : k.workplace.round x.number = k.round := by
  simp [workplace, Workplace.round]

theorem modifyRound_workplace (f : Round → Round) :
    k.workplace.modifyRound x.number f = { k.workplace with rounds := [(x.number, f k.round)] } := by
  simp [workplace, Workplace.modifyRound]

theorem view_take {r : Reconciled} {rest : List Reconciled} (h : k.ready = r :: rest)
    (hands : Multiset (Hand ρ)) :
    (k.view hands).share (k.workplace.modifyRound x.number fun r =>
      { r with found := r.found.drop 1, untaken := r.untaken - 1 }) =
      Ledger.view (k.take r rest h) hands := by
  rw [modifyRound_workplace]
  simp [view, View.share, workplace, Books.round, Books.take, Books.scene, h, Nat.sub_sub]

theorem view_hold {r : Reconciled} {rest : List Reconciled} (h : k.ready = r :: rest)
    (hands : Multiset (Hand ρ)) :
    ((k.view hands).share (k.workplace.modifyRound x.number fun r =>
      { r with found := r.found.drop 1 })).delay (Workplace.giveBack x.number [r]) =
      Ledger.view (k.hold r rest h) hands := by
  rw [modifyRound_workplace]
  simp [view, View.share, View.delay, workplace, Books.round, Books.hold, Books.scene, h]

theorem view_begin {id : TaskId} (hid : id ∉ k.begun) (hfree : 0 < k.free) (htaken : k.taken = [])
    (hands : Multiset (Hand ρ)) (w : Hand ρ) :
    (((k.view hands).share (k.workplace.modifyRound x.number fun r =>
      { r with free := r.free - 1 })).share
        ((k.workplace.modifyRound x.number fun r => { r with free := r.free - 1 }).modifyRound
          x.number fun r => { r with untaken := r.untaken + 1 })).join w =
      Ledger.view (k.begin id hid hfree) (w ::ₘ hands) := by
  rw [modifyRound_workplace]
  simp [view, View.share, View.join, workplace, Books.round, Books.begin, Books.scene, htaken,
    Workplace.modifyRound]

theorem view_finish {id : TaskId} {r : Reconciled} (hid : id ∈ k.busy)
    (hr : k.scene.result? id = some r) (hands : Multiset (Hand ρ)) :
    (k.view hands).share (k.workplace.modifyRound x.number fun round =>
      { round with free := round.free + 1, found := round.found ++ [r] }) =
      Ledger.view (k.finish id r hid hr) hands := by
  rw [modifyRound_workplace]
  rfl

theorem view_turn {id : TaskId} {call : Call} {next : call.Reply → Action Reconciled}
    (hid : id ∈ k.busy) (hrest : k.scene.rest id = .ask (I := calls) call next)
    (hands : Multiset (Hand ρ)) :
    (k.view hands).share { k.workplace with
      world := ((k.scene.state.answer call).2, x.beside) } = Ledger.view (k.turn id hid) hands := by
  have hstate : Scene.state (Books.scene (k.turn id hid)) = (k.scene.state.answer call).2 := by
    rw [Books.scene_turn]
    exact (Scene.step_next_of_ask hrest).1
  simp only [view, workplace, hstate]
  rfl

theorem view_giveBack {r : Reconciled} {rest : Multiset Reconciled} (h : k.held = r ::ₘ rest)
    (hands : Multiset (Hand ρ)) :
    ({ k.view hands with
        shared := k.workplace.giveBack x.number [r]
        delayed := rest.map fun result => Workplace.giveBack x.number [result] } :
      View (Site ρ) Duty) = Ledger.view (k.giveBack r rest h) hands := by
  rw [Workplace.giveBack, modifyRound_workplace]
  rfl

theorem round_view (hands : Multiset (Hand ρ)) :
    (k.view hands).shared.round x.number = k.round := k.round_workplace

theorem exists_ready {hands : Multiset (Hand ρ)}
    (h : (k.view hands).shared.isFound x.number = true) : ∃ r rest, k.ready = r :: rest := by
  rw [Workplace.isFound, round_view] at h
  refine List.exists_cons_of_ne_nil fun hready => ?_
  simp [Books.round, hready] at h

end Ledger

/-! ### The turn of the conductor -/

section Conductor

variable {duties : Duty → Job (Backend × ρ) Unit}
  {Inv : View (Site ρ) Duty → Prop} {hands : Multiset (Hand ρ)} {count : Nat}

variable (x) in
/-- An invariant of a crew that a sweep leads to: it holds while the sweep is under way, and whoever
conducts the sweep goes on in accordance with it. -/
structure LeadsTo (duties : Duty → Job (Backend × ρ) Unit)
    (Inv : View (Site ρ) Duty → Prop) : Prop where
  duty : ∀ id, duties (.reconcile x.number x.limit id) =
    Job.reconcileFor x.reply x.number x.limit id
  underWay : ∀ v, x.UnderWay v → Inv v
  after : ∀ r b, x.backend.perform (sweep x.limit x.maxConcurrent) = (r, b) →
    AfterTurn duties x.isHead Inv (x.after r) (x.ended b)

/-- The conductor has a result when nothing is left to be done. -/
theorem afterTurn_finish (hleads : x.LeadsTo duties Inv) (hmanned : k.Manned hands)
    (hcount : k.taken.length = k.begun.length) {r : Except SweepFault SweepReport}
    (hr : x.backend.perform (sweep x.limit x.maxConcurrent) = (r, k.scene.state)) :
    AfterTurn duties x.isHead Inv (x.finish r) (k.view hands) := by
  obtain ⟨hbusy, hheld, -⟩ := k.idle_of_length hcount
  have hended : (k.view hands).share (k.workplace.endRound x.number) = x.ended k.scene.state := by
    rw [Ledger.Manned, hbusy, Multiset.rel_zero_left] at hmanned
    simp [Ledger.view, hmanned, hheld, View.share, Ledger.workplace, Workplace.endRound, ended]
  have hafter := hleads.after _ _ hr
  rw [← hended] at hafter
  exact hafter

variable (x) in
/-- Whoever has so many findings still to take goes on in accordance with an invariant. -/
def Reports (duties : Duty → Job (Backend × ρ) Unit)
    (Inv : View (Site ρ) Duty → Prop) (count : Nat) : Prop :=
  ∀ (k : x.Ledger) (hands : Multiset (Hand ρ)), k.Manned hands → k.begun = x.backend.openIds →
    k.taken.length + count = k.begun.length →
    AfterTurn duties x.isHead Inv
      (x.conduct (Sweeping.report count (k.taken.foldl SweepReport.add {}))) (k.view hands)

/-- A finding that is ready is taken, and the sweep goes on. -/
theorem afterTurn_takeReady (hreports : x.Reports duties Inv count) (hmanned : k.Manned hands)
    (hbegun : k.begun = x.backend.openIds) (hcount : k.taken.length + (count + 1) = k.begun.length)
    (hfound : (k.view hands).shared.isFound x.number = true) :
    AfterTurn duties x.isHead Inv (Job.takeReady x.number >>= fun finding? =>
      x.conduct (Sweeping.reportOn count (k.taken.foldl SweepReport.add {}) finding?))
      (k.view hands) := by
  obtain ⟨r, rest, h⟩ := k.exists_ready hfound
  have hnext := hreports (k.take r rest h) hands hmanned hbegun (by
    simp only [Books.take, List.length_append, List.length_singleton]
    omega)
  have hfirst : ((k.view hands).shared.round x.number).found.head? = some r := by
    rw [Ledger.round_view]
    exact congrArg List.head? h
  have hfold : (k.take r rest h).taken.foldl SweepReport.add {} =
      (k.taken.foldl SweepReport.add {}).add r := List.foldl_concat ..
  rw [hfold, ← k.view_take h hands] at hnext
  simp only [Job.takeReady, LawfulMonad.bind_assoc, LawfulMonad.pure_bind, afterTurn_look,
    afterTurn_change, hfirst]
  exact hnext

/-- Someone who waits for a finding either takes it, or goes on waiting. -/
theorem afterTurn_takeLate (hinv : ∀ v, x.UnderWay v → Inv v)
    (hpermits : permits x.maxConcurrent ≤ permitCap) (hreports : x.Reports duties Inv count)
    (hmanned : k.Manned hands) (hbegun : k.begun = x.backend.openIds)
    (hcount : k.taken.length + (count + 1) = k.begun.length) :
    AfterTurn duties x.isHead Inv (Job.takeLate x.number >>= fun finding? =>
      x.conduct (Sweeping.reportOn count (k.taken.foldl SweepReport.add {}) finding?))
      (k.view hands) := by
  simp only [Job.takeLate, LawfulMonad.bind_assoc, afterTurn_expect, afterTurn_step]
  split
  · next hfound => exact fun _ => afterTurn_takeReady k hreports hmanned hbegun hcount hfound
  · exact hinv _ ⟨k, _, hands, .takingLate hpermits hbegun hcount, hmanned, rfl⟩

theorem afterTurn_takeNext (hinv : ∀ v, x.UnderWay v → Inv v)
    (hpermits : permits x.maxConcurrent ≤ permitCap) (hreports : x.Reports duties Inv count)
    (hmanned : k.Manned hands) (hbegun : k.begun = x.backend.openIds)
    (hcount : k.taken.length + (count + 1) = k.begun.length) :
    AfterTurn duties x.isHead Inv (Job.takeNext x.number >>= fun finding? =>
      x.conduct (Sweeping.reportOn count (k.taken.foldl SweepReport.add {}) finding?))
      (k.view hands) := by
  simp only [Job.takeNext, LawfulMonad.bind_assoc, afterTurn_expect, afterTurn_step]
  split
  · next hfound =>
    intro isLeft
    cases isLeft with
    | true => exact afterTurn_takeReady k hreports hmanned hbegun hcount hfound
    | false =>
        obtain ⟨r, rest, h⟩ := k.exists_ready hfound
        have hheld : ((k.view hands).shared.round x.number).found.take 1 = [r] := by
          rw [Ledger.round_view]
          exact congrArg (List.take 1) h
        simp only [Bool.false_eq_true, if_false, LawfulMonad.bind_assoc, afterTurn_look,
          afterTurn_change, afterTurn_later, afterTurn_giveWay, hheld]
        refine hinv _ ⟨k.hold r rest h, _, hands, .takingLate hpermits hbegun hcount, hmanned, ?_⟩
        exact congrArg (View.join · _) (k.view_hold h hands)
  · exact hinv _ ⟨k, _, hands, .taking hpermits hbegun hcount, hmanned, rfl⟩

/-- A conductor who has begun with all tasks takes the findings that are still to come. -/
theorem reports (hleads : x.LeadsTo duties Inv) (hpermits : permits x.maxConcurrent ≤ permitCap)
    (count : Nat) : x.Reports duties Inv count := by
  induction count with
  | zero =>
      intro k hands hmanned hbegun hcount
      refine afterTurn_finish k hleads hmanned hcount ?_
      rw [perform_sweep, if_neg (Nat.not_lt.2 hpermits), k.perform_reconcileAll hbegun hcount]
  | succ count ih =>
      intro k hands hmanned hbegun hcount
      have huntaken : ((k.view hands).shared.round x.number).untaken ≠ 0 := by
        rw [Ledger.round_view]
        change k.begun.length - k.taken.length ≠ 0
        omega
      simp only [conduct_report, Job.takeFinding, LawfulMonad.bind_assoc, afterTurn_look,
        if_neg huntaken]
      exact afterTurn_takeNext k hleads.underWay hpermits ih hmanned hbegun hcount

/-- Someone whom nobody stops goes on. -/
theorem afterTurn_unstopped {v : View (Site ρ) Duty}
    (hv : v.shared.sweepers = x.sweepers) {next : Bool → Sweeping (Except SweepFault SweepReport)}
    (h : AfterTurn duties x.isHead Inv (x.conduct (next false)) v) :
    AfterTurn duties x.isHead Inv (x.conduct (.ask (I := sweepSteps) .isStopped next)) v := by
  obtain ⟨g, htells, hg⟩ := x.unstopped
  have hnext := (htells duties x.isHead Inv (fun stopped => x.conduct (next stopped)) v).2
  rw [hg _ hv] at hnext
  exact x.conduct_ask .isStopped next ▸ hnext h

variable (x) in
/-- Whoever has still to begin with some tasks goes on in accordance with an invariant. -/
def Begins (duties : Duty → Job (Backend × ρ) Unit)
    (Inv : View (Site ρ) Duty → Prop) (ids : List TaskId) : Prop :=
  ∀ (k : x.Ledger) (hands : Multiset (Hand ρ)), k.Manned hands → k.begun ++ ids = x.backend.openIds →
    k.taken = [] →
    AfterTurn duties x.isHead Inv
      (x.conduct (Sweeping.thenReport (Sweeping.beginAll ids k.begun.length))) (k.view hands)

/-- A task is begun when there is a place for it. -/
theorem afterTurn_place (hleads : x.LeadsTo duties Inv)
    (hpermits : permits x.maxConcurrent ≤ permitCap) {id : TaskId} {ids : List TaskId}
    (hbegins : x.Begins duties Inv ids) (hmanned : k.Manned hands)
    (hids : k.begun ++ id :: ids = x.backend.openIds) (htaken : k.taken = []) :
    AfterTurn duties x.isHead Inv (x.conduct (Sweeping.thenReport (do
      Sweeping.place
      Sweeping.beginNow id ids k.begun.length))) (k.view hands) := by
  rw [conduct_place, afterTurn_await]
  refine ⟨hleads.underWay _ ⟨k, _, hands, .placing hpermits hids htaken, hmanned, rfl⟩,
    fun hwish => ?_⟩
  have hfree : 0 < k.free := by
    have hplace := of_decide_eq_true (hwish rfl)
    rwa [Ledger.round_view] at hplace
  have hid : id ∉ k.begun := by
    have hnodup : (k.begun ++ id :: ids).Nodup := hids ▸ x.backend.nodup_openIds
    exact fun hmem => (List.nodup_append.1 hnodup).2.2 id hmem id List.mem_cons_self rfl
  let k' : x.Ledger := k.begin id hid hfree
  let w : Hand ρ := ⟨duties (.reconcile x.number x.limit id), false⟩
  have hexamines : k'.Examines id w := by
    refine ⟨rfl, _, ?_, hleads.duty id⟩
    have hrest : k'.scene.rest id = reconcile x.limit id := k.rest_of_not_mem hid
    rw [hrest]
    exact relayed_relay _
  have hnext := hbegins k' (w ::ₘ hands) (hmanned.cons hexamines)
    (by simpa [k', Books.begin] using hids) htaken
  rw [← k.view_begin hid hfree htaken hands w] at hnext
  have hlength : k'.begun.length = k.begun.length + 1 := List.length_append
  rw [hlength] at hnext
  refine afterTurn_unstopped rfl ?_
  change AfterTurn _ _ _ (x.conduct (Sweeping.thenReport (do
    Sweeping.begin id
    Sweeping.beginAll ids (k.begun.length + 1)))) _
  simp only [conduct_begin, afterTurn_change, afterTurn_takeOn]
  exact hnext

theorem begins (hleads : x.LeadsTo duties Inv) (hpermits : permits x.maxConcurrent ≤ permitCap)
    (ids : List TaskId) : x.Begins duties Inv ids := by
  induction ids with
  | nil =>
      intro k hands hmanned hids htaken
      have hreports := reports hleads hpermits k.begun.length k hands hmanned (by simpa using hids)
        (by simp [htaken])
      rw [htaken] at hreports
      exact hreports
  | cons id ids ih =>
      intro k hands hmanned hids htaken
      exact afterTurn_unstopped rfl (afterTurn_place k hleads hpermits ih hmanned hids htaken)

/-- The records are listed, and the sweep begins with the first. -/
theorem afterTurn_list (hleads : x.LeadsTo duties Inv)
    {work : Job (Backend × ρ) (Except Store.Fault (List Record))}
    (hwork : Relayed x.pause listOpen work) (hmanned : k.Manned hands) (hbegun : k.begun = [])
    (htaken : k.taken = []) :
    AfterTurn duties x.isHead Inv
      (work >>= fun records => x.conduct (Sweeping.listed x.maxConcurrent records))
      (k.view hands) := by
  have hstate : k.scene.state = x.backend := k.state_of_begun_eq_nil hbegun
  refine afterTurn_relayed (J := fun action v =>
    (action = listOpen ∨ action = .done (.ok x.backend.store.listOpen)) ∧ v = k.view hands) x.idle
    ?_ ?_ ?_ hwork ⟨.inl rfl, rfl⟩
  · rintro call next _ work ⟨haction, rfl⟩ hrest
    rcases haction with haction | haction
    · rw [haction] at hrest
      exact hleads.underWay _ ⟨k, _, hands, .listing hbegun htaken hrest, hmanned, rfl⟩
    · cases haction
  · rintro call next _ ⟨haction, rfl⟩
    rcases haction with haction | haction
    · cases haction
      refine ⟨.inr ?_, rfl⟩
      rw [← hstate]
      rfl
    · cases haction
  · rintro r _ ⟨haction, rfl⟩
    rcases haction with haction | haction
    · cases haction
    · cases haction
      change AfterTurn _ _ _ (x.conduct (if permitCap < permits x.maxConcurrent then _ else _)) _
      split
      · next hmany =>
        refine afterTurn_finish k hleads hmanned (by simp [htaken, hbegun]) ?_
        rw [perform_sweep, if_pos hmany, hstate]
      · next hpermits =>
        have hbegins := begins hleads (Nat.not_lt.1 hpermits) x.backend.openIds k hands hmanned
          (by rw [hbegun, List.nil_append]) htaken
        rw [hbegun] at hbegins
        exact hbegins

end Conductor

/-! ### The turn of a worker who examines a task -/

section Examiner

variable {duties : Duty → Job (Backend × ρ) Unit}
  {Inv : View (Site ρ) Duty → Prop} {hands : Multiset (Hand ρ)}

/-- What is left for the conductor depends only on the tasks begun and the findings taken. -/
theorem Ledger.Stage.congr {k k' : x.Ledger} {conductor : Job (Backend × ρ) Unit}
    (h : k.Stage conductor) (hbegun : k'.begun = k.begun) (htaken : k'.taken = k.taken) :
    k'.Stage conductor := by
  cases h with
  | listing hnone hnothing hwork => exact .listing (hbegun ▸ hnone) (htaken ▸ hnothing) hwork
  | placing hpermits hids hnothing =>
      rw [← hbegun] at hids ⊢
      exact .placing hpermits hids (htaken ▸ hnothing)
  | taking hpermits hall hcount =>
      rw [← htaken] at hcount ⊢
      rw [← hbegun] at hall hcount
      exact .taking hpermits hall hcount
  | takingLate hpermits hall hcount =>
      rw [← htaken] at hcount ⊢
      rw [← hbegun] at hall hcount
      exact .takingLate hpermits hall hcount

/-- Whose turn it is examines a task, beside the conductor and the others who examine tasks. -/
structure Ledger.AtWork (id : TaskId) (others : Multiset TaskId) (hands : Multiset (Hand ρ)) : Prop where
  busy : k.busy = id ::ₘ others
  others : Multiset.Rel k.Examines others hands

namespace Ledger.AtWork

variable {k} {id : TaskId} {others : Multiset TaskId}

theorem mem_busy (h : k.AtWork id others hands) : id ∈ k.busy := h.busy ▸ Multiset.mem_cons_self _ _

theorem manned (h : k.AtWork id others hands) {w : Hand ρ} (hw : k.Examines id w) :
    k.Manned (w ::ₘ hands) := by
  rw [Ledger.Manned, h.busy]
  exact .cons hw h.others

/-- The others are where they were after a call for this task. -/
theorem turn (h : k.AtWork id others hands) :
    Ledger.AtWork (k.turn id h.mem_busy) id others hands := by
  refine ⟨h.busy, h.others.mono fun id' hid' w _ hw => ?_⟩
  have hne : id ≠ id' := by
    rintro rfl
    exact (Multiset.nodup_cons.1 (h.busy ▸ k.nodup_busy)).1 hid'
  rw [Ledger.Examines, Books.scene_turn, (Scene.step_next_of_ne hne).1]
  exact hw

theorem finish (h : k.AtWork id others hands) {r : Reconciled} (hr : k.scene.result? id = some r) :
    Ledger.Manned (k.finish id r h.mem_busy hr) hands := by
  have herase : (k.finish id r h.mem_busy hr).busy = others := by
    change k.busy.erase id = others
    rw [h.busy, Multiset.erase_cons_head]
  rw [Ledger.Manned, herase]
  exact h.others

end Ledger.AtWork

/-- A worker who examines a task goes on to its next pause, or hands in what was found. -/
theorem afterTurn_examines (hinv : ∀ v, x.UnderWay v → Inv v) {conductor : Job (Backend × ρ) Unit}
    (hstage : k.Stage conductor) {id : TaskId} {others : Multiset TaskId}
    (hwork : k.AtWork id others hands) {w : Hand ρ} (hw : k.Examines id w) :
    AfterTurn duties w.isHead Inv w.rest (k.view (⟨conductor, x.isHead⟩ ::ₘ hands)) := by
  obtain ⟨rest, isHead⟩ := w
  obtain ⟨rfl, work, hrest, rfl⟩ := hw
  refine afterTurn_relayed (J := fun action v => ∃ k' : x.Ledger, k'.Stage conductor ∧
    k'.AtWork id others hands ∧ k'.scene.rest id = action ∧
      v = k'.view (⟨conductor, x.isHead⟩ ::ₘ hands)) x.idle ?_ ?_ ?_ hrest
    ⟨k, hstage, hwork, rfl, rfl⟩
  · rintro call next _ rest ⟨k', hstage, hwork, haction, rfl⟩ hrest
    have hexamines : k'.Examines id ⟨rest >>= Job.handIn x.number, false⟩ :=
      ⟨rfl, rest, haction ▸ hrest, rfl⟩
    refine hinv _ ⟨k', conductor, _, hstage, hwork.manned hexamines, ?_⟩
    simp only [Ledger.view, View.join, Multiset.cons_swap]
  · rintro call next _ ⟨k', hstage, hwork, haction, rfl⟩
    refine ⟨k'.turn id hwork.mem_busy, hstage.congr rfl rfl, hwork.turn, ?_,
      k'.view_turn hwork.mem_busy haction _⟩
    rw [Books.scene_turn]
    exact (Scene.step_next_of_ask haction).2.1
  · rintro r _ ⟨k', hstage, hwork, haction, rfl⟩
    have hr : k'.scene.result? id = some r := by rw [Scene.result?, haction]
    exact hinv _ ⟨k'.finish id r hwork.mem_busy hr, conductor, hands, hstage.congr rfl rfl,
      hwork.finish hr, k'.view_finish hwork.mem_busy hr _⟩

end Examiner

/-! ### All turns and delayed changes -/

section UnderWay

variable {duties : Duty → Job (Backend × ρ) Unit}
  {Inv : View (Site ρ) Duty → Prop} {v : View (Site ρ) Duty}

/-- The turn of anyone in the crew keeps what a sweep leads to. -/
theorem UnderWay.turn (hleads : x.LeadsTo duties Inv) {w : Hand ρ} (h : x.UnderWay (v.join w)) :
    AfterTurn duties w.isHead Inv w.rest v := by
  obtain ⟨k, conductor, hands, hstage, hmanned, hv⟩ := h
  obtain ⟨shared, workers, delayed⟩ := v
  obtain ⟨rfl, hworkers, rfl⟩ := View.mk.inj hv
  rcases Multiset.cons_eq_cons.1 hworkers with ⟨rfl, rfl⟩ | ⟨-, others, rfl, rfl⟩
  · cases hstage with
    | listing hbegun htaken hwork =>
        exact afterTurn_list k hleads hwork hmanned hbegun htaken
    | placing hpermits hids htaken =>
        exact afterTurn_place k hleads hpermits (begins hleads hpermits _) hmanned hids htaken
    | taking hpermits hbegun hcount =>
        exact afterTurn_takeNext k hleads.underWay hpermits (reports hleads hpermits _) hmanned
          hbegun hcount
    | takingLate hpermits hbegun hcount =>
        exact afterTurn_takeLate k hleads.underWay hpermits (reports hleads hpermits _) hmanned
          hbegun hcount
  · obtain ⟨id, busy, hw, hothers, hbusy⟩ := Multiset.rel_cons_right.1 hmanned
    exact afterTurn_examines k hleads.underWay hstage ⟨hbusy, hothers⟩ hw

/-- A finding that was out of reach is ready again, and the sweep is still under way. -/
theorem UnderWay.change {f : Site ρ → Site ρ}
    (h : x.UnderWay (v.delay f)) : x.UnderWay (v.share (f v.shared)) := by
  obtain ⟨k, conductor, hands, hstage, hmanned, hv⟩ := h
  obtain ⟨shared, workers, delayed⟩ := v
  obtain ⟨rfl, rfl, hdelayed⟩ := View.mk.inj hv
  obtain ⟨r, hr, rfl⟩ := Multiset.mem_map.1 (hdelayed ▸ Multiset.mem_cons_self f delayed)
  obtain ⟨rest, hheld⟩ := Multiset.exists_cons_of_mem hr
  rw [hheld, Multiset.map_cons, Multiset.cons_inj_right] at hdelayed
  subst hdelayed
  exact ⟨k.giveBack r rest hheld, conductor, hands, hstage.congr rfl rfl, hmanned,
    k.view_giveBack hheld _⟩

/-- While a sweep is under way there are never more workers than places, besides the conductor. -/
theorem UnderWay.card_workers (h : x.UnderWay v) :
    v.workers.card ≤ permits x.maxConcurrent + 1 := by
  obtain ⟨k, conductor, hands, -, hmanned, rfl⟩ := h
  have hcard := Multiset.card_eq_card_of_rel hmanned
  have hroom := k.room
  simp only [Ledger.view, Multiset.card_cons]
  omega

theorem Ledger.Manned.isHead_eq_false {k : x.Ledger} {hands : Multiset (Hand ρ)}
    (h : k.Manned hands) {w : Hand ρ} (hw : w ∈ hands) : w.isHead = false := by
  obtain ⟨others, rfl⟩ := Multiset.exists_cons_of_mem hw
  obtain ⟨id, busy, hexamines, -, -⟩ := Multiset.rel_cons_right.1 h
  exact hexamines.1

theorem UnderWay.heads (h : x.UnderWay v) : v.heads = x.isHead.toNat := by
  obtain ⟨k, conductor, hands, -, hmanned, rfl⟩ := h
  have hnone : (k.view hands).heads = 0 := Multiset.countP_eq_zero.2 fun w hw => by
    simp [hmanned.isHead_eq_false hw]
  exact (View.heads_join (k.view hands) ⟨conductor, x.isHead⟩).trans (by rw [hnone, Nat.zero_add])

variable (x) in
/-- Nothing has been done yet. -/
def started : View (Site ρ) Duty where
  shared := { world := (x.backend, x.beside), roundsBegun := x.number, sweepers := x.sweepers }

/-- The sweep begins. -/
theorem afterTurn_sweep (hleads : x.LeadsTo duties Inv) :
    AfterTurn duties x.isHead Inv
      (Job.sweep x.reply x.limit x.maxConcurrent x.isStopped >>= x.after) x.started := by
  have hlist := afterTurn_list (Books.empty x.limit x.backend (permits x.maxConcurrent)) hleads
    (relayed_relay listOpen) .zero rfl rfl
  have hsweep := x.conduct_sweeping.symm ▸ hlist
  simp only [Job.sweep, LawfulMonad.bind_assoc, LawfulMonad.pure_bind, afterTurn_look, afterTurn_change]
  exact hsweep

end UnderWay

/-! ### A sweep does not come to a standstill -/

section Standstill

theorem Ledger.Examines.not_isStuck (htimely : ∀ call, Timely (x.pause call)) {k : x.Ledger}
    {id : TaskId} {w : Hand ρ}
    (h : k.Examines id w) (shared : Site ρ) : ¬ w.IsStuck shared := by
  obtain ⟨rest, isHead⟩ := w
  obtain ⟨-, work, hwork, rfl⟩ := h
  generalize k.scene.rest id = action at hwork
  cases action with
  | done r =>
      cases hwork
      rintro ⟨wish, hawaited, -⟩
      cases hawaited
  | ask call next => exact hwork.not_isStuck htimely _ _ _

/-- The conductor is not stuck when nobody is left who could help. -/
theorem Ledger.Stage.not_isStuck (htimely : ∀ call, Timely (x.pause call)) {k : x.Ledger}
    {conductor : Job (Backend × ρ) Unit} (h : k.Stage conductor) (hbusy : k.busy = 0)
    (hheld : k.held = 0) (isHead : Bool) : ¬ Worker.IsStuck ⟨conductor, isHead⟩ k.workplace := by
  have hfound {count : Nat} (hcount : k.taken.length + (count + 1) = k.begun.length) :
      k.workplace.isFound x.number = true := by
    have hbegun := k.length_begun
    rw [hbusy, hheld, Multiset.card_zero, Multiset.card_zero] at hbegun
    rw [Workplace.isFound, round_workplace]
    change (!k.ready.isEmpty) = true
    cases hready : k.ready with
    | nil =>
        rw [hready] at hbegun
        simp only [List.length_nil] at hbegun
        omega
    | cons _ _ => rfl
  cases h with
  | listing _ _ hwork => exact hwork.not_isStuck htimely _ _ _
  | placing _ _ _ =>
      rintro ⟨wish, hawaited, hwish⟩
      cases hawaited
      change decide (0 < (k.workplace.round x.number).free) = false at hwish
      rw [round_workplace, decide_eq_false_iff_not] at hwish
      have hroom := k.room
      rw [hbusy, Multiset.card_zero] at hroom
      exact hwish (Nat.lt_of_lt_of_eq (one_le_permits _) hroom.symm)
  | taking _ _ hcount | takingLate _ _ hcount =>
      rintro ⟨wish, hawaited, hwish⟩
      cases hawaited
      exact Bool.noConfusion ((hfound hcount).symm.trans hwish)

/-- **A sweep that is under way does not come to a standstill**, if every pause comes to its end. -/
theorem UnderWay.not_atRest (htimely : ∀ call, Timely (x.pause call)) (hhead : x.isHead = true)
    {v : View (Site ρ) Duty} (h : x.UnderWay v) : ¬ v.AtRest := by
  have hheads := h.heads
  obtain ⟨k, conductor, hands, hstage, hmanned, rfl⟩ := h
  rintro (hnone | ⟨hdelayed, hstuck⟩)
  · rw [hnone, hhead] at hheads
    cases hheads
  · have hheld : k.held = 0 := Multiset.map_eq_zero.1 hdelayed
    have hhands : hands = 0 := Multiset.eq_zero_of_forall_notMem fun w hw => by
      obtain ⟨others, rfl⟩ := Multiset.exists_cons_of_mem hw
      obtain ⟨id, busy, hexamines, -, -⟩ := Multiset.rel_cons_right.1 hmanned
      exact hexamines.not_isStuck htimely _ (hstuck w (Multiset.mem_cons_of_mem hw))
    rw [Ledger.Manned, hhands, Multiset.rel_zero_right] at hmanned
    exact hstage.not_isStuck htimely hmanned hheld _ (hstuck _ (Multiset.mem_cons_self _ _))

end Standstill

end CrewSweep

end TaskLedger.Service
