import TaskLedger.Proofs.Service.Hiring

/-!
**What a sweep in a crew comes to.**

A crew comes together for one sweep: its head conducts the sweep and notes the result beside the
backend, and there is one more worker for each task while it is examined.  Calls take their time, and
nothing is known of the order in which the workers have their turns.  Result and backend are
nevertheless those of a sweep with nobody else around, in which tasks are examined one after the other.

Main definitions:

* `TaskLedger.Service.Job.sweepAndNote` — a sweep whose result is noted;
* `TaskLedger.Service.CrewSweep.alone` — the sweep of such a crew;
* `TaskLedger.Service.Sees` — what can be seen of such a crew.

Main results:

* `TaskLedger.Service.run_sweepAndNote` — **there is only one result and one backend** that a sweep in
  a crew can come to;
* `TaskLedger.Service.world_of_rest`, `TaskLedger.Service.run_eventually` — **a crew at rest has come to
  them, and every crew comes to rest**, if every pause comes to its end;
* `TaskLedger.Service.card_workers_sweepAndNote` — **no more tasks are examined at once than there are
  places**.
-/

set_option autoImplicit false

namespace TaskLedger.Service

open Dialogue Crew

variable {pause : Call → Job (Backend × Option (Except SweepFault SweepReport)) Unit}
  {limit : TimeLimit} {maxConcurrent : UInt64} {b : Backend}

/-- Puts a result beside the backend. -/
def Job.noteResult (result : Except SweepFault SweepReport) :
    Job (Backend × Option (Except SweepFault SweepReport)) Unit :=
  modify fun w => (w.1, some result)

/-- A sweep whose result is put beside the backend. -/
def Job.sweepAndNote (pause : Call → Job (Backend × Option (Except SweepFault SweepReport)) Unit)
    (limit : TimeLimit) (maxConcurrent : UInt64) :
    Job (Backend × Option (Except SweepFault SweepReport)) Unit := do
  noteResult (← Job.sweep (Job.replying pause) limit maxConcurrent (return false))

/-- The sweep of a crew that came together for it. -/
def CrewSweep.alone (hpause : ∀ call, Idle (pause call)) (limit : TimeLimit) (maxConcurrent : UInt64)
    (b : Backend) : CrewSweep (Option (Except SweepFault SweepReport)) where
  pause := pause
  limit := limit
  maxConcurrent := maxConcurrent
  isStopped := return false
  isHead := true
  after := Job.noteResult
  number := 0
  backend := b
  beside := none
  sweepers := []
  idle := hpause
  unstopped := ⟨_, tells_pure false, fun _ _ => rfl⟩

/-- What can be seen of such a crew: the sweep is about to begin, or it is under way, or its result
has been noted. -/
inductive Sees (hpause : ∀ call, Idle (pause call)) (limit : TimeLimit) (maxConcurrent : UInt64)
    (b : Backend) : View (Site (Option (Except SweepFault SweepReport))) Duty → Prop
  | start : Sees hpause limit maxConcurrent b (View.join { shared := { world := (b, none) } }
      ⟨Job.sweepAndNote pause limit maxConcurrent, true⟩)
  | underWay {v} : (CrewSweep.alone hpause limit maxConcurrent b).UnderWay v →
      Sees hpause limit maxConcurrent b v
  | done {result : Except SweepFault SweepReport} {b' : Backend} :
      b.perform (sweep limit maxConcurrent) = (result, b') →
      Sees hpause limit maxConcurrent b { shared := { world := (b', some result), roundsBegun := 1 } }

theorem keeps_sees (hpause : ∀ call, Idle (pause call)) (turns : Nat) :
    Keeps (Job.ofDuty (Job.replying pause) turns) (Sees hpause limit maxConcurrent b) := by
  have hleads : (CrewSweep.alone hpause limit maxConcurrent b).LeadsTo
      (Job.ofDuty (Job.replying pause) turns) (Sees hpause limit maxConcurrent b) :=
    ⟨fun _ => rfl, fun _ => .underWay, fun _ _ hperform => .done hperform⟩
  constructor
  case turn =>
    intro v w h
    generalize hv : v.join w = v' at h
    cases h with
    | start =>
        obtain ⟨rfl, rfl⟩ := View.eq_of_join_eq hv rfl
        exact CrewSweep.afterTurn_sweep hleads
    | underWay h => exact CrewSweep.UnderWay.turn hleads (hv ▸ h)
    | done _ => exact absurd (congrArg View.workers hv) Multiset.cons_ne_zero
  case change =>
    intro v f h
    generalize hv : v.delay f = v' at h
    cases h with
    | underWay h => exact .underWay (CrewSweep.UnderWay.change (hv ▸ h))
    | start | done _ => exact absurd (congrArg View.delayed hv) Multiset.cons_ne_zero

/-- Such a crew at some time. -/
def crewAfter (pause : Call → Job (Backend × Option (Except SweepFault SweepReport)) Unit)
    (limit : TimeLimit) (maxConcurrent : UInt64) (b : Backend) (turns n : Nat) :
    Crew (Site (Option (Except SweepFault SweepReport))) Duty :=
  (Crew.ofHead { world := (b, none) } (Job.sweepAndNote pause limit maxConcurrent)).run
    (Job.ofDuty (Job.replying pause) turns) n

variable (limit maxConcurrent b) in
theorem upholds_sees (hpause : ∀ call, Idle (pause call)) (turns n : Nat) :
    Upholds (Sees hpause limit maxConcurrent b) (crewAfter pause limit maxConcurrent b turns n) :=
  (keeps_sees hpause turns).run ⟨.ofHead _ _, .start⟩ n

/-- **A sweep in a crew comes to what it comes to with nobody else around**, however long its calls
take and whoever has a turn when: if there is a result, it is the one result that there can be, and so
is the backend. -/
theorem run_sweepAndNote (hpause : ∀ call, Idle (pause call)) {turns : Nat} {b' : Backend}
    {result : Except SweepFault SweepReport}
    (h : Workplace.run (Job.replying pause) turns (b, none)
      (Job.sweepAndNote pause limit maxConcurrent) = (b', some result)) :
    b.perform (sweep limit maxConcurrent) = (result, b') := by
  have hsees := (upholds_sees limit maxConcurrent b hpause turns turns).inv
  generalize hv : Crew.view _ = v at hsees
  have hworld : v.shared.world = (b', some result) := by
    rw [← hv, shared_view]
    exact h
  cases hsees with
  | start => cases hworld
  | underWay hunderWay =>
      obtain ⟨k, conductor, hands, -, -, rfl⟩ := hunderWay
      cases hworld
  | done hperform =>
      cases hworld
      exact hperform

/-- **A crew that has come to rest has its result**: nobody in it waits in vain. -/
theorem world_of_rest (hpause : ∀ call, Idle (pause call)) (htimely : ∀ call, Timely (pause call))
    (turns n : Nat) (hrest : (crewAfter pause limit maxConcurrent b turns n).next?
      (Job.ofDuty (Job.replying pause) turns) = none) :
    (crewAfter pause limit maxConcurrent b turns n).shared.world =
      ((b.perform (sweep limit maxConcurrent)).2,
        some (b.perform (sweep limit maxConcurrent)).1) := by
  have hupholds := upholds_sees limit maxConcurrent b hpause turns n
  have hatRest := hupholds.orderly.atRest hrest
  have hsees := hupholds.inv
  rw [← shared_view]
  generalize Crew.view _ = v at hatRest hsees ⊢
  cases hsees with
  | start =>
      refine absurd hatRest (View.not_atRest_join rfl ?_)
      rintro ⟨wish, hawaited, -⟩
      cases hawaited
  | underWay h => exact absurd hatRest (h.not_atRest htimely rfl)
  | done hperform => rw [hperform]

variable (limit maxConcurrent) in
theorem hires_sweepAndNote (hpause : ∀ call, Idle (pause call)) :
    Hires Duty.IsReconcile (Job.sweepAndNote pause limit maxConcurrent) :=
  .bind (hires_sweep (hires_replying hpause) (.pure false)) fun _ =>
    .bind .look fun _ => .ask trivial fun _ => .done ()

/-- **A sweep in a crew always comes to its result**, if every pause comes to its end and it is given
enough turns. -/
theorem run_eventually (hpause : ∀ call, Idle (pause call)) (htimely : ∀ call, Timely (pause call)) :
    ∃ n, ∀ turns ≥ n, Workplace.run (Job.replying pause) turns (b, none)
      (Job.sweepAndNote pause limit maxConcurrent) =
        ((b.perform (sweep limit maxConcurrent)).2,
          some (b.perform (sweep limit maxConcurrent)).1) := by
  obtain ⟨n, hrest⟩ := exists_rest_ofHead hpause { world := (b, none) }
    (hires_sweepAndNote limit maxConcurrent hpause)
  exact ⟨n, fun turns hle => world_of_rest hpause htimely turns turns (hrest turns turns hle)⟩

/-- Each call may take a time of its own. -/
theorem run_eventually_of_sleep (millis : Call → Nat) : ∃ n, ∀ turns ≥ n,
    Workplace.run (Job.replying fun call => Crew.sleep (millis call)) turns (b, none)
      (Job.sweepAndNote (fun call => Crew.sleep (millis call)) limit maxConcurrent) =
        ((b.perform (sweep limit maxConcurrent)).2,
          some (b.perform (sweep limit maxConcurrent)).1) :=
  run_eventually (fun call => idle_sleep (millis call)) fun call => timely_sleep (millis call)

/-- **No more tasks are examined at once than there are places**, at any time. -/
theorem card_workers_sweepAndNote (hpause : ∀ call, Idle (pause call)) (turns n : Nat) :
    (crewAfter pause limit maxConcurrent b turns n).view.workers.card ≤
      permits maxConcurrent + 1 := by
  have hsees := (upholds_sees limit maxConcurrent b hpause turns n).inv
  generalize Crew.view _ = v at hsees ⊢
  cases hsees with
  | start => simp [View.join]
  | underWay h => exact h.card_workers
  | done _ => simp

end TaskLedger.Service
