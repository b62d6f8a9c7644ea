import TaskLedger.Proofs.Broker.Notice
import TaskLedger.Proofs.Service.Grounds
import TaskLedger.Proofs.Service.Ledger

/-!
**The service in use.**

Any number of users run side by side against one backend.  Between their calls the clock is set, and
the broker is told how the jobs fare, that it is to forget one, or that it is out of reach.  Here all
this is data, so that the same may happen to different backends.

Main definitions:

* `TaskLedger.Happening`, `TaskLedger.Backend.busyWorld` — what happens besides the calls;
* `TaskLedger.Service.inUse` — what has come of some users after a series of moves.

Main results:

* `TaskLedger.Service.run_inUse` — what users have said is a run;
* `TaskLedger.Service.User.asks_of_submits` — **only submissions write records, dispatch jobs and
  record handles**, each call at its place.
-/

set_option autoImplicit false

namespace TaskLedger

/-- What happens besides the calls: the clock is set, or the broker is told something. -/
inductive Happening where
  | clock (now : Instant)
  | notice (n : Broker.Notice)

namespace Backend

/-- What a happening is to a backend. -/
def incident (b : Backend) : Happening → Incident
  | .clock now => .clock now
  | .notice n => .broker (b.broker.heed b.clock n)

/-- A backend that answers calls while its clock is set and its broker is told how jobs fare. -/
def busyWorld : World Service.calls Backend Happening where
  answer := answer
  happen e b := b.happen (b.incident e)

end Backend

namespace Service

open Dialogue

variable {ι : Type} [DecidableEq ι]

/-- The users of a service with one limit for all tasks: what has come of them after a series of
moves. -/
def inUse (limit : TimeLimit) (users : ι → User) (b : Backend) (moves : List (Move ι Happening)) :
    Scene calls (fun i => (users i).Result) Backend :=
  (Scene.start (fun i => (users i).action limit) b).play Backend.busyWorld moves

/-- What users have said, with the backend at that moment. -/
abbrev RunInUse (limit : TimeLimit) (users : ι → User) (b : Backend) (said : Said calls ι)
    (s : Backend) : Prop :=
  Run Backend.busyWorld (fun i => (users i).action limit) b said s

theorem run_inUse (limit : TimeLimit) (users : ι → User) (b : Backend)
    (moves : List (Move ι Happening)) :
    RunInUse limit users b (inUse limit users b moves).said (inUse limit users b moves).state :=
  Scene.run_play Backend.busyWorld _ b moves

/-- Whatever may happen in use may happen at all. -/
theorem RunInUse.run {limit : TimeLimit} {users : ι → User} {b s : Backend} {said : Said calls ι}
    (h : RunInUse limit users b said s) :
    Run Backend.world (fun i => (users i).action limit) b said s := by
  have hanswer : Backend.busyWorld.answer = Backend.world.answer := rfl
  exact h.mono hanswer fun e s => ⟨s.incident e, rfl⟩

/-! ### The calls that only submissions make -/

/-- Whether a call writes a record, dispatches a job or records a handle. -/
def Call.submits : Call → Bool
  | .store (.insert _) | .store (.setHandle _ _) | .broker (.dispatch _ _ _) => true
  | .store (.get _) | .store (.markRunning _) | .store (.appendLog _ _) | .store (.finish _ _)
  | .store (.finishFrom _ _ _) | .store .listOpen | .store .counts
  | .broker (.state _) | .broker (.failureDetail _) | .broker (.revoke _)
  | .now | .freshId => false

/-- A dialogue that leaves submitting to others. -/
abbrev LooksOn {α : Type} (d : Action α) : Prop := d.AsksOnly fun q => q.submits = false

section LooksOn

variable {limit : TimeLimit} {id : TaskId}

theorem LookAsks.submits {reported : Option String} {h : List (Exchange calls)} {q : Call}
    (hq : LookAsks limit id reported h q) : q.submits = false := by
  cases hq <;> rfl

theorem looksOn_cancel (id : TaskId) : LooksOn (cancel id) := by
  intro h q hasks
  rcases asks_cancel hasks with
    ⟨-, rfl⟩ | ⟨_, -, ⟨_, -, rfl, -⟩ | ⟨_, _, -, ⟨rfl, -⟩ | ⟨_, rfl, -⟩⟩⟩ <;> rfl

theorem looksOn_examine (limit : TimeLimit) (id : TaskId) (reported : Option String) :
    LooksOn (examine limit id reported) :=
  fun _ _ hasks => (asks_examine hasks).submits

theorem looksOn_reconcile (limit : TimeLimit) (id : TaskId) : LooksOn (reconcile limit id) :=
  fun _ _ hasks => (asks_reconcile hasks).submits

theorem looksOn_lookup (limit : TimeLimit) (id : TaskId) : LooksOn (lookup limit id) := by
  refine (looksOn_reconcile limit id).bind fun _ => .ask rfl fun reply => ?_
  rcases reply with fault | record? <;> exact .done _

theorem looksOn_reconcileAll (limit : TimeLimit) (ids : List TaskId) (report : SweepReport) :
    LooksOn (reconcileAll limit ids report) := by
  induction ids generalizing report with
  | nil => exact .done _
  | cons id ids ih => exact (looksOn_reconcile limit id).bind fun result => ih _

theorem looksOn_sweep (limit : TimeLimit) (maxConcurrent : UInt64) :
    LooksOn (sweep limit maxConcurrent) := by
  rw [sweep_eq]
  refine .ask rfl fun listed => ?_
  rcases listed with fault | records
  · exact .done _
  · simp only
    split
    · exact .done _
    · exact (looksOn_reconcileAll limit _ _).bind fun report => .done _

theorem looksOn_onFailure (limit : TimeLimit) (args : Json) (failure : JobFailure) :
    LooksOn (onFailure limit args failure) := by
  unfold onFailure
  split
  · exact .done _
  · refine (looksOn_examine limit _ _).bind fun r => ?_
    rcases r with fault | finding <;> exact .done _

/-- **Only submissions write records, dispatch jobs and record handles**, each call at its place. -/
theorem User.asks_of_submits {u : User} {h : List (Exchange calls)} {q : Call}
    (hasks : (u.action limit).Asks h q) (hq : q.submits = true) :
    ∃ taskType payload, u = .submit taskType payload ∧ SubmitAsks taskType payload h q := by
  have hlooks : LooksOn (u.action limit) → False := fun hlooks =>
    Bool.false_ne_true ((hlooks h q hasks).symm.trans hq)
  cases u with
  | submit taskType payload => exact ⟨taskType, payload, rfl, asks_submit hasks⟩
  | cancel id => exact (hlooks (looksOn_cancel id)).elim
  | lookup id => exact (hlooks (looksOn_lookup limit id)).elim
  | tally =>
      refine (hlooks (.ask rfl fun reply => ?_)).elim
      rcases reply with fault | c <;> exact .done _
  | reconcile id => exact (hlooks (looksOn_reconcile limit id)).elim
  | sweep maxConcurrent => exact (hlooks (looksOn_sweep limit maxConcurrent)).elim
  | list => exact (hlooks (.request rfl)).elim
  | onFailure args failure => exact (hlooks (looksOn_onFailure limit args failure)).elim
  | start id => exact (hlooks (.request rfl)).elim
  | log id message => exact (hlooks (.request rfl)).elim
  | complete id result => exact (hlooks (.ask rfl fun _ => .ask rfl fun _ => .done _)).elim
  | fail id userMessage technicalDetail =>
      exact (hlooks (.ask rfl fun _ => .ask rfl fun _ => .done _)).elim
  | shouldStop id =>
      refine (hlooks (.ask rfl fun reply => ?_)).elim
      rcases reply with fault | _ | record <;> exact .done _

end LooksOn

end Service

end TaskLedger
