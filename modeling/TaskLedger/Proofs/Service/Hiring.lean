import TaskLedger.Proofs.Crew.Hiring
import TaskLedger.Proofs.Service.SweepCrew

/-!
**Who is taken on.**

A sweep takes on workers who examine tasks, and these take on nobody, if only nobody is taken on for a
reply to a call.  So what follows from any duty comes to an end, and a crew with such duties comes to
rest.  Nor does it make a difference what the work of a sweeper is, unless somebody is taken on for it.

Main results:

* `TaskLedger.Service.hires_ofDuty` — for any duty, only workers who examine tasks are taken on;
* `TaskLedger.Service.wellFounded_ofDuty` — **what follows from each duty comes to an end**;
* `TaskLedger.Service.exists_rest_ofHead` — **every crew comes to rest** whose calls are answered after
  pauses in which nothing is done, if its head takes on nobody but workers who examine tasks.
-/

set_option autoImplicit false

namespace TaskLedger.Service

open Dialogue Crew

variable {ω : Type} {p : Duty → Prop}

/-! ### Sweeps and sweepers -/

section Sweep

variable {number : Nat} {limit : TimeLimit} {reply : (call : Call) → Job ω call.Reply}

theorem hires_takeReady : Hires p (Job.takeReady number : Job ω _) :=
  .bind .look fun _ => .bind (.change _) fun _ => .pure _

theorem hires_takeLate : Hires p (Job.takeLate number : Job ω _) :=
  .bind (.request trivial) fun _ => .bind (.request trivial) fun _ => hires_takeReady

theorem hires_takeNext : Hires p (Job.takeNext number : Job ω _) := by
  refine .bind (.request trivial) fun _ => .bind (.request trivial) fun isLeft => ?_
  cases isLeft with
  | true => exact hires_takeReady
  | false =>
      refine .bind .look fun _ => .bind (.change _) fun _ => ?_
      exact .bind (.request trivial) fun _ => .bind (.request trivial) fun _ => hires_takeLate

theorem hires_takeFinding : Hires p (Job.takeFinding number : Job ω _) := by
  refine .bind .look fun _ => ?_
  split
  · exact .pure _
  · exact hires_takeNext

/-- A task is examined for a sweep. -/
def Duty.IsReconcile (duty : Duty) : Prop := ∃ number limit id, duty = .reconcile number limit id

theorem hires_sweep {maxConcurrent : UInt64} {isStopped : Job ω Bool}
    (hreply : ∀ call, Hires Duty.IsReconcile (reply call))
    (hisStopped : Hires Duty.IsReconcile isStopped) :
    Hires Duty.IsReconcile (Job.sweep reply limit maxConcurrent isStopped) := by
  have hstep (number : Nat) : ∀ step,
      Hires Duty.IsReconcile (Job.sweepStep reply limit isStopped number step) := by
    intro step
    cases step with
    | list => exact .relay hreply _
    | isStopped => exact hisStopped
    | place => exact .bind (.request trivial) fun _ => .change _
    | begin id => exact .bind (.change _) fun _ => .request ⟨number, limit, id, rfl⟩
    | finding => exact hires_takeFinding
  refine .bind .look fun p => .bind (.change _) fun _ => ?_
  exact .bind (.relay (hstep p.roundsBegun) _) fun result => .bind (.change _) fun _ => .pure result

theorem hires_reconcileFor {id : TaskId} (hreply : ∀ call, Hires p (reply call)) :
    Hires p (Job.reconcileFor reply number limit id) :=
  .bind (.relay hreply _) fun _ => .change _

theorem hires_beSweeper (hreply : ∀ call, Hires Duty.IsReconcile (reply call)) (index sweeps : Nat) :
    Hires Duty.IsReconcile (Job.beSweeper reply index sweeps) := by
  induction sweeps with
  | zero => exact .change _
  | succ sweeps ih =>
      refine .bind .look fun p => ?_
      cases p.sweepers[index]? with
      | none => exact .pure _
      | some s =>
          change Hires _ (if s.signal = .stop then _ else _)
          split
          · exact .change _
          · refine .bind (hires_sweep hreply (.bind .look fun _ => .pure _)) fun result => ?_
            split
            · exact .change _
            · refine .bind (.relay hreply _) fun _ => .bind (.change _) fun _ => ?_
              refine .bind (.bind (.request trivial) fun _ => .request trivial) fun _ => ?_
              refine .bind .look fun p => ?_
              split
              · exact .change _
              · exact ih

end Sweep

/-- For any duty, only workers who examine tasks are taken on. -/
theorem hires_ofDuty {reply : (call : Call) → Job ω call.Reply}
    (hreply : ∀ call, Hires Duty.IsReconcile (reply call)) (sweeps : Nat) (duty : Duty) :
    Hires Duty.IsReconcile (Job.ofDuty reply sweeps duty) := by
  cases duty with
  | sweeper index => exact hires_beSweeper hreply index sweeps
  | reconcile number limit id => exact hires_reconcileFor hreply

/-- **What follows from each duty comes to an end**, if nobody is taken on for a reply. -/
theorem wellFounded_ofDuty {reply : (call : Call) → Job ω call.Reply}
    (hreply : ∀ call, Hires (fun _ => False) (reply call)) (sweeps : Nat) :
    WellFounded (Follows (Job.ofDuty reply sweeps)) := by
  refine wellFounded_follows fun duty => acc_of_asksOnly ?_
    (hires_ofDuty (fun call => (hreply call).of_nobody) sweeps duty)
  rintro _ ⟨number, limit, id, rfl⟩
  exact acc_of_asksOnly (fun _ => False.elim) (hires_reconcileFor hreply)

/-! ### Crews with such duties -/

section Replying

variable {ρ : Type} {pause : Call → Job (Backend × ρ) Unit}

theorem hires_replying (hpause : ∀ call, Idle (pause call)) (call : Call) :
    Hires p (Job.replying pause call) :=
  .bind (.of_idle (hpause call)) fun _ => .bind .look fun _ => .ask trivial fun _ => .done _

/-- **Every crew comes to rest** whose calls are answered after pauses in which nothing is done, and
whose head takes on nobody but workers who examine tasks.  After how many turns does not depend on how
often sweepers sweep. -/
theorem exists_rest_ofHead (hpause : ∀ call, Idle (pause call)) (shared : Site ρ)
    {job : Job (Backend × ρ) Unit} (hjob : Hires Duty.IsReconcile job) :
    ∃ n, ∀ turns m, n ≤ m →
      ((Crew.ofHead shared job).run (Job.ofDuty (Job.replying pause) turns) m).next?
        (Job.ofDuty (Job.replying pause) turns) = none := by
  have hduty (turns : Nat) (duty : Duty) (_ : duty.IsReconcile) :
      Hires Duty.IsReconcile (Job.ofDuty (Job.replying pause) turns duty) :=
    hires_ofDuty (hires_replying hpause) turns duty
  have hsame (turns : Nat) (duty : Duty) (h : duty.IsReconcile) :
      Job.ofDuty (Job.replying pause) turns duty = Job.ofDuty (Job.replying pause) 0 duty := by
    obtain ⟨number, limit, id, rfl⟩ := h
    rfl
  have hbegin : Upholds (View.Hires Duty.IsReconcile) (Crew.ofHead shared job) := by
    refine ⟨.ofHead shared job, ?_⟩
    rw [view_ofHead]
    exact View.hires_join.2 ⟨hjob, fun _ hw => absurd hw (Multiset.notMem_zero _)⟩
  obtain ⟨n, hrest⟩ := hbegin.orderly.exists_rest (wellFounded_ofDuty (hires_replying hpause) 0)
  refine ⟨n, fun turns m hle => ?_⟩
  have hupholds := (keeps_hires (hduty turns)).run hbegin m
  rw [next?_congr (hsame turns) hupholds.inv, run_congr (hsame turns) (hduty turns) hbegin,
    run_of_rest hrest hle]
  exact hrest

end Replying

end TaskLedger.Service
