import TaskLedger.Proofs.Service.Hiring

/-!
**The course of a sweeper.**

A sweeper sweeps, notes what the sweep came to, waits, and sweeps again.  Here it is the head of a
crew in which everyone else examines a task for it, and nobody tells it to stop or leaves it alone.
Whatever happens during a sweep happens in an order of which nothing is known, but no sweep begins
before the last has ended.  So at any time what the sweeper has noted is what some number of sweeps
come to, one after the other and with nobody else around.

Main definitions:

* `TaskLedger.Service.sweptTimes`, `TaskLedger.Service.Sweeper.after` — what some number of sweeps
  come to;
* `TaskLedger.Service.CrewSweep.nth` — one of the sweeps of a sweeper;
* `TaskLedger.Service.OnCourse` — what can be seen of such a crew.

Main results:

* `TaskLedger.Service.sweepers_sweeperAfter` — **what a sweeper has noted at any time**;
* `TaskLedger.Service.shared_of_rest`, `TaskLedger.Service.shared_eventually` — **a crew at rest has
  swept as often as it should, and every crew comes to rest**, if every pause comes to its end;
* `TaskLedger.Service.card_workers_sweeperAfter` — no more tasks are examined at once than there are
  places.
-/

set_option autoImplicit false

namespace TaskLedger.Service

open Dialogue Crew

variable {ρ : Type}

/-! ### Sweeps one after the other -/

/-- The backend, and what a sweeper has done, after a number of sweeps one after the other. -/
def sweptTimes (s : Sweeper) (b : Backend) : Nat → Backend × SweeperStats
  | 0 => (b, s.stats)
  | n + 1 =>
      let (b, stats) := sweptTimes s b n
      let (result, b) := b.perform (sweep s.limit s.settings.maxConcurrent)
      (b, stats.add b.clock result.toOption)

/-- The sweeper after a number of sweeps. -/
def Sweeper.after (s : Sweeper) (b : Backend) (n : Nat) : Sweeper :=
  { s with stats := (sweptTimes s b n).2 }

/-- A sweep that has not too many places has a report. -/
theorem exists_report {limit : TimeLimit} {maxConcurrent : UInt64} {b b' : Backend}
    {result : Except SweepFault SweepReport} (hpermits : permits maxConcurrent ≤ permitCap)
    (h : b.perform (sweep limit maxConcurrent) = (result, b')) : ∃ report, result = .ok report := by
  rw [perform_sweep, if_neg (Nat.not_lt.2 hpermits)] at h
  exact ⟨_, (Prod.mk.inj h).1.symm⟩

/-! ### What is left for a sweeper to be done -/

namespace Job

/-- What a sweeper does after a pause. -/
def carryOn (pause : Call → Job (Backend × ρ) Unit) (left : Nat) : Job (Backend × ρ) Unit := do
  if (← Crew.look).signal 0 = .abandoned then beSweeper.leave 0
  else beSweeper (replying pause) 0 left

/-- What a sweeper does when it knows the time at which a sweep has ended. -/
def note (pause : Call → Job (Backend × ρ) Unit) (s : Sweeper) (left : Nat)
    (result : Except SweepFault SweepReport) (endedAt : Instant) : Job (Backend × ρ) Unit := do
  Crew.change (·.modifySweeper 0 fun s => { s with stats := s.stats.add endedAt result.toOption })
  Crew.awaitFor s.settings.pause fun p => p.signal 0 ≠ .carryOn
  carryOn pause left

/-- What a sweeper does after a sweep. -/
def afterSweep (pause : Call → Job (Backend × ρ) Unit) (s : Sweeper) (left : Nat) :
    Except SweepFault SweepReport → Job (Backend × ρ) Unit
  | .error .tooManyAtOnce => beSweeper.leave 0
  | result => do note pause s left result (← now.relay (replying pause))

/-- Whether a sweeper is told to stop. -/
def isToldToStop : Job (Backend × ρ) Bool := do return (← Crew.look).signal 0 = .stop

theorem beSweeper_succ (pause : Call → Job (Backend × ρ) Unit) (left : Nat) :
    beSweeper (replying pause) 0 (left + 1) = (do
      let some s := (← Crew.look).sweepers[0]? | return
      if s.signal = .stop then beSweeper.leave 0
      else
        afterSweep pause s left
          (← sweep (replying pause) s.limit s.settings.maxConcurrent isToldToStop)) := rfl

end Job

/-! ### What can be seen of a crew that is but a sweeper -/

section Course

variable {pause : Call → Job (Backend × ρ) Unit} (hpause : ∀ call, Idle (pause call)) {s : Sweeper}
  (hsignal : s.signal = .carryOn) (b : Backend) (beside : ρ) (sweeps : Nat)

/-- One of the sweeps of a sweeper whom nobody tells anything. -/
def CrewSweep.nth (n left : Nat) : CrewSweep ρ where
  pause := pause
  limit := s.limit
  maxConcurrent := s.settings.maxConcurrent
  isStopped := Job.isToldToStop
  isHead := true
  after := Job.afterSweep pause (s.after b n) left
  number := n
  backend := (sweptTimes s b n).1
  beside := beside
  sweepers := [s.after b n]
  idle := hpause
  unstopped := ⟨_, tells_look fun p : Site ρ => decide (p.signal 0 = .stop),
    fun p hp => by simp [Workplace.signal, hp, Sweeper.after, hsignal]⟩

/-- What is shared between two sweeps. -/
def between (s : Sweeper) (n : Nat) : Site ρ where
  world := ((sweptTimes s b n).1, beside)
  roundsBegun := n
  sweepers := [s.after b n]

/-- What is shared when a sweep has ended and has not been noted yet. -/
def unnoted (s : Sweeper) (n : Nat) (b' : Backend) : Site ρ :=
  { between b beside s n with world := (b', beside), roundsBegun := n + 1 }

/-- What is shared when all sweeps have ended. -/
def allSwept (s : Sweeper) : Site ρ :=
  { between b beside s sweeps with sweepers := [{ s.after b sweeps with ended := true }] }

/-- What can be seen of such a crew: the sweeper is about to begin, or a sweep is under way, or the
sweeper reads the clock after a sweep, or it waits for the next, or it has ended. -/
inductive OnCourse : View (Site ρ) Duty → Prop
  | start : OnCourse (View.join { shared := between b beside s 0 }
      ⟨Job.beSweeper (Job.replying pause) 0 sweeps, true⟩)
  | sweeping {n left : Nat} {v : View (Site ρ) Duty} : n + (left + 1) = sweeps →
      (CrewSweep.nth hpause hsignal b beside n left).UnderWay v → OnCourse v
  | reading {n left : Nat} {report : SweepReport} {b' : Backend} {work : Job (Backend × ρ) Instant} :
      n + (left + 1) = sweeps →
      (sweptTimes s b n).1.perform (sweep s.limit s.settings.maxConcurrent) = (.ok report, b') →
      Relayed pause now work →
      OnCourse (View.join { shared := unnoted b beside s n b' }
        ⟨work >>= Job.note pause (s.after b n) left (.ok report), true⟩)
  | resting {n left due : Nat} : n + left = sweeps →
      OnCourse (View.join { shared := between b beside s n }
        ⟨do Crew.await (fun p => p.signal 0 ≠ .carryOn) (some due); Job.carryOn pause left, true⟩)
  | ended : OnCourse { shared := allSwept b beside sweeps s }

variable {b beside sweeps} {hpause hsignal}

variable {duties : Duty → Job (Backend × ρ) Unit} {n left : Nat}

/-- A sweeper whom nobody has left alone carries on after a pause. -/
theorem afterTurn_carryOn
    (hnext : AfterTurn duties true (OnCourse hpause hsignal b beside sweeps)
      (Job.beSweeper (Job.replying pause) 0 left) { shared := between b beside s n }) :
    AfterTurn duties true (OnCourse hpause hsignal b beside sweeps) (Job.carryOn pause left)
      { shared := between b beside s n } := by
  have hcarryOn : (between b beside s n).signal 0 ≠ .abandoned := by
    simp [between, Workplace.signal, Sweeper.after, hsignal]
  simp only [Job.carryOn, afterTurn_look, if_neg hcarryOn]
  exact hnext

/-- The time is read, what the sweep came to is noted, and there is a pause. -/
theorem afterTurn_note (hleft : n + (left + 1) = sweeps) {report : SweepReport} {b' : Backend}
    (hperform : (sweptTimes s b n).1.perform (sweep s.limit s.settings.maxConcurrent) =
      (.ok report, b'))
    (hnext : AfterTurn duties true (OnCourse hpause hsignal b beside sweeps)
      (Job.beSweeper (Job.replying pause) 0 left) { shared := between b beside s (n + 1) })
    {work : Job (Backend × ρ) Instant} (hwork : Relayed pause now work) :
    AfterTurn duties true (OnCourse hpause hsignal b beside sweeps)
      (work >>= Job.note pause (s.after b n) left (.ok report))
      { shared := unnoted b beside s n b' } := by
  refine afterTurn_relayed (J := fun action v => (action = now ∨ action = .done b'.clock) ∧
    v = { shared := unnoted b beside s n b' }) hpause ?_ ?_ ?_ hwork ⟨.inl rfl, rfl⟩
  · rintro call next _ work ⟨haction, rfl⟩ hrest
    rcases haction with haction | haction
    · exact .reading hleft hperform (haction ▸ hrest)
    · cases haction
  · rintro call next _ ⟨haction, rfl⟩
    rcases haction with haction | haction
    · cases haction
      exact ⟨.inr rfl, rfl⟩
    · cases haction
  · rintro endedAt _ ⟨haction, rfl⟩
    rcases haction with haction | haction
    · cases haction
    · cases haction
      have hnoted : (unnoted b beside s n b').modifySweeper 0 (fun s =>
          { s with stats := s.stats.add b'.clock (some report) }) = between b beside s (n + 1) := by
        simp [unnoted, between, Workplace.modifySweeper, Sweeper.after, sweptTimes, hperform,
          Except.toOption]
      have hpaused : ∀ due, OnCourse hpause hsignal b beside sweeps
          (View.join { shared := between b beside s (n + 1) }
            ⟨do Crew.await (fun p => p.signal 0 ≠ .carryOn) (some due); Job.carryOn pause left,
              true⟩) := fun due => .resting (by omega)
      have hcarryOn := afterTurn_carryOn hnext
      rw [← hnoted] at hpaused hcarryOn
      exact fun moment => ⟨hpaused _, fun _ => hcarryOn⟩

section Duties

variable (hpermits : permits s.settings.maxConcurrent ≤ permitCap)
  (hduty : ∀ number limit id, duties (.reconcile number limit id) =
    Job.reconcileFor (Job.replying pause) number limit id)

include hpermits hduty

theorem leadsTo_nth (hleft : n + (left + 1) = sweeps)
    (hnext : AfterTurn duties true (OnCourse hpause hsignal b beside sweeps)
      (Job.beSweeper (Job.replying pause) 0 left) { shared := between b beside s (n + 1) }) :
    (CrewSweep.nth hpause hsignal b beside n left).LeadsTo duties
      (OnCourse hpause hsignal b beside sweeps) := by
  refine ⟨hduty _ _, fun _ => .sweeping hleft, fun result b' hperform => ?_⟩
  obtain ⟨report, rfl⟩ := exists_report hpermits hperform
  exact afterTurn_note hleft hperform hnext (relayed_relay now)

/-- A sweeper that has some sweeps left goes on with the next. -/
theorem afterTurn_beSweeper (hleft : n + left = sweeps) :
    AfterTurn duties true (OnCourse hpause hsignal b beside sweeps)
      (Job.beSweeper (Job.replying pause) 0 left) { shared := between b beside s n } := by
  induction left generalizing n with
  | zero =>
      cases hleft
      exact .ended
  | succ left ih =>
      have hgo : (s.after b n).signal ≠ .stop := by simp [Sweeper.after, hsignal]
      rw [Job.beSweeper_succ]
      simp only [afterTurn_look]
      change AfterTurn _ _ _ (if (s.after b n).signal = .stop then _ else _) _
      rw [if_neg hgo]
      exact CrewSweep.afterTurn_sweep (leadsTo_nth hpermits hduty hleft (ih (by omega)))

theorem keeps_onCourse : Keeps duties (OnCourse hpause hsignal b beside sweeps) := by
  have hnext {n left : Nat} : n + left = sweeps →
      AfterTurn duties true (OnCourse hpause hsignal b beside sweeps)
        (Job.beSweeper (Job.replying pause) 0 left) { shared := between b beside s n } :=
    afterTurn_beSweeper hpermits hduty
  constructor
  case turn =>
    intro v w h
    generalize hv : v.join w = v' at h
    cases h with
    | start =>
        obtain ⟨rfl, rfl⟩ := View.eq_of_join_eq hv rfl
        exact hnext (Nat.zero_add _)
    | sweeping hleft h =>
        exact CrewSweep.UnderWay.turn (leadsTo_nth hpermits hduty hleft (hnext (by omega))) (hv ▸ h)
    | reading hleft hperform hwork =>
        obtain ⟨rfl, rfl⟩ := View.eq_of_join_eq hv rfl
        exact afterTurn_note hleft hperform (hnext (by omega)) hwork
    | resting hleft =>
        obtain ⟨rfl, rfl⟩ := View.eq_of_join_eq hv rfl
        exact ⟨.resting hleft, fun _ => afterTurn_carryOn (hnext hleft)⟩
    | ended => exact absurd (congrArg View.workers hv) Multiset.cons_ne_zero
  case change =>
    intro v f h
    generalize hv : v.delay f = v' at h
    cases h with
    | sweeping hleft h => exact .sweeping hleft (CrewSweep.UnderWay.change (hv ▸ h))
    | start | reading _ _ _ | resting _ | ended =>
        exact absurd (congrArg View.delayed hv) Multiset.cons_ne_zero

end Duties

namespace OnCourse

variable {v : View (Site ρ) Duty}

theorem sweepers_or_shared (h : OnCourse hpause hsignal b beside sweeps v) :
    (∃ n ≤ sweeps, v.shared.sweepers = [s.after b n]) ∨ v.shared = allSwept b beside sweeps s := by
  cases h with
  | start => exact .inl ⟨0, Nat.zero_le _, rfl⟩
  | @sweeping n left _ hleft h =>
      obtain ⟨k, conductor, hands, -, -, rfl⟩ := h
      exact .inl ⟨n, by omega, rfl⟩
  | @reading n _ _ _ _ hleft _ _ => exact .inl ⟨n, by omega, rfl⟩
  | @resting n _ _ hleft => exact .inl ⟨n, by omega, rfl⟩
  | ended => exact .inr rfl

theorem card_workers (h : OnCourse hpause hsignal b beside sweeps v) :
    v.workers.card ≤ permits s.settings.maxConcurrent + 1 := by
  cases h with
  | sweeping _ h => exact h.card_workers
  | start | reading _ _ _ | resting _ | ended => simp [View.join]

/-- A sweeper that has not ended can go on. -/
theorem shared_of_atRest (htimely : ∀ call, Timely (pause call))
    (h : OnCourse hpause hsignal b beside sweeps v) (hrest : v.AtRest) :
    v.shared = allSwept b beside sweeps s := by
  cases h with
  | start =>
      refine absurd hrest (View.not_atRest_join rfl ?_)
      rintro ⟨wish, hawaited, -⟩
      cases sweeps <;> cases hawaited
  | sweeping _ h => exact absurd hrest (h.not_atRest htimely rfl)
  | reading _ _ hwork =>
      exact absurd hrest (View.not_atRest_join rfl (hwork.not_isStuck htimely _ _ _))
  | resting _ =>
      refine absurd hrest (View.not_atRest_join rfl ?_)
      rintro ⟨wish, hawaited, -⟩
      cases hawaited
  | ended => rfl

end OnCourse

/-! ### A sweeper at any time -/

variable (pause s b beside sweeps) in
/-- A crew that is but a sweeper, at some time. -/
def sweeperAfter (turns n : Nat) : Crew (Site ρ) Duty :=
  (Crew.ofHead { world := (b, beside), sweepers := [s] }
    (Job.beSweeper (Job.replying pause) 0 sweeps)).run (Job.ofDuty (Job.replying pause) turns) n

variable (hpermits : permits s.settings.maxConcurrent ≤ permitCap) (turns : Nat)

include hpause hsignal hpermits

variable (hpause hsignal)

variable (b beside sweeps) in
theorem upholds_onCourse (n : Nat) : Upholds (OnCourse hpause hsignal b beside sweeps)
    (sweeperAfter pause s b beside sweeps turns n) :=
  (keeps_onCourse hpermits fun _ _ _ => rfl).run ⟨.ofHead _ _, .start⟩ n

/-- **What a sweeper has noted at any time** is what some number of sweeps come to, one after the
other, and when it has ended, so has all of its work. -/
theorem sweepers_sweeperAfter (n : Nat) :
    (∃ k ≤ sweeps, (sweeperAfter pause s b beside sweeps turns n).shared.sweepers = [s.after b k]) ∨
      (sweeperAfter pause s b beside sweeps turns n).shared = allSwept b beside sweeps s := by
  rw [← shared_view]
  exact (upholds_onCourse hpause hsignal b beside sweeps hpermits turns n).inv.sweepers_or_shared

/-- **A crew at rest has swept as often as it should.** -/
theorem shared_of_rest (htimely : ∀ call, Timely (pause call)) (n : Nat)
    (hrest : (sweeperAfter pause s b beside sweeps turns n).next?
      (Job.ofDuty (Job.replying pause) turns) = none) :
    (sweeperAfter pause s b beside sweeps turns n).shared = allSwept b beside sweeps s := by
  have hupholds := upholds_onCourse hpause hsignal b beside sweeps hpermits turns n
  rw [← shared_view]
  exact hupholds.inv.shared_of_atRest htimely (hupholds.orderly.atRest hrest)

/-- **A sweeper always comes to the end of its work**: from some time on it has swept as often as it
should. -/
theorem shared_eventually (htimely : ∀ call, Timely (pause call)) :
    ∃ n, ∀ turns m, n ≤ m → (sweeperAfter pause s b beside sweeps turns m).shared =
      allSwept b beside sweeps s := by
  obtain ⟨n, hrest⟩ := exists_rest_ofHead hpause { world := (b, beside), sweepers := [s] }
    (hires_beSweeper (hires_replying hpause) 0 sweeps)
  exact ⟨n, fun turns m hle => shared_of_rest hpause hsignal hpermits turns htimely m (hrest turns m hle)⟩

/-- No more tasks are examined at once than there are places, in any of the sweeps. -/
theorem card_workers_sweeperAfter (n : Nat) :
    (sweeperAfter pause s b beside sweeps turns n).view.workers.card ≤
      permits s.settings.maxConcurrent + 1 :=
  (upholds_onCourse hpause hsignal b beside sweeps hpermits turns n).inv.card_workers

end Course

end TaskLedger.Service
