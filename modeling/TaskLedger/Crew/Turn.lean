import TaskLedger.Crew.Work

/-!
**Taking turns.**

Those who are ready to work stand in a line, and the first in the line works until it has nothing
more to do, has to wait, or makes room for others.  A worker whose wait is over, and one who is taken
on, goes to the end of the line.

The head of the crew does not stand in the line.  After a number of turns, and whenever the line is
empty, there is a break; in a break those who were put aside are called, the last of them first, and
after it the head has a turn if it is ready.  If nobody at all is ready the clock goes on to the
next moment for which somebody waits.

Main definitions:

* `TaskLedger.Crew` — a crew at work;
* `TaskLedger.Crew.turn` — the turn of one worker;
* `TaskLedger.Crew.next?` — what happens next, if anything does;
* `TaskLedger.Crew.run` — all that happens until the head has done its work.

Main results:

* `TaskLedger.Crew.run_add` — a crew may be watched in parts;
* `TaskLedger.Crew.run_of_finished` — nothing happens after the head has done its work.
-/

set_option autoImplicit false

namespace TaskLedger

namespace Crew

/-- A worker: what it has still to do, and whether it is the head of the crew. -/
structure Worker (σ δ : Type) where
  rest : Work σ δ Unit
  isHead : Bool

/-- A worker who waits for something. -/
structure Waiter (σ δ : Type) where
  worker : Worker σ δ
  wish : σ → Bool
  due : Option Nat

/-- What is put aside until the next break. -/
inductive Delayed (σ δ : Type) where
  | worker (worker : Worker σ δ)
  | change (change : σ → σ)

/-- The number of steps in a turn. -/
def stepsPerTurn : Nat := 128

/-- The number of turns between two breaks. -/
def turnsPerBreak : Nat := 61

end Crew

/-- A crew at work: what is shared, the present moment, the head if it is ready and whether it has
done its work, the line, what is put aside (the last comes first), those who wait (the first comes
first), and the number of turns until the next break, none if the break is now. -/
structure Crew (σ δ : Type) where
  shared : σ
  moment : Nat := 0
  head : Option (Crew.Work σ δ Unit)
  finished : Bool := false
  line : List (Crew.Work σ δ Unit) := []
  aside : List (Crew.Delayed σ δ) := []
  waiting : List (Crew.Waiter σ δ) := []
  turnsLeft : Nat := 0

namespace Crew

variable {σ δ : Type}

/-- A crew whose head is about to begin. -/
def ofHead (shared : σ) (work : Work σ δ Unit) : Crew σ δ where
  shared := shared
  head := some work

/-- Calls a worker, who is ready from now on. -/
def call (c : Crew σ δ) (w : Worker σ δ) : Crew σ δ :=
  if w.isHead then { c with head := some w.rest } else { c with line := c.line ++ [w.rest] }

/-- Calls those of the waiting whose wait is over. -/
def alert (c : Crew σ δ) (isOver : Waiter σ δ → Bool) : Crew σ δ :=
  if c.waiting.any isOver then
    let (called, waiting) := c.waiting.partition isOver
    called.foldl (fun c w => c.call w.worker) { c with waiting }
  else c

/-- Replaces what is shared, and calls those whose wishes are fulfilled by this. -/
def share (c : Crew σ δ) (shared : σ) : Crew σ δ :=
  { c with shared }.alert fun w => w.wish shared

/-- Puts something aside until the next break. -/
def putAside (c : Crew σ δ) (d : Delayed σ δ) : Crew σ δ := { c with aside := d :: c.aside }

/-- Lets a worker wait. -/
def wait (c : Crew σ δ) (w : Worker σ δ) (wish : σ → Bool) (due : Option Nat) : Crew σ δ :=
  { c with waiting := c.waiting ++ [⟨w, wish, due⟩] }

/-- The turn of a worker with a number of steps left. -/
def turn (duties : δ → Work σ δ Unit) (isHead : Bool) :
    Work σ δ Unit → (steps : Nat) → Crew σ δ → Crew σ δ
  | .done _, _, c => { c with finished := c.finished || isHead }
  | .ask .look next, steps, c => turn duties isHead (next c.shared) steps c
  | .ask (.put shared) next, steps, c => turn duties isHead (next ()) steps (c.share shared)
  | .ask .clock next, steps, c => turn duties isHead (next c.moment) steps c
  | .ask (.takeOn duty) next, steps, c =>
      turn duties isHead (next ()) steps (c.call ⟨duties duty, false⟩)
  | .ask (.await wish due) next, steps, c =>
      let w : Worker σ δ := ⟨.ask (.await wish due) next, isHead⟩
      match steps with
      | 0 => c.putAside (.worker w)
      | steps + 1 =>
          if wish c.shared || due.any (· ≤ c.moment) then turn duties isHead (next ()) steps c
          else c.wait w wish due
  | .ask (.expect wish) next, steps, c =>
      if wish c.shared then turn duties isHead (next ()) steps c
      else c.wait ⟨.ask (.expect wish) next, isHead⟩ wish none
  | .ask .step next, steps, c =>
      match steps with
      | 0 => turn duties isHead (next false) 0 c
      | steps + 1 => turn duties isHead (next true) steps c
  | .ask .giveWay next, _, c => c.call ⟨next (), isHead⟩
  | .ask (.later change) next, steps, c =>
      turn duties isHead (next ()) steps (c.putAside (.change change))

/-- Calls a worker who was put aside, or makes a delayed change. -/
def takeUp (c : Crew σ δ) : Delayed σ δ → Crew σ δ
  | .worker w => c.call w
  | .change f => c.share (f c.shared)

/-- A break: those who were put aside are called, and the delayed changes are made. -/
def takeBreak (c : Crew σ δ) : Crew σ δ :=
  c.aside.foldl takeUp { c with aside := [], turnsLeft := 0 }

/-- The next moment for which somebody waits. -/
def nextMoment? (c : Crew σ δ) : Option Nat := (c.waiting.filterMap Waiter.due).min?

/-- The clock goes on to a moment. -/
def passTime (c : Crew σ δ) (moment : Nat) : Crew σ δ :=
  { c with moment, turnsLeft := 0 }.alert fun w => w.due.any (· ≤ moment)

/-- The turn of the head after a break, if it is ready. -/
def headTurn (duties : δ → Work σ δ Unit) (c : Crew σ δ) : Crew σ δ :=
  let c := { c with turnsLeft := turnsPerBreak }
  match c.head with
  | some work => turn duties true work stepsPerTurn { c with head := none }
  | none => c

/-- What happens next: nothing when the head has done its work, and when nobody is ready and nobody
waits for a moment. -/
def next? (duties : δ → Work σ δ Unit) (c : Crew σ δ) : Option (Crew σ δ) :=
  if c.finished then none
  else match c.turnsLeft, c.line with
    | 0, _ => some (c.headTurn duties)
    | left + 1, work :: line =>
        let c := turn duties false work stepsPerTurn { c with line, turnsLeft := left }
        some (if left = 0 then c.takeBreak else c)
    | _ + 1, [] =>
        if c.aside.isEmpty && c.head.isNone then c.nextMoment?.map c.passTime
        else some c.takeBreak

/-- All that happens until the head has done its work, for a limited number of turns and breaks. -/
def run (duties : δ → Work σ δ Unit) : (limit : Nat) → Crew σ δ → Crew σ δ
  | 0, c => c
  | limit + 1, c =>
      match c.next? duties with
      | none => c
      | some c => run duties limit c

theorem run_of_next?_eq_none {duties : δ → Work σ δ Unit} {c : Crew σ δ}
    (h : c.next? duties = none) (limit : Nat) : c.run duties limit = c := by
  cases limit with
  | zero => rfl
  | succ limit => simp only [run, h]

/-- A crew whose head has done its work rests. -/
theorem run_of_finished (duties : δ → Work σ δ Unit) {c : Crew σ δ} (h : c.finished = true)
    (limit : Nat) : c.run duties limit = c :=
  run_of_next?_eq_none (by simp [next?, h]) limit

/-- What happens in a longer time is what happens in the first part of it, and after that. -/
theorem run_add (duties : δ → Work σ δ Unit) (m n : Nat) (c : Crew σ δ) :
    c.run duties (m + n) = (c.run duties m).run duties n := by
  induction m generalizing c with
  | zero => simp [run]
  | succ m ih =>
      rw [Nat.succ_add]
      cases h : c.next? duties with
      | none =>
          simp only [run, h]
          exact (run_of_next?_eq_none h n).symm
      | some d => simp only [run, h, ih]

end Crew

end TaskLedger
