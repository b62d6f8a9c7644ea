import TaskLedger.Dialogue

/-!
**Work in a crew.**

The workers of a crew share one state and one clock, and only one of them works at a time.  What a
worker does is a dialogue: it looks at what is shared and changes it, takes on other workers, and
waits until what is shared, or the clock, is as it wishes.  Between two waits nobody else gets a word
in.

In each turn a worker may take a limited number of steps; a wait that comes to its end takes one.

Main definitions:

* `TaskLedger.Crew.Ask`, `TaskLedger.Crew.asks` — what a worker asks for, and what it is given;
* `TaskLedger.Crew.Work` — work, with one action for each thing to ask for.
-/

set_option autoImplicit false

namespace TaskLedger.Crew

/-- What a worker asks for.  A duty says what for a worker is taken on; a moment is counted in
milliseconds from the time at which the crew was set up.

* `look`, `put` — what is shared is given, or replaced;
* `clock` — the present moment;
* `takeOn` — another worker, who begins when its turn comes;
* `await` — to go on when what is shared fulfils a wish, or a moment has come; this takes a step, and
  a worker without steps left is put aside until the next break, whether it has to wait or not;
* `expect` — to go on when what is shared fulfils a wish; this takes no step;
* `step` — to take a step; whether one was left;
* `giveWay` — to go on when all others who are ready have had their turn;
* `later` — a change that is to be made at the next break. -/
inductive Ask (σ δ : Type) where
  | look
  | put (shared : σ)
  | clock
  | takeOn (duty : δ)
  | await (wish : σ → Bool) (due : Option Nat)
  | expect (wish : σ → Bool)
  | step
  | giveWay
  | later (change : σ → σ)

/-- What a worker is given. -/
def Ask.Answer {σ δ : Type} : Ask σ δ → Type
  | .look => σ
  | .clock => Nat
  | .step => Bool
  | .put _ | .takeOn _ | .await _ _ | .expect _ | .giveWay | .later _ => Unit

/-- What a worker asks for, and what it is given. -/
def asks (σ δ : Type) : Interface where
  Question := Ask σ δ
  Answer := Ask.Answer

/-- Work in a crew. -/
abbrev Work (σ δ : Type) := Dialogue (asks σ δ)

variable {σ δ : Type}

/-- Looks at what is shared. -/
def look : Work σ δ σ := .request (I := asks σ δ) .look

/-- Replaces what is shared. -/
def put (shared : σ) : Work σ δ Unit := .request (I := asks σ δ) (.put shared)

/-- Changes what is shared. -/
def change (f : σ → σ) : Work σ δ Unit := do put (f (← look))

/-- Reads the clock. -/
def clock : Work σ δ Nat := .request (I := asks σ δ) .clock

/-- Takes on another worker. -/
def takeOn (duty : δ) : Work σ δ Unit := .request (I := asks σ δ) (.takeOn duty)

/-- Waits until a wish is fulfilled or a moment has come, and takes a step. -/
def await (wish : σ → Bool) (due : Option Nat) : Work σ δ Unit :=
  .request (I := asks σ δ) (.await wish due)

/-- Waits until a wish is fulfilled. -/
def expect (wish : σ → Bool) : Work σ δ Unit := .request (I := asks σ δ) (.expect wish)

/-- Takes a step if one is left. -/
def step : Work σ δ Bool := .request (I := asks σ δ) .step

/-- Lets all others who are ready go first. -/
def giveWay : Work σ δ Unit := .request (I := asks σ δ) .giveWay

/-- Has a change made at the next break. -/
def later (f : σ → σ) : Work σ δ Unit := .request (I := asks σ δ) (.later f)

/-- Waits until a wish is fulfilled, for a number of milliseconds at most. -/
def awaitFor (millis : Nat) (wish : σ → Bool) : Work σ δ Unit := do
  await wish (some ((← clock) + millis))

/-- Waits for a number of milliseconds. -/
def sleep (millis : Nat) : Work σ δ Unit := awaitFor millis fun _ => false

end TaskLedger.Crew
