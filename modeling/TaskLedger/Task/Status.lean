import TaskLedger.Text.Letters

/-!
**The stages of a task.**

A task is pending until its job begins to run, then running, and at last completed, failed or
cancelled.  A pending task may fail or be cancelled, but only a running one is completed.

Main definitions:

* `TaskLedger.Status` — the five stages;
* `TaskLedger.Status.sources` — the stages from which a stage may be entered;
* `TaskLedger.Status.canBecome` — the edges of the lifecycle graph.

Main results:

* `TaskLedger.Status.canBecome_iff` — the graph, edge by edge;
* `TaskLedger.Status.not_canBecome_of_terminal` — nothing leads out of a terminal stage.
-/

set_option autoImplicit false

namespace TaskLedger

/-- The stage that a task has reached. -/
inductive Status where
  | pending
  | running
  | completed
  | failed
  | cancelled
  deriving DecidableEq, Repr

namespace Status

/-- All stages, in the order of their declaration. -/
def all : List Status := [pending, running, completed, failed, cancelled]

/-- The stages in which a task may still change. -/
def openStages : List Status := [pending, running]

/-- Whether a stage is the last of a task. -/
def isTerminal : Status → Bool
  | pending | running => false
  | completed | failed | cancelled => true

/-- The stages from which a stage may be entered. -/
def sources : Status → List Status
  | pending => []
  | running => [pending]
  | completed => [running]
  | failed | cancelled => openStages

/-- Whether a task may go from one stage to another in one step. -/
def canBecome (s target : Status) : Bool := target.sources.contains s

/-- The name of a stage. -/
def name : Status → String
  | pending => "pending"
  | running => "running"
  | completed => "completed"
  | failed => "failed"
  | cancelled => "cancelled"

/-- The stage with exactly the given name. -/
def named? (s : String) : Option Status := all.find? (·.name == s)

/-- The stage whose name a text is, in any case of its letters. -/
def parse? (s : String) : Option Status := all.find? fun status => Text.sameLetters status.name s

/-! ### The lifecycle graph -/

theorem mem_all (s : Status) : s ∈ all := by cases s <;> decide

/-- The edges of the graph. -/
theorem canBecome_iff {s t : Status} : s.canBecome t = true ↔
    (s = pending ∧ (t = running ∨ t = failed ∨ t = cancelled)) ∨
      (s = running ∧ (t = completed ∨ t = failed ∨ t = cancelled)) := by
  cases s <;> cases t <;> decide

/-- Nothing leads out of a terminal stage. -/
theorem not_canBecome_of_terminal {s : Status} (h : s.isTerminal = true) (t : Status) :
    s.canBecome t = false := by
  cases s <;> cases t <;> first | rfl | simp [isTerminal] at h

theorem mem_sources {s t : Status} : s ∈ t.sources ↔ s.canBecome t = true := by
  rw [canBecome, List.contains_iff_mem]

/-- What leads somewhere is open. -/
theorem isTerminal_of_canBecome {s t : Status} (h : s.canBecome t = true) :
    s.isTerminal = false := by
  cases hs : s.isTerminal with
  | false => rfl
  | true =>
      rw [not_canBecome_of_terminal hs t] at h
      cases h

/-- An open task may fail or be cancelled. -/
theorem canBecome_of_open {s t : Status} (hs : s.isTerminal = false)
    (ht : t = failed ∨ t = cancelled) : s.canBecome t = true := by
  rcases ht with rfl | rfl <;> cases s <;> first | rfl | cases hs

theorem isTerminal_eq_false_iff {s : Status} : s.isTerminal = false ↔ s = pending ∨ s = running := by
  cases s <;> decide

theorem mem_openStages {s : Status} : s ∈ openStages ↔ s.isTerminal = false := by
  cases s <;> decide

@[simp] theorem named?_name (s : Status) : named? s.name = some s := by cases s <;> decide

@[simp] theorem parse?_name (s : Status) : parse? s.name = some s := by cases s <;> decide

/-- The names tell the stages apart. -/
theorem name_inj {s t : Status} : s.name = t.name ↔ s = t := by
  constructor
  · intro h
    have hparse := congrArg parse? h
    simpa using hparse
  · rintro rfl
    rfl

end Status

end TaskLedger
