import Mathlib.Logic.Relation
import TaskLedger.Proofs.Store.Change

/-!
**How a record evolves.**

Whatever questions a store is asked, and in whatever order, a record that it holds is never lost and
only moves forward: it keeps what it was created with, its stage follows the lifecycle graph, its
handle is recorded once, its log only grows, and at a terminal stage nothing changes any more.

The relation between the two moments is a preorder, so that one question is all there is to look at:
each of the five operations on records respects it.

Main definitions:

* `TaskLedger.Status.Edge` — the edges of the lifecycle graph, written out;
* `TaskLedger.Record.Evolves` — what a record may become in the course of time.

Main results:

* `TaskLedger.Status.edge_iff` — the graph that the operations look at has these edges;
* `TaskLedger.Store.Query.Writes.evolves` — a conditional write lets its record evolve;
* `TaskLedger.Store.Memory.evolves_between` — **between any two moments of a run every record
  evolves**.
-/

set_option autoImplicit false

namespace TaskLedger

/-! ### The lifecycle graph -/

/-- The edges of the lifecycle graph. -/
inductive Status.Edge : Status → Status → Prop
  | begin : Edge .pending .running
  | failWaiting : Edge .pending .failed
  | cancelWaiting : Edge .pending .cancelled
  | complete : Edge .running .completed
  | failRunning : Edge .running .failed
  | cancelRunning : Edge .running .cancelled

/-- The edges are the steps that a record may take. -/
theorem Status.edge_iff {s t : Status} : Edge s t ↔ s.canBecome t = true := by
  constructor
  · rintro (_ | _ | _ | _ | _ | _) <;> rfl
  · intro h
    rcases canBecome_iff.1 h with ⟨rfl, rfl | rfl | rfl⟩ | ⟨rfl, rfl | rfl | rfl⟩ <;> constructor

/-! ### The relation between two moments -/

/-- What a record may become in the course of time. -/
structure Record.Evolves (r later : Record) : Prop where
  id_eq : later.id = r.id
  taskType_eq : later.taskType = r.taskType
  payload_eq : later.payload = r.payload
  createdAt_eq : later.createdAt = r.createdAt
  status_path : Relation.ReflTransGen Status.Edge r.status later.status
  handle_kept : ∀ handle, r.handle = some handle → later.handle = some handle
  log_grows : r.log <+: later.log
  final : r.isTerminal = true → later = r

namespace Record.Evolves

theorem refl (r : Record) : r.Evolves r where
  id_eq := rfl
  taskType_eq := rfl
  payload_eq := rfl
  createdAt_eq := rfl
  status_path := .refl
  handle_kept := fun _ h => h
  log_grows := List.prefix_rfl
  final := fun _ => rfl

theorem trans {a b c : Record} (hab : a.Evolves b) (hbc : b.Evolves c) : a.Evolves c where
  id_eq := hbc.id_eq.trans hab.id_eq
  taskType_eq := hbc.taskType_eq.trans hab.taskType_eq
  payload_eq := hbc.payload_eq.trans hab.payload_eq
  createdAt_eq := hbc.createdAt_eq.trans hab.createdAt_eq
  status_path := hab.status_path.trans hbc.status_path
  handle_kept := fun handle h => hbc.handle_kept handle (hab.handle_kept handle h)
  log_grows := hab.log_grows.trans hbc.log_grows
  final := by
    intro ha
    have hb : b = a := hab.final ha
    rw [hb] at hbc
    exact hbc.final ha

/-! ### The operations on records -/

variable {r c : Record}

theorem of_assignHandle {handle : Handle} (h : r.assignHandle handle = .ok c) : r.Evolves c := by
  obtain ⟨hopen, hnone, rfl⟩ := assignHandle_eq_ok_iff.1 h
  exact
    { refl r with
      handle_kept := fun other ho => by rw [hnone] at ho; cases ho
      final := fun ht => by rw [hopen] at ht; cases ht }

theorem of_start (h : r.start = .ok c) : r.Evolves c := by
  obtain ⟨hpending, -, rfl⟩ := start_eq_ok_iff.1 h
  exact
    { refl r with
      status_path := .single (by rw [hpending]; exact .begin)
      final := fun ht => by rw [isTerminal, hpending] at ht; cases ht }

theorem of_appendLog {message : String} (h : r.appendLog message = .ok c) : r.Evolves c := by
  obtain ⟨hopen, rfl⟩ := appendLog_eq_ok_iff.1 h
  exact
    { refl r with
      log_grows := List.prefix_append r.log [message]
      final := fun ht => by rw [hopen] at ht; cases ht }

theorem of_finish {u : FinalUpdate} (h : r.finish u = .ok c) : r.Evolves c := by
  obtain ⟨-, hedge, rfl⟩ := finish_eq_ok_iff.1 h
  exact
    { refl r with
      status_path := .single (Status.edge_iff.2 hedge)
      log_grows := List.prefix_append r.log u.logMessage.toList
      final := fun ht => by rw [Status.not_canBecome_of_terminal ht] at hedge; cases hedge }

end Record.Evolves

namespace Store

/-- A conditional write lets its record evolve. -/
theorem Query.Writes.evolves {q : Query} {id : TaskId} {change : Record → Except TaskError Record}
    (hq : q.Writes id change) {r c : Record} (h : change r = .ok c) : r.Evolves c := by
  cases hq with
  | setHandle => exact .of_assignHandle h
  | markRunning => exact .of_start h
  | appendLog => exact .of_appendLog h
  | finish => exact .of_finish h
  | finishFrom => exact .of_finish (Memory.finishAt_eq_ok_iff.1 h).2

/-! ### Runs -/

/-- A store has moved forward: no record is lost, and each has evolved. -/
def Memory.Evolves (m later : Memory) : Prop :=
  ∀ id r, m.find? id = some r → ∃ c, later.find? id = some c ∧ r.Evolves c

namespace Memory

theorem Evolves.refl (m : Memory) : m.Evolves m := fun _ r h => ⟨r, h, .refl r⟩

theorem Evolves.trans {m₁ m₂ m₃ : Memory} (h₁₂ : m₁.Evolves m₂) (h₂₃ : m₂.Evolves m₃) :
    m₁.Evolves m₃ := by
  intro id r hr
  obtain ⟨s, hs, hrs⟩ := h₁₂ id r hr
  obtain ⟨t, ht, hst⟩ := h₂₃ id s hs
  exact ⟨t, ht, hrs.trans hst⟩

/-- One question moves a store forward. -/
theorem evolves_answer (m : Memory) (q : Query) : m.Evolves (answer q m).2 := by
  intro id r hr
  have hmakes := m.makes_answer q id
  rw [hr] at hmakes
  generalize (answer q m).2.find? id = later? at hmakes ⊢
  -- An insertion makes something of the absence of a record only.
  cases hmakes with
  | same => exact ⟨r, rfl, .refl r⟩
  | @changed _ c _ hq hc => exact ⟨c, rfl, hq.evolves hc⟩

/-- A run of questions moves a store forward. -/
theorem evolves_after (m : Memory) (run : List Query) : m.Evolves (m.after run) := by
  induction run generalizing m with
  | nil => exact .refl m
  | cons q run ih => exact (m.evolves_answer q).trans (ih (answer q m).2)

/-- **Between any two moments of a run, every record evolves**: the record that a store holds after
the first part of a run is still there after the rest of it, and differs from what it was only as
evolution allows. -/
theorem evolves_between (m : Memory) (before later : List Query) {id : TaskId} {r : Record}
    (h : (m.after before).find? id = some r) :
    ∃ c, (m.after (before ++ later)).find? id = some c ∧ r.Evolves c := by
  rw [after_append]
  exact evolves_after (m.after before) later id r h

/-- A task that is submitted, starts and is completed, and then is to be cancelled and logged in
vain. -/
theorem evolves_between_submitted :
    (Memory.empty.after [.insert (.fresh ⟨⟨1⟩⟩ "report" .null .epoch)]).find? ⟨⟨1⟩⟩ =
        some (.fresh ⟨⟨1⟩⟩ "report" .null .epoch) ∧
      ∃ c, (Memory.empty.after ([.insert (.fresh ⟨⟨1⟩⟩ "report" .null .epoch)] ++
          [.setHandle ⟨⟨1⟩⟩ ⟨"job"⟩, .markRunning ⟨⟨1⟩⟩, .finish ⟨⟨1⟩⟩ (.completed .epoch .null),
            .finish ⟨⟨1⟩⟩ (.cancelled .epoch), .appendLog ⟨⟨1⟩⟩ "late"])).find? ⟨⟨1⟩⟩ = some c ∧
        (Record.fresh ⟨⟨1⟩⟩ "report" .null .epoch).Evolves c :=
  ⟨rfl, evolves_between .empty _ _ rfl⟩

end Memory

end Store

end TaskLedger
