import TaskLedger.Proofs.Store.Change

/-!
**What always holds of a record.**

The parts of a record tell the same story: a time of completion stands exactly in one that has
ended, only a failure carries a message for users and only a completion a result, and what runs or
was completed has a handle.  None of this is checked when a task ends.  A completed record has a
handle because it was running before, and a cancelled one carries no message because no open record
ever did; so the facts are proved together, over the four operations, and hold after any run of
questions whose new records were created as records are.

Main definitions:

* `TaskLedger.Record.Changes` — one of the four operations makes one record of another;
* `TaskLedger.Record.Created` — the records that a submission begins with;
* `TaskLedger.Record.Coherent` — the facts about a record.

Main results:

* `TaskLedger.Record.Changes.isConsistent` — consistency alone is kept by every operation;
* `TaskLedger.Record.Coherent.changes` — so are the facts together;
* `TaskLedger.Store.Memory.forall_after` — what holds of new records and is kept by the operations
  holds after a run;
* `TaskLedger.Store.Memory.coherent_after` — **every record of every reachable store is coherent**.
-/

set_option autoImplicit false

namespace TaskLedger

namespace Record

/-! ### The four operations as one relation -/

/-- One of the four operations makes one record of another. -/
inductive Changes (r c : Record) : Prop
  | assignHandle (handle : Handle) (h : r.assignHandle handle = .ok c)
  | start (h : r.start = .ok c)
  | appendLog (message : String) (h : r.appendLog message = .ok c)
  | finish (update : FinalUpdate) (h : r.finish update = .ok c)

/-- A record as a submission begins with. -/
def Created (r : Record) : Prop :=
  ∃ id taskType payload createdAt, create id taskType payload createdAt = .ok r

variable {r c : Record}

/-! ### Consistency -/

theorem isConsistent_iff :
    r.isConsistent = true ↔
      r.completedAt.isSome = r.isTerminal ∧ (r.status = .running → r.handle.isSome = true) := by
  unfold isConsistent isTerminal
  cases r.status <;> simp [Status.isTerminal]

/-- **Consistency is kept by every operation**, however the record came to be. -/
theorem Changes.isConsistent (h : r.Changes c) (hr : r.isConsistent = true) :
    c.isConsistent = true := by
  rw [isConsistent_iff] at hr ⊢
  obtain ⟨htime, hhandle⟩ := hr
  cases h with
  | assignHandle handle h =>
      obtain ⟨-, -, rfl⟩ := assignHandle_eq_ok_iff.1 h
      exact ⟨htime, fun _ => rfl⟩
  | start h =>
      obtain ⟨hpending, hsome, rfl⟩ := start_eq_ok_iff.1 h
      refine ⟨?_, fun _ => hsome⟩
      rw [htime, isTerminal, hpending]
      rfl
  | appendLog message h =>
      obtain ⟨-, rfl⟩ := appendLog_eq_ok_iff.1 h
      exact ⟨htime, hhandle⟩
  | finish update h =>
      obtain ⟨hterminal, -, rfl⟩ := finish_eq_ok_iff.1 h
      refine ⟨hterminal.symm, fun (hrunning : update.status = .running) => ?_⟩
      rw [hrunning] at hterminal
      cases hterminal

/-! ### Coherence -/

/-- The parts of a record tell the same story. -/
structure Coherent (r : Record) : Prop where
  completedAt_iff : r.completedAt.isSome = true ↔ r.isTerminal = true
  handle_of_begun : r.status = .running ∨ r.status = .completed → r.handle.isSome = true
  failed_of_errorMessage : r.errorMessage.isSome = true → r.status = .failed
  completed_of_result : r.result.isSome = true → r.status = .completed
  terminal_of_technicalDetail : r.technicalDetail.isSome = true → r.isTerminal = true
  taskType_not_blank : Text.isBlankText r.taskType = false

namespace Coherent

theorem isConsistent (h : r.Coherent) : r.isConsistent = true :=
  isConsistent_iff.2 ⟨Bool.eq_iff_iff.2 h.completedAt_iff, fun hr => h.handle_of_begun (.inl hr)⟩

/-- An open record carries nothing of an end. -/
theorem bare_of_open (h : r.Coherent) (hopen : r.isTerminal = false) :
    r.errorMessage = none ∧ r.result = none ∧ r.technicalDetail = none := by
  have hne : ∀ s : Status, s.isTerminal = true → r.status ≠ s := by
    rintro s hs rfl
    exact Bool.false_ne_true (hopen.symm.trans hs)
  refine ⟨Option.not_isSome_iff_eq_none.1 fun hsome => ?_,
    Option.not_isSome_iff_eq_none.1 fun hsome => ?_, Option.not_isSome_iff_eq_none.1 fun hsome => ?_⟩
  · exact hne .failed rfl (h.failed_of_errorMessage hsome)
  · exact hne .completed rfl (h.completed_of_result hsome)
  · exact hne r.status (h.terminal_of_technicalDetail hsome) rfl

theorem of_created (h : r.Created) : r.Coherent := by
  obtain ⟨id, taskType, payload, createdAt, h⟩ := h
  obtain ⟨hblank, rfl⟩ := create_eq_ok_iff.1 h
  exact
    { completedAt_iff := by simp [fresh, isTerminal, Status.isTerminal]
      handle_of_begun := by rintro (h | h) <;> cases h
      failed_of_errorMessage := nofun
      completed_of_result := nofun
      terminal_of_technicalDetail := nofun
      taskType_not_blank := hblank }

theorem assignHandle {handle : Handle} (hr : r.Coherent) (h : r.assignHandle handle = .ok c) :
    c.Coherent := by
  obtain ⟨-, -, rfl⟩ := assignHandle_eq_ok_iff.1 h
  exact { hr with handle_of_begun := fun _ => rfl }

theorem start (hr : r.Coherent) (h : r.start = .ok c) : c.Coherent := by
  obtain ⟨hpending, hsome, rfl⟩ := start_eq_ok_iff.1 h
  have hopen : r.isTerminal = false := by rw [isTerminal, hpending]; rfl
  obtain ⟨herror, hresult, hdetail⟩ := hr.bare_of_open hopen
  exact
    { completedAt_iff := by rw [hr.completedAt_iff, hopen]; rfl
      handle_of_begun := fun _ => hsome
      failed_of_errorMessage := by simp [herror]
      completed_of_result := by simp [hresult]
      terminal_of_technicalDetail := by simp [hdetail]
      taskType_not_blank := hr.taskType_not_blank }

theorem appendLog {message : String} (hr : r.Coherent) (h : r.appendLog message = .ok c) :
    c.Coherent := by
  obtain ⟨-, rfl⟩ := appendLog_eq_ok_iff.1 h
  exact { hr with }

/-- Whatever is to be recorded of the end, only what belongs to the stage reached is. -/
theorem finish {u : FinalUpdate} (hr : r.Coherent) (h : r.finish u = .ok c) : c.Coherent := by
  obtain ⟨hterminal, hedge, rfl⟩ := finish_eq_ok_iff.1 h
  obtain ⟨herror, hresult, -⟩ := hr.bare_of_open (Status.isTerminal_of_canBecome hedge)
  have hrunning : u.status = .completed → r.status = .running := by
    intro hu
    simpa [hu] using Status.canBecome_iff.1 hedge
  have hbegun : u.status = .running ∨ u.status = .completed → r.handle.isSome = true := by
    rintro (hu | hu)
    · rw [hu] at hterminal
      cases hterminal
    · exact hr.handle_of_begun (.inl (hrunning hu))
  exact
    { completedAt_iff := iff_of_true rfl hterminal
      handle_of_begun := hbegun
      failed_of_errorMessage := by
        simp only [ended, herror]
        split <;> simp_all
      completed_of_result := by
        simp only [ended, hresult]
        split <;> simp_all
      terminal_of_technicalDetail := fun _ => hterminal
      taskType_not_blank := hr.taskType_not_blank }

/-- Every operation keeps a record coherent. -/
theorem changes (hr : r.Coherent) (h : r.Changes c) : c.Coherent := by
  cases h with
  | assignHandle handle h => exact hr.assignHandle h
  | start h => exact hr.start h
  | appendLog message h => exact hr.appendLog h
  | finish update h => exact hr.finish h

end Coherent

end Record

namespace Store

/-! ### Runs -/

/-- A conditional write changes its record by one of the four operations. -/
theorem Query.Writes.changes {q : Query} {id : TaskId} {change : Record → Except TaskError Record}
    (hq : q.Writes id change) {r c : Record} (h : change r = .ok c) : r.Changes c := by
  cases hq with
  | setHandle id handle => exact .assignHandle handle h
  | markRunning => exact .start h
  | appendLog id message => exact .appendLog message h
  | finish id update => exact .finish update h
  | finishFrom id source update => exact .finish update (Memory.finishAt_eq_ok_iff.1 h).2

namespace Memory

variable {P : Record → Prop}

/-- What holds of all records and is kept by the operations holds of all records after a question
that inserts only such records. -/
theorem forall_answer {m : Memory} {q : Query} (hm : ∀ r ∈ m.records, P r)
    (hnew : ∀ record, q = .insert record → P record) (hkept : ∀ r c, P r → r.Changes c → P c) :
    ∀ r ∈ (answer q m).2.records, P r := by
  intro r hr
  have hfind := find?_eq_some_iff.2 ⟨hr, rfl⟩
  have hmakes := m.makes_answer q r.id
  rw [hfind] at hmakes
  generalize hbefore : m.find? r.id = before? at hmakes
  cases hmakes with
  | same => exact hm r (mem_of_find? hbefore)
  | new record hq _ => exact hnew r hq
  | @changed r₀ _ change hq hc => exact hkept r₀ r (hm r₀ (mem_of_find? hbefore)) (hq.changes hc)

/-- What holds of new records and is kept by the operations holds of all records after a run. -/
theorem forall_after {m : Memory} {run : List Query} (hm : ∀ r ∈ m.records, P r)
    (hnew : ∀ record, Query.insert record ∈ run → P record)
    (hkept : ∀ r c, P r → r.Changes c → P c) : ∀ r ∈ (m.after run).records, P r := by
  induction run generalizing m with
  | nil => exact hm
  | cons q run ih =>
      rw [after_cons]
      refine ih (forall_answer hm (fun record hq => hnew record ?_) hkept)
        fun record hrecord => hnew record (List.mem_cons_of_mem _ hrecord)
      rw [hq]
      exact List.mem_cons_self

/-- **Every record of every reachable store is coherent**: after any run of questions from the empty
store whose new records were created as records are, whatever else was asked of it.  And consistency
by itself is kept by every operation, from any record that has it. -/
theorem coherent_after {run : List Query}
    (hcreated : ∀ record, Query.insert record ∈ run → record.Created) :
    (∀ r ∈ (Memory.empty.after run).records, r.isConsistent = true ∧ r.Coherent) ∧
      ∀ r c : Record, r.isConsistent = true → r.Changes c → c.isConsistent = true := by
  refine ⟨fun r hr => ?_, fun r c hr hchange => hchange.isConsistent hr⟩
  have hcoherent : r.Coherent :=
    forall_after (by simp [empty]) (fun record h => .of_created (hcreated record h))
      (fun _ _ hr hchange => hr.changes hchange) r hr
  exact ⟨hcoherent.isConsistent, hcoherent⟩

/-- A task that starts, is to end without an end, is cancelled with a message and a result, which
belong to other ends, and is to fail once more. -/
def garbled : List Query :=
  [.insert (.fresh ⟨⟨1⟩⟩ "report" .null .epoch), .setHandle ⟨⟨1⟩⟩ ⟨"job"⟩, .markRunning ⟨⟨1⟩⟩,
    .finish ⟨⟨1⟩⟩ ⟨.running, .epoch, some "why", none, none, none⟩,
    .finish ⟨⟨1⟩⟩ ⟨.cancelled, .epoch, some "why", none, some .null, none⟩,
    .finishFrom ⟨⟨1⟩⟩ .running ⟨.failed, .epoch, none, some "late", none, none⟩]

theorem coherent_after_garbled :
    ((Memory.empty.after garbled).find? ⟨⟨1⟩⟩).map Record.status = some .cancelled ∧
      ∀ r ∈ (Memory.empty.after garbled).records, r.isConsistent = true ∧ r.Coherent := by
  refine ⟨rfl, (coherent_after fun record hrecord => ?_).1⟩
  simp only [garbled, List.mem_cons, reduceCtorEq, List.not_mem_nil, or_false,
    Query.insert.injEq] at hrecord
  exact ⟨⟨⟨1⟩⟩, "report", .null, .epoch, Record.create_eq_ok_iff.2 ⟨by decide, hrecord⟩⟩

end Memory

end Store

end TaskLedger
