import Mathlib.Tactic.Tauto
import TaskLedger.Proofs.Sql.Rows

/-!
**The conditional writes as statements.**

An operation on records decides by looking at the record, and refuses or returns another record.  The
statement that stands for it decides by its conditions on the row, and assigns to columns.  The two
are compared here on the row of one record, with no database around: the conditions are met exactly
by the row of the record whose operation succeeds, and the assignments turn this row into that of the
record it returns.

Main definitions:

* `TaskLedger.Sql.Expresses` — a statement stands for an operation on the record of an identifier;
* `TaskLedger.Sql.updateValues` — the values that an update brings into the columns.

Main results:

* `TaskLedger.Sql.expresses_setHandle` and its neighbours — the statements of the store do so.
-/

set_option autoImplicit false

namespace TaskLedger.Sql

/-- An update stands for an operation on the record of an identifier. -/
structure Expresses (assignments : List (Column × Term)) (tests : List Test) (params : List Value)
    (id : TaskId) (change : Record → Except TaskError Record) : Prop where
  /-- It chooses the row of that record if the operation succeeds, and no other. -/
  chosen_iff : ∀ {r : Record}, Tidy r →
    (chosen tests params (cells r) = true ↔ r.id = id ∧ ∃ c, change r = .ok c)
  /-- It makes the row into that of the record that the operation returns. -/
  assigned_eq : ∀ {r c : Record}, Tidy r → change r = .ok c →
    assigned assignments params (cells r) = cells c
  id_eq : ∀ {r c : Record}, change r = .ok c → c.id = r.id
  tidy : ∀ {r c : Record}, Tidy r → change r = .ok c → Tidy c

/-! ### The conditions of the store -/

theorem chosen_cons (t : Test) (tests : List Test) (params : List Value) (row : Cells) :
    chosen (t :: tests) params row = (t.holds params row && chosen tests params row) := rfl

theorem chosen_nil (params : List Value) (row : Cells) : chosen [] params row = true := rfl

theorem holds_key {id : TaskId} {params : List Value} {r : Record} :
    (Test.equals .taskId 1).holds (.uuid id.uuid :: params) (cells r) = true ↔ r.id = id := by
  cases id
  cases hr : r.id
  simp [Test.holds, parameter, cells, TaskRow.value, TaskRow.ofRecord, hr]

theorem holds_stage {params : List Value} {n : Nat} {stages : List Status} {r : Record}
    (h : parameter params n = stageNames stages) :
    (Test.among .status n).holds params (cells r) = true ↔ r.status ∈ stages := by
  simp [Test.holds, h, cells, TaskRow.value, TaskRow.ofRecord, stageNames, Status.name_inj]

theorem holds_stage_third {a b : Value} {stages : List Status} {r : Record} :
    (Test.among .status 3).holds [a, b, stageNames stages] (cells r) = true ↔ r.status ∈ stages :=
  holds_stage rfl

theorem holds_isNull_handle {params : List Value} {r : Record} :
    (Test.isNull .remoteHandle).holds params (cells r) = true ↔ r.handle = none := by
  cases hr : r.handle <;>
    simp [Test.holds, cells, TaskRow.value, TaskRow.ofRecord, hr, Value.ofOption]

theorem holds_isNotNull_handle {params : List Value} {r : Record} :
    (Test.isNotNull .remoteHandle).holds params (cells r) = true ↔ r.handle.isSome = true := by
  cases hr : r.handle <;>
    simp [Test.holds, cells, TaskRow.value, TaskRow.ofRecord, hr, Value.ofOption]

/-! ### The parameters of the store -/

theorem isStorable_name (s : Status) : (Value.text s.name).isStorable = true := by
  cases s <;> decide

theorem isStorable_stageNames (stages : List Status) : (stageNames stages).isStorable = true := by
  simp only [stageNames, Value.isStorable, List.all_map, List.all_eq_true]
  exact fun s _ => isStorable_name s

/-- The parameters of a write of one value at some stages. -/
theorem isStorable_params (id : TaskId) {value : Value} (h : value.isStorable = true)
    (stages : List Status) : ∀ v ∈ [.uuid id.uuid, value, stageNames stages], v.isStorable = true := by
  simp only [List.forall_mem_cons]
  exact ⟨rfl, h, isStorable_stageNames stages, List.forall_mem_nil _⟩

/-! ### The statements of the store -/

/-- A handle is set where the column for it is null. -/
theorem expresses_setHandle (id : TaskId) {handle : Handle}
    (hparse : Handle.parse handle.text = .ok handle) :
    Expresses [(.remoteHandle, .param 2)]
      [.equals .taskId 1, .isNull .remoteHandle, .among .status 3]
      [.uuid id.uuid, .text handle.text, stageNames Status.openStages] id
      (·.assignHandle handle) where
  chosen_iff {r} _ := by
    simp only [chosen_cons, chosen_nil, Bool.and_eq_true, holds_key, holds_isNull_handle,
      holds_stage_third, Record.assignHandle_eq_ok_iff, Status.mem_openStages, Record.isTerminal,
      exists_and_left, exists_eq]
    tauto
  assigned_eq _ hc := by
    obtain ⟨-, -, rfl⟩ := Record.assignHandle_eq_ok_iff.1 hc
    funext c
    cases c <;> rfl
  id_eq := Record.id_of_assignHandle
  tidy h hc := h.assignHandle hparse hc

/-- A pending task with a handle is marked as running. -/
theorem expresses_markRunning (id : TaskId) :
    Expresses [(.status, .param 2)]
      [.equals .taskId 1, .isNotNull .remoteHandle, .among .status 3]
      [.uuid id.uuid, .text Status.running.name, stageNames Status.running.sources] id
      (·.start) where
  chosen_iff {r} _ := by
    simp only [chosen_cons, chosen_nil, Bool.and_eq_true, holds_key, holds_isNotNull_handle,
      holds_stage_third, Record.start_eq_ok_iff, Status.sources, List.mem_singleton,
      exists_and_left, exists_eq]
    tauto
  assigned_eq _ hc := by
    obtain ⟨-, -, rfl⟩ := Record.start_eq_ok_iff.1 hc
    funext c
    cases c <;> rfl
  id_eq := Record.id_of_start
  tidy h hc := h.start hc

/-- A line is added to the list in the column. -/
theorem expresses_appendLog (id : TaskId) (message : String) :
    Expresses [(.logMessages, .appended .logMessages 2)] [.equals .taskId 1, .among .status 3]
      [.uuid id.uuid, .text message, stageNames Status.openStages] id
      (·.appendLog message) where
  chosen_iff {r} _ := by
    simp only [chosen_cons, chosen_nil, Bool.and_eq_true, holds_key, holds_stage_third,
      Record.appendLog_eq_ok_iff, Status.mem_openStages, Record.isTerminal,
      exists_and_left, exists_eq]
  assigned_eq _ hc := by
    obtain ⟨-, rfl⟩ := Record.appendLog_eq_ok_iff.1 hc
    funext c
    cases c <;> rfl
  id_eq := Record.id_of_appendLog
  tidy h hc := h.appendLog hc

/-- The values that an update brings into the columns of a row: none if it does not end a task, and
otherwise those that belong to the stage reached. -/
def updateValues (u : FinalUpdate) : List Value :=
  if u.status.isTerminal then
    [.moment u.endedAt, .ofOption .text (if u.status = .failed then u.errorMessage else none),
      .ofOption .text u.technicalDetail,
      .ofOption .json (if u.status = .completed then u.result else none),
      .texts u.logMessage.toList]
  else []

/-- The guarded end of a task stands for any operation that ends a record at one of some open
stages.  The row of a record at such a stage has neither message nor result, so the statement may set
both columns to what the update brings for them, which is null if they do not belong to its stage. -/
theorem expresses_finishWhere (id : TaskId) {stages : List Status} {u : FinalUpdate}
    {change : Record → Except TaskError Record} (hopen : ∀ s ∈ stages, s.isTerminal = false)
    (hfinish : ∀ {r c}, change r = .ok c → r.finish u = .ok c)
    (hchange : ∀ {r}, (∃ c, change r = .ok c) ↔ r.status ∈ stages) :
    Expresses
      [(.status, .param 2), (.completedAt, .param 3), (.errorMessage, .param 4),
        (.technicalDetail, .coalesce 5 .technicalDetail), (.result, .param 6),
        (.logMessages, .extended .logMessages 7)]
      [.equals .taskId 1, .among .status 8]
      [.uuid id.uuid, .text u.status.name, .moment u.endedAt,
        .ofOption .text (if u.status = .failed then u.errorMessage else none),
        .ofOption .text u.technicalDetail,
        .ofOption .json (if u.status = .completed then u.result else none),
        .texts u.logMessage.toList, stageNames stages] id change where
  chosen_iff {r} _ := by
    rw [chosen_cons, chosen_cons, chosen_nil, Bool.and_true, Bool.and_eq_true, holds_key,
      holds_stage rfl, hchange]
  assigned_eq {r c} h hc := by
    have hr : r.isTerminal = false := hopen _ (hchange.1 ⟨c, hc⟩)
    obtain ⟨hmessage, hresult⟩ := h.bare hr
    obtain ⟨-, -, rfl⟩ := Record.finish_eq_ok_iff.1 (hfinish hc)
    funext c
    cases c with
    | errorMessage =>
        change Value.ofOption .text (if u.status = .failed then u.errorMessage else none) =
          .ofOption .text (if u.status = .failed then u.errorMessage else r.errorMessage)
        rw [hmessage]
    | result =>
        change Value.ofOption .json (if u.status = .completed then u.result else none) =
          .ofOption .json (if u.status = .completed then u.result else r.result)
        rw [hresult]
    | technicalDetail =>
        change (if Value.ofOption .text u.technicalDetail = .null then
            Value.ofOption .text r.technicalDetail else Value.ofOption .text u.technicalDetail) =
          .ofOption .text (u.technicalDetail.or r.technicalDetail)
        cases u.technicalDetail <;> simp [Value.ofOption]
    | _ => rfl
  id_eq hc := Record.id_of_finish (hfinish hc)
  tidy h hc := h.finish (hfinish hc)

/-- When a record lets itself be ended at a last stage. -/
theorem exists_finish_iff {r : Record} {u : FinalUpdate} (hu : u.status.isTerminal = true) :
    (∃ c, r.finish u = .ok c) ↔ r.status ∈ u.status.sources := by
  simp only [Record.finish_eq_ok_iff, hu, true_and, exists_and_left, exists_eq, and_true,
    Status.mem_sources]

/-- When a record lets itself be ended from a stage that leads to the one to be reached. -/
theorem exists_finishAt_iff {source : Status} {r : Record} {u : FinalUpdate}
    (hu : u.status.isTerminal = true) (hsource : source.canBecome u.status = true) :
    (∃ c, Store.Memory.finishAt source u r = .ok c) ↔ r.status ∈ [source] := by
  simp only [Store.Memory.finishAt_eq_ok_iff, exists_and_left, exists_finish_iff hu, Status.mem_sources,
    List.mem_singleton]
  constructor
  · exact And.left
  · rintro rfl
    exact ⟨rfl, hsource⟩

end TaskLedger.Sql
