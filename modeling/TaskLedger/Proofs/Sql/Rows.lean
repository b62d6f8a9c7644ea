import TaskLedger.Proofs.Sql.Engine
import TaskLedger.Proofs.Store.Change
import TaskLedger.Sql.Store

/-!
**Records in the rows of the table.**

A record is held in one row, and the row tells the record again.  Of the records that a store comes
to hold more is true than of any record: their texts are not blank, a time of completion stands
exactly at an ended one, and an open one carries neither a message for users nor a result.  It is this
last fact that lets the guarded end of a task overwrite both columns without looking at them.

Main definitions:

* `TaskLedger.Sql.cells` — the row of a record;
* `TaskLedger.Sql.Tidy` — what is true of every record that a store comes to hold.

Main results:

* `TaskLedger.Sql.readRecord_toRow` — the row of a tidy record tells the record again;
* `TaskLedger.Sql.violation?_cells` — the schema has nothing against it;
* `TaskLedger.Sql.Tidy.finish` and its neighbours — the operations on records keep it.
-/

set_option autoImplicit false

namespace TaskLedger.Sql

/-- The row of a record. -/
def cells (r : Record) : Cells := (TaskRow.ofRecord r).value

/-! ### Reading a row -/

theorem Column.name_inj {c d : Column} : c.name = d.name ↔ c = d := by
  constructor
  · intro h
    cases c <;> cases d <;> first | rfl | (simp [name] at h)
  · rintro rfl
    rfl

/-- A column that was asked for is found. -/
theorem cell_of_mem (row : Cells) {columns : List Column} {c : Column} (h : c ∈ columns) :
    Row.cell (columns.map fun c => (c.name, row c)) c.name = .ok (row c) := by
  have hfind : (columns.map fun c => (c.name, row c)).find? (·.1 = c.name) =
      some (c.name, row c) := by
    induction columns with
    | nil => cases h
    | cons d columns ih =>
        by_cases hd : d = c
        · subst hd
          simp
        · have hname : d.name ≠ c.name := fun e => hd (Column.name_inj.1 e)
          have hc : c ∈ columns := (List.mem_cons.1 h).resolve_left (Ne.symm hd)
          simpa [List.find?_cons, hname] using ih hc
  rw [Row.cell, hfind]

/-- A reader takes the values of a type for what they are, and does not take null for one. -/
structure Reads {α : Type} (read : Value → Option α) (value : α → Value) : Prop where
  null : read .null = none
  value : ∀ a, read (value a) = some a

namespace Reads

variable {α : Type} {read : Value → Option α} {value : α → Value}

theorem ne_null (h : Reads read value) (a : α) : value a ≠ .null := by
  intro e
  have := h.value a
  rw [e, h.null] at this
  cases this

/-- A value that was asked for is read. -/
theorem required (h : Reads read value) {row : Cells} {columns : List Column} {c : Column}
    (hc : c ∈ columns) {a : α} (hrow : row c = value a) :
    Row.required (columns.map fun c => (c.name, row c)) c.name read = .ok a := by
  have hnull := h.ne_null a
  have hread := h.value a
  simp only [Row.required, cell_of_mem row hc, hrow, bind, Except.bind]
  cases hv : value a <;> simp_all

/-- A value that was asked for, or its absence, is read. -/
theorem optional (h : Reads read value) {row : Cells} {columns : List Column} {c : Column}
    (hc : c ∈ columns) {a : Option α} (hrow : row c = .ofOption value a) :
    Row.optional (columns.map fun c => (c.name, row c)) c.name read = .ok a := by
  simp only [Row.optional, cell_of_mem row hc, hrow, bind, Except.bind]
  cases a with
  | none => rfl
  | some a =>
      have hnull := h.ne_null a
      have hread := h.value a
      simp only [Value.ofOption]
      cases hv : value a <;> simp_all

end Reads

theorem reads_uuid : Reads Value.uuid? .uuid := ⟨rfl, fun _ => rfl⟩

theorem reads_text : Reads Value.text? .text := ⟨rfl, fun _ => rfl⟩

theorem reads_texts : Reads Value.texts? .texts := ⟨rfl, fun _ => rfl⟩

theorem reads_moment : Reads Value.moment? .moment := ⟨rfl, fun _ => rfl⟩

theorem reads_json : Reads Value.json? .json := ⟨rfl, fun _ => rfl⟩

/-- All columns of a row tell the row. -/
theorem ofRow_toRow (row : TaskRow) : TaskRow.ofRow (row.toRow Column.all) = .ok row := by
  have hmem := Column.mem_all
  unfold TaskRow.ofRow TaskRow.toRow
  rw [reads_uuid.required (hmem .taskId) rfl, reads_text.optional (hmem .remoteHandle) rfl,
    reads_text.required (hmem .taskType) rfl, reads_json.required (hmem .payload) rfl,
    reads_text.required (hmem .status) rfl, reads_moment.required (hmem .createdAt) rfl,
    reads_moment.optional (hmem .completedAt) rfl, reads_texts.required (hmem .logMessages) rfl,
    reads_text.optional (hmem .errorMessage) rfl, reads_text.optional (hmem .technicalDetail) rfl,
    reads_json.optional (hmem .result) rfl]
  rfl

theorem readStatus_name (s : Status) : readStatus s.name = .ok s := by
  simp [readStatus, Status.parse, Except.mapError]

/-! ### What is true of the records of a store -/

/-- What is true of every record that a store comes to hold. -/
structure Tidy (r : Record) : Prop where
  typed : Text.isBlankText r.taskType = false
  handled : ∀ handle, r.handle = some handle → Handle.parse handle.text = .ok handle
  consistent : r.isConsistent = true
  /-- Nothing is said for users before the end. -/
  bare : r.isTerminal = false → r.errorMessage = none ∧ r.result = none

/-- The row of a tidy record tells the record again. -/
theorem readRecord_toRow {r : Record} (h : Tidy r) :
    readRecord ((TaskRow.ofRecord r).toRow Column.all) = .ok r := by
  have hstatus := readStatus_name r.status
  rw [readRecord, ofRow_toRow]
  cases hr : r.handle with
  | none =>
      simp only [TaskRow.toRecord, TaskRow.ofRecord, hr, hstatus, bind, Except.bind, pure, Except.pure,
        Option.map_none]
      rw [← hr]
  | some handle =>
      have hhandle : readHandle handle.text = .ok handle := by
        rw [readHandle, h.handled handle hr]
        rfl
      simp only [TaskRow.toRecord, TaskRow.ofRecord, hr, hstatus, hhandle, bind, Except.bind, pure,
        Except.pure, Option.map_some, Functor.map, Except.map]
      rw [← hr]

/-- The row of a record tells which record it is. -/
theorem cells_injective : Function.Injective cells := by
  intro r r' h
  have hrow : (TaskRow.ofRecord r).toRow Column.all = (TaskRow.ofRecord r').toRow Column.all :=
    List.map_congr_left fun c _ => congrArg (Prod.mk c.name) (congrFun h c)
  have hread := congrArg TaskRow.ofRow hrow
  rw [ofRow_toRow, ofRow_toRow, Except.ok.injEq] at hread
  have hstatus : r.status = r'.status := Status.name_inj.1 (congrArg TaskRow.status hread)
  have hhandle : r.handle = r'.handle :=
    Option.map_injective (fun a b hab => by cases a; cases b; cases hab; rfl)
      (congrArg TaskRow.remoteHandle hread)
  have hid : r.id = r'.id := congrArg (fun row => TaskId.mk row.taskId) hread
  cases r
  cases r'
  simp only [TaskRow.ofRecord, TaskRow.mk.injEq] at hread
  obtain ⟨-, -, rfl, rfl, -, rfl, rfl, rfl, rfl, rfl, rfl⟩ := hread
  subst hid hhandle hstatus
  rfl

/-! ### The schema -/

theorem isRequired_cells {r : Record} {c : Column} (h : c.isRequired = true) : cells r c ≠ .null := by
  cases c <;> simp_all [cells, TaskRow.value, Column.isRequired]

/-- A text that is not blank is not made of spaces only. -/
theorem any_ne_space {s : String} (h : Text.isBlankText s = false) :
    s.toList.any (· ≠ ' ') = true := by
  obtain ⟨c, hc, hblank⟩ := List.all_eq_false.1 h
  refine List.any_eq_true.2 ⟨c, hc, decide_eq_true ?_⟩
  rintro rfl
  exact hblank (by decide)

/-- The schema has nothing against the row of a tidy record. -/
theorem violation?_cells {r : Record} (h : Tidy r) : violation? (cells r) = none := by
  have hnull : (Column.all.any fun c => c.isRequired && cells r c = .null) = false := by
    refine List.any_eq_false.2 fun c _ => ?_
    simp only [Bool.and_eq_true, decide_eq_true_eq, not_and]
    exact isRequired_cells
  have hchecks : (checks (cells r)).all id = true := by
    have htyped := any_ne_space h.typed
    have hconsistent := h.consistent
    unfold Record.isConsistent Record.isTerminal at hconsistent
    -- the checks look at the stage and at whether there are a time of completion and a handle
    cases hs : r.status <;> cases hc : r.completedAt <;> cases hh : r.handle <;>
      simp_all [checks, cells, TaskRow.value, TaskRow.ofRecord, Status.name, Value.ofOption,
        Status.isTerminal]
  simp [violation?, hnull, hchecks]

/-! ### What the operations on records keep -/

theorem Tidy.create {id : TaskId} {taskType : String} {payload : Json} {createdAt : Instant}
    {r : Record} (h : Record.create id taskType payload createdAt = .ok r) : Tidy r := by
  obtain ⟨htype, rfl⟩ := Record.create_eq_ok_iff.1 h
  exact ⟨htype, by simp [Record.fresh], rfl, fun _ => ⟨rfl, rfl⟩⟩

namespace Tidy

variable {r c : Record}

theorem assignHandle {handle : Handle} (h : Tidy r) (hparse : Handle.parse handle.text = .ok handle)
    (hc : r.assignHandle handle = .ok c) : Tidy c := by
  obtain ⟨hopen, -, rfl⟩ := Record.assignHandle_eq_ok_iff.1 hc
  refine ⟨h.typed, ?_, ?_, h.bare⟩
  · intro k hk
    obtain rfl : handle = k := Option.some.inj hk
    exact hparse
  · have hcomplete := h.consistent
    simp_all [Record.isConsistent, Record.isTerminal]

theorem start (h : Tidy r) (hc : r.start = .ok c) : Tidy c := by
  obtain ⟨hpending, hhandle, rfl⟩ := Record.start_eq_ok_iff.1 hc
  refine ⟨h.typed, h.handled, ?_, fun _ => h.bare (by rw [Record.isTerminal, hpending]; rfl)⟩
  have hcomplete := h.consistent
  simp_all [Record.isConsistent, Record.isTerminal, Status.isTerminal]

theorem appendLog {message : String} (h : Tidy r) (hc : r.appendLog message = .ok c) : Tidy c := by
  obtain ⟨-, rfl⟩ := Record.appendLog_eq_ok_iff.1 hc
  exact ⟨h.typed, h.handled, h.consistent, h.bare⟩

theorem finish {u : FinalUpdate} (h : Tidy r) (hc : r.finish u = .ok c) : Tidy c := by
  obtain ⟨hterminal, -, rfl⟩ := Record.finish_eq_ok_iff.1 hc
  refine ⟨h.typed, h.handled, ?_, fun hopen => ?_⟩
  · simp [Record.isConsistent, Record.isTerminal, Record.ended, hterminal]
  · rw [show (r.ended u).isTerminal = u.status.isTerminal from rfl, hterminal] at hopen
    cases hopen

end Tidy

end TaskLedger.Sql
