import Mathlib.Algebra.GroupWithZero.Nat
import TaskLedger.Proofs.Fallible
import TaskLedger.Proofs.Sql.Guards
import TaskLedger.Proofs.Sql.Rows
import TaskLedger.Proofs.Store.Listing

/-!
**Rows that are records, and rows that are not.**

A server may send rows of any kind.  A row is that of a record if its columns hold what the record
would be written as; only the name of the stage may come in letters of another case.  Such a row is read
as the record, and every other row is found corrupt: one that lacks a column, holds a value of another
type or null where there must be none, has a blank handle, or a stage that nobody knows.  Where several
rows are asked for, one bad row spoils the whole.

Main definitions:

* `TaskLedger.Sql.Bears` — a row is that of a record;
* `TaskLedger.Sql.TaskRow.IsSound` — a typed row is that of some record;
* `TaskLedger.Sql.Found`, `TaskLedger.Sql.Tallies` — what rows tell of one record, and how many records
  they tell of at each stage;
* `TaskLedger.Sql.Yields` — what a reply is made into, if a value has to be true of its rows.

Main results:

* `TaskLedger.Sql.ofRow_eq_ok_iff` — the values of a row are read from its columns;
* `TaskLedger.Sql.readRecord_eq_ok_iff` — a row is read as the record whose row it is;
* `TaskLedger.Sql.rows_are_records` — **what is written of a record is read as it, a row is read as a
  record if it is that of one, and no answer is made from rows of which one is corrupt**.
-/

set_option autoImplicit false

namespace TaskLedger.Sql

/-! ### Columns -/

section Columns

variable {α : Type} {read : Value → Option α} {value : α → Value} {row : Row} {name : String}
  {v : Value}

/-- A column that is not null is left to the reader. -/
theorem required_of_cell (hcell : row.cell name = .ok v) (hv : v ≠ .null) :
    row.required name read = (read v).elim (.error (.otherType name)) .ok := by
  simp only [Row.required, hcell, bind, Except.bind]
  cases v with
  | null => exact absurd rfl hv
  | _ => split <;> simp_all

theorem optional_of_cell (hcell : row.cell name = .ok v) (hv : v ≠ .null) :
    row.optional name read = (read v).elim (.error (.otherType name)) (.ok ∘ some) := by
  simp only [Row.optional, hcell, bind, Except.bind]
  cases v with
  | null => exact absurd rfl hv
  | _ => split <;> simp_all

/-- A reader takes the values of a type for what they are, and takes nothing else for one. -/
structure ReadsOnly {α : Type} (read : Value → Option α) (value : α → Value) : Prop where
  reads : Reads read value
  only : ∀ v a, read v = some a → v = value a

namespace ReadsOnly

theorem read_eq_some_iff (h : ReadsOnly read value) {a : α} : read v = some a ↔ v = value a :=
  ⟨h.only v a, fun hv => hv ▸ h.reads.value a⟩

theorem required_eq_ok_iff (h : ReadsOnly read value) {a : α} :
    row.required name read = .ok a ↔ row.cell name = .ok (value a) := by
  cases hcell : row.cell name with
  | error fault => simp [Row.required, hcell, bind, Except.bind]
  | ok v =>
      rw [Except.ok.injEq, ← h.read_eq_some_iff]
      by_cases hv : v = .null
      · simp [Row.required, hcell, hv, h.reads.null, bind, Except.bind]
      · rw [required_of_cell hcell hv]
        cases read v <;> simp

theorem optional_eq_ok_iff (h : ReadsOnly read value) {a : Option α} :
    row.optional name read = .ok a ↔ row.cell name = .ok (.ofOption value a) := by
  cases hcell : row.cell name with
  | error fault => simp [Row.optional, hcell, bind, Except.bind]
  | ok v =>
      rw [Except.ok.injEq]
      by_cases hv : v = .null
      · cases a with
        | none => simp [Row.optional, hcell, hv, Value.ofOption, bind, Except.bind]
        | some a =>
            simp [Row.optional, hcell, hv, Value.ofOption, bind, Except.bind, (h.reads.ne_null a).symm]
      · rw [optional_of_cell hcell hv]
        cases a with
        | none => cases read v <;> simp [Value.ofOption, hv]
        | some a =>
            rw [Value.ofOption, ← h.read_eq_some_iff]
            cases read v <;> simp

end ReadsOnly

end Columns

theorem readsOnly_uuid : ReadsOnly Value.uuid? .uuid :=
  ⟨reads_uuid, fun v a h => by cases v <;> simp_all [Value.uuid?]⟩

theorem readsOnly_text : ReadsOnly Value.text? .text :=
  ⟨reads_text, fun v a h => by cases v <;> simp_all [Value.text?]⟩

theorem readsOnly_texts : ReadsOnly Value.texts? .texts :=
  ⟨reads_texts, fun v a h => by cases v <;> simp_all [Value.texts?]⟩

theorem readsOnly_moment : ReadsOnly Value.moment? .moment :=
  ⟨reads_moment, fun v a h => by cases v <;> simp_all [Value.moment?]⟩

theorem readsOnly_json : ReadsOnly Value.json? .json :=
  ⟨reads_json, fun v a h => by cases v <;> simp_all [Value.json?]⟩

theorem readsOnly_number : ReadsOnly Value.number? .number :=
  ⟨⟨rfl, fun _ => rfl⟩, fun v a h => by cases v <;> simp_all [Value.number?]⟩

/-- The values of a row are read from its columns. -/
theorem ofRow_eq_ok_iff {row : Row} {t : TaskRow} :
    TaskRow.ofRow row = .ok t ↔ ∀ c : Column, row.cell c.name = .ok (t.value c) := by
  simp only [TaskRow.ofRow, bind_eq_ok_iff, readsOnly_uuid.required_eq_ok_iff,
    readsOnly_text.required_eq_ok_iff, readsOnly_text.optional_eq_ok_iff,
    readsOnly_json.required_eq_ok_iff, readsOnly_json.optional_eq_ok_iff,
    readsOnly_moment.required_eq_ok_iff, readsOnly_moment.optional_eq_ok_iff,
    readsOnly_texts.required_eq_ok_iff]
  constructor
  · rintro ⟨_, h₁, _, h₂, _, h₃, _, h₄, _, h₅, _, h₆, _, h₇, _, h₈, _, h₉, _, h₁₀, _, h₁₁, h⟩ c
    obtain rfl := Except.ok.inj h
    cases c <;> assumption
  · intro h
    exact ⟨_, h .taskId, _, h .remoteHandle, _, h .taskType, _, h .payload, _, h .status, _,
      h .createdAt, _, h .completedAt, _, h .logMessages, _, h .errorMessage, _, h .technicalDetail,
      _, h .result, rfl⟩

/-! ### Typed rows -/

theorem readStatus_eq_ok_iff {s : String} {status : Status} :
    readStatus s = .ok status ↔ Text.sameLetters status.name s = true := by
  simp only [readStatus, Status.parse, mapError_eq_ok_iff]
  cases hparse : Status.parse? s with
  | none =>
      simpa using List.find?_eq_none.1 hparse status status.mem_all
  | some found =>
      have hname := List.find?_some hparse
      rw [Except.ok.injEq]
      exact ⟨fun h => h ▸ hname, fun h => Status.eq_of_sameLetters hname h⟩

theorem readHandle_eq_ok_iff {s : String} {handle : Handle} :
    readHandle s = .ok handle ↔ handle.text = s ∧ Text.isBlankText s = false := by
  obtain ⟨text⟩ := handle
  simp only [readHandle, mapError_eq_ok_iff, Handle.parse]
  cases Text.isBlankText s <;> simp [eq_comm]

/-- A handle that may be missing is read as it is, if it is not blank. -/
def readHandle? : Option String → Except Store.Fault (Option Handle)
  | some s => some <$> readHandle s
  | none => .ok none

theorem readHandle?_eq_ok_iff {s? : Option String} {handle? : Option Handle} :
    readHandle? s? = .ok handle? ↔
      handle?.map Handle.text = s? ∧ ∀ s, s? = some s → Text.isBlankText s = false := by
  cases s? with
  | none => cases handle? <;> simp [readHandle?]
  | some s =>
      simp only [readHandle?, map_eq_pure_bind, bind_eq_ok_iff, readHandle_eq_ok_iff, pure,
        Except.pure, Except.ok.injEq, Option.some.injEq, forall_eq']
      cases handle? with
      | none => simp
      | some handle => simp

/-- A typed row is that of some record: its handle is not blank, and its stage is known. -/
structure TaskRow.IsSound (row : TaskRow) : Prop where
  handle : ∀ s, row.remoteHandle = some s → Text.isBlankText s = false
  status : ∃ status : Status, Text.sameLetters status.name row.status = true

namespace TaskRow

variable {row : TaskRow} {r : Record}

/-- The record of a typed row, but for what has to be read. -/
def recordWith (row : TaskRow) (handle : Option Handle) (status : Status) : Record where
  id := ⟨row.taskId⟩
  handle
  taskType := row.taskType
  payload := row.payload
  status
  createdAt := row.createdAt
  completedAt := row.completedAt
  log := row.logMessages
  errorMessage := row.errorMessage
  technicalDetail := row.technicalDetail
  result := row.result

theorem toRecord_eq (row : TaskRow) : row.toRecord =
    readHandle? row.remoteHandle >>= fun handle =>
      readStatus row.status >>= fun status => .ok (row.recordWith handle status) := by
  unfold toRecord
  cases row.remoteHandle <;> rfl

theorem ofRecord_injective : Function.Injective ofRecord :=
  fun _ _ h => cells_injective (congrArg value h)

/-- A typed row is read as a record if it is what the record is written as, but for the case of the
letters of its stage. -/
theorem toRecord_eq_ok_iff :
    row.toRecord = .ok r ↔
      (∀ s, row.remoteHandle = some s → Text.isBlankText s = false) ∧
        Text.sameLetters r.status.name row.status = true ∧
        ofRecord r = { row with status := r.status.name } := by
  simp only [toRecord_eq, bind_eq_ok_iff, readHandle?_eq_ok_iff, readStatus_eq_ok_iff]
  have hwith : ∀ handle status, handle.map Handle.text = row.remoteHandle →
      ofRecord (row.recordWith handle status) = { row with status := status.name } :=
    fun handle status hhandle => by rw [← hhandle]; rfl
  constructor
  · rintro ⟨handle, ⟨hhandle, hblank⟩, status, hstatus, h⟩
    obtain rfl := Except.ok.inj h
    exact ⟨hblank, hstatus, hwith handle status hhandle⟩
  · rintro ⟨hblank, hstatus, hrow⟩
    have hhandle : r.handle.map Handle.text = row.remoteHandle := congrArg remoteHandle hrow
    exact ⟨r.handle, ⟨hhandle, hblank⟩, r.status, hstatus,
      congrArg Except.ok (ofRecord_injective ((hwith _ _ hhandle).trans hrow.symm))⟩

/-- A typed row is read if it is sound. -/
theorem exists_toRecord_iff : (∃ r, row.toRecord = .ok r) ↔ row.IsSound := by
  constructor
  · rintro ⟨r, h⟩
    obtain ⟨hblank, hstatus, -⟩ := toRecord_eq_ok_iff.1 h
    exact ⟨hblank, r.status, hstatus⟩
  · rintro ⟨hblank, status, hstatus⟩
    refine ⟨row.recordWith (row.remoteHandle.map Handle.mk) status, toRecord_eq_ok_iff.2
      ⟨hblank, hstatus, ?_⟩⟩
    simp [ofRecord, recordWith, Function.comp_def]

end TaskRow

/-! ### Rows as they are received -/

/-- A row is that of a record: its columns hold what the record is written as, but for the case of the
letters of its stage, and the handle is not blank. -/
structure Bears (row : Row) (r : Record) : Prop where
  columns : ∀ c : Column, c ≠ .status → row.cell c.name = .ok (cells r c)
  status : ∃ s, row.cell Column.status.name = .ok (.text s) ∧
    Text.sameLetters r.status.name s = true
  handle : ∀ handle, r.handle = some handle → Text.isBlankText handle.text = false

variable {row : Row} {r : Record}

theorem readRecord_eq_ok_iff_exists :
    readRecord row = .ok r ↔ ∃ t, TaskRow.ofRow row = .ok t ∧ t.toRecord = .ok r := by
  unfold readRecord
  cases TaskRow.ofRow row <;> simp

/-- **A row is read as the record whose row it is.** -/
theorem readRecord_eq_ok_iff : readRecord row = .ok r ↔ Bears row r := by
  rw [readRecord_eq_ok_iff_exists]
  constructor
  · rintro ⟨t, hcells, hread⟩
    rw [ofRow_eq_ok_iff] at hcells
    obtain ⟨hblank, hstatus, hrow⟩ := TaskRow.toRecord_eq_ok_iff.1 hread
    refine ⟨fun c hc => ?_, ⟨t.status, hcells .status, hstatus⟩, fun handle hhandle => ?_⟩
    · rw [hcells c, cells, hrow]
      cases c <;> first | rfl | exact absurd rfl hc
    · refine hblank handle.text ?_
      have h : (TaskRow.ofRecord r).remoteHandle = t.remoteHandle := by rw [hrow]
      rw [← h, TaskRow.ofRecord, hhandle]
      rfl
  · rintro ⟨hcolumns, ⟨s, hs, hstatus⟩, hhandle⟩
    refine ⟨{ TaskRow.ofRecord r with status := s }, ofRow_eq_ok_iff.2 fun c => ?_,
      TaskRow.toRecord_eq_ok_iff.2 ⟨fun text htext => ?_, hstatus, rfl⟩⟩
    · by_cases hc : c = .status
      · subst hc
        exact hs
      · rw [hcolumns c hc]
        cases c <;> first | rfl | exact absurd rfl hc
    · obtain ⟨handle, hr, rfl⟩ := Option.map_eq_some_iff.1 htext
      exact hhandle handle hr

/-- A fault that says that a row is corrupt. -/
def IsCorrupt (fault : Store.Fault) : Prop := ∃ detail, fault = .corrupt detail

theorem failsOnly_readStatus (s : String) : FailsOnly IsCorrupt (readStatus s) :=
  .mapError fun _ => ⟨_, rfl⟩

theorem failsOnly_readHandle? (s? : Option String) : FailsOnly IsCorrupt (readHandle? s?) := by
  cases s? with
  | none => exact .ok none
  | some s =>
      simp only [readHandle?, map_eq_pure_bind]
      exact FailsOnly.bind (.mapError fun _ => ⟨_, rfl⟩) fun handle => .ok (some handle)

/-- A row that is not that of a record is corrupt. -/
theorem failsOnly_readRecord (row : Row) : FailsOnly IsCorrupt (readRecord row) := by
  unfold readRecord
  cases TaskRow.ofRow row with
  | error fault => exact .error ⟨_, rfl⟩
  | ok t =>
      simp only [TaskRow.toRecord_eq]
      exact (failsOnly_readHandle? t.remoteHandle).bind fun handle =>
        (failsOnly_readStatus t.status).bind fun status => .ok _

theorem exists_corrupt (h : ∀ r, readRecord row ≠ .ok r) :
    ∃ detail, readRecord row = .error (.corrupt detail) := by
  cases hread : readRecord row with
  | ok r => exact absurd hread (h r)
  | error fault =>
      obtain ⟨detail, rfl⟩ := failsOnly_readRecord row fault hread
      exact ⟨detail, rfl⟩

theorem readRecord_toRow_eq (t : TaskRow) : readRecord (t.toRow Column.all) = t.toRecord := by
  rw [readRecord, ofRow_toRow]

/-- What is written of a record is the row of the record. -/
theorem bears_toRow (h : ∀ handle, r.handle = some handle → Text.isBlankText handle.text = false) :
    Bears ((TaskRow.ofRecord r).toRow Column.all) r where
  columns c _ := cell_of_mem (cells r) (Column.mem_all c)
  status := ⟨r.status.name, cell_of_mem (cells r) (Column.mem_all .status), Text.sameLetters_self _⟩
  handle := h

/-! ### Groups -/

/-- A row says how many records are at a stage, which it names in any case of its letters. -/
structure Numbers (row : Row) (group : Status × Int) : Prop where
  status : ∃ s, row.cell Column.status.name = .ok (.text s) ∧
    Text.sameLetters group.1.name s = true
  number : row.cell "n" = .ok (.number group.2)

/-- Counts are the sums of what rows say, where a number below zero counts for nothing. -/
def Tallies (rows : List Row) (c : Store.Counts) : Prop :=
  ∃ groups, List.Forall₂ Numbers rows groups ∧
    ∀ s, c.at s = (groups.map fun group => if group.1 = s then group.2.toNat else 0).sum

/-- The counts with what a row says. -/
def addGroup (c : Store.Counts) (group : Status × Int) : Store.Counts :=
  c.add group.1 group.2.toNat

theorem at_foldl_addGroup (groups : List (Status × Int)) (c : Store.Counts) (s : Status) :
    (groups.foldl addGroup c).at s =
      c.at s + (groups.map fun group => if group.1 = s then group.2.toNat else 0).sum := by
  induction groups generalizing c with
  | nil => simp
  | cons group groups ih =>
      rw [List.foldl_cons, ih, addGroup, Store.Counts.at_add, List.map_cons, List.sum_cons,
        Nat.add_assoc]

theorem addCount_eq_ok_iff {c c' : Store.Counts} :
    addCount c row = .ok c' ↔ ∃ group, Numbers row group ∧ c' = addGroup c group := by
  simp only [addCount, bind_eq_ok_iff, mapError_eq_ok_iff, readsOnly_text.required_eq_ok_iff,
    readsOnly_number.required_eq_ok_iff, readStatus_eq_ok_iff]
  constructor
  · rintro ⟨s, hs, n, hn, status, hstatus, h⟩
    exact ⟨(status, n), ⟨⟨s, hs, hstatus⟩, hn⟩, (Except.ok.inj h).symm⟩
  · rintro ⟨⟨status, n⟩, ⟨⟨s, hs, hstatus⟩, hn⟩, rfl⟩
    exact ⟨s, hs, n, hn, status, hstatus, rfl⟩

/-- What the rows say is added to the counts, row after row. -/
theorem foldlM_addCount_eq_ok_iff {rows : List Row} {c c' : Store.Counts} :
    rows.foldlM addCount c = .ok c' ↔
      ∃ groups, List.Forall₂ Numbers rows groups ∧ c' = groups.foldl addGroup c := by
  induction rows generalizing c with
  | nil => simp [pure, Except.pure, eq_comm]
  | cons row rows ih =>
      simp only [List.foldlM_cons, bind_eq_ok_iff, addCount_eq_ok_iff, ih]
      constructor
      · rintro ⟨_, ⟨group, hgroup, rfl⟩, groups, hgroups, rfl⟩
        exact ⟨group :: groups, .cons hgroup hgroups, rfl⟩
      · rintro ⟨_, hall, rfl⟩
        cases hall with
        | cons hgroup hgroups => exact ⟨_, ⟨_, hgroup, rfl⟩, _, hgroups, rfl⟩

/-- The counts are the sums of what the rows say. -/
theorem foldlM_addCount_eq_ok_iff_tallies {rows : List Row} {c : Store.Counts} :
    rows.foldlM addCount {} = .ok c ↔ Tallies rows c := by
  have hnone : ∀ s, ({} : Store.Counts).at s = 0 := fun s => by cases s <;> rfl
  refine foldlM_addCount_eq_ok_iff.trans (exists_congr fun groups => and_congr_right fun _ => ?_)
  constructor
  · rintro rfl s
    rw [at_foldl_addGroup, hnone, Nat.zero_add]
  · intro h
    refine Store.Counts.ext_at fun s => ?_
    rw [h, at_foldl_addGroup, hnone, Nat.zero_add]

theorem failsOnly_addCount (c : Store.Counts) (row : Row) : FailsOnly IsCorrupt (addCount c row) := by
  unfold addCount
  exact FailsOnly.bind (.mapError fun _ => ⟨_, rfl⟩) fun name =>
    FailsOnly.bind (.mapError fun _ => ⟨_, rfl⟩) fun n =>
      (failsOnly_readStatus name).bind fun status => .ok _

/-! ### Answers made from rows -/

/-- What a reply is made into, if a value is good for the rows that it is accepted with: without a reply
a failure, with a reply a value that is good for its rows, or if there is none, the report that they are
corrupt. -/
inductive Yields {α : Type} (good : List Row → α → Prop) :
    Except ClientFault Reply → Except Store.Fault α → Prop
  | failed {fault : ClientFault} {detail : String} :
      Yields good (.error fault) (.error (.storage detail))
  | told {reply : Reply} {a : α} : good reply.rows a → Yields good (.ok reply) (.ok a)
  | corrupt {reply : Reply} {detail : String} : (∀ a, ¬ good reply.rows a) →
      Yields good (.ok reply) (.error (.corrupt detail))

/-- One question whose answer is made from the reply. -/
def reading {α : Type} (operation : String) (q : Request) (make : Reply → Except Store.Fault α) :
    Exchange (Except Store.Fault α) := do
  match ← ask operation q with
  | .error fault => return .error fault
  | .ok reply => return make reply

/-- An answer is good, or there is none because the rows are corrupt. -/
theorem yields_reading {α : Type} {good : List Row → α → Prop} {operation : String} {q : Request}
    {make : Reply → Except Store.Fault α}
    (sound : ∀ reply a, make reply = .ok a → good reply.rows a)
    (complete : ∀ reply a, good reply.rows a → ∃ a', make reply = .ok a')
    (fails : ∀ reply, FailsOnly IsCorrupt (make reply)) (reply : Except ClientFault Reply) :
    ∃ r, (reading operation q make).Ends [⟨q, reply⟩] r ∧ Yields good reply r := by
  cases reply with
  | error fault =>
      refine ⟨.error (fault.toFault operation),
        Dialogue.ends_ask.2 ⟨_, [], rfl, Dialogue.ends_done.2 ⟨rfl, rfl⟩⟩, ?_⟩
      cases fault <;> exact .failed
  | ok reply =>
      refine ⟨make reply, Dialogue.ends_ask.2 ⟨_, [], rfl, Dialogue.ends_done.2 ⟨rfl, rfl⟩⟩, ?_⟩
      cases hmake : make reply with
      | ok a => exact .told (sound reply a hmake)
      | error fault =>
          obtain ⟨detail, rfl⟩ := fails reply fault hmake
          refine .corrupt fun a ha => ?_
          obtain ⟨a', ha'⟩ := complete reply a ha
          rw [hmake] at ha'
          cases ha'

/-- The question for the row of a record. -/
def rowOf (id : TaskId) : Request :=
  .statement (.select Column.all [.equals .taskId 1] []) [.uuid id.uuid]

/-- The question for the rows of all open records. -/
def openRows : Request :=
  .statement (.select Column.all [.among .status 1] [.createdAt, .taskId])
    [stageNames Status.openStages]

/-- The question for the number of records at each stage. -/
def groups : Request := .statement (.countBy .status) []

/-- What rows tell of one record: that there is none, or what the first of them is the row of. -/
inductive Found : List Row → Option Record → Prop
  | none : Found [] none
  | some {row : Row} {rest : List Row} {r : Record} : Bears row r → Found (row :: rest) (some r)

/-- Reads the first of some rows, if there is one. -/
def readFirst (rows : List Row) : Except Store.Fault (Option Record) :=
  rows.head?.elim (.ok none) fun row => (readRecord row).map some

theorem readFirst_eq_ok_iff {rows : List Row} {found : Option Record} :
    readFirst rows = .ok found ↔ Found rows found := by
  constructor
  · intro h
    cases rows with
    | nil =>
        obtain rfl := Except.ok.inj h
        exact .none
    | cons row rest =>
        obtain ⟨r, hread, rfl⟩ := map_eq_ok_iff.1 h
        exact .some (readRecord_eq_ok_iff.1 hread)
  · intro h
    cases h with
    | none => rfl
    | some hbears => exact map_eq_ok_iff.2 ⟨_, readRecord_eq_ok_iff.2 hbears, rfl⟩

theorem failsOnly_readFirst (rows : List Row) : FailsOnly IsCorrupt (readFirst rows) := by
  cases rows with
  | nil => exact .ok none
  | cons row rest => exact (failsOnly_readRecord row).map some

theorem yields_get (id : TaskId) (reply : Except ClientFault Reply) :
    ∃ r, (get id).Ends [⟨rowOf id, reply⟩] r ∧ Yields Found reply r := by
  have hget : get id = reading "get_task" (rowOf id) fun reply => readFirst reply.rows := by
    refine congrArg (ask "get_task" (rowOf id) >>= ·) (funext fun result => ?_)
    rcases result with fault | ⟨affected, _ | ⟨row, rest⟩⟩ <;> rfl
  rw [hget]
  exact yields_reading (fun _ _ h => readFirst_eq_ok_iff.1 h)
    (fun _ found h => ⟨found, readFirst_eq_ok_iff.2 h⟩) (fun reply => failsOnly_readFirst reply.rows)
    reply

theorem yields_listOpen (reply : Except ClientFault Reply) :
    ∃ r, listOpen.Ends [⟨openRows, reply⟩] r ∧ Yields (List.Forall₂ Bears) reply r := by
  have hgood : ∀ (reply : Reply) (records : List Record),
      reply.rows.mapM readRecord = .ok records ↔ List.Forall₂ Bears reply.rows records := by
    intro reply records
    simp only [mapM_eq_ok_iff, readRecord_eq_ok_iff]
  exact yields_reading (fun reply a h => (hgood reply a).1 h)
    (fun reply a h => ⟨a, (hgood reply a).2 h⟩) (fun reply => .mapM failsOnly_readRecord reply.rows)
    reply

theorem yields_counts (reply : Except ClientFault Reply) :
    ∃ r, counts.Ends [⟨groups, reply⟩] r ∧ Yields Tallies reply r :=
  yields_reading (fun _ _ h => foldlM_addCount_eq_ok_iff_tallies.1 h)
    (fun _ c h => ⟨c, foldlM_addCount_eq_ok_iff_tallies.2 h⟩)
    (fun reply => .foldlM failsOnly_addCount {} reply.rows) reply

/-! ### Both ways -/

/-- Adding a record takes one statement, with the values of the record as its parameters. -/
theorem asks_insert {h : List (TaskLedger.Exchange session)} {q : Request} :
    (insert r).Asks h q ↔ h = [] ∧
      q = .statement (.insert Column.all) ((TaskRow.ofRecord r).values Column.all) := by
  refine Dialogue.asks_ask.trans (or_iff_left ?_)
  rintro ⟨reply, h', -, hlater⟩
  rcases reply with fault | reply <;> exact Dialogue.not_asks_done _ hlater

/-- The values of some columns under the names of the columns are the row. -/
theorem zip_values (t : TaskRow) (columns : List Column) :
    (columns.map Column.name).zip (t.values columns) = t.toRow columns :=
  List.zip_map' ..

/-- **What is written of a record is read as it, and rows that are not those of records are corrupt.**

The one statement that adds a record binds values that, returned under the names of the columns, are
read as the record, if its handle is not blank.  A typed row is read exactly if it is sound, and is
corrupt otherwise; what is read is written as the same row, but for the case of the letters of the
stage.  A row of any kind is read as the record whose row it is, or is corrupt.  Whatever the server
replies to the question for a record, for the open records or for the counts, the answer is made from
rows of records, or from rows that say how many there are at a stage, and from all of those that it is
asked about: the counts are the sums of what all rows say.  If one of the rows is none of these, the
whole is corrupt. -/
theorem rows_are_records :
    (∀ r : Record, (∀ handle, r.handle = some handle → Text.isBlankText handle.text = false) →
      ∃ params,
        (∀ h q, (insert r).Asks h q ↔ h = [] ∧ q = .statement (.insert Column.all) params) ∧
        readRecord ((Column.all.map Column.name).zip params) = .ok r) ∧
    (∀ row : TaskRow,
      ((∃ r, readRecord (row.toRow Column.all) = .ok r) ↔ row.IsSound) ∧
      (¬ row.IsSound → ∃ detail, readRecord (row.toRow Column.all) = .error (.corrupt detail)) ∧
      ∀ r, readRecord (row.toRow Column.all) = .ok r →
        TaskRow.ofRecord r = { row with status := r.status.name } ∧
          Text.sameLetters r.status.name row.status = true) ∧
    (∀ row : Row, (∀ r, readRecord row = .ok r ↔ Bears row r) ∧
      ((∀ r, ¬ Bears row r) → ∃ detail, readRecord row = .error (.corrupt detail))) ∧
    (∀ id reply, ∃ r, (get id).Ends [⟨rowOf id, reply⟩] r ∧ Yields Found reply r) ∧
    (∀ reply, ∃ r, listOpen.Ends [⟨openRows, reply⟩] r ∧ Yields (List.Forall₂ Bears) reply r) ∧
    ∀ reply, ∃ r, counts.Ends [⟨groups, reply⟩] r ∧ Yields Tallies reply r := by
  have htyped : ∀ row : TaskRow,
      (∃ r, readRecord (row.toRow Column.all) = .ok r) ↔ row.IsSound := fun row => by
    rw [readRecord_toRow_eq]
    exact TaskRow.exists_toRecord_iff
  refine ⟨fun r hhandle => ⟨_, fun h q => asks_insert, ?_⟩,
    fun row => ⟨htyped row, fun hrow => ?_, fun r hread => ?_⟩,
    fun row => ⟨fun r => readRecord_eq_ok_iff, fun hnone => ?_⟩, yields_get, yields_listOpen,
    yields_counts⟩
  · rw [zip_values]
    exact readRecord_eq_ok_iff.2 (bears_toRow hhandle)
  · exact exists_corrupt fun r hread => hrow ((htyped row).1 ⟨r, hread⟩)
  · rw [readRecord_toRow_eq] at hread
    obtain ⟨-, hstatus, hrow⟩ := TaskRow.toRecord_eq_ok_iff.1 hread
    exact ⟨hrow, hstatus⟩
  · exact exists_corrupt fun r hread => hnone r (readRecord_eq_ok_iff.1 hread)

end TaskLedger.Sql
