import TaskLedger.Sql.Session
import TaskLedger.Sql.TaskRow

/-!
**A store in a database.**

Each conditional write is one statement that names the stages from which it is allowed, so that of
two writers at the same time only one finds the row as it wants it.  A write that changed no row is
explained by a second statement, which asks for the stage of the row.

Main definitions:

* `TaskLedger.Sql.openStore` — connecting and creating the table;
* `TaskLedger.Sql.finishWhere`, `TaskLedger.Sql.unapplied` — the guarded end of a task, and why a
  write was not applied;
* `TaskLedger.Sql.answer` — the answers to all questions to a store.
-/

set_option autoImplicit false

namespace TaskLedger.Sql

open Store (Query Outcome Counts)

/-- Connects to the database. -/
def connect : Exchange (Except Store.Fault Unit) := do
  return (← ask "connect" .connect).map fun _ => ()

/-- Creates the table if there is none. -/
def migrate : Exchange (Except Store.Fault Unit) := do
  return (← ask "migrate" (.script schema)).map fun _ => ()

/-- Connects to the database and creates the table if there is none. -/
def openStore : Exchange (Except Store.Fault Unit) := do
  match ← connect with
  | .error fault => return .error fault
  | .ok () => migrate

/-- The names of stages as a parameter. -/
def stageNames (stages : List Status) : Value := .texts (stages.map Status.name)

/-! ### Why a write was not applied -/

/-- What the first of the rows with the stage of a record tells of a write that changed no row. -/
def explain : List Row → Except Store.Fault Outcome
  | [] => .ok .notFound
  | row :: _ =>
      match row.required Column.status.name Value.text? with
      | .error fault => .error (.corrupt s!"failed to read status: {fault.message}")
      | .ok s => (readStatus s).map Outcome.rejected

/-- Asks for the stage of a record that a write did not change. -/
def unapplied (id : TaskId) : Exchange (Except Store.Fault Outcome) := do
  match ← ask "current_status"
      (.statement (.select [.status] [.equals .taskId 1] []) [.uuid id.uuid]) with
  | .error fault => return .error fault
  | .ok reply => return explain reply.rows

/-- Makes a conditional write; if it changed no row, finds out why. -/
def write (operation : String) (id : TaskId) (assignments : List (Column × Term))
    (tests : List Test) (params : List Value) : Exchange (Except Store.Fault Outcome) := do
  match ← ask operation (.statement (.update assignments tests) params) with
  | .error fault => return .error fault
  | .ok reply => if 0 < reply.affected then return .ok .applied else unapplied id

/-! ### The writes -/

/-- Adds a record. -/
def insert (r : Record) : Exchange (Except Store.Fault TaskId) := do
  match ← request (.statement (.insert Column.all) ((TaskRow.ofRecord r).values Column.all)) with
  | .ok _ => return .ok r.id
  | .error fault =>
      return .error (if fault.isTakenKey then .alreadyExists r.id else fault.toFault "insert_task")

/-- Records the handle of a task. -/
def setHandle (id : TaskId) (handle : Handle) : Exchange (Except Store.Fault Outcome) :=
  write "set_remote_handle" id [(.remoteHandle, .param 2)]
    [.equals .taskId 1, .isNull .remoteHandle, .among .status 3]
    [.uuid id.uuid, .text handle.text, stageNames Status.openStages]

/-- Marks a task as running. -/
def markRunning (id : TaskId) : Exchange (Except Store.Fault Outcome) :=
  write "mark_running" id [(.status, .param 2)]
    [.equals .taskId 1, .isNotNull .remoteHandle, .among .status 3]
    [.uuid id.uuid, .text Status.running.name, stageNames Status.running.sources]

/-- Adds a line to the log of a task. -/
def appendLog (id : TaskId) (message : String) : Exchange (Except Store.Fault Outcome) :=
  write "append_log" id [(.logMessages, .appended .logMessages 2)]
    [.equals .taskId 1, .among .status 3]
    [.uuid id.uuid, .text message, stageNames Status.openStages]

/-- Ends a task that is at one of some stages.  Nothing is written unless the stage to be reached is
a last one. -/
def finishWhere (id : TaskId) (stages : List Status) (u : FinalUpdate) : Exchange (Except Store.Fault Outcome) :=
  if !u.status.isTerminal || stages.isEmpty then unapplied id
  else
    write "finish_task" id
      [(.status, .param 2), (.completedAt, .param 3), (.errorMessage, .param 4),
        (.technicalDetail, .coalesce 5 .technicalDetail), (.result, .param 6),
        (.logMessages, .extended .logMessages 7)]
      [.equals .taskId 1, .among .status 8]
      [.uuid id.uuid, .text u.status.name, .moment u.endedAt,
        .ofOption .text (if u.status = .failed then u.errorMessage else none),
        .ofOption .text u.technicalDetail,
        .ofOption .json (if u.status = .completed then u.result else none),
        .texts u.logMessage.toList, stageNames stages]

/-- Ends a task that is at a stage from which it may end so. -/
def finish (id : TaskId) (u : FinalUpdate) : Exchange (Except Store.Fault Outcome) :=
  finishWhere id u.status.sources u

/-- Ends a task that is still at a given stage. -/
def finishFrom (id : TaskId) (source : Status) (u : FinalUpdate) : Exchange (Except Store.Fault Outcome) :=
  if source.canBecome u.status then finishWhere id [source] u else unapplied id

/-! ### The reads -/

/-- Looks a record up. -/
def get (id : TaskId) : Exchange (Except Store.Fault (Option Record)) := do
  match ← ask "get_task"
      (.statement (.select Column.all [.equals .taskId 1] []) [.uuid id.uuid]) with
  | .error fault => return .error fault
  | .ok reply =>
      match reply.rows with
      | [] => return .ok none
      | row :: _ => return (readRecord row).map some

/-- Lists the records of tasks that have not ended. -/
def listOpen : Exchange (Except Store.Fault (List Record)) := do
  match ← ask "list_non_terminal"
      (.statement (.select Column.all [.among .status 1] [.createdAt, .taskId])
        [stageNames Status.openStages]) with
  | .error fault => return .error fault
  | .ok reply => return reply.rows.mapM readRecord

/-- Adds a row with a stage and the number of its records to some counts. -/
def addCount (c : Counts) (row : Row) : Except Store.Fault Counts := do
  let name ← (row.required Column.status.name Value.text?).mapError fun fault =>
    .corrupt s!"failed to read status: {fault.message}"
  let n ← (row.required "n" Value.number?).mapError fun fault =>
    .corrupt s!"failed to read count: {fault.message}"
  let status ← readStatus name
  return c.add status n.toNat

/-- Counts the records at each stage. -/
def counts : Exchange (Except Store.Fault Counts) := do
  match ← ask "task_stats" (.statement (.countBy .status) []) with
  | .error fault => return .error fault
  | .ok reply => return reply.rows.foldlM addCount {}

/-! ### Answering -/

/-- The answers of the store. -/
def answer : (q : Query) → Exchange (Store.interface.Answer q)
  | .insert record => insert record
  | .get id => get id
  | .setHandle id handle => setHandle id handle
  | .markRunning id => markRunning id
  | .appendLog id message => appendLog id message
  | .finish id update => finish id update
  | .finishFrom id source update => finishFrom id source update
  | .listOpen => listOpen
  | .counts => counts

end TaskLedger.Sql
