import TaskLedger.Sql.Value

/-!
**Statements on the table of tasks.**

A statement refers to its parameters by number, so its text holds no data.

Main definitions:

* `TaskLedger.Sql.Column` — the columns of the table;
* `TaskLedger.Sql.Statement` — the statements, and `TaskLedger.Sql.Statement.text`;
* `TaskLedger.Sql.schema` — the script that creates the table.
-/

set_option autoImplicit false

namespace TaskLedger.Sql

/-- A column of the table of tasks. -/
inductive Column where
  | taskId
  | remoteHandle
  | taskType
  | payload
  | status
  | createdAt
  | completedAt
  | logMessages
  | errorMessage
  | technicalDetail
  | result
  deriving DecidableEq, Repr

namespace Column

/-- All columns, in the order of the table. -/
def all : List Column :=
  [taskId, remoteHandle, taskType, payload, status, createdAt, completedAt, logMessages,
    errorMessage, technicalDetail, result]

/-- The name of a column. -/
def name : Column → String
  | taskId => "task_id"
  | remoteHandle => "remote_handle"
  | taskType => "task_type"
  | payload => "payload"
  | status => "status"
  | createdAt => "created_at"
  | completedAt => "completed_at"
  | logMessages => "log_messages"
  | errorMessage => "error_message"
  | technicalDetail => "technical_detail"
  | result => "result"

theorem mem_all (c : Column) : c ∈ all := by cases c <;> decide

end Column

/-- What a column is set to: a parameter, a parameter unless it is null, or the list in the column
with one more text or with more texts. -/
inductive Term where
  | param (n : Nat)
  | coalesce (n : Nat) (c : Column)
  | appended (c : Column) (n : Nat)
  | extended (c : Column) (n : Nat)
  deriving DecidableEq, Repr

/-- A condition on a row. -/
inductive Test where
  | equals (c : Column) (n : Nat)
  | isNull (c : Column)
  | isNotNull (c : Column)
  | among (c : Column) (n : Nat)
  deriving DecidableEq, Repr

/-- A statement.  The values inserted are the parameters in their order. -/
inductive Statement where
  | insert (columns : List Column)
  | select (columns : List Column) (tests : List Test) (order : List Column)
  | update (assignments : List (Column × Term)) (tests : List Test)
  | countBy (c : Column)
  deriving DecidableEq, Repr

/-- The names of the columns of the rows that a statement finds. -/
def Statement.found : Statement → List String
  | .select columns _ _ => columns.map Column.name
  | .countBy c => [c.name, "n"]
  | .insert _ | .update _ _ => []

/-- The text of a term. -/
def Term.text : Term → String
  | .param n => s!"${n}"
  | .coalesce n c => s!"COALESCE(${n}, {c.name})"
  | .appended c n => s!"array_append({c.name}, ${n})"
  | .extended c n => s!"{c.name} || ${n}::text[]"

/-- The text of a condition. -/
def Test.text : Test → String
  | .equals c n => s!"{c.name} = ${n}"
  | .isNull c => s!"{c.name} IS NULL"
  | .isNotNull c => s!"{c.name} IS NOT NULL"
  | .among c n => s!"{c.name} = ANY(${n})"

/-- Texts with commas between them. -/
def listed (items : List String) : String := ", ".intercalate items

/-- The text of the conditions of a statement. -/
def whereText (tests : List Test) : String :=
  " WHERE " ++ " AND ".intercalate (tests.map Test.text)

/-- The text of a statement. -/
def Statement.text : Statement → String
  | .insert columns =>
      s!"INSERT INTO tasks ( {listed (columns.map Column.name)} ) VALUES (" ++
        listed ((List.range columns.length).map fun n => s!"${n + 1}") ++ ")"
  | .select columns tests order =>
      s!"SELECT {listed (columns.map Column.name)} FROM tasks" ++ whereText tests ++
        match order with
        | [] => ""
        | order => " ORDER BY " ++ listed (order.map fun c => c.name ++ " ASC")
  | .update assignments tests =>
      "UPDATE tasks SET " ++ listed (assignments.map fun a => s!"{a.1.name} = {a.2.text}") ++
        whereText tests
  | .countBy c => s!"SELECT {c.name}, COUNT(*) AS n FROM tasks GROUP BY {c.name}"

/-- The script that creates the table and its index, line by line. -/
def schema : List String := [
  "-- Task lifecycle records.",
  "",
  "CREATE TABLE IF NOT EXISTS tasks (",
  "    task_id          UUID PRIMARY KEY,",
  "    remote_handle    TEXT,",
  "    task_type        TEXT NOT NULL CHECK (length(trim(task_type)) > 0),",
  "    payload          JSONB NOT NULL DEFAULT 'null'::jsonb,",
  "    status           TEXT NOT NULL",
  "                     CHECK (status IN ('pending', 'running', 'completed', 'failed', 'cancelled')),",
  "    created_at       TIMESTAMPTZ NOT NULL,",
  "    completed_at     TIMESTAMPTZ,",
  "    log_messages     TEXT[] NOT NULL DEFAULT '\x7b\x7d',",
  "    error_message    TEXT,",
  "    technical_detail TEXT,",
  "    result           JSONB,",
  "",
  "    CONSTRAINT tasks_completed_at_iff_terminal CHECK (",
  "        (completed_at IS NOT NULL) = (status IN ('completed', 'failed', 'cancelled'))",
  "    ),",
  "    CONSTRAINT tasks_running_has_handle CHECK (",
  "        status <> 'running' OR remote_handle IS NOT NULL",
  "    )",
  ");",
  "",
  "-- The sweeper only ever scans non-terminal rows.",
  "CREATE INDEX IF NOT EXISTS tasks_non_terminal_idx",
  "    ON tasks (created_at)",
  "    WHERE status IN ('pending', 'running');"]

end TaskLedger.Sql
