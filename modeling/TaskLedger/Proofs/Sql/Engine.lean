import Mathlib.Data.List.Dedup
import TaskLedger.Sql.Session

/-!
**What a database makes of statements.**

The database is not part of this library and stands here as a parameter.  What a statement does to
the rows of the table is fixed by its text and by the schema, and is written out below, statement by
statement, on the table as a list of rows.  Three things are left open: what becomes of a value that
no column can hold as it is, in what order rows are come upon where the statement asks for none, and
how a refusal is worded.

A statement is executed as a whole: it is refused and leaves all rows as they were, or it does what
it says to every row that meets its conditions.

Main definitions:

* `TaskLedger.Sql.Cells` — a row of the table;
* `TaskLedger.Sql.Test.holds`, `TaskLedger.Sql.Term.eval` — conditions and assigned values;
* `TaskLedger.Sql.checks`, `TaskLedger.Sql.refusal?` — the conditions of the schema;
* `TaskLedger.Sql.Statement.execute` — what a statement does to the rows of the table;
* `TaskLedger.Sql.Value.isStorable` — the values that are held as they are;
* `TaskLedger.Sql.Engine`, `TaskLedger.Sql.Database` — what is left to the database, and its state;
* `TaskLedger.Sql.Engine.answer` — its replies to all requests.
-/

set_option autoImplicit false

namespace TaskLedger.Sql

/-- A row of the table: the value in each column. -/
abbrev Cells := Column → Value

/-! ### Conditions and assignments -/

/-- The value of a parameter; the first has the number 1. -/
def parameter (params : List Value) (n : Nat) : Value := params.getD (n - 1) .null

/-- Whether a row meets a condition.  Null equals nothing and is among nothing. -/
def Test.holds (params : List Value) (row : Cells) : Test → Bool
  | .equals c n => row c ≠ .null && row c = parameter params n
  | .isNull c => row c = .null
  | .isNotNull c => row c ≠ .null
  | .among c n =>
      match row c, parameter params n with
      | .text s, .texts items => items.contains s
      | _, _ => false

/-- The value that a column is set to.  A list that is null counts as empty. -/
def Term.eval (params : List Value) (row : Cells) : Term → Value
  | .param n => parameter params n
  | .coalesce n c => if parameter params n = .null then row c else parameter params n
  | .appended c n =>
      match row c, parameter params n with
      | .texts items, .text s => .texts (items ++ [s])
      | .null, .text s => .texts [s]
      | _, _ => .null
  | .extended c n =>
      match row c, parameter params n with
      | .texts items, .texts more => .texts (items ++ more)
      | .texts items, .null => .texts items
      | .null, .texts more => .texts more
      | _, _ => .null

/-- A row after some assignments, all of which see the row as it was. -/
def assigned (assignments : List (Column × Term)) (params : List Value) (row : Cells) : Cells :=
  fun c =>
    match assignments.find? (·.1 = c) with
    | some (_, term) => term.eval params row
    | none => row c

/-- Whether a row meets all of some conditions. -/
def chosen (tests : List Test) (params : List Value) (row : Cells) : Bool :=
  tests.all (·.holds params row)

/-- What the schema puts in a column that an insertion says nothing of. -/
def Column.initial : Column → Value
  | .payload => .json .null
  | .logMessages => .texts []
  | _ => .null

/-- The row of an insertion. -/
def inserted (columns : List Column) (params : List Value) : Cells := fun c =>
  match (columns.zip params).find? (·.1 = c) with
  | some (_, value) => value
  | none => c.initial

/-! ### The conditions of the schema -/

/-- Whether the schema forbids null in a column. -/
def Column.isRequired : Column → Bool
  | .taskId | .taskType | .payload | .status | .createdAt | .logMessages => true
  | .remoteHandle | .completedAt | .errorMessage | .technicalDetail | .result => false

/-- The code of a refusal because of a null. -/
def nullViolation : String := "23502"

/-- The four checks of the schema: a type that is not made of spaces only, one of the five stages, a
time of completion exactly at the last three of them, and a handle when running. -/
def checks (row : Cells) : List Bool := [
  match row .taskType with
  | .text s => s.toList.any (· ≠ ' ')
  | _ => true,
  ["pending", "running", "completed", "failed", "cancelled"].any (row .status = .text ·),
  (row .completedAt ≠ .null) == ["completed", "failed", "cancelled"].any (row .status = .text ·),
  row .status ≠ .text "running" || row .remoteHandle ≠ .null]

/-- The code with which a row is refused for what it holds. -/
def violation? (row : Cells) : Option String :=
  if Column.all.any fun c => c.isRequired && row c = .null then some nullViolation
  else if (checks row).all id then none
  else some checkViolation

/-- The code with which a statement is refused that writes some rows and would leave others beside
them.  The key is looked at when all the rows are found good. -/
def refusal? (written rows : List Cells) : Option String :=
  (written.findSome? violation?).or
    (if (rows.map (· .taskId)).Nodup then none else some uniqueViolation)

/-! ### Statements -/

/-- The end of a statement that writes some rows: it is refused, or these are the rows it leaves. -/
def settle (written rows : List Cells) : Except String (Reply × List Cells) :=
  match refusal? written rows with
  | some code => .error code
  | none => .ok ({ affected := written.length }, rows)

/-- Whether a value comes before another.  Nothing is sorted by values of other types. -/
def Value.precedes : Value → Value → Bool
  | .uuid a, .uuid b => a.precedes b
  | .moment a, .moment b => a.precedes b
  | _, _ => false

/-- Whether a row may stand before another when rows are sorted by some columns. -/
def sortedBy : List Column → Cells → Cells → Bool
  | [], _, _ => true
  | c :: columns, a, b =>
      (a c).precedes (b c) || (!(b c).precedes (a c) && sortedBy columns a b)

/-- What a statement does to the rows of the table, when `arrange` puts rows in the order in which
they are come upon: the code of a refusal, or the reply and the rows after it. -/
def Statement.execute (arrange : List Cells → List Cells) (params : List Value)
    (rows : List Cells) : Statement → Except String (Reply × List Cells)
  | .insert columns => settle [inserted columns params] (rows ++ [inserted columns params])
  | .update assignments tests =>
      settle ((rows.filter (chosen tests params)).map (assigned assignments params))
        (rows.map fun row => if chosen tests params row then assigned assignments params row else row)
  | .select columns tests order =>
      let found := (arrange (rows.filter (chosen tests params))).mergeSort (sortedBy order)
      .ok ({ rows := found.map fun row => columns.map fun c => (c.name, row c) }, rows)
  | .countBy c =>
      let found := arrange rows
      .ok ({ rows := (found.map (· c)).dedup.map fun value =>
        [(c.name, value), ("n", .number (found.countP (· c = value)))] }, rows)

/-! ### Databases -/

/-- Whether a text is free of the character that no column can hold. -/
def isPlainText (s : String) : Bool := s.toList.all (· ≠ '\x00')

/-- Whether a column holds a value as it is: instants are held in whole microseconds and without leap
seconds, texts without the null character. -/
def Value.isStorable : Value → Bool
  | .text s => isPlainText s
  | .texts items => items.all isPlainText
  | .moment t => !t.isLeap && t.nanos % 1000 = 0
  | .null | .uuid _ | .json _ | .number _ => true

/-- What is left to a database. -/
structure Engine where
  /-- A value as a column holds it, or the code with which it is refused. -/
  hold : Value → Except String Value
  hold_of_isStorable : ∀ value, value.isStorable = true → hold value = .ok value
  /-- The order in which rows are come upon, which may differ from one statement to the next. -/
  arrange : Nat → List Cells → List Cells
  arrange_perm : ∀ n rows, (arrange n rows).Perm rows
  /-- The wording of a refusal with a code. -/
  wording : String → String

/-- The state of a database: the rows of the table, the number of statements so far, and the codes of
those that were refused. -/
structure Database where
  rows : List Cells
  executed : Nat
  refusals : List String

/-- A database with the table that the schema creates. -/
def Database.empty : Database := ⟨[], 0, []⟩

/-- The execution of a statement with its parameters. -/
def Engine.execute (e : Engine) (db : Database) (statement : Statement) (params : List Value) :
    Except String (Reply × List Cells) := do
  statement.execute (e.arrange db.executed) (← params.mapM e.hold) db.rows

/-- The replies of a database.  The table is there, and the script leaves it as it is. -/
def Engine.answer (e : Engine) : (r : Request) → Database → session.Answer r × Database
  | .connect, db => (.ok {}, db)
  | .script _, db => (.ok {}, db)
  | .statement statement params, db =>
      match e.execute db statement params with
      | .ok (reply, rows) => (.ok reply, { db with rows, executed := db.executed + 1 })
      | .error code =>
          (.error (.database code (e.wording code)),
            { db with executed := db.executed + 1, refusals := db.refusals ++ [code] })

/-! ### Statements whose parameters are held as they are -/

theorem mapM_eq_ok {α β ε : Type} {f : α → Except ε β} {g : α → β} {l : List α}
    (h : ∀ a ∈ l, f a = .ok (g a)) : l.mapM f = .ok (l.map g) := by
  induction l with
  | nil => rfl
  | cons a l ih =>
      rw [List.mapM_cons, h a (by simp), ih fun b hb => h b (by simp [hb])]
      rfl

theorem Engine.execute_of_isStorable (e : Engine) (db : Database) (statement : Statement)
    {params : List Value} (h : ∀ v ∈ params, v.isStorable = true) :
    e.execute db statement params =
      statement.execute (e.arrange db.executed) params db.rows := by
  have hheld : params.mapM e.hold = .ok params := by
    simpa using mapM_eq_ok (g := id) fun v hv => e.hold_of_isStorable v (h v hv)
  rw [Engine.execute, hheld]
  rfl

/-- The reply to a statement that is not refused. -/
theorem Engine.answer_of_ok (e : Engine) {db : Database} {statement : Statement}
    {params : List Value} {reply : Reply} {rows : List Cells}
    (h : e.execute db statement params = .ok (reply, rows)) :
    e.answer (.statement statement params) db =
      (.ok reply, { db with rows, executed := db.executed + 1 }) := by
  simp only [answer, h]

/-- The reply to a statement that is refused. -/
theorem Engine.answer_of_error (e : Engine) {db : Database} {statement : Statement}
    {params : List Value} {code : String} (h : e.execute db statement params = .error code) :
    e.answer (.statement statement params) db =
      (.error (.database code (e.wording code)),
        { db with executed := db.executed + 1, refusals := db.refusals ++ [code] }) := by
  simp only [answer, h]

end TaskLedger.Sql
