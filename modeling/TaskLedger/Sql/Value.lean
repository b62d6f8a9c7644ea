import TaskLedger.Json.Basic
import TaskLedger.Text.Uuid
import TaskLedger.Time.Instant

/-!
**Values of a database.**

Main definitions:

* `TaskLedger.Sql.Value` — values of parameters and columns;
* `TaskLedger.Sql.micros` — an instant as a database counts it;
* `TaskLedger.Sql.Row` — a row as it is received;
* `TaskLedger.Sql.RowFault` — why a row cannot be read, and the readers of its columns.
-/

set_option autoImplicit false

namespace TaskLedger.Sql

/-- A value of a parameter or a column. -/
inductive Value where
  | null
  | uuid (u : Uuid)
  | text (s : String)
  | texts (items : List String)
  | moment (t : Instant)
  | json (j : Json)
  | number (n : Int)
  deriving DecidableEq

/-- The first second of the year 2000. -/
def momentOrigin : Int := Calendar.yearStart 2000 * 86400

/-- An instant as a database counts it: in microseconds since the beginning of the year 2000, where
parts of a microsecond are dropped toward zero. -/
def micros (t : Instant) : Int := Int.tdiv (t.ticks - momentOrigin * 1000000000) 1000

/-- A value, or null. -/
def Value.ofOption {α : Type} (value : α → Value) : Option α → Value
  | some a => value a
  | none => .null

/-- A row as it is received: the values of some columns, by their names. -/
abbrev Row := List (String × Value)

/-- Why a row cannot be read. -/
inductive RowFault where
  | noColumn (name : String)
  | unexpectedNull (name : String)
  | otherType (name : String)
  deriving DecidableEq, Repr

/-- The wording of a fault. -/
def RowFault.message : RowFault → String
  | .noColumn name => s!"no column found for name: {name}"
  | .unexpectedNull name =>
      s!"error occurred while decoding column \"{name}\": unexpected null; " ++
        "try decoding as an \x60Option\x60"
  | .otherType name => s!"error occurred while decoding column \"{name}\": mismatched types"

/-- The value of a column. -/
def Row.cell (row : Row) (name : String) : Except RowFault Value :=
  match row.find? (·.1 = name) with
  | some (_, value) => .ok value
  | none => .error (.noColumn name)

/-- Reads a column that may not be null. -/
def Row.required {α : Type} (row : Row) (name : String) (read : Value → Option α) :
    Except RowFault α := do
  match ← row.cell name with
  | .null => .error (.unexpectedNull name)
  | value =>
      match read value with
      | some a => .ok a
      | none => .error (.otherType name)

/-- Reads a column that may be null. -/
def Row.optional {α : Type} (row : Row) (name : String) (read : Value → Option α) :
    Except RowFault (Option α) := do
  match ← row.cell name with
  | .null => .ok none
  | value =>
      match read value with
      | some a => .ok (some a)
      | none => .error (.otherType name)

/-- A UUID. -/
def Value.uuid? : Value → Option Uuid
  | .uuid u => some u
  | _ => none

/-- A text. -/
def Value.text? : Value → Option String
  | .text s => some s
  | _ => none

/-- A list of texts. -/
def Value.texts? : Value → Option (List String)
  | .texts items => some items
  | _ => none

/-- An instant. -/
def Value.moment? : Value → Option Instant
  | .moment t => some t
  | _ => none

/-- A JSON value. -/
def Value.json? : Value → Option Json
  | .json j => some j
  | _ => none

/-- A number. -/
def Value.number? : Value → Option Int
  | .number n => some n
  | _ => none

end TaskLedger.Sql
