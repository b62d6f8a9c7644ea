import TaskLedger.Dialogue
import TaskLedger.Sql.Statement
import TaskLedger.Store.Query

/-!
**Sessions with a database.**

Main definitions:

* `TaskLedger.Sql.ClientFault` — why the database gave no reply, and its meaning as a fault of the
  store;
* `TaskLedger.Sql.Request`, `TaskLedger.Sql.Reply`, `TaskLedger.Sql.session` — what is asked of a
  database, and what it replies.
-/

set_option autoImplicit false

namespace TaskLedger.Sql

/-- Why there was no reply: the database refused, with a code, or there is no connection. -/
inductive ClientFault where
  | database (code : String) (message : String)
  | closed
  | communication (reason : String)
  deriving DecidableEq, Repr

/-- The code of a refusal because a key is taken. -/
def uniqueViolation : String := "23505"

/-- The code of a refusal because of a check. -/
def checkViolation : String := "23514"

/-- Whether a database refused because a key is taken. -/
def ClientFault.isTakenKey : ClientFault → Bool
  | .database code _ => code = uniqueViolation
  | .closed | .communication _ => false

/-- A failed operation as a fault of the store. -/
def ClientFault.toFault (operation : String) : ClientFault → Store.Fault
  | .database code message =>
      .storage (s!"database error in {operation}: {message}" ++
        if code = checkViolation then " (check constraint)" else "")
  | .closed => .storage s!"connection pool closed in {operation}"
  | .communication reason =>
      .storage s!"sqlx error in {operation}: error communicating with database: {reason}"

/-- What is asked of a database: a connection, the execution of a script, or that of a statement with
its parameters. -/
inductive Request where
  | connect
  | script (lines : List String)
  | statement (statement : Statement) (params : List Value)

/-- What a database replies: how many rows were changed, and the rows that were found. -/
structure Reply where
  affected : Nat := 0
  rows : List Row := []

/-- The requests with their replies. -/
def session : Interface where
  Question := Request
  Answer _ := Except ClientFault Reply

/-- A part of a session. -/
abbrev Exchange := Dialogue session

/-- Makes a request. -/
def request (r : Request) : Exchange (Except ClientFault Reply) := Dialogue.request (I := session) r

/-- Makes a request in the course of an operation. -/
def ask (operation : String) (r : Request) : Exchange (Except Store.Fault Reply) := do
  return (← request r).mapError (·.toFault operation)

end TaskLedger.Sql
