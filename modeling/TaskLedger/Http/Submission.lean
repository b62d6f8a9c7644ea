import TaskLedger.Json.Composite
import TaskLedger.Json.Embedded

/-!
**Submissions.**

A submission names the type of a task and gives its payload.  It is read from a text piece by piece,
and the first thing wrong with the text decides the answer: either the text is no JSON, or it is JSON
of another shape.  What follows the submission is not looked at.

Main definitions:

* `TaskLedger.Submission` — submissions, and `TaskLedger.Submission.ofJson?` for a whole value;
* `TaskLedger.Submission.read` — reading a submission from a text.
-/

set_option autoImplicit false

namespace TaskLedger

open Json Json.Reader

/-- A task to be submitted. -/
structure Submission where
  taskType : String
  payload : Json := .null
  deriving DecidableEq

namespace Submission

/-- A submission as an object. -/
def toJson (s : Submission) : Json :=
  .ofMembers [("task_type", .text s.taskType), ("payload", s.payload)]

/-- Reads a submission from a value. -/
def ofJson? (j : Json) : Option Submission := do
  let parts ← Composite.of? 2 j
  return {
    taskType := ← parts.required 0 "task_type" textOf?
    payload := ← parts.defaulted 1 "payload" .null resolve? }

/-- A payload and what follows it.  It stands one level below the submission. -/
def readPayload (cs : List Char) : Except Refusal (Json × List Char) :=
  value .keep (cs.length + 1) (maxDepth - 1) cs

/-- The parts of a submission found so far. -/
structure Found where
  taskType : Option String := none
  payload : Option Json := none

/-- The submission of all its parts. -/
def Found.finish (f : Found) : Except Refusal Submission :=
  match f.taskType with
  | some taskType => .ok { taskType, payload := f.payload.getD .null }
  | none => .error .otherShape

/-- One member of an object, of which the key was read, but not its colon; a key may not occur twice,
whatever follows it, and members of other keys are skipped. -/
def readMember (key : String) (f : Found) (cs : List Char) : Except Refusal (Found × List Char) :=
  if key = "task_type" then
    if f.taskType.isSome then .error .otherShape
    else do
      let (taskType, rest) ← textValue (← after ':' cs)
      return ({ f with taskType := some (.ofList taskType) }, rest)
  else if key = "payload" then
    if f.payload.isSome then .error .otherShape
    else do
      let (payload, rest) ← readPayload (← after ':' cs)
      return ({ f with payload }, rest)
  else do
    let (_, rest) ← value .skip (cs.length + 1) maxDepth (← after ':' cs)
    return (f, rest)

/-- The members of an object up to its end.  `fuel` is at least the number of characters. -/
def readMembers : (fuel : Nat) → Found → List Char → Except Refusal Submission
  | 0, _, _ => .error .notJson
  | fuel + 1, f, cs => do
      let (name, rest) ← keyText .keep cs
      let (f, rest) ← readMember name f rest
      match skipBlanks rest with
      | ',' :: rest => readMembers fuel f rest
      | '}' :: _ => f.finish
      | _ => .error .notJson

/-- The items of a list up to its end: the type and, if it goes on, the payload. -/
def readItems (cs : List Char) : Except Refusal Submission :=
  match skipBlanks cs with
  | ']' :: _ => .error .otherShape
  | cs => do
      let (taskType, rest) ← textValue cs
      match skipBlanks rest with
      | ']' :: _ => return { taskType := .ofList taskType }
      | ',' :: rest => do
          let (payload, rest) ← readPayload rest
          let _ ← after ']' rest
          return { taskType := .ofList taskType, payload }
      | _ => .error .notJson

/-- Reads a submission from a text. -/
def read (s : String) : Except Refusal Submission :=
  match skipBlanks s.toList with
  | '{' :: cs =>
      match skipBlanks cs with
      | '}' :: _ => .error .otherShape
      | cs => readMembers (cs.length + 1) {} cs
  | '[' :: cs => readItems cs
  | cs => .error (refusalAt cs)

end Submission

end TaskLedger
