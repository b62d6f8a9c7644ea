import TaskLedger.Http.MediaType
import TaskLedger.Http.Segment
import TaskLedger.Http.Submission
import TaskLedger.Http.View
import TaskLedger.Service.Cancel
import TaskLedger.Service.Lookup
import TaskLedger.Wire.Answer

/-!
**The service over HTTP.**

| path          | methods           | operation               |
|---------------|-------------------|-------------------------|
| `/health`     | GET, HEAD         | none                    |
| `/tasks`      | POST              | submitting a task       |
| `/tasks/stats`| GET, HEAD         | counting the records    |
| `/tasks/{id}` | GET, HEAD, DELETE | looking up, cancelling  |

Users learn that something failed inside the service, but not what.

Main definitions:

* `TaskLedger.Http.Request`, `TaskLedger.Http.Response`;
* `TaskLedger.Http.Route` — the paths, and `TaskLedger.Http.Route.ofTarget?`;
* `TaskLedger.Http.faultResponse` — what users learn of a fault;
* `TaskLedger.Http.handle` — the operation of a request.
-/

set_option autoImplicit false

namespace TaskLedger.Http

open Service

/-- A request, with the form of its body if one is stated. -/
structure Request where
  method : String
  target : String
  contentType : Option String := none
  body : String := ""

/-- A response: a status, a JSON body if there is one, and the methods of the path when the request
used another. -/
structure Response where
  status : Nat
  body : Option Json := none
  allow : Option String := none
  deriving DecidableEq

/-- The response with an object that names an error. -/
def errorResponse (status : Nat) (code message : String) : Response :=
  { status, body := some (.ofMembers [("error", .text code), ("message", .text message)]) }

/-- The response for a task of which there is no record. -/
def notFound (id : TaskId) : Response :=
  errorResponse 404 "not_found" s!"task {id.toText} not found"

/-- What users learn of a fault. -/
def faultResponse : Service.Fault → Response
  | .notFound id => notFound id
  | .invalid error => errorResponse 400 "validation_error" error.message
  | .store _ => errorResponse 500 "store_error" "task storage unavailable"
  | .dispatch _ =>
      errorResponse 503 "dispatch_error" "task could not be queued; please try again"

/-! ### Routes -/

/-- A path that the service knows.  The identifier of a task is the segment as it was sent. -/
inductive Route where
  | health
  | tasks
  | stats
  | task (segment : List Char)
  deriving DecidableEq

/-- The route of a request target. -/
def Route.ofTarget? (target : String) : Option Route :=
  match (segments (pathOf target.toList)).map String.ofList with
  | ["", "health"] => some .health
  | ["", "tasks"] => some .tasks
  | ["", "tasks", "stats"] => some .stats
  | ["", "tasks", segment] => if segment = "" then none else some (.task segment.toList)
  | _ => none

/-- The methods of a route, as they are told to whoever used another. -/
def Route.methods : Route → String
  | .health | .stats => "GET,HEAD"
  | .tasks => "POST"
  | .task _ => "GET,HEAD,DELETE"

/-! ### Operations -/

/-- The most bytes that the body of a request may have. -/
def bodyCap : Nat := 2097152

/-- Submits the task that a request describes. -/
def submitTask (r : Request) : Action Response :=
  if (r.contentType.map isJsonType).getD false = false then return { status := 415 }
  else if bodyCap < r.body.utf8ByteSize then return { status := 413 }
  else match Submission.read r.body with
    | .error .notJson => return { status := 400 }
    | .error .otherShape => return { status := 422 }
    | .ok s => do
        match ← submit s.taskType s.payload with
        | .ok id => return { status := 202, body := some (.ofMembers [("task_id", id.toJson)]) }
        | .error fault => return faultResponse fault

/-- Tells how many records there are at each stage. -/
def showStats : Action Response := do
  match ← tally with
  | .ok c => return { status := 200, body := some c.toJson }
  | .error fault => return faultResponse fault

/-- Shows a task. -/
def showTask (limit : TimeLimit) (id : TaskId) : Action Response := do
  match ← lookup limit id with
  | .ok (some record) => return { status := 200, body := some record.view.toJson }
  | .ok none => return notFound id
  | .error fault => return faultResponse fault

/-- Cancels a task. -/
def cancelTask (id : TaskId) : Action Response := do
  match ← cancel id with
  | .ok cancellation => return { status := 200, body := some cancellation.toJson }
  | .error fault => return faultResponse fault

/-- An operation on the task that a segment names. -/
def withTask (segment : List Char) (operation : TaskId → Action Response) : Action Response :=
  match decode? segment with
  | none => return { status := 400 }
  | some text =>
      match TaskId.parse text with
      | .error error => return errorResponse 400 "invalid_id" error.message
      | .ok id => operation id

/-- The operation of a method on a route, if the route has the method.  HEAD is GET here. -/
def operation? (limit : TimeLimit) (r : Request) (route : Route) : Option (Action Response) :=
  let reads := r.method = "GET" ∨ r.method = "HEAD"
  match route with
  | .health => if reads then some (return { status := 200 }) else none
  | .tasks => if r.method = "POST" then some (submitTask r) else none
  | .stats => if reads then some showStats else none
  | .task segment =>
      if reads then some (withTask segment (showTask limit))
      else if r.method = "DELETE" then some (withTask segment cancelTask)
      else none

/-- The operation of a request.  The answer to HEAD is that to GET without its body. -/
def handle (limit : TimeLimit) (r : Request) : Action Response :=
  match Route.ofTarget? r.target with
  | none => return { status := 404 }
  | some route =>
      match operation? limit r route with
      | none => return { status := 405, allow := some route.methods }
      | some operation => do
          let response ← operation
          return if r.method = "HEAD" then { response with body := none } else response

end TaskLedger.Http
