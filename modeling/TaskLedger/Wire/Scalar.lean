import TaskLedger.Json.Composite
import TaskLedger.Remote.State
import TaskLedger.Task.Error
import TaskLedger.Time.Rfc3339
import TaskLedger.Verdict.Basic

/-!
**Single values as JSON.**

Identifiers, handles and instants are texts, enumerations are written by their names, and a span is
an object of seconds and nanoseconds.

Main definitions:

* `TaskLedger.Instant.toJson`, `TaskLedger.Instant.ofJson?` and their namesakes.

Main results:

* `TaskLedger.Status.ofJson?_toJson` and its namesakes — enumerations are read back.
-/

set_option autoImplicit false

namespace TaskLedger

open Json

/-- An instant as a text. -/
def Instant.toJson (t : Instant) : Json := .text t.toText

/-- Reads an instant. -/
def Instant.ofJson? (j : Json) : Option Instant := do Instant.read? (← textOf? j)

/-- An identifier as a text. -/
def TaskId.toJson (id : TaskId) : Json := .text id.toText

/-- Reads an identifier in any of its written forms. -/
def TaskId.ofJson? (j : Json) : Option TaskId := do (TaskId.parse (← textOf? j)).toOption

/-- A handle as a text. -/
def Handle.toJson (handle : Handle) : Json := .text handle.text

/-- Reads a handle, which may be blank here. -/
def Handle.ofJson? (j : Json) : Option Handle := (textOf? j).map Handle.mk

/-- A span as an object. -/
def Span.toJson (d : Span) : Json :=
  .ofMembers [("secs", .nat d.seconds.toNat), ("nanos", .nat d.nanos)]

/-- Reads a span from its two parts, besides which there may be nothing else. -/
def Span.ofJson? (j : Json) : Option Span := do
  let parts ← Composite.of? 2 j
  match parts with
  | .named members =>
      if members.all fun m => m.1 = "secs" || m.1 = "nanos" then
        Span.ofParts? (← parts.required 0 "secs" (naturalOf? UInt64.size))
          (← parts.required 1 "nanos" (naturalOf? UInt32.size))
      else none
  | .placed _ =>
      Span.ofParts? (← parts.required 0 "secs" (naturalOf? UInt64.size))
        (← parts.required 1 "nanos" (naturalOf? UInt32.size))

/-! ### Enumerations -/

/-- A stage by its name. -/
def Status.toJson (s : Status) : Json := .text s.name

/-- Reads a stage. -/
def Status.ofJson? (j : Json) : Option Status := nameOf? Status.named? j

/-- A state of a job by its name. -/
def RemoteState.toJson (s : RemoteState) : Json := .text s.name

/-- Reads a state of a job. -/
def RemoteState.ofJson? (j : Json) : Option RemoteState := nameOf? RemoteState.named? j

/-- A kind of failure by its name. -/
def FailureKind.toJson (k : FailureKind) : Json := .text k.name

/-- Reads a kind of failure. -/
def FailureKind.ofJson? (j : Json) : Option FailureKind := nameOf? FailureKind.named? j

/-- A reason by its name. -/
def LeaveReason.toJson (r : LeaveReason) : Json := .text r.name

/-- Reads a reason. -/
def LeaveReason.ofJson? (j : Json) : Option LeaveReason := nameOf? LeaveReason.named? j

@[simp] theorem Status.ofJson?_toJson (s : Status) : Status.ofJson? s.toJson = some s := by
  simp [Status.toJson, Status.ofJson?, nameOf?]

@[simp] theorem RemoteState.ofJson?_toJson (s : RemoteState) :
    RemoteState.ofJson? s.toJson = some s := by
  simp [RemoteState.toJson, RemoteState.ofJson?, nameOf?]

@[simp] theorem FailureKind.ofJson?_toJson (k : FailureKind) :
    FailureKind.ofJson? k.toJson = some k := by
  simp [FailureKind.toJson, FailureKind.ofJson?, nameOf?]

@[simp] theorem LeaveReason.ofJson?_toJson (r : LeaveReason) :
    LeaveReason.ofJson? r.toJson = some r := by
  simp [LeaveReason.toJson, LeaveReason.ofJson?, nameOf?]

@[simp] theorem Handle.ofJson?_toJson (handle : Handle) :
    Handle.ofJson? handle.toJson = some handle := rfl

end TaskLedger
