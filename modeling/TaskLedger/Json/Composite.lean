import TaskLedger.Json.Basic

/-!
**Composite values.**

A value of several named parts is written as an object.  It is read from an object, whose other
members are ignored, or from the list of its parts in their fixed order.  A part that may be absent
is absent when its member is missing or null; in a list every part has its place, and only parts
with a default may be missing from the end.

Main definitions:

* `TaskLedger.Json.Composite` — a value seen as named or placed parts;
* `TaskLedger.Json.Composite.required`, `TaskLedger.Json.Composite.optional`,
  `TaskLedger.Json.Composite.defaulted` — reading one part;
* `TaskLedger.Json.textOf?` and its neighbours — reading the simplest parts.
-/

set_option autoImplicit false

namespace TaskLedger.Json

/-- A value seen as its parts. -/
inductive Composite where
  | named (members : List (String × Json))
  | placed (items : List Json)

namespace Composite

/-- The parts of a value that has at most `count` of them. -/
def of? (count : Nat) : Json → Option Composite
  | .object members => some (.named members)
  | .list items => if items.length ≤ count then some (.placed items) else none
  | _ => none

/-- The part at a place and under a name. -/
def part? (place : Nat) (name : String) : Composite → Option Json
  | .named members => find? name members
  | .placed items => items[place]?

/-- A part that has to be there. -/
def required {α : Type} (c : Composite) (place : Nat) (name : String)
    (read : Json → Option α) : Option α := do
  read (← c.part? place name)

/-- A part that may be missing from an object, or null. -/
def optional {α : Type} (c : Composite) (place : Nat) (name : String)
    (read : Json → Option α) : Option (Option α) :=
  match c, c.part? place name with
  | _, some .null => some none
  | _, some v => (read v).map some
  | .named _, none => some none
  | .placed _, none => none

/-- A part that takes a default where it is missing. -/
def defaulted {α : Type} (c : Composite) (place : Nat) (name : String) (default : α)
    (read : Json → Option α) : Option α :=
  match c.part? place name with
  | some v => read v
  | none => some default

end Composite

/-! ### Simple parts -/

/-- A text. -/
def textOf? : Json → Option String
  | .text s => some s
  | _ => none

/-- A natural number below a bound. -/
def naturalOf? (bound : Nat) : Json → Option Nat
  | .int n => if 0 ≤ n ∧ n < bound then some n.toNat else none
  | _ => none

/-- A number of 64 bits. -/
def wordOf? (j : Json) : Option UInt64 := (naturalOf? UInt64.size j).map UInt64.ofNat

/-- A list of texts. -/
def textsOf? : Json → Option (List String)
  | .list items => items.mapM textOf?
  | _ => none

/-- A value or null, null meaning none. -/
def nullable {α : Type} (read : Json → Option α) : Json → Option (Option α)
  | .null => some none
  | j => (read j).map some

/-- One of several names: the name itself, or an object whose only member is the name with null. -/
def nameOf? {α : Type} (named : String → Option α) : Json → Option α
  | .text s => named s
  | .object [(s, .null)] => named s
  | _ => none

end TaskLedger.Json
