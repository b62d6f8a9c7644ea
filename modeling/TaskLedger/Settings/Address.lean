import TaskLedger.Text.Numeral

/-!
**Socket addresses.**

A socket address is the address of a host and the number of a service on it: `a.b.c.d:number` or
`[address]:number`, where the longer kind of address may name the scope it is valid in.

Main definitions:

* `TaskLedger.HostAddress`, `TaskLedger.SocketAddress` — the addresses;
* `TaskLedger.SocketAddress.parse?` — reading one.
-/

set_option autoImplicit false

namespace TaskLedger

/-- The address of a host: four numbers of a byte, or eight of two bytes with a scope. -/
inductive HostAddress where
  | four (parts : List Nat)
  | six (groups : List Nat) (scope : Nat)
  deriving DecidableEq, Repr

/-- The address of a host and the number of a service on it. -/
structure SocketAddress where
  host : HostAddress
  service : Nat
  deriving DecidableEq, Repr

namespace SocketAddress

open Text

/-- What follows a character. -/
def after? (c : Char) : List Char → Option (List Char)
  | d :: cs => if d = c then some cs else none
  | [] => none

/-- All digits that a text begins with, and what follows them. -/
def digits (base : Nat) (cs : List Char) : List Nat × List Char :=
  let shown := cs.takeWhile fun c => (digitIn? base c).isSome
  (shown.filterMap (digitIn? base), cs.drop shown.length)

/-- A number up to a bound. -/
def number? (base bound : Nat) (cs : List Char) : Option (Nat × List Char) :=
  let (ds, rest) := digits base cs
  let n := ds.foldl (fun n d => n * base + d) 0
  if ds = [] ∨ bound < n then none else some (n, rest)

/-- A number of a byte in at most three digits, of which the first is zero only if it is alone. -/
def byte? (cs : List Char) : Option (Nat × List Char) :=
  let ds := (digits 10 cs).1
  if 3 < ds.length ∨ (ds.head? = some 0 ∧ 1 < ds.length) then none else number? 10 255 cs

/-- A number of two bytes in at most four hexadecimal digits. -/
def group? (cs : List Char) : Option (Nat × List Char) :=
  if 4 < (digits 16 cs).1.length then none else number? 16 65535 cs

/-- Four bytes with points between them. -/
def fourParts? (cs : List Char) : Option (List Nat × List Char) := do
  let (a, cs) ← byte? cs
  let (b, cs) ← byte? (← after? '.' cs)
  let (c, cs) ← byte? (← after? '.' cs)
  let (d, cs) ← byte? (← after? '.' cs)
  return ([a, b, c, d], cs)

/-- The text after the colon that separates a group from the one before it. -/
def separated? (first : Bool) (cs : List Char) : Option (List Char) :=
  if first then some cs else after? ':' cs

/-- The two groups that four bytes make up. -/
def groupsOfParts : List Nat → List Nat
  | a :: b :: rest => (a * 256 + b) :: groupsOfParts rest
  | _ => []

/-- Up to `room` groups with colons between them, and whether they ended in four bytes, which take
the place of two groups. -/
def groups (first : Bool) : (room : Nat) → List Char → List Nat × Bool × List Char
  | 0, cs => ([], false, cs)
  | room + 1, cs =>
      let bytes? := if 0 < room then (separated? first cs).bind fourParts? else none
      match bytes? with
      | some (parts, rest) => (groupsOfParts parts, true, rest)
      | none =>
          match (separated? first cs).bind group? with
          | none => ([], false, cs)
          | some (g, rest) =>
              let (gs, bytes, rest) := groups false room rest
              (g :: gs, bytes, rest)

/-- Eight groups, or fewer with two colons that stand for as many zeros as are missing. -/
def eightGroups? (cs : List Char) : Option (List Nat × List Char) :=
  let (front, bytes, rest) := groups true 8 cs
  if front.length = 8 then some (front, rest)
  else if bytes then none
  else do
    let rest ← after? ':' (← after? ':' rest)
    let (back, _, rest) := groups true (7 - front.length) rest
    return (front ++ List.replicate (8 - front.length - back.length) 0 ++ back, rest)

/-- A scope, which need not be given. -/
def scope (cs : List Char) : Nat × List Char :=
  match (after? '%' cs).bind (number? 10 (UInt32.size - 1)) with
  | some (n, rest) => (n, rest)
  | none => (0, cs)

/-- The number of a service after a colon, with which the text ends. -/
def service? (cs : List Char) : Option Nat := do
  let (service, rest) ← number? 10 65535 (← after? ':' cs)
  if rest = [] then some service else none

/-- Reads a socket address with four bytes. -/
def parseFour? (cs : List Char) : Option SocketAddress := do
  let (parts, rest) ← fourParts? cs
  return { host := .four parts, service := ← service? rest }

/-- Reads a socket address with eight groups. -/
def parseSix? (cs : List Char) : Option SocketAddress := do
  let (gs, rest) ← eightGroups? (← after? '[' cs)
  let (scope, rest) := scope rest
  return { host := .six gs scope, service := ← service? (← after? ']' rest) }

/-- Reads a socket address. -/
def parse? (s : String) : Option SocketAddress := parseFour? s.toList <|> parseSix? s.toList

end SocketAddress

end TaskLedger
