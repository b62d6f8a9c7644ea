import TaskLedger.Text.Digit

/-!
**Segments of a path.**

The path of a request is taken apart at its slashes before escapes are resolved, so an escaped slash
does not separate segments.  An escape is a percent sign with two hexadecimal digits, which stand for
a byte; a percent sign without them stands for itself.

Main definitions:

* `TaskLedger.Http.pathOf` — the path of a request target;
* `TaskLedger.Http.segments` — its segments;
* `TaskLedger.Http.decode?` — a segment with its escapes resolved.
-/

set_option autoImplicit false

namespace TaskLedger.Http

/-- A path without the query and the fragment that may follow it. -/
def withoutQuery (cs : List Char) : List Char := cs.takeWhile fun c => c ≠ '?' ∧ c ≠ '#'

/-- What follows the scheme of an absolute target. -/
def afterScheme? : List Char → Option (List Char)
  | ':' :: '/' :: '/' :: cs => some cs
  | _ :: cs => afterScheme? cs
  | [] => none

/-- The path of a request target.  A target begins with its path, or with a scheme and a host before
it, where no path at all stands for a slash; a target of any other form has an empty path. -/
def pathOf (target : List Char) : List Char :=
  if target.head? = some '/' then withoutQuery target
  else match afterScheme? target with
    | some cs =>
        let path := withoutQuery (cs.dropWhile fun c => c ≠ '/' ∧ c ≠ '?' ∧ c ≠ '#')
        if path = [] then ['/'] else path
    | none => []

/-- The pieces of a list of characters between its slashes. -/
def segments : List Char → List (List Char)
  | [] => [[]]
  | c :: cs =>
      match c, segments cs with
      | '/', pieces => [] :: pieces
      | c, piece :: pieces => (c :: piece) :: pieces
      | c, [] => [[c]]

/-- The bytes of a segment with its escapes resolved. -/
def bytes : List Char → List UInt8
  | '%' :: a :: b :: cs =>
      match Text.hexDigit? a, Text.hexDigit? b with
      | some high, some low => .ofNat (high * 16 + low) :: bytes cs
      | _, _ => '%'.toUInt8 :: bytes (a :: b :: cs)
  | c :: cs => c.toString.toUTF8.toList ++ bytes cs
  | [] => []
termination_by cs => cs.length

/-- A segment with its escapes resolved, if its bytes make up a text. -/
def decode? (segment : List Char) : Option String :=
  String.fromUTF8? ⟨(bytes segment).toArray⟩

end TaskLedger.Http
