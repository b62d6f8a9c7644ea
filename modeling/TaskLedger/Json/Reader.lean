import TaskLedger.Json.Basic
import TaskLedger.Text.Digit

/-!
**Reading JSON values from text.**

The reader works on a list of characters and returns the value with what follows it.  Values may be
nested to a fixed depth.  A member that nobody asked for is only skipped, which is less strict: its
numbers may be out of range, its escapes may denote no character, and it may be nested to any depth.

A value that is kept may be embedded as a text: an object whose first key is the embedding key has no
other member, and it stands for the value that the text under this key denotes.

Main definitions:

* `TaskLedger.Json.Reader.Manner` — keeping what is read, or skipping it;
* `TaskLedger.Json.Reader.Refusal` — what is wrong with a text;
* `TaskLedger.Json.Reader.value` — a value and the rest of the text;
* `TaskLedger.Json.read?` — the value that makes up a whole text.
-/

set_option autoImplicit false

namespace TaskLedger.Json

/-- The key under which a value is embedded as a text. -/
def embeddingKey : String := "$serde_json::private::RawValue"

namespace Reader

open Text

/-- What is wrong with a text: it is no JSON, or it is JSON in which some value has not the shape that
it has to have. -/
inductive Refusal where
  | notJson
  | otherShape
  deriving DecidableEq, Repr

/-- A piece of a text, if it could be read. -/
def orNotJson {α : Type} (read : Option α) : Except Refusal α :=
  match read with
  | some a => .ok a
  | none => .error .notJson

/-- Whether the value read is kept or only skipped. -/
inductive Manner where
  | keep
  | skip
  deriving DecidableEq, Repr

/-- The text without the blanks it begins with; JSON knows four. -/
def skipBlanks : List Char → List Char
  | c :: cs => if c = ' ' ∨ c = '\n' ∨ c = '\t' ∨ c = '\r' then skipBlanks cs else c :: cs
  | [] => []

/-- The text after a word that it begins with. -/
def word? (w : String) (cs : List Char) : Option (List Char) :=
  if w.toList.isPrefixOf cs then some (cs.drop w.length) else none

/-! ### Texts -/

/-- The code unit of four hexadecimal digits. -/
def unit? (a b c d : Char) : Option Nat := do
  return (((← hexDigit? a) * 16 + (← hexDigit? b)) * 16 + (← hexDigit? c)) * 16 + (← hexDigit? d)

/-- The character of an escape of one letter. -/
def escaped? : Char → Option Char
  | '"' => some '"'
  | '\\' => some '\\'
  | '/' => some '/'
  | 'b' => some '\x08'
  | 'f' => some '\x0c'
  | 'n' => some '\n'
  | 'r' => some '\r'
  | 't' => some '\t'
  | _ => none

/-- Whether a code unit begins a pair. -/
def isHigh (n : Nat) : Bool := 0xD800 ≤ n && n < 0xDC00

/-- Whether a code unit ends a pair. -/
def isLow (n : Nat) : Bool := 0xDC00 ≤ n && n < 0xE000

/-- The characters of a text up to its closing quote, and what follows.  A code unit that begins a
pair has to be followed by one that ends it. -/
def characters (m : Manner) : List Char → List Char → Option (List Char × List Char)
  | done, '"' :: cs => some (done.reverse, cs)
  | done, '\\' :: 'u' :: a :: b :: c :: d :: cs =>
      match unit? a b c d with
      | none => none
      | some n =>
          if m = .skip then characters m done cs
          else if isLow n then none
          else if isHigh n then
            match cs with
            | '\\' :: 'u' :: a :: b :: c :: d :: cs =>
                match unit? a b c d with
                | none => none
                | some k =>
                    if isLow k then
                      characters m
                        (.ofNat (0x10000 + (n - 0xD800) * 0x400 + (k - 0xDC00)) :: done) cs
                    else none
            | _ => none
          else characters m (.ofNat n :: done) cs
  | done, '\\' :: e :: cs =>
      match escaped? e with
      | some c => characters m (c :: done) cs
      | none => none
  | _, '\\' :: [] => none
  | done, c :: cs => if c < ' ' then none else characters m (c :: done) cs
  | _, [] => none

/-! ### Numbers -/

/-- The digits that a text begins with, and what follows them. -/
def digits (cs : List Char) : List Char × List Char :=
  (cs.takeWhile Char.isDigit, cs.dropWhile Char.isDigit)

/-- As many of the digits as give a value of 64 bits, and the number of digits left over. -/
def significand : (acc : Nat) → List Char → Nat × Nat
  | acc, [] => (acc, 0)
  | acc, c :: cs =>
      let next := acc * 10 + digitValue c
      if next < UInt64.size then significand next cs else (acc, cs.length + 1)

/-- The parts of a number: the digits before the point, those after it, and the exponent, with what
follows the number.  A leading zero stands alone, and a point or an exponent mark needs a digit. -/
def numberParts (cs : List Char) : Option (List Char × Option (List Char) × Option Int × List Char) :=
  let (whole, rest) := digits cs
  if whole = [] ∨ (whole.head? = some '0' ∧ whole.length ≠ 1) then none
  else do
    let (fraction, rest) ← match rest with
      | '.' :: rest =>
          let (fraction, rest) := digits rest
          if fraction = [] then none else some (some fraction, rest)
      | rest => some (none, rest)
    match rest with
    | e :: rest =>
        if e = 'e' ∨ e = 'E' then
          let (negative, rest) := match rest with
            | '+' :: rest => (false, rest)
            | '-' :: rest => (true, rest)
            | rest => (false, rest)
          let (exponent, rest) := digits rest
          if exponent = [] then none
          else
            let n : Int := naturalOf exponent
            some (whole, fraction, some (if negative then -n else n), rest)
        else some (whole, fraction, none, e :: rest)
    | [] => some (whole, fraction, none, [])

/-- The number of the given parts.  Without point and exponent it is an integer if it has 64 bits,
where minus zero is none.  Otherwise it is a double: of its digits before the point as many count as
give a significand of 64 bits, and after the point as many more as still do. -/
def numberOf (negative : Bool) (whole : List Char) (fraction : Option (List Char))
    (exponent : Option Int) : Option Json :=
  let n := naturalOf whole
  if fraction = none ∧ exponent = none ∧ negative = false ∧ n < UInt64.size then some (.int n)
  else if fraction = none ∧ exponent = none ∧ negative = true ∧ 0 < n ∧ n ≤ UInt64.size / 2 then
    some (.int (-n))
  else
    let places := fraction.getD []
    let (value, wholeLeft) := significand 0 whole
    let (value, placesLeft) := significand value places
    match Double.ofDecimal value (exponent.getD 0 + wholeLeft + placesLeft - places.length) with
    | some x => some (.double (if negative then x.neg else x))
    | none => none

/-- A number and what follows it. -/
def number (m : Manner) (cs : List Char) : Option (Json × List Char) := do
  let (negative, cs) := match cs with
    | '-' :: cs => (true, cs)
    | cs => (false, cs)
  let (whole, fraction, exponent, rest) ← numberParts cs
  match m with
  | .skip => return (.null, rest)
  | .keep => return (← numberOf negative whole fraction exponent, rest)

/-! ### Values -/

/-- The number of levels to which values may be nested. -/
def maxDepth : Nat := 127

/-- A value that is neither a list nor an object, and what follows it. -/
def scalar (m : Manner) : List Char → Option (Json × List Char)
  | '"' :: cs => do
      let (s, rest) ← characters m [] cs
      return (.text (.ofList s), rest)
  | 'n' :: cs => do return (.null, ← word? "ull" cs)
  | 't' :: cs => do return (.bool true, ← word? "rue" cs)
  | 'f' :: cs => do return (.bool false, ← word? "alse" cs)
  | cs => number m cs

/-- What is wrong with a text at a place where a value of another shape is expected.  A list or an
object is recognised by its first character, any other value is read as a whole. -/
def refusalAt (cs : List Char) : Refusal :=
  match skipBlanks cs with
  | '[' :: _ | '{' :: _ => .otherShape
  | cs => if (scalar .keep cs).isSome then .otherShape else .notJson

/-- A value that has to be a text, and what follows it. -/
def textValue (cs : List Char) : Except Refusal (List Char × List Char) :=
  match skipBlanks cs with
  | '"' :: rest => orNotJson (characters .keep [] rest)
  | cs => .error (refusalAt cs)

/-- The text after a mark. -/
def after (mark : Char) (cs : List Char) : Except Refusal (List Char) :=
  match skipBlanks cs with
  | c :: rest => if c = mark then .ok rest else .error .notJson
  | [] => .error .notJson

/-- The key of a member, and what follows it, beginning with its colon. -/
def keyText (m : Manner) (cs : List Char) : Except Refusal (String × List Char) := do
  let (name, rest) ← orNotJson (characters m [] (← after '"' cs))
  return (.ofList name, rest)

/-- The key of a member, and what follows its colon. -/
def key (m : Manner) (cs : List Char) : Except Refusal (String × List Char) := do
  let (name, rest) ← keyText m cs
  return (name, ← after ':' rest)

mutual

/-- A value and what follows it, nested to at most `depth` further levels. -/
def value (m : Manner) : (fuel depth : Nat) → List Char → Except Refusal (Json × List Char)
  | 0, _, _ => .error .notJson
  | fuel + 1, depth, cs =>
      match skipBlanks cs with
      | '[' :: cs =>
          if depth = 0 ∧ m = .keep then .error .notJson
          else match skipBlanks cs with
            | ']' :: rest => .ok (.list [], rest)
            | cs => do
                let (found, rest) ← items m fuel (depth - 1) [] cs
                return (.list found, rest)
      | '{' :: cs =>
          if depth = 0 ∧ m = .keep then .error .notJson
          else match skipBlanks cs with
            | '}' :: rest => .ok (.object [], rest)
            | cs => do
                let (first, rest) ← key m cs
                if m = .keep ∧ first = embeddingKey then embedded fuel rest
                else
                  let (found, rest) ← members m fuel (depth - 1) [] cs
                  return (.object found, rest)
      | cs => orNotJson (scalar m cs)

/-- The value that an embedded text denotes, and what follows the object around it. -/
def embedded : (fuel : Nat) → List Char → Except Refusal (Json × List Char)
  | 0, _ => .error .notJson
  | fuel + 1, cs => do
      let (inner, rest) ← textValue cs
      match value .keep fuel maxDepth inner with
      | .ok (found, tail) =>
          if skipBlanks tail = [] then return (found, ← after '}' rest) else .error .otherShape
      | .error _ => .error .otherShape

/-- The items of a list up to its closing bracket, after those in `done`. -/
def items (m : Manner) : (fuel depth : Nat) → List Json → List Char →
    Except Refusal (List Json × List Char)
  | 0, _, _, _ => .error .notJson
  | fuel + 1, depth, done, cs => do
      let (item, rest) ← value m fuel depth cs
      match skipBlanks rest with
      | ',' :: rest => items m fuel depth (item :: done) rest
      | ']' :: rest => return ((item :: done).reverse, rest)
      | _ => .error .notJson

/-- The members of an object up to its closing brace, among those in `done`. -/
def members (m : Manner) : (fuel depth : Nat) → List (String × Json) → List Char →
    Except Refusal (List (String × Json) × List Char)
  | 0, _, _, _ => .error .notJson
  | fuel + 1, depth, done, cs => do
      let (name, rest) ← key m cs
      let (item, rest) ← value m fuel depth rest
      let done := insert name item done
      match skipBlanks rest with
      | ',' :: rest => members m fuel depth done rest
      | '}' :: rest => return (done, rest)
      | _ => .error .notJson

end

end Reader

/-- The value that makes up a whole text, but for blanks around it. -/
def read? (s : String) : Option Json :=
  let cs := s.toList
  match Reader.value .keep (cs.length + 1) Reader.maxDepth cs with
  | .ok (found, rest) => if Reader.skipBlanks rest = [] then some found else none
  | .error _ => none

end TaskLedger.Json
