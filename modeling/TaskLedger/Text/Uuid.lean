import TaskLedger.Text.Digit

/-!
**Universally unique identifiers as texts.**

An identifier of 128 bits is written as 32 lower-case hexadecimal digits in groups of 8, 4, 4, 4
and 12, joined by hyphens.  It is read from that form, from the same form between braces or after
`urn:uuid:`, and from the bare digits, in any case of the letters.  A text that is none of these is
diagnosed: the first of a fixed ladder of faults is reported, with a position in bytes.

Main definitions:

* `TaskLedger.Uuid.toText` — the written form;
* `TaskLedger.Uuid.parse` — the reader, and `TaskLedger.UuidFault` with the wording of its faults;
* `TaskLedger.Uuid.diagnose` — the ladder.
-/

set_option autoImplicit false

namespace TaskLedger

/-- An identifier of 128 bits. -/
structure Uuid where
  bits : BitVec 128
  deriving DecidableEq, Repr

/-- What is wrong with a text that is no identifier. -/
inductive UuidFault where
  | length (found : Nat)
  | character (found : Char) (position : Nat)
  | groupCount (found : Nat)
  | groupLength (group expected found : Nat)
  deriving DecidableEq, Repr

/-- The wording of a fault. -/
def UuidFault.message : UuidFault → String
  | .length found => s!"invalid length: found {found}"
  | .character found position => s!"invalid character: found `{found}` at {position}"
  | .groupCount found => s!"invalid group count: expected 5, found {found}"
  | .groupLength group expected found =>
      s!"invalid group length in group {group}: expected {expected}, found {found}"

namespace Uuid

open Text

/-- The order of identifiers is that of their 128-bit values. -/
def precedes (a b : Uuid) : Bool := a.bits.toNat < b.bits.toNat

/-! ### Writing -/

/-- The number of digits in each of the five groups. -/
def groupLengths : List Nat := [8, 4, 4, 4, 12]

/-- The last `count` hexadecimal digits of a number, from the left. -/
def hexText : (count : Nat) → Nat → List Char
  | 0, _ => []
  | count + 1, n => hexText count (n / 16) ++ [Nat.digitChar (n % 16)]

/-- The written form, as characters. -/
def chars (u : Uuid) : List Char :=
  let n := u.bits.toNat
  hexText 8 (n >>> 96) ++ '-' :: hexText 4 (n >>> 80) ++ '-' :: hexText 4 (n >>> 64)
    ++ '-' :: hexText 4 (n >>> 48) ++ '-' :: hexText 12 n

/-- The written form: 36 characters, lower case, with hyphens. -/
def toText (u : Uuid) : String := .ofList u.chars

/-! ### Reading -/

/-- Reads exactly `count` digits after the value `acc` of those before them. -/
def readHex : (count : Nat) → (acc : Nat) → List Char → Option (Nat × List Char)
  | 0, acc, cs => some (acc, cs)
  | _ + 1, _, [] => none
  | count + 1, acc, c :: cs => do readHex count (acc * 16 + (← hexDigit? c)) cs

/-- Reads further groups, each after a hyphen; nothing may follow the last. -/
def readGroups : List Nat → (acc : Nat) → List Char → Option Nat
  | [], acc, [] => some acc
  | [], _, _ :: _ => none
  | count :: counts, acc, '-' :: cs => do
      let (acc, rest) ← readHex count acc cs
      readGroups counts acc rest
  | _ :: _, _, _ => none

/-- Reads 32 digits without hyphens. -/
def readSimple (cs : List Char) : Option Uuid := do
  let (n, rest) ← readHex 32 0 cs
  if rest.isEmpty then some ⟨.ofNat 128 n⟩ else none

/-- Reads the five groups with their hyphens. -/
def readHyphenated (cs : List Char) : Option Uuid := do
  let (n, rest) ← readHex 8 0 cs
  return ⟨.ofNat 128 (← readGroups [4, 4, 4, 12] n rest)⟩

/-- The text between braces, if the whole is one between braces. -/
def unbraced? : List Char → Option (List Char)
  | '{' :: cs => if cs.getLast? = some '}' then some cs.dropLast else none
  | _ => none

/-- The text after `urn:uuid:`, whose letters may be of either case. -/
def afterUrn? (cs : List Char) : Option (List Char) :=
  if (cs.take 9).map Char.toLower = "urn:uuid:".toList then some (cs.drop 9) else none

/-! ### Diagnosis -/

/-- The size of a list of characters in bytes. -/
def byteLength (cs : List Char) : Nat := cs.foldl (fun n c => n + c.utf8Size) 0

/-- The first character that is neither a digit nor a hyphen, with its position in bytes. -/
def strange? : (position : Nat) → List Char → Option (Char × Nat)
  | _, [] => none
  | position, c :: cs =>
      if c = '-' ∨ (hexDigit? c).isSome then strange? (position + c.utf8Size) cs
      else some (c, position)

/-- The positions of the hyphens. -/
def hyphens : (position : Nat) → List Char → List Nat
  | _, [] => []
  | position, c :: cs =>
      if c = '-' then position :: hyphens (position + c.utf8Size) cs
      else hyphens (position + c.utf8Size) cs

/-- The first group that does not end where it should, given the hyphens found and, for each group
but the last, its number, its first position and its length. -/
def misplaced? : List (Nat × Nat × Nat) → List Nat → Option UuidFault
  | (group, start, expected) :: rest, at_ :: found =>
      if at_ = start + expected then misplaced? rest found
      else some (.groupLength group expected (at_ - start))
  | _, _ => none

/-- The faults of an examined text that are not about its characters: the number of its groups, then
their lengths.  `total` is the length of the whole text. -/
def groupFault (total : Nat) (cs : List Char) : UuidFault :=
  let found := hyphens 0 cs
  if found.length ≠ 4 then .groupCount (found.length + 1)
  else (misplaced? [(0, 0, 8), (1, 9, 4), (2, 14, 4), (3, 19, 4)] found).getD
    (.groupLength 4 12 (total - 24))

/-- The fault of a text of 36 bytes that should have been hyphenated. -/
def diagnoseHyphenated (cs : List Char) : UuidFault :=
  match strange? 0 cs with
  | some (c, position) => .character c position
  | none => groupFault (byteLength cs) cs

/-- The fault of a text of no recognised form.  Braces and `urn:uuid:` are skipped, but positions
count from the beginning of the whole text; without them, a text that has no hyphen is taken for
bare digits, whose only possible fault is their number. -/
def diagnose (cs : List Char) : UuidFault :=
  let total := byteLength cs
  if total = 0 ∨ 45 < total then .length total
  else
    let (inner, skipped, bare) := match unbraced? cs with
      | some inner => (inner, 1, false)
      | none => match afterUrn? cs with
        | some inner => (inner, 9, false)
        | none => (cs, 0, true)
    match strange? skipped inner with
    | some (c, position) => .character c position
    | none =>
        if bare ∧ hyphens 0 inner = [] then .length total
        else groupFault total inner

/-- Reads an identifier in any of its forms, which the length in bytes tells apart. -/
def parseChars (cs : List Char) : Except UuidFault Uuid :=
  let hyphenated (body : List Char) : Except UuidFault Uuid :=
    match readHyphenated body with
    | some u => .ok u
    | none => .error (diagnoseHyphenated body)
  match byteLength cs, unbraced? cs, afterUrn? cs with
  | 36, _, _ => hyphenated cs
  | 38, some body, _ => hyphenated body
  | 45, _, some body => hyphenated body
  | 32, _, _ =>
      match readSimple cs with
      | some u => .ok u
      | none => .error (diagnose cs)
  | _, _, _ => .error (diagnose cs)

/-- Reads an identifier from a text. -/
def parse (s : String) : Except UuidFault Uuid := parseChars s.toList

end Uuid

end TaskLedger
