import TaskLedger.Text.Blank
import TaskLedger.Text.Digit
import TaskLedger.Time.Instant

/-!
**Instants as texts.**

Instants are written as RFC 3339 date and time in UTC, with the fewest of no, three, six or nine
decimal places that lose nothing.  Years outside 0 to 9999 carry a sign.  Reading is more generous:
numbers may lack leading zeros, blanks may surround the parts, date and time may be joined by a
space, more than nine decimal places are cut off, and any offset from UTC of less than a day is
taken into account.

Main definitions:

* `TaskLedger.Instant.toText` — the written form;
* `TaskLedger.Instant.read?` — the reader.
-/

set_option autoImplicit false

namespace TaskLedger.Instant

open Text

/-! ### Writing -/

/-- A number with at least `width` digits. -/
def padded (width n : Nat) : List Char :=
  let digits := Nat.toDigits 10 n
  List.replicate (width - digits.length) '0' ++ digits

/-- A year: four digits, or a sign and at least four digits. -/
def yearText (year : Int) : List Char :=
  if 0 ≤ year ∧ year ≤ 9999 then padded 4 year.toNat
  else (if year < 0 then '-' else '+') :: padded 4 year.natAbs

/-- The decimal places of a part of a second. -/
def fractionText (nanos : Nat) : List Char :=
  if nanos = 0 then []
  else if nanos % 1000000 = 0 then '.' :: padded 3 (nanos / 1000000)
  else if nanos % 1000 = 0 then '.' :: padded 6 (nanos / 1000)
  else '.' :: padded 9 nanos

/-- The written form, as characters.  A leap second is the sixty-first of its minute. -/
def chars (t : Instant) : List Char :=
  let date := Calendar.dateOf (t.second / 86400)
  let ofDay := (t.second % 86400).toNat
  let leap := t.nanos / 1000000000
  yearText date.year ++ '-' :: padded 2 date.month ++ '-' :: padded 2 date.day
    ++ 'T' :: padded 2 (ofDay / 3600) ++ ':' :: padded 2 (ofDay / 60 % 60)
    ++ ':' :: padded 2 (ofDay % 60 + leap) ++ fractionText (t.nanos % 1000000000) ++ ['Z']

/-- The written form, in UTC. -/
def toText (t : Instant) : String := .ofList t.chars

/-! ### Reading -/

/-- A number of one to `most` digits, and what follows it. -/
def number? (most : Nat) (cs : List Char) : Option (Nat × List Char) :=
  let digits := (cs.take most).takeWhile Char.isDigit
  if digits = [] then none else some (naturalOf digits, cs.drop digits.length)

/-- A number of one or two digits after optional blanks, which may be neither below nor above the
given bounds. -/
def part? (least most : Nat) (cs : List Char) : Option (Nat × List Char) := do
  let (n, rest) ← number? 2 (trimStart cs)
  if least ≤ n ∧ n ≤ most then some (n, rest) else none

/-- A year: up to four digits, or a sign and any number of digits. -/
def year? (cs : List Char) : Option (Int × List Char) :=
  match trimStart cs with
  | '-' :: cs => (number? cs.length cs).map fun (n, rest) => (-n, rest)
  | '+' :: cs => (number? cs.length cs).map fun (n, rest) => (n, rest)
  | cs => (number? 4 cs).map fun (n, rest) => (n, rest)

/-- What follows a mark, before which blanks may stand. -/
def after? (mark : Char) (cs : List Char) : Option (List Char) :=
  match trimStart cs with
  | c :: rest => if c = mark then some rest else none
  | [] => none

/-- The decimal places after the seconds, in nanoseconds. -/
def fraction? : List Char → Option (Nat × List Char)
  | '.' :: cs =>
      let digits := cs.takeWhile Char.isDigit
      if digits = [] then none
      else
        let counted := digits.take 9
        some (naturalOf counted * Nat.pow 10 (9 - counted.length), cs.drop digits.length)
  | cs => some (0, cs)

/-- Two digits. -/
def twoDigits? : List Char → Option (Nat × List Char)
  | a :: b :: cs => if a.isDigit ∧ b.isDigit then some (naturalOf [a, b], cs) else none
  | _ => none

/-- An offset of hours and minutes, in seconds; colons and blanks may stand between them. -/
def hoursAndMinutes? (cs : List Char) : Option (Nat × List Char) := do
  let (hours, rest) ← twoDigits? cs
  let (minutes, rest) ← twoDigits? (rest.dropWhile fun c => c = ':' || isBlank c)
  if hours ≤ 23 ∧ minutes ≤ 59 then some (hours * 3600 + minutes * 60, rest) else none

/-- An offset from UTC in seconds: none, as `Z` or `UTC` in either case, or one with a sign. -/
def offset? : List Char → Option (Int × List Char)
  | 'Z' :: cs | 'z' :: cs => some (0, cs)
  | '+' :: cs => (hoursAndMinutes? cs).map fun (n, rest) => (n, rest)
  | '-' :: cs | '\u2212' :: cs => (hoursAndMinutes? cs).map fun (n, rest) => (-n, rest)
  | cs =>
      if (cs.take 3).map Char.toLower = ['u', 't', 'c'] then some (0, cs.drop 3) else none

/-- The mark between date and time. -/
def timeMark? : List Char → Option (List Char)
  | 'T' :: cs | 't' :: cs | ' ' :: cs => some cs
  | _ => none

/-- The first and the last year of which there are instants. -/
def yearInRange (year : Int) : Bool := -262143 ≤ year && year ≤ 262142

/-- Reads an instant; nothing but blanks may follow it. -/
def readChars? (cs : List Char) : Option Instant := do
  let (year, cs) ← year? cs
  let (month, cs) ← part? 1 12 (← after? '-' cs)
  let (day, cs) ← part? 1 31 (← after? '-' cs)
  let (hour, cs) ← part? 0 23 (← timeMark? cs)
  let (minute, cs) ← part? 0 59 (← after? ':' cs)
  let (second, cs) ← part? 0 60 (← after? ':' cs)
  let (nanos, cs) ← fraction? cs
  let (offset, cs) ← offset? (trimStart cs)
  let date : Calendar.Date := ⟨year, month, day⟩
  if trimStart cs = [] ∧ date.exists ∧ yearInRange year then
    let leap := second / 60
    let ofDay : Int := hour * 3600 + minute * 60 + second - leap
    ofParts? (Calendar.dayNumber date * 86400 + ofDay - offset) (nanos + leap * 1000000000)
  else none

/-- Reads an instant from a text. -/
def read? (s : String) : Option Instant := readChars? s.toList

end TaskLedger.Instant
