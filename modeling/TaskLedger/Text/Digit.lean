/-!
**Digits.**

Numbers stand in texts as decimal or hexadecimal digits.  The readers of this library take digits one
at a time, or a run of characters that are known to be decimal digits.

Main definitions:

* `TaskLedger.Text.digitIn?` — the value of a character as a digit of a base of at most sixteen, with
  `TaskLedger.Text.digit?` and `TaskLedger.Text.hexDigit?` for the bases that have a name;
* `TaskLedger.Text.naturalOf` — the number that a run of decimal digits stands for.

Main results:

* `TaskLedger.Text.digitIn?_digitChar` — the digit that is written for a value has this value;
* `TaskLedger.Text.lt_of_digitIn?` — digits are ASCII characters;
* `TaskLedger.Text.naturalOf_eq_ofDigitChars` — a run of digits has the value that core gives it.
-/

set_option autoImplicit false

namespace TaskLedger.Text

/-! ### One digit -/

/-- The value of a character as a digit of a base, its letters in either case. -/
def digitIn? (base : Nat) (c : Char) : Option Nat :=
  let value :=
    if '0' ≤ c ∧ c ≤ '9' then some (c.toNat - '0'.toNat)
    else if 'a' ≤ c ∧ c ≤ 'f' then some (c.toNat - 'a'.toNat + 10)
    else if 'A' ≤ c ∧ c ≤ 'F' then some (c.toNat - 'A'.toNat + 10)
    else none
  value.filter (· < base)

/-- The value of a decimal digit. -/
def digit? : Char → Option Nat := digitIn? 10

/-- The value of a hexadecimal digit. -/
def hexDigit? : Char → Option Nat := digitIn? 16

theorem digitIn?_digitChar {base d : Nat} (hbase : base ≤ 16) (h : d < base) :
    digitIn? base (Nat.digitChar d) = some d := by
  have key : ∀ base : Fin 17, ∀ d : Fin base, digitIn? base (Nat.digitChar d) = some d.val := by
    decide
  exact key ⟨base, by omega⟩ ⟨d, h⟩

theorem lt_of_digitIn? {base d : Nat} {c : Char} (h : digitIn? base c = some d) :
    c.toNat < 128 := by
  obtain ⟨hvalue, -⟩ := Option.filter_eq_some_iff.1 h
  split at hvalue
  · next hc => exact Nat.lt_of_le_of_lt hc.2 (by decide)
  · split at hvalue
    · next hc => exact Nat.lt_of_le_of_lt hc.2 (by decide)
    · split at hvalue
      · next hc => exact Nat.lt_of_le_of_lt hc.2 (by decide)
      · cases hvalue

/-! ### Runs of digits -/

/-- The value of a character that is known to be a decimal digit. -/
def digitValue (c : Char) : Nat := c.toNat - '0'.toNat

/-- The number that a run of decimal digits stands for. -/
def naturalOf (cs : List Char) : Nat := cs.foldl (fun n c => n * 10 + digitValue c) 0

theorem naturalOf_eq_ofDigitChars (cs : List Char) : naturalOf cs = Nat.ofDigitChars 10 cs 0 := by
  simp only [naturalOf, digitValue, Nat.ofDigitChars_eq_foldl, Nat.mul_comm]

end TaskLedger.Text
