import TaskLedger.Text.Digit

/-!
**Decimal numerals of bounded size.**

A setting or an address holds numbers as decimal digits.  They are read from the left, and the first
thing wrong with them decides: a character that is no digit, or a value beyond the bound.

Main definitions:

* `TaskLedger.Text.NumeralError` — the two ways a numeral can be wrong, with their wording;
* `TaskLedger.Text.readDigits` — digits after a value already read, up to a bound;
* `TaskLedger.Text.readUnsigned` — a 64-bit number with an optional plus sign.

Main results:

* `TaskLedger.Text.readUnsigned_repr` — the decimal digits of a 64-bit number read back as it.
-/

set_option autoImplicit false

namespace TaskLedger.Text

/-- Why a numeral was refused. -/
inductive NumeralError where
  | notADigit
  | tooLarge
  deriving DecidableEq, Repr

/-- The wording of a refused numeral. -/
def NumeralError.message : NumeralError → String
  | .notADigit => "invalid digit found in string"
  | .tooLarge => "number too large to fit in target type"

/-- Reads digits after the value `acc` of those before them; no value may exceed `bound`. -/
def readDigits (bound : Nat) : Nat → List Char → Except NumeralError Nat
  | acc, [] => .ok acc
  | acc, c :: cs =>
      match digit? c with
      | none => .error .notADigit
      | some d =>
          if acc * 10 + d ≤ bound then readDigits bound (acc * 10 + d) cs else .error .tooLarge

/-- Reads a number of 64 bits: an optional plus sign and at least one digit. -/
def readUnsigned (s : String) : Except NumeralError UInt64 :=
  let digits := match s.toList with
    | '+' :: cs => cs
    | cs => cs
  if digits = [] then .error .notADigit
  else (readDigits (UInt64.size - 1) 0 digits).map UInt64.ofNat

/-! ### Numbers read back -/

theorem readDigits_append {bound acc v : Nat} {cs rest : List Char}
    (h : readDigits bound acc cs = .ok v) :
    readDigits bound acc (cs ++ rest) = readDigits bound v rest := by
  induction cs generalizing acc with
  | nil => simp_all [readDigits]
  | cons c cs ih =>
      simp only [readDigits, List.cons_append] at h ⊢
      cases hd : digit? c with
      | none => simp [hd] at h
      | some d =>
          simp only [hd] at h ⊢
          by_cases hb : acc * 10 + d ≤ bound
          · rw [if_pos hb] at h ⊢
            exact ih h
          · simp [hb] at h

theorem readDigits_toDigits {bound n : Nat} (h : n ≤ bound) :
    readDigits bound 0 (Nat.toDigits 10 n) = .ok n := by
  induction n using Nat.strongRecOn with
  | _ n ih =>
      by_cases hn : n < 10
      · have hd : digit? (Nat.digitChar n) = some n := digitIn?_digitChar (by decide) hn
        rw [Nat.toDigits_of_lt_base hn]
        simp [readDigits, hd, h]
      · have step : Nat.toDigits 10 n = Nat.toDigits 10 (n / 10) ++ [Nat.digitChar (n % 10)] := by
          rw [Nat.toDigits_eq_if (by decide : 1 < 10), if_neg hn]
        rw [step, readDigits_append (ih (n / 10) (by omega) (by omega))]
        have hd : digit? (Nat.digitChar (n % 10)) = some (n % 10) :=
          digitIn?_digitChar (by decide) (by omega)
        have hv : n / 10 * 10 + n % 10 = n := by omega
        simp [readDigits, hd, hv, h]

/-- The decimal digits of a 64-bit number read back as that number. -/
theorem readUnsigned_repr (n : UInt64) : readUnsigned n.toNat.repr = .ok n := by
  have hn : n.toNat ≤ UInt64.size - 1 := by have := n.toNat_lt_size; omega
  have hr := readDigits_toDigits hn
  have hl : n.toNat.repr.toList = Nat.toDigits 10 n.toNat := by simp [Nat.repr]
  have hne : Nat.toDigits 10 n.toNat ≠ [] := by simp
  have hplus : ∀ cs, Nat.toDigits 10 n.toNat ≠ '+' :: cs := by
    intro cs hc
    have := Nat.isDigit_of_mem_toDigits (b := 10) (n := n.toNat) (by decide) (by decide)
      (c := '+') (by simp [hc])
    revert this; decide
  have hm : (match n.toNat.repr.toList with
      | '+' :: cs => cs
      | cs => cs) = Nat.toDigits 10 n.toNat := by
    rw [hl]
    split
    · exact absurd (by assumption) (hplus _)
    · rfl
  simp only [readUnsigned, hm, if_neg hne, hr, Except.map]
  simp

end TaskLedger.Text
