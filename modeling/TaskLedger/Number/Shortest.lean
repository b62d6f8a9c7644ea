import TaskLedger.Number.Double

/-!
**The shortest decimal of a double.**

A double is written with the fewest significant digits that still round to it, and among those with
the decimal nearest to its value.  For each number of digits it is enough to look at the two
decimals next to the value on that grid.

Main definitions:

* `TaskLedger.Double.interval` — the decimals that round to a double;
* `TaskLedger.Double.shortest` — digits and exponent of the shortest of them;
* `TaskLedger.Double.toText` — the written form.
-/

set_option autoImplicit false

namespace TaskLedger.Double

/-- A decimal `digits * 10 ^ exponent`. -/
structure Decimal where
  digits : Nat
  exponent : Int
  deriving DecidableEq, Repr

/-- The value of a decimal as a ratio. -/
def Decimal.ratio (d : Decimal) : Nat × Nat :=
  (d.digits * Nat.pow 10 d.exponent.toNat, Nat.pow 10 (-d.exponent).toNat)

/-- Whether one ratio is below another. -/
def below (a b : Nat × Nat) : Bool := a.1 * b.2 < b.1 * a.2

/-- The ends of the interval of numbers that round to a double.  Below a power of two the
neighbour is half as far away as above it. -/
def interval (x : Double) : (Nat × Nat) × (Nat × Nat) :=
  let narrow := x.mantissa = Nat.pow 2 52 ∧ minExponent < x.exponent
  let lower := if narrow then 4 * x.mantissa - 1 else 4 * x.mantissa - 2
  (scale lower 1 (x.exponent - 2), scale (4 * x.mantissa + 2) 1 (x.exponent - 2))

/-- Whether a decimal rounds to the double; the ends of the interval do if the mantissa is even. -/
def Decimal.roundsTo (d : Decimal) (x : Double) : Bool :=
  let (lower, upper) := x.interval
  if x.mantissa % 2 = 0 then !below d.ratio lower && !below upper d.ratio
  else below lower d.ratio && below d.ratio upper

/-- The number of decimal digits of a number. -/
def digitCount (n : Nat) : Nat := (Nat.toDigits 10 n).length

/-- The exponent of the leading decimal digit of a positive ratio. -/
def leadingDigit (r : Nat × Nat) : Int :=
  let guess : Int := digitCount r.1 - digitCount r.2
  if below r (Decimal.ratio ⟨1, guess⟩) then guess - 1 else guess

/-- The decimal of `count` significant digits nearest to the double among those that round to it;
of two equally near, the one with an even last digit. -/
def ofCount (x : Double) (count : Nat) : Option Decimal :=
  let value := x.ratio
  let exponent := leadingDigit value - (count - 1 : Int)
  let (num, den) := (value.1 * Nat.pow 10 (-exponent).toNat, value.2 * Nat.pow 10 exponent.toNat)
  let low : Decimal := ⟨num / den, exponent⟩
  let high : Decimal := ⟨num / den + 1, exponent⟩
  match low.roundsTo x, high.roundsTo x with
  | true, true => some (if roundDiv num den = num / den then low else high)
  | true, false => some low
  | false, true => some high
  | false, false => none

/-- The decimal with the fewest digits that rounds to a double other than zero; seventeen always
suffice. -/
def shortest (x : Double) : Option Decimal :=
  (List.range 17).findSome? fun n => ofCount x (n + 1)

/-! ### The written form -/

/-- A decimal without zeros at its end. -/
def strip : (fuel : Nat) → Decimal → Decimal
  | 0, d => d
  | fuel + 1, d =>
      if d.digits % 10 = 0 ∧ d.digits ≠ 0 then strip fuel ⟨d.digits / 10, d.exponent + 1⟩ else d

/-- The exponent of ten from which on a number is written with an exponent. -/
def exponentFrom : Int := 16

/-- The least exponent of ten that is written without an exponent. -/
def plainFrom : Int := -5

/-- The text of a decimal: positional with at least one place after the point, or, for large and
small numbers, one digit before the point and a signed exponent. -/
def Decimal.toText (d : Decimal) : String :=
  let digits := Nat.toDigits 10 d.digits
  let lead := d.exponent + digits.length - 1
  if exponentFrom ≤ lead ∨ lead < plainFrom then
    let mark := if lead < 0 then "e-" else "e+"
    let rest := digits.drop 1
    .ofList (digits.take 1) ++ (if rest = [] then "" else "." ++ .ofList rest)
      ++ mark ++ lead.natAbs.repr
  else if 0 ≤ d.exponent then
    .ofList (digits ++ List.replicate d.exponent.toNat '0') ++ ".0"
  else if 0 ≤ lead then
    let whole := (lead + 1).toNat
    .ofList (digits.take whole) ++ "." ++ .ofList (digits.drop whole)
  else
    "0." ++ .ofList (List.replicate ((-lead).toNat - 1) '0' ++ digits)

/-- The text of a double: the shortest decimal that reads back as it. -/
def toText (x : Double) : String :=
  let sign := if x.negative then "-" else ""
  match x.isZero, x.shortest with
  | false, some d => sign ++ (strip 17 d).toText
  | _, _ => sign ++ "0.0"

end TaskLedger.Double
