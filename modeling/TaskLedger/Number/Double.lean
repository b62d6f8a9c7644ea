/-!
**Double-precision numbers, exactly.**

A finite double is a sign and a value `mantissa * 2 ^ exponent`.  All arithmetic is on exact ratios
of natural numbers, followed by one rounding to the nearest double, ties to the even mantissa.

Main definitions:

* `TaskLedger.Double` — finite doubles;
* `TaskLedger.Double.ofRatio` — the nearest double to a ratio, if it is in range;
* `TaskLedger.Double.mul`, `TaskLedger.Double.div` — product and quotient, rounded once;
* `TaskLedger.Double.ofDecimal` — the double that a decimal significand and exponent denote.
-/

set_option autoImplicit false

namespace TaskLedger

/-- A finite double: `± mantissa * 2 ^ exponent`.  Of the two zeros one is negative. -/
structure Double where
  negative : Bool
  mantissa : Nat
  exponent : Int
  deriving DecidableEq, Repr

namespace Double

/-- The least exponent of a double. -/
def minExponent : Int := -1074

/-- The greatest exponent of a double whose mantissa has all its 53 bits. -/
def maxExponent : Int := 971

/-- Zero, without a sign. -/
def zero : Double := ⟨false, 0, minExponent⟩

/-- The number with the opposite sign. -/
def neg (x : Double) : Double := { x with negative := !x.negative }

/-- Whether the value is zero, of either sign. -/
def isZero (x : Double) : Bool := x.mantissa == 0

/-- The quotient of two natural numbers, rounded to the nearest, a tie to the even one. -/
def roundDiv (num den : Nat) : Nat :=
  let q := num / den
  let twice := 2 * (num % den)
  if twice < den then q
  else if den < twice then q + 1
  else if q % 2 = 0 then q
  else q + 1

/-- The pair `num / den` multiplied by `2 ^ shift`, still as a pair. -/
def scale (num den : Nat) (shift : Int) : Nat × Nat :=
  (num * Nat.pow 2 shift.toNat, den * Nat.pow 2 (-shift).toNat)

/-- The exponent of the leading bit of a positive ratio. -/
def leadingBit (num den : Nat) : Int :=
  let guess : Int := Nat.log2 num - Nat.log2 den
  let (n, d) := scale num den (-guess)
  if d ≤ n then guess else guess - 1

/-- The nearest double to the ratio `num / den`, a tie going to the even mantissa; none if it lies
beyond the greatest double. -/
def ofRatio (num den : Nat) : Option Double :=
  if num = 0 then some zero
  else
    let exponent := max (leadingBit num den - 52) minExponent
    let (n, d) := scale num den (-exponent)
    let mantissa := roundDiv n d
    let (mantissa, exponent) :=
      if mantissa = Nat.pow 2 53 then (Nat.pow 2 52, exponent + 1) else (mantissa, exponent)
    if maxExponent < exponent then none else some ⟨false, mantissa, exponent⟩

/-- The absolute value as a ratio. -/
def ratio (x : Double) : Nat × Nat := scale x.mantissa 1 x.exponent

/-- The product of two doubles without regard to their signs, rounded once. -/
def mul (x y : Double) : Option Double :=
  ofRatio (x.ratio.1 * y.ratio.1) (x.ratio.2 * y.ratio.2)

/-- The quotient of two doubles without regard to their signs, rounded once. -/
def div (x y : Double) : Option Double :=
  ofRatio (x.ratio.1 * y.ratio.2) (x.ratio.2 * y.ratio.1)

/-! ### Decimals -/

/-- The greatest power of ten that is a double. -/
def maxPower : Nat := 308

/-- The double nearest to `10 ^ n`, for `n` up to the greatest such power. -/
def powerOfTen (n : Nat) : Option Double := ofRatio (Nat.pow 10 n) 1

/-- Division by the greatest power of ten, `times` over. -/
def shrink : (times : Nat) → Double → Option Double
  | 0, x => some x
  | times + 1, x => do shrink times (← x.div (← powerOfTen maxPower))

/-- The double that `significand * 10 ^ exponent` is read as.  The significand, of at most 64 bits,
is rounded first and then multiplied or divided by the power of ten, which is rounded too; a negative
exponent beyond the greatest power is taken in several divisions, of which three leave nothing.
None if the value is out of range. -/
def ofDecimal (significand : Nat) (exponent : Int) : Option Double := do
  let x ← ofRatio significand 1
  if x.isZero then return x
  if 0 ≤ exponent then
    if exponent.toNat ≤ maxPower then x.mul (← powerOfTen exponent.toNat) else none
  else
    let places := (-exponent).toNat
    let rounds := (places - 1) / maxPower
    if 3 ≤ rounds then return zero
    (← shrink rounds x).div (← powerOfTen (places - rounds * maxPower))

end Double

end TaskLedger
