/-!
# Double-precision numbers, exactly

A finite double is a sign and a magnitude `mantissa · 2 ^ exponent`. The arithmetic here is on
natural numbers throughout: an operation forms its exact result as a fraction and rounds once, half
to even. Nothing depends on the machine's floating-point unit, so a value can be followed through a
proof.
-/

namespace Ingest

/-- **A magnitude on the grid of doubles**: `mantissa · 2 ^ exponent`. A mantissa under `2 ^ 52`
stands only at the least exponent, so every value has one form. -/
structure Magnitude where
  mantissa : Nat
  exponent : Int
  deriving DecidableEq, Repr

/-- A finite double. The sign stands apart from the magnitude, so that a negative zero is not
lost. -/
structure Binary64 where
  negative : Bool
  magnitude : Magnitude
  deriving DecidableEq, Repr

namespace Magnitude

/-- The exponent of the finest grid, the one on which the numbers next to zero lie. -/
def leastExponent : Int := -1074

/-- The exponent of the coarsest grid. A number that would need one beyond it is no double. -/
def greatestExponent : Int := 971

/-- The magnitude of zero, which stands on the finest grid. -/
def zero : Magnitude := ⟨0, leastExponent⟩

/-- The fraction `num / den` rounded to a whole number, a half going to the even neighbour. Every
result of the arithmetic is rounded by this, and only once. -/
def roundHalfEven (num den : Nat) : Nat :=
  let q := num / den
  let r := num % den
  if den < 2 * r ∨ (2 * r = den ∧ q % 2 = 1) then q + 1 else q

/-- `num / den` measured in units of `2 ^ e`, as a fraction. It stays exact, as one of the two
numbers is multiplied and neither is divided. -/
def scaled (num den : Nat) (e : Int) : Nat × Nat :=
  if 0 ≤ e then (num, den * Nat.pow 2 e.toNat) else (num * Nat.pow 2 (-e).toNat, den)

/-- The exponent of the grid for `num / den`: 53 bits of mantissa, or the finest grid there is. The
logarithms tell it up to one, and a comparison decides. -/
def gridExponent (num den : Nat) : Int :=
  let guess : Int := (num.log2 : Int) - (den.log2 : Int) - 53
  let e := if leastExponent ≤ guess then guess else leastExponent
  let s := scaled num den e
  if Nat.pow 2 53 * s.2 ≤ s.1 then e + 1 else e

/-- **Rounds a fraction to the nearest double**; `none` when it lies beyond the largest. If the
mantissa is rounded up to its bound, the number moves on to the next grid. -/
def ofFraction (num den : Nat) : Option Magnitude :=
  if num = 0 then some zero
  else
    let e := gridExponent num den
    let s := scaled num den e
    let m := roundHalfEven s.1 s.2
    let r : Magnitude := if m = Nat.pow 2 53 then ⟨Nat.pow 2 52, e + 1⟩ else ⟨m, e⟩
    if greatestExponent < r.exponent then none else some r

/-- The value as a fraction, which a double always has. -/
def toFraction (m : Magnitude) : Nat × Nat :=
  if 0 ≤ m.exponent then (m.mantissa * Nat.pow 2 m.exponent.toNat, 1)
  else (m.mantissa, Nat.pow 2 (-m.exponent).toNat)

/-- The rounded product, which may lie beyond the largest double. -/
def mul (a b : Magnitude) : Option Magnitude :=
  ofFraction (a.toFraction.1 * b.toFraction.1) (a.toFraction.2 * b.toFraction.2)

/-- The rounded quotient. The divisors in use are powers of ten, so no quotient by zero is
formed. -/
def div (a b : Magnitude) : Option Magnitude :=
  ofFraction (a.toFraction.1 * b.toFraction.2) (a.toFraction.2 * b.toFraction.1)

/-- The double nearest to a power of ten. Only the first few of these powers are doubles themselves,
so a product with one is rounded twice over. -/
def tenPow (k : Nat) : Magnitude := (ofFraction (Nat.pow 10 k) 1).getD zero

/-! ## Decimal scientific notation

A decimal is read with one multiplication or division by a power of ten, after its significand has
been rounded: quick, and not always the double nearest to the text. Powers past the largest double
are taken in steps. -/

/-- The largest power of ten that is a double. -/
def greatestTenPow : Nat := 308

/-- The rounded quotient by `10 ^ k`, in steps of the largest power. Each step rounds, so several of
them may miss the nearest double. -/
def scaleDown (m : Magnitude) (k : Nat) : Magnitude :=
  if k ≤ greatestTenPow then (m.div (tenPow k)).getD zero
  else if m.mantissa = 0 then zero
  else scaleDown ((m.div (tenPow greatestTenPow)).getD zero) (k - greatestTenPow)
termination_by k
decreasing_by simp only [greatestTenPow] at *; omega

/-- **The value of `significand · 10 ^ exponent`**; `none` when it lies beyond the largest double.
The significand is rounded first and then multiplied or divided, so the result may miss the nearest
double by a little. -/
def ofDecimal (significand : Nat) (exponent : Int) : Option Magnitude :=
  match ofFraction significand 1 with
  | none => none
  | some m =>
    if exponent < 0 then some (m.scaleDown (-exponent).toNat)
    else if m.mantissa = 0 then some zero
    else if exponent.toNat ≤ greatestTenPow then m.mul (tenPow exponent.toNat)
    else none

end Magnitude

end Ingest
