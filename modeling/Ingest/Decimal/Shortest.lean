import Ingest.Decimal.Binary64

/-!
# The shortest decimal of a double

Every double owns an interval of real numbers that round to it. Among the decimals in that interval
the shortest one is wanted, and of those the nearest to the value. For each count of digits only
the two neighbours of the value on that decimal grid can qualify, so counts are tried in order.
-/

namespace Ingest

/-- A positive decimal `d₀.d₁d₂… · 10 ^ exponent`; the digits form the number `digits`, which does
not end in zero unless it is a single digit. -/
structure ShortDecimal where
  digits : Nat
  exponent : Int
  deriving DecidableEq, Repr

namespace Shortest

/-- The interval of numbers that round to a positive magnitude, in quarters of its unit: the
neighbour below a power of two is only half as far away. -/
def bounds (m : Magnitude) : Nat × Nat :=
  let low := if m.mantissa = Nat.pow 2 52 ∧ Magnitude.leastExponent < m.exponent then 1 else 2
  (4 * m.mantissa - low, 4 * m.mantissa + 2)

/-- `n · 2 ^ (e - 2)` as a fraction. In quarters of the unit both ends of the interval are whole
numbers. -/
def quarters (n : Nat) (e : Int) : Nat × Nat :=
  if 2 ≤ e then (n * Nat.pow 2 (e - 2).toNat, 1) else (n, Nat.pow 2 (2 - e).toNat)

/-- Comparison of fractions, by products across. -/
def fracLe (a b : Nat × Nat) : Bool := a.1 * b.2 ≤ b.1 * a.2

/-- Strict comparison of fractions. -/
def fracLt (a b : Nat × Nat) : Bool := a.1 * b.2 < b.1 * a.2

/-- `n · 10 ^ k` as a fraction. -/
def tens (n : Nat) (k : Int) : Nat × Nat :=
  if 0 ≤ k then (n * Nat.pow 10 k.toNat, 1) else (n, Nat.pow 10 (-k).toNat)

/-- Whether a decimal rounds to the magnitude. The ends of the interval do so only when the mantissa
is even, since a half is rounded to the even neighbour. -/
def within (m : Magnitude) (d : Nat × Nat) : Bool :=
  let b := bounds m
  let low := quarters b.1 m.exponent
  let high := quarters b.2 m.exponent
  if m.mantissa % 2 = 0 then fracLe low d && fracLe d high else fracLt low d && fracLt d high

/-- The decimal exponent of a fraction under one, searched downwards. The smallest double needs
fewer than the steps that are allowed. -/
def smallExponent (num den : Nat) : Nat → Nat → Nat
  | 0, k => k
  | fuel + 1, k => if den ≤ num * Nat.pow 10 k then k else smallExponent num den fuel (k + 1)

/-- The exponent of the leading decimal digit of a positive fraction. -/
def leadExponent (v : Nat × Nat) : Int :=
  if v.2 ≤ v.1 then ((Nat.toDigits 10 (v.1 / v.2)).length : Int) - 1
  else -(smallExponent v.1 v.2 400 1 : Int)

/-- The number of units of `10 ^ k` in a fraction, rounded down. -/
def floorTens (v : Nat × Nat) (k : Int) : Nat :=
  if 0 ≤ k then v.1 / (v.2 * Nat.pow 10 k.toNat) else v.1 * Nat.pow 10 (-k).toNat / v.2

/-- Drops trailing zeros of a digit number. -/
def stripZeros : Nat → Nat → Nat
  | 0, n => n
  | fuel + 1, n => if n % 10 = 0 ∧ 10 ≤ n then stripZeros fuel (n / 10) else n

/-- Whether `a` is nearer to `v` than its successor on the grid `10 ^ k`; a tie goes to the even
one. -/
def lowerNearer (v : Nat × Nat) (a : Nat) (k : Int) : Bool :=
  let twice : Nat × Nat := (2 * v.1, v.2)
  let middle := tens (2 * a + 1) k
  fracLt twice middle || (fracLe twice middle && a % 2 = 0)

/-- The best decimal with `count` digits that rounds to the magnitude, if there is one. Of the two
neighbours the nearer one is taken if it does, and else the other one. -/
def withDigits (m : Magnitude) (v : Nat × Nat) (lead : Int) (count : Nat) : Option (Nat × Int) :=
  let k := lead - (count : Int) + 1
  let a := floorTens v k
  let below := within m (tens a k) && 0 < a
  let above := within m (tens (a + 1) k)
  if below && (lowerNearer v a k || !above) then some (a, k)
  else if above then some (a + 1, k)
  else none

/-- The first count of digits, from `count` on, that has a decimal. It tries one count after
another. -/
def search (m : Magnitude) (v : Nat × Nat) (lead : Int) : Nat → Nat → Nat × Int
  | 0, count => (floorTens v (lead - (count : Int) + 1), lead - (count : Int) + 1)
  | fuel + 1, count =>
    match withDigits m v lead count with
    | some r => r
    | none => search m v lead fuel (count + 1)

/-- **The shortest decimal of a positive magnitude**, the nearest of them. Seventeen digits always
do. -/
def ofMagnitude (m : Magnitude) : ShortDecimal :=
  let v := m.toFraction
  let r := search m v (leadExponent v) 17 1
  let width : Int := (Nat.toDigits 10 r.1).length
  ⟨stripZeros 20 r.1, r.2 + width - 1⟩

end Shortest

/-! ## Layout -/

/-- Zeros in a row. -/
def zeros (n : Nat) : List Char := List.replicate n '0'

namespace ShortDecimal

/-- The digits as characters. -/
def digitChars (d : ShortDecimal) : List Char := Nat.toDigits 10 d.digits

/-- Positional notation, with a point and at least one digit on each side. A whole number is thus
seen to be a double. -/
def positional (d : ShortDecimal) : List Char :=
  let ds := d.digitChars
  if d.exponent < 0 then "0.".toList ++ zeros ((-d.exponent).toNat - 1) ++ ds
  else
    let whole := d.exponent.toNat + 1
    if ds.length ≤ whole then ds ++ zeros (whole - ds.length) ++ ".0".toList
    else ds.take whole ++ '.' :: ds.drop whole

/-- Exponent notation; the point is left out after a single digit, the exponent has its sign. -/
def exponential (d : ShortDecimal) : List Char :=
  let mantissa := match d.digitChars with
    | [] => []
    | [c] => [c]
    | c :: cs => c :: '.' :: cs
  let sign := if d.exponent < 0 then '-' else '+'
  mantissa ++ 'e' :: sign :: Nat.toDigits 10 d.exponent.natAbs

/-- **How a decimal is written**: positionally from `10 ^ -5` up to `10 ^ 16`, with an exponent
beyond. -/
def chars (d : ShortDecimal) : List Char :=
  if -5 ≤ d.exponent ∧ d.exponent < 16 then d.positional else d.exponential

end ShortDecimal

/-- The text of a double: its sign, then its shortest decimal. Zero has a text of its own, as it
owns no interval with a leading digit. -/
def Binary64.chars (x : Binary64) : List Char :=
  let body :=
    if x.magnitude.mantissa = 0 then "0.0".toList else (Shortest.ofMagnitude x.magnitude).chars
  if x.negative then '-' :: body else body

end Ingest
