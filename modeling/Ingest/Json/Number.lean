import Ingest.Json.Basic
import Ingest.Text.Basic

/-!
# JSON numbers

A number is read in two steps: the text is cut into sign, digits, fraction digits and exponent, and
these are turned into a value. Digits are taken into a significand of 64 bits as long as they fit;
the digits after that only move the decimal point. A number beyond the largest double has no value.
-/

namespace Ingest.Json

/-- **The parts of a number's text.** The fraction and the exponent may be absent, which decides
between a whole number and a double; a point with a zero behind it makes a double. -/
structure Numeral where
  negative : Bool
  whole : List Nat
  fraction : Option (List Nat)
  exponent : Option Int

namespace Numeral

/-- The significand bound: digits are gathered in a word of 64 bits. -/
def bound : Nat := UInt64.size

/-- Takes digits while they fit; returns the digits that were not taken. The first one that does not
fit ends the taking, also if a later one would. -/
def gather : Nat → List Nat → Nat × List Nat
  | n, [] => (n, [])
  | n, d :: ds => if n * 10 + d < bound then gather (n * 10 + d) ds else (n, d :: ds)

/-- The significand and the decimal exponent of the digits around the point. A digit in front of it
that was not taken raises the exponent, and one behind it that was taken lowers it. -/
def scale (whole fraction : List Nat) : Nat × Int :=
  let w := gather 0 whole
  let f := gather w.1 fraction
  (f.1, (w.2.length : Int) - ((fraction.length : Int) - (f.2.length : Int)))

/-- The whole number, if the text has neither fraction nor exponent and fits 64 bits; a negative
zero is none. -/
def int? (n : Numeral) : Option Int :=
  match n.fraction, n.exponent with
  | none, none =>
    match gather 0 n.whole with
    | (m, []) =>
      if n.negative then
        if m ≠ 0 ∧ leastInt ≤ -(m : Int) then some (-(m : Int)) else none
      else some m
    | _ => none
  | _, _ => none

/-- The double, if there is one. Only a number that is too large has none; one that is too small is
zero. -/
def float? (n : Numeral) : Option Binary64 :=
  let s := scale n.whole (n.fraction.getD [])
  (Magnitude.ofDecimal s.1 (s.2 + n.exponent.getD 0)).map (⟨n.negative, ·⟩)

/-- **The value of a number**: a whole one if its text says so and it is in range, otherwise a
double. -/
def value? (n : Numeral) : Option Json :=
  match n.int? with
  | some i => some (.int i)
  | none => n.float?.map .float

/-! ## Cutting the text -/

/-- The digits in front of a text, by their values, and the text behind them. -/
def digits : List Char → List Nat × List Char
  | [] => ([], [])
  | c :: cs =>
    match Digit.decimal? c with
    | some d => let r := digits cs; (d :: r.1, r.2)
    | none => ([], c :: cs)

/-- One digit or more. The grammar asks for this in front of a point, behind it and in an
exponent. -/
def digits1 (cs : List Char) : Option (List Nat × List Char) :=
  match digits cs with
  | ([], _) => none
  | r => some r

/-- The digits of a whole part: a zero stands alone. More digits behind a zero are a fault, and not
another number. -/
def wholePart (cs : List Char) : Option (List Nat × List Char) :=
  match digits1 cs with
  | some (0 :: _ :: _, _) => none
  | r => r

/-- An optional fraction. A point has to have a digit behind it. -/
def fractionPart : List Char → Option (Option (List Nat) × List Char)
  | '.' :: cs => (digits1 cs).map fun r => (some r.1, r.2)
  | cs => some (none, cs)

/-- The sign in front of an exponent. -/
def exponentSign : List Char → Bool × List Char
  | '-' :: cs => (true, cs)
  | '+' :: cs => (false, cs)
  | cs => (false, cs)

/-- An optional exponent, which may have a sign. Behind its letter there has to be a digit. -/
def exponentPart : List Char → Option (Option Int × List Char)
  | c :: cs =>
    if c = 'e' ∨ c = 'E' then
      let s := exponentSign cs
      (digits1 s.2).map fun r =>
        let n : Int := Digit.number 10 r.1
        (some (if s.1 then -n else n), r.2)
    else some (none, c :: cs)
  | [] => some (none, [])

/-- **Cuts a number off the front of a text.** As much as can belong to the number is taken, so what
is left does not begin with a digit. -/
def cut (cs : List Char) : Option (Numeral × List Char) :=
  let signed : Bool × List Char := match cs with
    | '-' :: rest => (true, rest)
    | _ => (false, cs)
  do
    let (whole, cs) ← wholePart signed.2
    let (fraction, cs) ← fractionPart cs
    let (exponent, cs) ← exponentPart cs
    some (⟨signed.1, whole, fraction, exponent⟩, cs)

end Numeral

end Ingest.Json
