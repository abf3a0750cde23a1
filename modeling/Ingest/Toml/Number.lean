import Ingest.Text.Basic
import Ingest.Toml.Value

/-!
# Numbers of TOML

Whole numbers are decimal with an optional sign, or unsigned in base 16, 8 or 2; reals have a
fraction, an exponent or both. One underscore may stand between two digits. A decimal number does
not start with a superfluous zero, a fraction or an exponent may.
-/

namespace Ingest.Toml.Number

/-- More digits after a first one. An underscore needs a digit behind it, and so never stands at the
end or beside another. -/
def moreDigits (base : Nat) : List Char → Option (List Nat × List Char)
  | [] => some ([], [])
  | '_' :: c :: cs =>
    match Digit.inBase? base c with
    | some d => (moreDigits base cs).map fun (ds, rest) => (d :: ds, rest)
    | none => none
  | ['_'] => none
  | c :: cs =>
    match Digit.inBase? base c with
    | some d => (moreDigits base cs).map fun (ds, rest) => (d :: ds, rest)
    | none => some ([], c :: cs)

/-- One digit or more, zeros in front allowed. -/
def digits (base : Nat) : List Char → Option (List Nat × List Char)
  | [] => none
  | c :: cs =>
    match Digit.inBase? base c with
    | some d => (moreDigits base cs).map fun (ds, rest) => (d :: ds, rest)
    | none => none

/-- The digits of a decimal number: a zero stands alone. Here zeros in front are refused, which in
an exponent are allowed. -/
def plainDigits : List Char → Option (List Nat × List Char)
  | '0' :: cs => some ([0], cs)
  | cs => digits 10 cs

/-- An optional sign; true for a minus. -/
def sign : List Char → Bool × List Char
  | '-' :: cs => (true, cs)
  | '+' :: cs => (false, cs)
  | cs => (false, cs)

/-- A whole number that fits. One that does not is a fault and never a real. -/
def int? (n : Int) : Option Value :=
  if leastInt ≤ n ∧ n < intBound then some (.int n) else none

/-- A whole number without a sign in another base. Digits above nine may be of either case. -/
def based (base : Nat) (cs : List Char) : Option (Value × List Char) := do
  let (ds, rest) ← digits base cs
  let v ← int? (Digit.number base ds)
  some (v, rest)

/-- A whole number, in one of the four bases, as the letter behind a zero says. -/
def whole : List Char → Option (Value × List Char)
  | '0' :: 'x' :: cs => based 16 cs
  | '0' :: 'o' :: cs => based 8 cs
  | '0' :: 'b' :: cs => based 2 cs
  | cs => do
    let s := sign cs
    let (ds, rest) ← plainDigits s.2
    let n : Int := Digit.number 10 ds
    let v ← int? (if s.1 then -n else n)
    some (v, rest)

/-! ## Reals -/

/-- A magnitude whose leading digit is beyond this place is off the scale of doubles. So powers of
ten need not be formed that no double comes near to. -/
def placeLimit : Int := 400

/-- The double nearest to `significand · 10 ^ exponent`, if there is one. It is rounded once, from
the exact fraction. -/
def nearest (significand : Nat) (exponent : Int) : Option Magnitude :=
  let place : Int := (Nat.toDigits 10 significand).length + exponent
  if significand = 0 ∨ place < -placeLimit then some Magnitude.zero
  else if placeLimit < place then none
  else if 0 ≤ exponent then Magnitude.ofFraction (significand * Nat.pow 10 exponent.toNat) 1
  else Magnitude.ofFraction significand (Nat.pow 10 (-exponent).toNat)

/-- The real of a decimal. Beyond the largest double there are only negative ones. -/
def real? (negative : Bool) (significand : Nat) (exponent : Int) : Option Value :=
  match nearest significand exponent with
  | some m => some (.real (.finite ⟨negative, m⟩))
  | none => if negative then some (.real (.infinite true)) else none

/-- The fraction behind a point, which has a digit at least. -/
def fraction : List Char → Option (List Nat × List Char)
  | '.' :: cs => digits 10 cs
  | _ => none

/-- The exponent behind its letter. -/
def exponent : List Char → Option (Int × List Char)
  | [] => none
  | c :: cs =>
    if c = 'e' ∨ c = 'E' then do
      let s := sign cs
      let (ds, rest) ← digits 10 s.2
      let n : Int := Digit.number 10 ds
      some (if s.1 then -n else n, rest)
    else none

/-- Whether an exponent begins. -/
def beginsExponent : List Char → Bool
  | c :: _ => c = 'e' || c = 'E'
  | [] => false

/-- A decimal with a fraction, an exponent or both. Without either it would be a whole number. -/
def decimal (cs : List Char) : Option (Value × List Char) := do
  let s := sign cs
  let (ds, cs) ← plainDigits s.2
  match cs with
  | '.' :: _ =>
    let (fs, cs) ← fraction cs
    let (e, rest) ← if beginsExponent cs then exponent cs else some (0, cs)
    let v ← real? s.1 (Digit.number 10 (ds ++ fs)) (e - fs.length)
    some (v, rest)
  | _ =>
    let (e, rest) ← exponent cs
    let v ← real? s.1 (Digit.number 10 ds) e
    some (v, rest)

/-- The reals that have names, with a sign in front or without. -/
def named (cs : List Char) : Option (Value × List Char) :=
  let s := sign cs
  match s.2 with
  | 'i' :: 'n' :: 'f' :: rest => some (.real (.infinite s.1), rest)
  | 'n' :: 'a' :: 'n' :: rest => some (.real .nan, rest)
  | _ => none

/-- **Cuts a number or a date off the front of a text.** A date is tried first: it begins like a
number, and a number would be cut from it that is not meant. -/
def cut (cs : List Char) : Option (Value × List Char) :=
  match DateTime.cut cs with
  | some (d, rest) => some (.date d, rest)
  | none =>
    match decimal cs with
    | some r => some r
    | none =>
      match named cs with
      | some r => some r
      | none => whole cs

end Ingest.Toml.Number
