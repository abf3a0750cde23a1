/-!
# Punycode

A label with characters beyond ASCII is written as its ASCII characters followed by a sequence of
numbers that says where the others go. The numbers are written in base 36 with digits of varying
weight; the weights adapt to the sizes seen so far.
-/

namespace Ingest.Url.Punycode

/-- The greatest threshold of a digit. -/
def maxThreshold : Nat := 26

/-- The letter of a digit: letters come first, and the ten figures behind them. -/
def digitChar (n : Nat) : Char :=
  if n < 26 then Char.ofNat (0x61 + n) else Char.ofNat (0x30 + (n - 26))

/-- The digit of a letter. -/
def digit? (c : Char) : Option Nat :=
  if 'a' ≤ c ∧ c ≤ 'z' then some (c.toNat - 'a'.toNat)
  else if 'A' ≤ c ∧ c ≤ 'Z' then some (c.toNat - 'A'.toNat)
  else if '0' ≤ c ∧ c ≤ '9' then some (c.toNat - '0'.toNat + 26)
  else none

/-- Scales a number down until it is small, counting the steps. The constants are those of the
standard. -/
def scaleDown : Nat → Nat → Nat → Nat
  | 0, k, delta => k + 36 * delta / (delta + 38)
  | fuel + 1, k, delta =>
    if 455 < delta then scaleDown fuel (k + 36) (delta / 35) else k + 36 * delta / (delta + 38)

/-- The next bias, from how far the last step went. The first step counts for less. -/
def adapt (delta points : Nat) (first : Bool) : Nat :=
  let delta := if first then delta / 700 else delta / 2
  scaleDown 64 0 (delta + delta / points)

/-- The threshold of the digit at position `k`. A digit below its threshold is the last one of a
number. -/
def threshold (k bias : Nat) : Nat :=
  if k ≤ bias + 1 then 1 else if bias + maxThreshold ≤ k then maxThreshold else k - bias

/-- The digits of a number, the one of the least weight first. -/
def writeNumber (bias : Nat) : Nat → Nat → Nat → List Char
  | 0, _, q => [digitChar q]
  | fuel + 1, k, q =>
    let t := threshold k bias
    if q < t then [digitChar q]
    else digitChar (t + (q - t) % (36 - t)) :: writeNumber bias fuel (k + 36) ((q - t) / (36 - t))

/-- Where the writer stands: how far the next number reaches so far, how its digits are weighted,
and how many characters have been placed. -/
structure State where
  delta : Nat
  bias : Nat
  done : Nat

/-- Writes the positions of one code point; `basic` is the number of ASCII characters. -/
def writePoint (basic n : Nat) : List Char → State → List Char × State
  | [], s => ([], s)
  | c :: cs, s =>
    if c.toNat < n then writePoint basic n cs { s with delta := s.delta + 1 }
    else if c.toNat = n then
      let ds := writeNumber s.bias 64 36 s.delta
      let r := writePoint basic n cs
        ⟨0, adapt s.delta (s.done + 1) (s.done = basic), s.done + 1⟩
      (ds ++ r.1, r.2)
    else writePoint basic n cs s

/-- Writes code point after code point; `n` is the least one that is not written. -/
def writePoints (basic : Nat) (cs : List Char) : List Nat → Nat → State → List Char
  | [], _, _ => []
  | m :: ms, n, s =>
    let r := writePoint basic m cs { s with delta := s.delta + (m - n) * (s.done + 1) }
    r.1 ++ writePoints basic cs ms (m + 1) { r.2 with delta := r.2.delta + 1 }

/-- Puts a number into an ascending list without repetition. -/
def insertNat (n : Nat) : List Nat → List Nat
  | [] => [n]
  | m :: ms => if n < m then n :: m :: ms else if n = m then m :: ms else m :: insertNat n ms

/-- **The Punycode of a label.** The ASCII characters stand in front, with a hyphen behind them if
there are any. -/
def encode (cs : List Char) : List Char :=
  let ascii := cs.filter (·.toNat < 0x80)
  let others := (cs.filter (0x80 ≤ ·.toNat)).foldl (fun ns c => insertNat c.toNat ns) []
  let front := if ascii.isEmpty then [] else ascii ++ ['-']
  front ++ writePoints ascii.length cs others 0x80 ⟨0, 72, ascii.length⟩

/-! ## Decoding -/

/-- A number and the text behind it. A text that ends inside a number is a fault. -/
def readNumber (bias : Nat) : Nat → Nat → Nat → List Char → Option (Nat × List Char)
  | _, _, _, [] => none
  | i, w, k, c :: cs =>
    match digit? c with
    | none => none
    | some d =>
      let t := threshold k bias
      let i := i + d * w
      if d < t then some (i, cs) else readNumber bias i (w * (36 - t)) (k + 36) cs

/-- Puts a character at a position. -/
def insertAt (i : Nat) (c : Char) (cs : List Char) : List Char := cs.take i ++ c :: cs.drop i

/-- Puts the characters of a sequence of numbers into a text. A number says both the next code point
and the place for it. -/
def readPoints : Nat → Nat → Nat → Nat → List Char → List Char → Option (List Char)
  | _, _, _, _, [], out => some out
  | 0, _, _, _, _, _ => none
  | fuel + 1, n, i, bias, cs, out =>
    match readNumber bias i 1 36 cs with
    | none => none
    | some (j, rest) =>
      let size := out.length + 1
      let m := n + j / size
      if m.isValidChar then
        readPoints fuel m (j % size + 1) (adapt (j - i) size (i = 0)) rest
          (insertAt (j % size) (Char.ofNat m) out)
      else none

/-- The parts of a Punycode text around its last hyphen. -/
def splitLast (cs : List Char) : List Char × List Char :=
  let tail := (cs.reverse.takeWhile (· ≠ '-')).reverse
  if tail.length = cs.length then ([], cs) else (cs.take (cs.length - tail.length - 1), tail)

/-- **The label of a Punycode text**, if it is one. Several texts may be read as one label; only one
of them is written for it. -/
def decode? (cs : List Char) : Option (List Char) :=
  let p := splitLast cs
  if p.1.all (·.toNat < 0x80) then readPoints cs.length 0x80 0 72 p.2 p.1 else none

end Ingest.Url.Punycode
