/-!
# Characters of texts

What the readers of texts share: blanks and how they are trimmed and shown, digits and the numbers
that rows of digits write, and numerals that are read as counts.
-/

/-! ## Blanks

The White_Space property of Unicode, trimming by it, and the quoted form in which a blank text is
shown: a text of nothing but blanks is invisible unless its characters are named. -/

namespace Ingest

/-- The property White_Space, which has blanks beyond ASCII. A reader of JSON has fewer. -/
def isBlank (c : Char) : Bool :=
  let n := c.toNat
  (0x09 ≤ n && n ≤ 0x0D) || n == 0x20 || n == 0x85 || n == 0xA0 || n == 0x1680 ||
    (0x2000 ≤ n && n ≤ 0x200A) || n == 0x2028 || n == 0x2029 || n == 0x202F || n == 0x205F ||
    n == 0x3000

/-- Drops the characters that satisfy `p` from the end. -/
def dropEndWhile (p : Char → Bool) (cs : List Char) : List Char :=
  (cs.reverse.dropWhile p).reverse

/-- Drops blanks from both ends. Blanks in between are left, and a text of blanks becomes empty. -/
def trimBlanks (cs : List Char) : List Char :=
  dropEndWhile isBlank (cs.dropWhile isBlank)

/-- Drops blanks from both ends of a text. -/
def trim (s : String) : String :=
  String.ofList (trimBlanks s.toList)

/-- A text of nothing but blanks. The empty text is one. -/
def blankText (s : String) : Bool :=
  s.toList.all isBlank

/-! ### Showing blanks -/

/-- A number in lower-case hexadecimal. -/
def hexText (n : Nat) : String := String.ofList (Nat.toDigits 16 n)

/-- A character as it stands inside quotes: printable ASCII as it is, the three line and tab
characters by their letters, every other one by number. -/
def quotedChar (c : Char) : String :=
  if c = '\t' then "\\t"
  else if c = '\n' then "\\n"
  else if c = '\r' then "\\r"
  else if c = '"' then "\\\""
  else if c = '\\' then "\\\\"
  else if 0x20 ≤ c.toNat ∧ c.toNat < 0x7F then c.toString
  else "\\u\x7b" ++ hexText c.toNat ++ "\x7d"

/-- A text in quotes, as it stands in a message, where blanks around it can be seen. -/
def quoted (s : String) : String :=
  "\"" ++ String.join (s.toList.map quotedChar) ++ "\""

end Ingest

/-! ## Digits

The values of digits in bases up to 16, the numbers that rows of digits write, and single digits
written. Reading does not care about the case of a letter; writing chooses one. -/

namespace Ingest.Digit

/-- The value of a decimal digit. -/
def decimal? (c : Char) : Option Nat :=
  if '0' ≤ c ∧ c ≤ '9' then some (c.toNat - '0'.toNat) else none

/-- The value of a hexadecimal digit. -/
def hex? (c : Char) : Option Nat :=
  if '0' ≤ c ∧ c ≤ '9' then some (c.toNat - '0'.toNat)
  else if 'a' ≤ c ∧ c ≤ 'f' then some (c.toNat - 'a'.toNat + 10)
  else if 'A' ≤ c ∧ c ≤ 'F' then some (c.toNat - 'A'.toNat + 10)
  else none

/-- The value of a digit in a base up to 16. The digits of a smaller base are the first of the
larger. -/
def inBase? (base : Nat) (c : Char) : Option Nat := (hex? c).filter (· < base)

/-- **The number that digits write**, the leading one first. Without digits it is zero, so readers
ask for one before. -/
def number (base : Nat) (ds : List Nat) : Nat := ds.foldl (fun n d => n * base + d) 0

/-- A number of exactly `n` digits, read onto `acc`, and the text behind it. A further digit is left
to the text. -/
def fixed (base : Nat) : Nat → Nat → List Char → Option (Nat × List Char)
  | 0, acc, cs => some (acc, cs)
  | _ + 1, _, [] => none
  | n + 1, acc, c :: cs =>
    match inBase? base c with
    | some d => fixed base n (acc * base + d) cs
    | none => none

/-- A digit with a small letter beyond nine. -/
def lower (n : Nat) : Char := if n < 10 then Char.ofNat (0x30 + n) else Char.ofNat (0x61 + n - 10)

/-- A digit with a capital beyond nine. -/
def upper (n : Nat) : Char := if n < 10 then Char.ofNat (0x30 + n) else Char.ofNat (0x41 + n - 10)

theorem hex?_lower (n : Fin 16) : hex? (lower n) = some n.val := by
  revert n; decide

end Ingest.Digit

/-! ## Decimal numerals

Reading a count from text. The digits are taken from the left, and the first thing that goes wrong
decides the fault: a character that is no digit, or a value that leaves the range. -/

namespace Ingest

namespace Numeral

/-- Why a text is no numeral of the range. They are told apart in the wording only. -/
inductive Fault where
  | empty
  | invalidDigit
  | tooLarge
  deriving DecidableEq, Repr

/-- The wording of a fault. -/
def Fault.message : Fault → String
  | .empty => "cannot parse integer from empty string"
  | .invalidDigit => "invalid digit found in string"
  | .tooLarge => "number too large to fit in target type"

/-- Reads digits onto a value below `bound`. The first digit at fault is told, so a number that is
too large is told before a letter further behind. -/
def readDigits (bound : Nat) : Nat → List Char → Except Fault Nat
  | n, [] => .ok n
  | n, c :: cs =>
    match Digit.decimal? c with
    | none => .error .invalidDigit
    | some d => if n * 10 + d < bound then readDigits bound (n * 10 + d) cs else .error .tooLarge

/-- Reads a numeral below `bound`; one `+` may stand in front of the digits. There is no sign for
numbers below zero, and nothing is trimmed. -/
def readChars (bound : Nat) : List Char → Except Fault Nat
  | [] => .error .empty
  | ['+'] => .error .invalidDigit
  | '+' :: cs => readDigits bound 0 cs
  | cs => readDigits bound 0 cs

/-- Reads a count of 64 bits, as the settings have them. -/
def read64 (s : String) : Except Fault Nat := readChars UInt64.size s.toList

end Numeral

end Ingest
