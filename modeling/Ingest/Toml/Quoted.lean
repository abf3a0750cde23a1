import Ingest.Text.Basic

/-!
# Strings of TOML

Four kinds: basic and literal, each on one line or on several. Control characters other than the
tab are refused everywhere; a line end is written as a line feed whichever way it stood in the
text. In a basic string of several lines a backslash at the end of a line swallows the blanks and
line ends after it.
-/

namespace Ingest.Toml.Quoted

/-- Whether a character may stand in a line of text: a tab or no control character. -/
def isPrintable (c : Char) : Bool := c = '\t' || (0x20 ≤ c.toNat && c.toNat ≠ 0x7F)

/-- A blank within a line. A line end is none, and no other space is one either. -/
def isBlank (c : Char) : Bool := c = ' ' || c = '\t'

/-- The text after a line end. A carriage return is one only with a line feed behind it. -/
def lineEnd : List Char → Option (List Char)
  | '\n' :: cs => some cs
  | '\r' :: '\n' :: cs => some cs
  | _ => none

/-- Drops blanks and line ends. -/
def skipLines : List Char → List Char
  | '\r' :: '\n' :: cs => skipLines cs
  | c :: cs => if isBlank c || c = '\n' then skipLines cs else c :: cs
  | [] => []

/-- The character of a number, if it is one. -/
def charOf? (n : Nat) : Option Char := if n.isValidChar then some (Char.ofNat n) else none

/-- The character that an escape stands for; the text begins after the backslash. A number that is
no character is a fault. -/
def escaped : List Char → Option (Char × List Char)
  | 'b' :: cs => some ('\x08', cs)
  | 't' :: cs => some ('\t', cs)
  | 'n' :: cs => some ('\n', cs)
  | 'f' :: cs => some ('\x0c', cs)
  | 'r' :: cs => some ('\r', cs)
  | '"' :: cs => some ('"', cs)
  | '\\' :: cs => some ('\\', cs)
  | 'u' :: cs => do
    let (n, rest) ← Digit.fixed 16 4 0 cs
    let c ← charOf? n
    some (c, rest)
  | 'U' :: cs => do
    let (n, rest) ← Digit.fixed 16 8 0 cs
    let c ← charOf? n
    some (c, rest)
  | _ => none

/-- The rest of a basic string, up to its closing quote on the same line. -/
def basic : Nat → List Char → Option (List Char × List Char)
  | 0, _ => none
  | _ + 1, [] => none
  | _ + 1, '"' :: cs => some ([], cs)
  | fuel + 1, '\\' :: cs => do
    let (c, cs) ← escaped cs
    let (s, rest) ← basic fuel cs
    some (c :: s, rest)
  | fuel + 1, c :: cs =>
    if isPrintable c then (basic fuel cs).map fun (s, rest) => (c :: s, rest) else none

/-- The rest of a literal string. Nothing in it is an escape, so a quote cannot be in it. -/
def literal : List Char → Option (List Char × List Char)
  | [] => none
  | '\'' :: cs => some ([], cs)
  | c :: cs => if isPrintable c then (literal cs).map fun (s, rest) => (c :: s, rest) else none

/-- The quotes in front of a text: how many, and the text behind them. -/
def countQuotes (q : Char) : List Char → Nat × List Char
  | [] => (0, [])
  | c :: cs => if c = q then let r := countQuotes q cs; (r.1 + 1, r.2) else (0, c :: cs)

/-- What a run of quotes does in a string of several lines: one or two are text, three close the
string, and one or two more stand in front of the closing ones. -/
inductive Run where
  | text (n : Nat)
  | closes (n : Nat)
  | tooLong

/-- The meaning of a run of `n` quotes. -/
def runOf (n : Nat) : Run :=
  if n < 3 then .text n else if n ≤ 5 then .closes (n - 3) else .tooLong

/-- Whether a backslash ends its line: the blanks behind it are followed by a line end. Empty lines
behind that are swallowed as well. -/
def swallowed (cs : List Char) : Option (List Char) :=
  (lineEnd (cs.dropWhile isBlank)).map skipLines

/-- The rest of a basic string of several lines. Quotes in it are counted in runs. -/
def multiBasic : Nat → List Char → Option (List Char × List Char)
  | 0, _ => none
  | _ + 1, [] => none
  | fuel + 1, '"' :: cs =>
    let r := countQuotes '"' cs
    match runOf (r.1 + 1) with
    | .text n => (multiBasic fuel r.2).map fun (s, rest) => (List.replicate n '"' ++ s, rest)
    | .closes n => some (List.replicate n '"', r.2)
    | .tooLong => none
  | fuel + 1, '\\' :: cs =>
    match swallowed cs with
    | some cs => multiBasic fuel cs
    | none => do
      let (c, cs) ← escaped cs
      let (s, rest) ← multiBasic fuel cs
      some (c :: s, rest)
  | fuel + 1, c :: cs =>
    match lineEnd (c :: cs) with
    | some cs => (multiBasic fuel cs).map fun (s, rest) => ('\n' :: s, rest)
    | none =>
      if isPrintable c then (multiBasic fuel cs).map fun (s, rest) => (c :: s, rest) else none

/-- The rest of a literal string of several lines. -/
def multiLiteral : Nat → List Char → Option (List Char × List Char)
  | 0, _ => none
  | _ + 1, [] => none
  | fuel + 1, '\'' :: cs =>
    let r := countQuotes '\'' cs
    match runOf (r.1 + 1) with
    | .text n => (multiLiteral fuel r.2).map fun (s, rest) => (List.replicate n '\'' ++ s, rest)
    | .closes n => some (List.replicate n '\'', r.2)
    | .tooLong => none
  | fuel + 1, c :: cs =>
    match lineEnd (c :: cs) with
    | some cs => (multiLiteral fuel cs).map fun (s, rest) => ('\n' :: s, rest)
    | none =>
      if isPrintable c then (multiLiteral fuel cs).map fun (s, rest) => (c :: s, rest) else none

/-- The text without a line end in front: one right after the opening quotes does not count. -/
def openingLine (cs : List Char) : List Char := (lineEnd cs).getD cs

/-- **Cuts a string off the front of a text**, of whichever of the four kinds its first quotes
begin. -/
def cut : List Char → Option (List Char × List Char)
  | '"' :: '"' :: '"' :: cs => multiBasic (cs.length + 1) (openingLine cs)
  | '"' :: cs => basic (cs.length + 1) cs
  | '\'' :: '\'' :: '\'' :: cs => multiLiteral (cs.length + 1) (openingLine cs)
  | '\'' :: cs => literal cs
  | _ => none

end Ingest.Toml.Quoted
