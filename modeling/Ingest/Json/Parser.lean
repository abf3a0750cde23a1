import Ingest.Json.Number

/-!
# Reading JSON

The strict grammar: no comments, no trailing commas, no raw control characters in strings, and the
whole text is used up. Arrays and objects nest at most 127 deep. Of equal keys in an object the
last wins.

Every call of the readers of values works with one unit of fuel less than its caller. A reader
either cuts a character off or hands its text to one that does, so twice the length of the text is
always enough.
-/

namespace Ingest.Json

/-- The four blanks of the grammar. -/
def isSpace (c : Char) : Bool := c = ' ' || c = '\t' || c = '\n' || c = '\r'

/-- Drops blanks. Other characters of space, beyond the four, are no blanks in this grammar. -/
def skip (cs : List Char) : List Char := cs.dropWhile isSpace

/-- The text after a word. -/
def word : List Char → List Char → Option (List Char)
  | [], cs => some cs
  | w :: ws, c :: cs => if w = c then word ws cs else none
  | _ :: _, [] => none

/-! ## Strings -/

/-- The four digits of a `\u` escape, as the number they write. Letters may be of either case. -/
def hex4 (a b c d : Char) : Option Nat := do
  let a ← Digit.hex? a
  let b ← Digit.hex? b
  let c ← Digit.hex? c
  let d ← Digit.hex? d
  some (((a * 16 + b) * 16 + c) * 16 + d)

/-- The character of an escape by letter. A slash may be escaped in this way and need not be. -/
def escaped? : Char → Option Char
  | '"' => some '"'
  | '\\' => some '\\'
  | '/' => some '/'
  | 'b' => some '\x08'
  | 'f' => some '\x0c'
  | 'n' => some '\n'
  | 'r' => some '\r'
  | 't' => some '\t'
  | _ => none

/-- The first half of a surrogate pair. -/
def isHigh (n : Nat) : Bool := 0xD800 ≤ n && n < 0xDC00

/-- The second half of a surrogate pair. -/
def isLow (n : Nat) : Bool := 0xDC00 ≤ n && n < 0xE000

/-- The character of a surrogate pair. Such a pair is the one way to escape characters beyond the
first `2 ^ 16`. -/
def pairChar (high low : Nat) : Char :=
  Char.ofNat (0x10000 + (high - 0xD800) * 0x400 + (low - 0xDC00))

/-- Puts a character in front of a string that has been read. -/
def pushFront (c : Char) (r : Option (List Char × List Char)) : Option (List Char × List Char) :=
  r.map fun (s, rest) => (c :: s, rest)

/-- **The rest of a string**, up to and without its closing quote. A surrogate stands only in a
pair, and a control character does not stand in a string unless it is escaped. -/
def stringTail : List Char → Option (List Char × List Char)
  | [] => none
  | '"' :: cs => some ([], cs)
  | '\\' :: 'u' :: a :: b :: c :: d :: cs =>
    match hex4 a b c d with
    | none => none
    | some n =>
      if isLow n then none
      else if isHigh n then
        match cs with
        | '\\' :: 'u' :: e :: f :: g :: h :: cs =>
          match hex4 e f g h with
          | some m => if isLow m then pushFront (pairChar n m) (stringTail cs) else none
          | none => none
        | _ => none
      else pushFront (Char.ofNat n) (stringTail cs)
  | '\\' :: c :: cs =>
    match escaped? c with
    | some e => pushFront e (stringTail cs)
    | none => none
  | c :: cs => if c = '\\' ∨ c.toNat < 0x20 then none else pushFront c (stringTail cs)

/-! ## Values -/

mutual

/-- A value at the front of a text without leading blanks. Of its two numbers the first is fuel; the
second is how many arrays and objects may still be opened. -/
def value : Nat → Nat → List Char → Option (Json × List Char)
  | 0, _, _ => none
  | fuel + 1, depth, cs =>
    match cs with
    | '"' :: cs => (stringTail cs).map fun (s, rest) => (.str (String.ofList s), rest)
    | '[' :: cs =>
      if depth = 0 then none
      else match skip cs with
        | ']' :: rest => some (.arr [], rest)
        | cs => (elements fuel (depth - 1) cs).map fun (xs, rest) => (.arr xs, rest)
    | '{' :: cs =>
      if depth = 0 then none
      else match skip cs with
        | '}' :: rest => some (.obj [], rest)
        | cs => (members fuel (depth - 1) cs).map fun (ms, rest) => (ofMembers ms, rest)
    | 't' :: cs => (word "rue".toList cs).map fun rest => (.bool true, rest)
    | 'f' :: cs => (word "alse".toList cs).map fun rest => (.bool false, rest)
    | 'n' :: cs => (word "ull".toList cs).map fun rest => (.null, rest)
    | cs =>
      match Numeral.cut cs with
      | some (n, rest) => n.value?.map fun v => (v, rest)
      | none => none

/-- The items of an array from the first one to the closing bracket. A comma calls for another
item. -/
def elements : Nat → Nat → List Char → Option (List Json × List Char)
  | 0, _, _ => none
  | fuel + 1, depth, cs =>
    match value fuel depth cs with
    | none => none
    | some (v, cs) =>
      match skip cs with
      | ']' :: rest => some ([v], rest)
      | ',' :: cs => (elements fuel depth (skip cs)).map fun (vs, rest) => (v :: vs, rest)
      | _ => none

/-- The members of an object from the first key to the closing brace. All of them are kept here,
also those of equal keys. -/
def members : Nat → Nat → List Char → Option (List (String × Json) × List Char)
  | 0, _, _ => none
  | fuel + 1, depth, cs =>
    match cs with
    | '"' :: cs =>
      match stringTail cs with
      | none => none
      | some (k, cs) =>
        match skip cs with
        | ':' :: cs =>
          match value fuel depth (skip cs) with
          | none => none
          | some (v, cs) =>
            match skip cs with
            | '}' :: rest => some ([(String.ofList k, v)], rest)
            | ',' :: cs =>
              (members fuel depth (skip cs)).map fun (ms, rest) =>
                ((String.ofList k, v) :: ms, rest)
            | _ => none
        | _ => none
    | _ => none

end

/-- How deep arrays and objects may nest. The outermost one counts, and an empty one counts as
well. -/
def maxDepth : Nat := 127

/-- **Reads a document**: one value between blanks. What stands behind it is a fault, whatever it
is. -/
def ofChars? (cs : List Char) : Option Json :=
  match value (2 * cs.length + 2) maxDepth (skip cs) with
  | some (v, rest) => if (skip rest).isEmpty then some v else none
  | none => none

/-- Reads a document from a text. -/
def ofText? (s : String) : Option Json := ofChars? s.toList

/-! ## Passing over values

A reader that is after one member of an object has no use for the others. It passes over their
values by the grammar alone: numbers need not fit, escapes of surrogates need no partner, and
nothing limits how deep a value nests. -/

/-- The text behind the rest of a string. What the string says is not built; so its escapes have to
be well formed, but surrogates need not be in pairs. -/
def skimString : List Char → Option (List Char)
  | [] => none
  | '"' :: cs => some cs
  | '\\' :: 'u' :: a :: b :: c :: d :: cs =>
    match hex4 a b c d with
    | some _ => skimString cs
    | none => none
  | '\\' :: c :: cs =>
    match escaped? c with
    | some _ => skimString cs
    | none => none
  | c :: cs => if c = '\\' ∨ c.toNat < 0x20 then none else skimString cs

mutual

/-- The text behind a value. It is passed over by the same grammar, but with no regard to how deep
it nests or how large its numbers are. -/
def skim : Nat → List Char → Option (List Char)
  | 0, _ => none
  | fuel + 1, cs =>
    match cs with
    | '"' :: cs => skimString cs
    | '[' :: cs =>
      match skip cs with
      | ']' :: rest => some rest
      | cs => skimElements fuel cs
    | '\x7b' :: cs =>
      match skip cs with
      | '\x7d' :: rest => some rest
      | cs => skimMembers fuel cs
    | 't' :: cs => word "rue".toList cs
    | 'f' :: cs => word "alse".toList cs
    | 'n' :: cs => word "ull".toList cs
    | cs => (Numeral.cut cs).map Prod.snd

/-- The text behind the items of an array. -/
def skimElements : Nat → List Char → Option (List Char)
  | 0, _ => none
  | fuel + 1, cs =>
    match skim fuel cs with
    | none => none
    | some cs =>
      match skip cs with
      | ']' :: rest => some rest
      | ',' :: cs => skimElements fuel (skip cs)
      | _ => none

/-- The text behind the members of an object. -/
def skimMembers : Nat → List Char → Option (List Char)
  | 0, _ => none
  | fuel + 1, cs =>
    match cs with
    | '"' :: cs =>
      match skimString cs with
      | none => none
      | some cs =>
        match skip cs with
        | ':' :: cs =>
          match skim fuel (skip cs) with
          | none => none
          | some cs =>
            match skip cs with
            | '\x7d' :: rest => some rest
            | ',' :: cs => skimMembers fuel (skip cs)
            | _ => none
        | _ => none
    | _ => none

end

/-- The text behind a value, with fuel enough for it: two units for each character, and two to
begin. -/
def pass (cs : List Char) : Option (List Char) := skim (2 * cs.length + 2) cs

end Ingest.Json
