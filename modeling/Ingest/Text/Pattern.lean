import Ingest.Text.Basic

/-!
# Patterns

Which texts are patterns, that is regular expressions: alternatives, groups, classes of characters
in brackets, and signs of repetition behind what they repeat. Counts in braces are no part of this
form, and neither are classes and edges of words that only a table of properties could decide; a
text that uses them is no pattern.
-/

namespace Ingest.Pattern

/-! ## Single characters -/

/-- Whether a character stands for itself behind a backslash. Letters do not, since they are kept
for escapes; nor do two signs that mark edges of words. -/
def isEscapable (c : Char) : Bool := c.toNat < 0x80 && !c.isAlphanum && c ≠ '<' && c ≠ '>'

/-- The character with a number of exactly `n` hexadecimal digits. A number of no character is a
fault. -/
def numbered? (n : Nat) (cs : List Char) : Option (Char × List Char) :=
  (Digit.fixed 16 n 0 cs).bind fun (k, rest) =>
    if k.isValidChar then some (Char.ofNat k, rest) else none

/-- The character behind a backslash. What is no escape in this list and cannot stand for itself is
a fault. -/
def escaped? : List Char → Option (Char × List Char)
  | [] => none
  | 'x' :: cs => numbered? 2 cs
  | 'u' :: cs => numbered? 4 cs
  | 'U' :: cs => numbered? 8 cs
  | 'a' :: cs => some ('\x07', cs)
  | 'f' :: cs => some ('\x0c', cs)
  | 't' :: cs => some ('\t', cs)
  | 'n' :: cs => some ('\n', cs)
  | 'r' :: cs => some ('\r', cs)
  | 'v' :: cs => some ('\x0b', cs)
  | c :: cs => if isEscapable c then some (c, cs) else none

/-- The text behind an escape outside a class, which may also name an end of the text. -/
def afterEscape? : List Char → Option (List Char)
  | 'A' :: cs => some cs
  | 'z' :: cs => some cs
  | cs => (escaped? cs).map (·.2)

/-! ## Classes -/

/-- The names of classes. -/
def classNames : List String := ["alnum", "alpha", "ascii", "blank", "cntrl", "digit", "graph",
  "lower", "print", "punct", "space", "upper", "word", "xdigit"]

/-- The text behind a named class, whose bracket and colon have been read. A name that is not known
makes it no named class. -/
def afterNamed? (cs : List Char) : Option (List Char) :=
  let cs := match cs with
    | '^' :: cs => cs
    | cs => cs
  match cs.dropWhile (· ≠ ':') with
  | ':' :: ']' :: rest =>
    if classNames.contains (String.ofList (cs.takeWhile (· ≠ ':'))) then some rest else none
  | _ => none

/-- The text behind the signs with a meaning of their own at the beginning of a class. A bracket or
hyphens stand for themselves there. -/
def afterOpening (cs : List Char) : List Char :=
  let cs := match cs with
    | '^' :: cs => cs
    | cs => cs
  match cs with
  | ']' :: cs => cs
  | cs => cs.dropWhile (· = '-')

/-- One character of a class. Of the signs in it only the backslash has a meaning here. -/
def member? : List Char → Option (Char × List Char)
  | [] => none
  | '\\' :: cs => escaped? cs
  | c :: cs => some (c, cs)

/-- The text behind a character of a class or a range of them. A range may not run backwards. -/
def afterMembers? (cs : List Char) : Option (List Char) :=
  match member? cs with
  | none => none
  | some (a, '-' :: rest) =>
    if rest.head? = some ']' || rest.head? = some '-' then some ('-' :: rest)
    else (member? rest).bind fun (b, rest) => if a ≤ b then some rest else none
  | some (_, rest) => some rest

/-- The text behind a class, `depth` of whose inner classes are open. Every step takes a character
at least. -/
def afterClass? : Nat → Nat → List Char → Option (List Char)
  | 0, _, _ => none
  | _ + 1, _, [] => none
  | fuel + 1, depth, ']' :: cs => if depth = 0 then some cs else afterClass? fuel (depth - 1) cs
  | fuel + 1, depth, '[' :: ':' :: cs =>
    match afterNamed? cs with
    | some rest => afterClass? fuel depth rest
    | none => afterClass? fuel (depth + 1) (afterOpening (':' :: cs))
  | fuel + 1, depth, '[' :: cs => afterClass? fuel (depth + 1) (afterOpening cs)
  | fuel + 1, depth, '&' :: '&' :: cs => afterClass? fuel depth cs
  | fuel + 1, depth, '-' :: '-' :: cs => afterClass? fuel depth cs
  | fuel + 1, depth, '~' :: '~' :: cs => afterClass? fuel depth cs
  | fuel + 1, depth, cs => (afterMembers? cs).bind (afterClass? fuel depth)

/-! ## Groups -/

/-- Whether a character can be in the name of a group. The first one has to be a letter or a low
line. -/
def isNameChar (c : Char) : Bool := c.isAlphanum || "_.[]".toList.contains c

/-- The text behind the name of a group. -/
def afterName? (cs : List Char) : Option (List Char) :=
  let name := cs.takeWhile (· ≠ '>')
  match cs.dropWhile (· ≠ '>') with
  | _ :: rest =>
    if name.head?.any (fun c => c.isAlpha || c = '_') && name.all isNameChar then some rest
    else none
  | [] => none

/-- Whether signs are flags: each once, perhaps with a hyphen in front of some. Letters are not
compared without regard to their case, which takes a table. -/
def areFlags (cs : List Char) : Bool :=
  cs ≠ [] && cs.getLast? ≠ some '-' && cs.all ("-imsUuxR".toList.contains ·) &&
    cs.all (cs.count · = 1) && !(cs.takeWhile (· ≠ '-')).contains 'i'

/-- What stands behind the bracket of a group: whether a group is open, and the rest. -/
def afterGroupHead? : List Char → Option (Bool × List Char)
  | '?' :: 'P' :: '<' :: cs => (afterName? cs).map (true, ·)
  | '?' :: '<' :: cs => (afterName? cs).map (true, ·)
  | '?' :: ':' :: cs => some (true, cs)
  | '?' :: cs =>
    let isEnd (c : Char) : Bool := c = ':' || c = ')'
    match cs.dropWhile (!isEnd ·) with
    | c :: rest => if areFlags (cs.takeWhile (!isEnd ·)) then some (c = ':', rest) else none
    | [] => none
  | cs => some (true, cs)

/-! ## Whole patterns -/

/-- Reads a pattern with `depth` open groups; `full` says whether there is something to repeat.
Every step takes a character at least. -/
def reads : Nat → Nat → Bool → List Char → Bool
  | 0, _, _, _ => false
  | _ + 1, depth, _, [] => depth = 0
  | fuel + 1, depth, full, c :: cs =>
    match c with
    | '(' =>
      match afterGroupHead? cs with
      | some (opens, rest) => reads fuel (if opens then depth + 1 else depth) false rest
      | none => false
    | ')' => 0 < depth && reads fuel (depth - 1) true cs
    | '|' => reads fuel depth false cs
    | '*' => full && reads fuel depth true cs
    | '+' => full && reads fuel depth true cs
    | '?' => full && reads fuel depth true cs
    | '\x7b' => false
    | '[' => (afterClass? (cs.length + 1) 0 (afterOpening cs)).any (reads fuel depth true)
    | '\\' => (afterEscape? cs).any (reads fuel depth true)
    | _ => reads fuel depth true cs

/-- **Whether a text is a pattern.** It is never matched against anything: a filter only has to be
one. -/
def isPattern (cs : List Char) : Bool := reads (cs.length + 1) 0 false cs

end Ingest.Pattern
