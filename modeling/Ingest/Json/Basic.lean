import Ingest.Keyed
import Ingest.Decimal.Binary64
import Ingest.Text.Basic
import Ingest.Decimal.Shortest

/-!
# JSON values and their texts

The value of a JSON document. Whole numbers that fit 64 bits stay whole, signed or not; every other
number is a double. An object that is read has its members in the order of their keys, each key
once; an object that is written keeps the order it was given.

A document is written in two layouts: compact, and indented with a value to a line. Strings escape
what the grammar forbids and nothing more.
-/

namespace Ingest

/-- A JSON value. The two kinds of numbers are told apart, since whole numbers of 64 bits have to
come back as they were and no double holds all of them. -/
inductive Json where
  | null
  | bool (b : Bool)
  | int (n : Int)
  | float (x : Binary64)
  | str (s : String)
  | arr (items : List Json)
  | obj (members : List (String × Json))
  deriving Inhabited

namespace Json

/-- The value under a key of an object. A value that is no object has none. -/
def field? (k : String) : Json → Option Json
  | .obj ms => Keyed.find? k ms
  | _ => none

/-- The text of a string value. -/
def text? : Json → Option String
  | .str s => some s
  | _ => none

/-- The items of an array. -/
def items? : Json → Option (List Json)
  | .arr xs => some xs
  | _ => none

/-- The least whole number that is read as such. -/
def leastInt : Int := Int64.minValue.toInt

/-- The first whole number that is too large to be read as such. -/
def intBound : Int := UInt64.size

/-- An object from its members in any order; of equal keys the last wins. What is read goes through
here, so an object that was read is sorted. -/
def ofMembers (ms : List (String × Json)) : Json := .obj (Keyed.ofEntries ms)

end Json

end Ingest

/-! ## Writing -/

namespace Ingest.Json

/-- A character inside a string. It is escaped only if it has to be: a letter beyond ASCII stands as
it is, and so does a slash. -/
def escape (c : Char) : List Char :=
  if c = '"' then ['\\', '"']
  else if c = '\\' then ['\\', '\\']
  else if c = '\x08' then ['\\', 'b']
  else if c = '\t' then ['\\', 't']
  else if c = '\n' then ['\\', 'n']
  else if c = '\x0c' then ['\\', 'f']
  else if c = '\r' then ['\\', 'r']
  else if c.toNat < 0x20 then
    ['\\', 'u', '0', '0', Digit.lower (c.toNat / 16), Digit.lower (c.toNat % 16)]
  else [c]

/-- A string with its quotes. Names of members are written in the same way as values. -/
def stringChars (s : String) : List Char := '"' :: s.toList.flatMap escape ++ ['"']

/-- A whole number, in as few digits as it has. -/
def intChars (n : Int) : List Char :=
  if n < 0 then '-' :: Nat.toDigits 10 n.natAbs else Nat.toDigits 10 n.natAbs

mutual

/-- A value without blanks. The order of members is kept, whether it is the order of their keys or
not. -/
def chars : Json → List Char
  | .null => "null".toList
  | .bool true => "true".toList
  | .bool false => "false".toList
  | .int n => intChars n
  | .float x => x.chars
  | .str s => stringChars s
  | .arr items => '[' :: itemChars items ++ [']']
  | .obj members => '{' :: memberChars members ++ ['}']

/-- The items of an array, with commas between them. -/
def itemChars : List Json → List Char
  | [] => []
  | [x] => chars x
  | x :: xs => chars x ++ ',' :: itemChars xs

/-- The members of an object, with commas between them. -/
def memberChars : List (String × Json) → List Char
  | [] => []
  | [(k, v)] => stringChars k ++ ':' :: chars v
  | (k, v) :: ms => stringChars k ++ ':' :: chars v ++ ',' :: memberChars ms

end

/-- The compact text of a value, on one line: line ends within strings are escaped. -/
def compact (v : Json) : String := String.ofList v.chars

/-! ### Indented layout -/

/-- A new line at a level of nesting, two blanks a level. -/
def newLine (level : Nat) : List Char := '\n' :: List.replicate (2 * level) ' '

mutual

/-- A value with every item and member on a line of its own. An empty array or object stays on the
line where it began. -/
def indentedChars (level : Nat) : Json → List Char
  | .arr [] => ['[', ']']
  | .obj [] => ['{', '}']
  | .arr (x :: xs) => '[' :: indentedItems (level + 1) (x :: xs) ++ newLine level ++ [']']
  | .obj (m :: ms) => '{' :: indentedMembers (level + 1) (m :: ms) ++ newLine level ++ ['}']
  | .null => "null".toList
  | .bool true => "true".toList
  | .bool false => "false".toList
  | .int n => intChars n
  | .float x => x.chars
  | .str s => stringChars s

/-- Items, each after a new line. -/
def indentedItems (level : Nat) : List Json → List Char
  | [] => []
  | [x] => newLine level ++ indentedChars level x
  | x :: xs => newLine level ++ indentedChars level x ++ ',' :: indentedItems level xs

/-- Members, each after a new line. -/
def indentedMembers (level : Nat) : List (String × Json) → List Char
  | [] => []
  | [(k, v)] => newLine level ++ stringChars k ++ ": ".toList ++ indentedChars level v
  | (k, v) :: ms =>
    newLine level ++ stringChars k ++ ": ".toList ++ indentedChars level v ++
      ',' :: indentedMembers level ms

end

/-- The indented text of a value, with no line end behind it. -/
def indented (v : Json) : String := String.ofList (indentedChars 0 v)

end Ingest.Json
