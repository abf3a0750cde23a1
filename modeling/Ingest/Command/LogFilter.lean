import Ingest.Bytes
import Ingest.Text.Classes
import Ingest.Text.Basic
import Ingest.Text.Pattern

/-!
# Log filters

A filter is a list of directives with commas between them. A directive is a level, or the name of a
part of the program, or a span in square brackets, or both of these, perhaps with a level behind an
equals sign. A span may ask for one field, in braces, and for its value.

Blanks around a directive do not count when its parts are told apart. But the parts are then cut
from the directive with its blanks, at the same places; so blanks matter to a level or a field.
-/

namespace Ingest.LogFilter

/-- The filter when nothing is said. -/
def default : String := "info"

/-- **The filter to use**: the first of several that is not blank. It is used as it is, and if it is
no filter the next one does not take its place. -/
def choose (sources : List (Option String)) : String :=
  (((sources.filterMap id).map trim).find? (· ≠ "")).getD default

/-! ## Levels and fields -/

/-- The names of levels, by their number. -/
def levelNames : List String := ["off", "error", "warn", "info", "debug", "trace"]

/-- **Whether a text is a level**: a name in capital or small letters, or its number. An empty text
leaves the level open. -/
def isLevel (cs : List Char) : Bool :=
  cs.isEmpty || levelNames.contains (String.ofList (cs.map Char.toLower)) ||
    match Numeral.readChars UInt64.size cs with
    | .ok n => n < levelNames.length
    | .error _ => false

/-- The text behind some digits, unless there is none in front. -/
def afterDigits? (cs : List Char) : Option (List Char) :=
  if cs.head?.any Char.isDigit then some (cs.dropWhile Char.isDigit) else none

/-- Whether a text is an exponent, or empty. An exponent has a digit at least. -/
def isExponent : List Char → Bool
  | [] => true
  | e :: cs =>
    let digits := match cs with
      | '+' :: cs => cs
      | '-' :: cs => cs
      | cs => cs
    (e = 'e' || e = 'E') && afterDigits? digits = some []

/-- Whether a text is a number without a sign. There are words for what is no finite number, and a
point may stand at either end of the digits. -/
def isUnsigned (cs : List Char) : Bool :=
  ["inf", "infinity", "nan"].contains (String.ofList (cs.map Char.toLower)) ||
    match cs with
    | '.' :: fraction => (afterDigits? fraction).any isExponent
    | cs => (afterDigits? cs).any fun rest =>
      match rest with
      | '.' :: rest => isExponent (rest.dropWhile Char.isDigit)
      | rest => isExponent rest

/-- Whether a text is the value of a field: a number or a pattern. Only a number with a plus sign is
no pattern too. -/
def isValue : List Char → Bool
  | '+' :: cs => isUnsigned cs
  | cs => Pattern.isPattern cs

/-- **Whether a text is a field**: a name, perhaps with a value between two equals signs or behind
the only one. -/
def isField (cs : List Char) : Bool :=
  !cs.isEmpty &&
    match cs.dropWhile (· ≠ '=') with
    | [] => true
    | _ :: value => isValue (value.takeWhile (· ≠ '='))

/-! ## Directives -/

/-- **Where the reader of a directive stands.** Places are counted in bytes. -/
inductive Stand where
  /-- In front of everything. -/
  | front
  /-- In a name, or a level. -/
  | name
  /-- In a span. -/
  | span
  /-- In a field that starts at a place. -/
  | field (start : Nat)
  /-- Behind a field. -/
  | behindField
  /-- Behind a span. -/
  | behindSpan
  /-- In a level that starts at a place. -/
  | level (start : Nat)
  deriving DecidableEq, Repr

/-- The part of a text from a place on, of a number of bytes. A place inside a character gives
none. -/
def part? (text : Bytes) (start size : Nat) : Option (List Char) :=
  (Utf8.decode? ((text.drop start).take size)).map (·.toList)

/-- Whether a character can begin a name. Inside of one, every character is allowed that does not
end it. -/
def beginsName (c : Char) : Bool := isAlphanumeric c || c = '-' || c = ':' || c = '_'

/-- Reads the character at a place of a directive. There is no way on where the directive is not
one; a level is only looked at in the end. -/
def step (text : Bytes) (place : Nat) (c : Char) : Stand → Option Stand
  | .front => if c = '[' then some .span else if beginsName c then some .name else none
  | .name =>
    if c = '=' then some (.level (place + 1)) else if c = '[' then some .span else some .name
  | .span =>
    if c = ']' then some .behindSpan
    else if c = '\x7b' then some (.field (place + 1))
    else some .span
  | .field start =>
    if c = '\x7d' then
      if (part? text start (place - start)).any isField then some .behindField else none
    else some (.field start)
  | .behindField => if c = ']' then some .behindSpan else none
  | .behindSpan => if c = '=' then some (.level (place + 1)) else none
  | .level start => some (.level start)

/-- Reads characters from a place on, and says where the reader stands behind them. -/
def run (text : Bytes) : Nat → Stand → List Char → Option Stand
  | _, s, [] => some s
  | place, s, c :: cs => (step text place c s).bind fun s => run text (place + c.utf8Size) s cs

/-- **Whether a text is a directive**: its reader comes to the end of it at one of the places where
one may end. -/
def isDirective (cs : List Char) : Bool :=
  let text := Bytes.ofText (String.ofList cs)
  match run text 0 .front (trimBlanks cs) with
  | some .name => true
  | some .behindSpan => true
  | some (.level start) => (part? text start text.length).any isLevel
  | _ => false

/-! ## Filters -/

def cutDirectives : List Char → List (List Char)
  | [] => [[]]
  | c :: cs =>
    if c = ',' then [] :: cutDirectives cs
    else
      match cutDirectives cs with
      | [] => [[c]]
      | d :: ds => (c :: d) :: ds

/-- **Whether a text is a filter.** Nothing between two commas is no directive, and is passed
over. -/
def isValid (filter : String) : Bool :=
  ((cutDirectives filter.toList).filter (· ≠ [])).all isDirective

end Ingest.LogFilter
