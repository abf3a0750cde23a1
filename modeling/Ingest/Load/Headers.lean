import Ingest.Text.Basic
import Ingest.Http.Message
import Ingest.Settings.Basic

/-!
# The headers of a load

Every property is sent as a header. What the properties leave unsaid is added: the columns, whether
the store strips the array around JSON rows, and a limit of time.
-/

/-! ## The list of columns

The store is told the columns of a load in one text: names between backquotes, with commas. A name
loses its blanks at both ends and its backquotes, so the backquotes in the text are those around the
names and the list can be read back. -/

namespace Ingest.Columns

def quote : Char := '\x60'

/-- The column that tells what is to be done with a row, for tables that take updates and
deletions. -/
def operation : String := "__op"

/-- A name as it is listed. Without a backquote in it, it cannot end its own quotes. -/
def clean (name : String) : List Char := (trimBlanks name.toList).filter (· ≠ quote)

/-- A name between backquotes. -/
def quoted (name : String) : List Char := quote :: clean name ++ [quote]

def withCommas : List (List Char) → List Char
  | [] => []
  | [t] => t
  | t :: ts => t ++ ',' :: withCommas ts

/-- **The list of columns**; with operations the column for them stands last. Without any columns
there is no list, not even for operations. -/
def header (names : List String) (operations : Bool) : String :=
  let columns := withCommas (names.map quoted)
  String.ofList
    (if !columns.isEmpty && operations then columns ++ ',' :: operation.toList else columns)

/-! ### Reading -/

/-- Cuts a list at the commas outside backquotes. The flag says whether the reader is inside of
them. -/
def cut : Bool → List Char → List (List Char)
  | _, [] => [[]]
  | inside, c :: cs =>
    if c = ',' ∧ !inside then [] :: cut inside cs
    else
      match cut (if c = quote then !inside else inside) cs with
      | [] => [[c]]
      | t :: ts => (c :: t) :: ts

/-- A listed column: a name, or the column for operations. The two are told apart by the backquotes,
so a column of the user's may have the name of the other. -/
inductive Entry where
  | name (s : String)
  | plain (s : String)
  deriving DecidableEq, Repr

/-- The column of a piece of the list. A piece that is not between backquotes stands for itself. -/
def entry (cs : List Char) : Entry :=
  match cs with
  | c :: rest =>
    if c = quote ∧ rest.getLast? = some quote then .name (String.ofList rest.dropLast)
    else .plain (String.ofList cs)
  | [] => .plain ""

/-- **The columns of a list**, as a reader of the header finds them. -/
def read (s : String) : List Entry :=
  if s = "" then [] else (cut false s.toList).map entry

end Ingest.Columns

/-! ## The headers of every load -/

namespace Ingest.Load

open Http (Headers)

/-- Sets a header from the texts of its name and its value. The fault names the property in the
spelling that was given, and says whether its name or its value is of no use. -/
def setHeader (hs : Headers) (key value : String) : Except Settings.Fault Headers :=
  match Http.fieldName? key with
  | none => .error (.invalid .properties (.headerName key))
  | some name =>
    match Http.fieldValue? value with
    | none => .error (.invalid .properties (.headerValue key))
    | some v => .ok (hs.set name v)

/-- Sets a header for every property, in the order of their keys. Keys that differ only in case set
the same header, and the last of them stays. -/
def propertyHeaders (properties : Keyed String) : Except Settings.Fault Headers :=
  properties.foldlM (fun hs p => setHeader hs p.1 p.2) []

def stripKey : String := "strip_outer_array"

def defaultTimeLimit : String := "60"

/-- Whether the store has to be told the columns. Separated values do not name theirs; JSON rows do,
but the operation is a column of its own unless the store finds it. -/
def needsColumns (s : Settings) (format : Format) : Bool :=
  (s.upsertDelete && !s.storeFindsOperation) || format = .csv

/-- Adds the columns if they are not there and have to be. A property that lists columns is left as
it is, also where it leaves some out. -/
def addColumns (s : Settings) (format : Format) (hs : Headers) : Except Settings.Fault Headers :=
  if !hs.has Settings.columnsKey && needsColumns s format then
    let columns := Columns.header s.columns s.upsertDelete
    if columns = "" then .ok hs else setHeader hs Settings.columnsKey columns
  else .ok hs

/-- Adds the wish that the array around JSON rows be stripped, unless a property says something
about it. -/
def addStrip (format : Format) (hs : Headers) : Headers :=
  if format = .json ∧ !hs.has stripKey then hs.set stripKey (Bytes.ofText "true") else hs

/-- Adds a limit of time, unless a property sets one. -/
def addTimeLimit (hs : Headers) : Headers :=
  if hs.has Settings.timeoutKey then hs
  else hs.set Settings.timeoutKey (Bytes.ofText defaultTimeLimit)

/-- **The headers of every load**, without label and credentials. Properties come first, and what
they leave unsaid is added; only the expectation to be told to go on is set in any case. -/
def headers (s : Settings) : Except Settings.Fault Headers := do
  let hs ← propertyHeaders s.properties
  let format ← s.format
  let hs ← addColumns s format hs
  .ok ((addTimeLimit (addStrip format hs)).set "expect" (Bytes.ofText "100-continue"))

end Ingest.Load
