import Ingest.Decimal.Binary64
import Ingest.Toml.Date

/-!
# TOML values

The value of a TOML document: a table of texts, whole numbers, reals, truth values, dates, arrays
and tables. Where only texts and tables can be passed on, a date travels as a table that begins with
a reserved key.
-/

namespace Ingest.Toml

/-- A real number. Documents can name the infinite ones and the one that is no number. -/
inductive Real where
  | finite (x : Binary64)
  | infinite (negative : Bool)
  | nan
  deriving DecidableEq, Repr

/-- A TOML value. Whole numbers and reals are different values here, as they are in a document. -/
inductive Value where
  | text (s : String)
  | int (n : Int)
  | real (x : Real)
  | bool (b : Bool)
  | date (d : DateTime)
  | arr (items : List Value)
  | table (entries : List (String × Value))
  deriving Inhabited

/-- The whole numbers of a document fit 64 bits with a sign. -/
def leastInt : Int := Int64.minValue.toInt

/-- The first whole number beyond. -/
def intBound : Int := Int64.maxValue.toInt + 1

namespace Value

mutual

/-- A value with every date replaced by its text, at whatever depth it stands. -/
def datesAsText : Value → Value
  | .date d => .text d.text
  | .arr items => .arr (datesAsTextItems items)
  | .table entries => .table (datesAsTextEntries entries)
  | v => v

/-- The items of an array with dates as text. -/
def datesAsTextItems : List Value → List Value
  | [] => []
  | v :: vs => datesAsText v :: datesAsTextItems vs

/-- The entries of a table with dates as text. -/
def datesAsTextEntries : List (String × Value) → List (String × Value)
  | [] => []
  | (k, v) :: es => (k, datesAsText v) :: datesAsTextEntries es

end

/-! ## Dates on their way -/

/-- The key under which the text of a date travels. A document may use it itself, and is then taken
at its word. -/
def dateKey : String := "$__toml_private_datetime"

/-- The value that takes the place of a table that begins with the reserved key. Only the first
entry counts. -/
def underDateKey? : List (String × Value) → Option Value
  | (k, v) :: _ => if k = dateKey then some v else none
  | [] => none

/-- The date of a text, which a table on the way has to hold. -/
def dateOfText? : Value → Option Value
  | .text s => (DateTime.ofText? s).map .date
  | _ => none

mutual

/-- **A value with its travelling dates restored.** A table that begins with the reserved key has to
be a date, whatever else it holds; the rest of such a table is dropped. -/
def restoreDates? : Value → Option Value
  | .arr items => (restoreItems? items).map .arr
  | .table entries =>
    match underDateKey? entries with
    | some v => dateOfText? v
    | none => (restoreEntries? entries).map .table
  | v => some v

/-- The items of an array with dates restored. -/
def restoreItems? : List Value → Option (List Value)
  | [] => some []
  | v :: vs => do
    let v ← restoreDates? v
    let vs ← restoreItems? vs
    some (v :: vs)

/-- The entries of a table with dates restored. -/
def restoreEntries? : List (String × Value) → Option (List (String × Value))
  | [] => some []
  | (k, v) :: es => do
    let v ← restoreDates? v
    let es ← restoreEntries? es
    some ((k, v) :: es)

end

end Value

end Ingest.Toml
