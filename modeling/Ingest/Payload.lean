import Ingest.Bytes
import Ingest.Text.Basic

/-!
# Payloads

A load takes the rows of a file, keeps them as a batch under a label, and joins them into the one
body of a request. How rows are joined is the framing; its delimiter is given as text.
-/

/-! ## Rows of a file

A file holds a row to a line. A carriage return in front of the line feed belongs to the line end,
and so does one at the end of the file; nothing after the last line feed is no row. -/

namespace Ingest.Rows

/-- Drops a carriage return from the end of a row. Only one is dropped; a second one belongs to the
row. -/
def trimReturn (row : Bytes) : Bytes :=
  if row.getLast? = some Bytes.cr then row.dropLast else row

def consLine (b : UInt8) (lines : List Bytes) : List Bytes :=
  if b = Bytes.lf then [] :: lines
  else
    match lines with
    | [] => [[b]]
    | line :: rest => (b :: line) :: rest

/-- The lines of a text without their line feeds. A text that ends in a line feed has no further,
empty line behind it. -/
def lines (data : Bytes) : List Bytes := data.foldr consLine []

/-- **The rows of a file.** Files of either kind of line end give the same rows, and an empty line
is an empty row. -/
def split (data : Bytes) : List Bytes := (lines data).map trimReturn

end Ingest.Rows

/-! ## Batches

The rows of one load: where they go, the label they go under, and the rows themselves. The label is
what the store tells loads apart by. The size of the rows is counted as they arrive. -/

namespace Ingest

/-- **Rows for one table under one label.** The label stands for these rows at the store, which
takes a label once; a batch that is put again is answered with the word for a label in use. -/
structure Batch where
  database : String
  table : String
  label : String
  rows : List Bytes
  /-- The sizes of all rows together, without framing. -/
  totalBytes : Nat
  deriving DecidableEq, Repr

namespace Batch

def empty (database table label : String) : Batch := ⟨database, table, label, [], 0⟩

/-- Adds a row at the end, and its size to the sum. -/
def push (b : Batch) (row : Bytes) : Batch :=
  { b with rows := b.rows ++ [row], totalBytes := b.totalBytes + row.length }

/-- A batch of given rows, with their sizes added up. It is the same batch as the one into which the
rows are put one after another. -/
def ofRows (database table label : String) (rows : List Bytes) : Batch :=
  ⟨database, table, label, rows, rows.foldl (fun n row => n + row.length) 0⟩

def size (b : Batch) : Nat := b.rows.length

def isEmpty (b : Batch) : Bool := b.rows.isEmpty

end Batch

/-! ## Framing

The rows of a batch are joined into the one body of a request. Rows of separated values are each
followed by the delimiter; JSON rows become an array, or are put end to end when they already carry
the brackets and commas themselves. -/

/-- The format of a payload: separated values, where rows are bytes of any kind, or JSON. -/
inductive Format where
  | csv
  | json
  deriving DecidableEq, Repr

def Format.name : Format → String
  | .csv => "csv"
  | .json => "json"

def Format.ofLower? : String → Option Format
  | "csv" => some .csv
  | "json" => some .json
  | _ => none

/-- A text with its ASCII letters in lower case. Other letters stay, since keys and names are of
ASCII. -/
def lowerText (s : String) : String := String.ofList (s.toList.map Char.toLower)

/-- The format of a name in any mixture of letters. Nothing is trimmed. -/
def Format.ofName? (s : String) : Option Format := Format.ofLower? (lowerText s)

/-- **How rows become a payload.** The rows themselves are not looked at: what is in them is the
caller's affair, and a delimiter in a row is not noticed. -/
inductive Framing where
  /-- Every row is followed by the delimiter. -/
  | csv (delimiter : Bytes)
  /-- The rows are the items of an array; `wrapped` rows carry its brackets and commas. -/
  | json (wrapped : Bool)
  deriving DecidableEq, Repr

namespace Framing

def defaultDelimiter : Bytes := [Bytes.lf]

/-- The framing that is used when nothing is said: separated values with a line feed behind each. -/
def default : Framing := .csv defaultDelimiter

def withCommas : List Bytes → Bytes
  | [] => []
  | [row] => row
  | row :: rows => row ++ 0x2C :: withCommas rows

/-- **The payload of rows.** Separated values end with the delimiter, the last one too. Without rows
the array is the empty one, and the other payloads are empty. -/
def payload : Framing → List Bytes → Bytes
  | .csv d, rows => rows.flatMap (· ++ d)
  | .json false, rows => 0x5B :: withCommas rows ++ [0x5D]
  | .json true, rows => rows.flatten

/-- The room set aside for a payload of `count` rows with `total` bytes, before it is put together.
It is just as much as the payload will take. -/
def reserved : Framing → Nat → Nat → Nat
  | .csv d, count, total => total + count * d.length
  | .json false, count, total => total + max count 1 + 1
  | .json true, _, total => total

end Framing

end Ingest

/-! ## Row delimiters

A delimiter is given as text. Behind `\x` the text is read as pairs of hexadecimal digits, any
other text stands for itself. -/

namespace Ingest.Delimiter

/-- Why the digits behind `\x` give no delimiter. Text that is not marked like this is never at
fault. -/
inductive Fault where
  | empty
  | notHex (digits : String)
  | oddLength (digits : String)
  deriving DecidableEq, Repr

def Fault.message : Fault → String
  | .empty => "hex string is empty"
  | .notHex s => "\x60" ++ s ++ "\x60 is not a hex string"
  | .oddLength s => "hex string \x60" ++ s ++ "\x60 has odd length"

/-- The bytes of digits taken in pairs, the high digit first. A single digit at the end is left out;
it was refused before. -/
def pairs : List Nat → Bytes
  | a :: b :: rest => UInt8.ofNat (a * 16 + b) :: pairs rest
  | _ => []

/-- The bytes behind `\x`: one for every two digits, in either case. A sign that is no digit is told
before an odd number of digits. -/
def ofHex (cs : List Char) : Except Fault Bytes :=
  if cs.isEmpty then .error .empty
  else
    match cs.mapM Digit.hex? with
    | none => .error (.notHex (String.ofList cs))
    | some ds =>
      if ds.length % 2 = 1 then .error (.oddLength (String.ofList cs)) else .ok (pairs ds)

/-- The delimiter of a text that is not empty. The mark may be written with a capital letter, and
there are no other escapes. -/
def ofText (s : String) : Except Fault Bytes :=
  match s.toList with
  | '\\' :: 'x' :: cs => ofHex cs
  | '\\' :: 'X' :: cs => ofHex cs
  | _ => .ok (Bytes.ofText s)

/-- **The delimiter of an optional text**, with a fallback for a missing or empty one. An empty
delimiter would leave no trace between rows, so none is ever read. -/
def read (value : Option String) (fallback : Bytes) : Except Fault Bytes :=
  match value with
  | none => .ok fallback
  | some s => if s = "" then .ok fallback else ofText s

end Ingest.Delimiter
