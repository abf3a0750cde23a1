import Ingest.Settings.Basic
import Ingest.Bytes
import Ingest.Toml.Reader

/-!
# Settings in a document

A document is a table whose entries are the fields of the settings. Fields that are missing keep
their defaults and entries that are no fields are passed over. A table may also be given as an
array of its fields in order. A date in the place of a table is a table with a single entry, which
is no field.
-/

namespace Ingest.Settings

open Toml (Value)

/-- What a value that is read is found to be, or nothing if it has the wrong type. No value is
turned into another type: a number in quotes is a text. -/
abbrev Reading (α : Type) := Value → Option α

/-- A text. Numbers, dates and truth values are not taken for one. -/
def readText : Reading String
  | .text s => some s
  | _ => none

/-- A truth value, which has no other spelling than its two words. -/
def readFlag : Reading Bool
  | .bool b => some b
  | _ => none

/-- A count. Whole numbers of a document are signed, so no count beyond the largest of them can be
given in one. -/
def readCount : Reading UInt64
  | .int n => if 0 ≤ n then some (UInt64.ofNat n.toNat) else none
  | _ => none

/-- Several texts, which have to be an array, even if there is one only. -/
def readTexts : Reading (List String)
  | .arr items => items.mapM readText
  | _ => none

/-- Texts under keys. The keys are put in order; a date in this place is one text under the key that
dates travel by. -/
def readTextTable : Reading (Keyed String)
  | .table entries =>
    (entries.mapM fun e : String × Value => (readText e.2).map fun s => (e.1, s)).map
      Keyed.ofEntries
  | .date d => some [(Value.dateKey, d.text)]
  | _ => none

/-- **A way to read one field into a structure.** The family of fields is a list of these, so that a
new field is a new entry and nothing else. -/
structure FieldReader (σ : Type) where
  key : String
  read : σ → Value → Option σ

/-- A field from the reading of its value and the way to set it. A value of the wrong type spoils
the whole structure. -/
def FieldReader.of {σ α : Type} (key : String) (reading : Reading α) (set : σ → α → σ) :
    FieldReader σ :=
  ⟨key, fun s v => (reading v).map (set s)⟩

/-- Reads the entries of a table into a structure. What is not among the fields is passed over
without a look at its value. -/
def readEntries {σ : Type} (fields : List (FieldReader σ)) (s : σ)
    (entries : List (String × Value)) : Option σ :=
  entries.foldl
    (fun acc e => acc.bind fun s =>
      match fields.find? (·.key == e.1) with
      | some f => f.read s e.2
      | none => some s)
    (some s)

/-- Reads items into the fields of a structure in order. Fields that are left keep what they had,
and items that are left are passed over. -/
def readItems {σ : Type} (fields : List (FieldReader σ)) (s : σ) (items : List Value) : Option σ :=
  (fields.zip items).foldl (fun acc e => acc.bind fun s => e.1.read s e.2) (some s)

/-- **Reads a structure** from a table, or from an array of its fields. Anything else but a date is
of the wrong type. -/
def readStructure {σ : Type} (fields : List (FieldReader σ)) (s : σ) : Reading σ
  | .table entries => readEntries fields s entries
  | .arr items => readItems fields s items
  | .date _ => some s
  | _ => none

/-- The fields of the settings, in the order in which an array gives them. -/
def fields : List (FieldReader Settings) := [
  .of "load_urls" readTexts fun s v => { s with hosts := v },
  .of "username" readText fun s v => { s with username := v },
  .of "password" readText fun s v => { s with password := v },
  .of "database" readText fun s v => { s with database := some v },
  .of "field_names" readTexts fun s v => { s with columns := v },
  .of "connect_timeout_ms" readCount fun s v => { s with connectTimeoutMs := v },
  .of "socket_timeout_ms" readCount fun s v => { s with socketTimeoutMs := some v },
  .of "properties" readTextTable fun s v => { s with properties := v },
  .of "wrap_json_as_array" readFlag fun s v => { s with wrappedRows := v },
  .of "supports_upsert_delete" readFlag fun s v => { s with upsertDelete := v },
  .of "op_auto_projection_in_json" readFlag fun s v => { s with storeFindsOperation := v },
  .of "label_check_timeout_secs" readCount fun s v => { s with labelTimeoutSecs := some v },
  .of "label_poll_unit_ms" readCount fun s v => { s with pollUnitMs := v }]

def read : Reading Settings := readStructure fields default

/-- Settings that have been read, checked. What could not be read is told without a reason. -/
def checked (s : Option Settings) : Except Fault Settings :=
  match s with
  | none => .error .malformed
  | some s => do
    s.check
    .ok s

/-- **The settings of a document**, checked. The whole document is one table of settings. -/
def ofDocument (text : String) : Except Fault Settings := checked ((Toml.ofText? text).bind read)

/-- The settings of a value that was read before, checked. In such a value a date is its text. -/
def ofValue (v : Value) : Except Fault Settings := checked (read v.datesAsText)

/-! ## Files -/

/-- The text of a file. One that is no UTF-8 counts as a file that cannot be read. -/
def textOfFile (path : String) (contents : FileContents) : Except Fault String :=
  match contents with
  | .error cause => .error (.unreadable path cause)
  | .ok bs =>
    match Utf8.decode? bs with
    | some text => .ok text
    | none => .error (.unreadable path .notText)

/-- The settings of a file, checked. It is the one function that goes all the way from bytes to
settings that may be used. -/
def ofFile (path : String) (contents : FileContents) : Except Fault Settings := do
  ofDocument (← textOfFile path contents)

end Ingest.Settings

namespace Ingest

/-- **The settings of the program**: what to log, and the settings of the loader. -/
structure ProgramSettings where
  logLevel : Option String
  load : Settings
  deriving DecidableEq, Repr

namespace ProgramSettings

open Settings (FieldReader readText readStructure)

/-- The settings before anything is said. -/
def default : ProgramSettings := ⟨none, Settings.default⟩

/-- The fields of the section about the log. -/
def logFields : List (FieldReader (Option String)) := [
  .of "level" readText fun _ v => some v]

/-- The sections of a document of the program, of which either may be missing. -/
def sections : List (FieldReader ProgramSettings) := [
  .of "log" (readStructure logFields none) fun s v => { s with logLevel := v },
  .of "stream_load" Settings.read fun s v => { s with load := v }]

/-- **The settings of a document.** Those of the loader are not checked: to print a payload, not all
of them are needed. -/
def ofDocument (text : String) : Except Settings.Fault ProgramSettings :=
  match (Toml.ofText? text).bind (readStructure sections default) with
  | some s => .ok s
  | none => .error .malformed

/-- The settings of a file, of which only those of the log are ready to use. -/
def ofFile (path : String) (contents : FileContents) :
    Except Settings.Fault ProgramSettings := do
  ofDocument (← Settings.textOfFile path contents)

end ProgramSettings

end Ingest
