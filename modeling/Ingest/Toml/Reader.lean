import Ingest.Toml.Number
import Ingest.Toml.Quoted
import Ingest.Toml.Table

/-!
# Reading TOML

A document is read from the inside out: keys and values first, then the lines they stand in. Arrays
run over several lines and admit comments and a trailing comma; an inline table is one line without
a trailing comma. Both count towards one limit of nesting, and so does the length of a dotted key.
-/

namespace Ingest.Toml

/-- Nesting stays below this depth. Deeper documents are refused, however they are built. -/
def depthBound : Nat := 80

/-- Drops blanks within a line. -/
def skipBlanks (cs : List Char) : List Char := cs.dropWhile Quoted.isBlank

/-- The text after a comment, which ends before the line end. Control characters other than the
tab end it too, and nothing that may follow a comment begins with one. -/
def skipComment (cs : List Char) : List Char := cs.dropWhile Quoted.isPrintable

/-- Drops blanks, comments and line ends, which may stand between the items of an array. A comment
is ended by a line end. -/
def skipTrivia : Nat → List Char → Option (List Char)
  | 0, _ => none
  | fuel + 1, cs =>
    match skipBlanks cs with
    | '#' :: rest =>
      match Quoted.lineEnd (skipComment rest) with
      | some rest => skipTrivia fuel rest
      | none => none
    | '\n' :: rest => skipTrivia fuel rest
    | '\r' :: '\n' :: rest => skipTrivia fuel rest
    | '\r' :: _ => none
    | rest => some rest

/-- What ends a line of the document: blanks, perhaps a comment, and the line end or the end of the
text. -/
def endOfLine (cs : List Char) : Option (List Char) :=
  let rest := match skipBlanks cs with
    | '#' :: rest => skipComment rest
    | rest => rest
  match rest with
  | [] => some []
  | rest => Quoted.lineEnd rest

/-! ## Keys -/

/-- A character of a bare key. A key may be of digits alone. -/
def isBare (c : Char) : Bool := c.isAlphanum || c = '-' || c = '_'

/-- One part of a key: bare, or a string on one line, which may be empty. -/
def keyPart : List Char → Option (String × List Char)
  | '"' :: cs => (Quoted.basic (cs.length + 1) cs).map fun (s, rest) => (String.ofList s, rest)
  | '\'' :: cs => (Quoted.literal cs).map fun (s, rest) => (String.ofList s, rest)
  | cs =>
    match cs.takeWhile isBare with
    | [] => none
    | s => some (String.ofList s, cs.dropWhile isBare)

/-- The parts of a key, which points divide. -/
def keyParts : Nat → List Char → Option (List String × List Char)
  | 0, _ => none
  | fuel + 1, cs => do
    let (p, cs) ← keyPart (skipBlanks cs)
    match skipBlanks cs with
    | '.' :: cs => (keyParts fuel cs).map fun (ps, rest) => (p :: ps, rest)
    | cs => some ([p], cs)

/-- **A key**, with the blanks around it. Blanks may also stand around its points. -/
def key (cs : List Char) : Option (List String × List Char) :=
  match keyParts (cs.length + 1) cs with
  | some (ps, rest) => if ps.length < depthBound then some (ps, rest) else none
  | none => none

/-! ## Values -/

/-- The text after a word. -/
def word : List Char → List Char → Option (List Char)
  | [], cs => some cs
  | w :: ws, c :: cs => if w = c then word ws cs else none
  | _ :: _, [] => none

mutual

/-- A value at the front of a text; `depth` more levels of nesting are left. -/
def value : Nat → Nat → List Char → Option (Value × List Char)
  | 0, _, _ => none
  | fuel + 1, depth, cs =>
    match cs with
    | '[' :: cs =>
      if depth = 0 then none
      else (items fuel (depth - 1) cs).map fun (vs, rest) => (.arr vs, rest)
    | '\x7b' :: cs =>
      if depth = 0 then none
      else
        match skipBlanks cs with
        | '\x7d' :: rest => some (.table [], rest)
        | _ => do
          let (ps, rest) ← pairs fuel (depth - 1) cs
          let t ← inlineTable ps
          some (t, rest)
    | 't' :: cs => (word "rue".toList cs).map fun rest => (.bool true, rest)
    | 'f' :: cs => (word "alse".toList cs).map fun rest => (.bool false, rest)
    | '"' :: _ => (Quoted.cut cs).map fun (s, rest) => (.text (String.ofList s), rest)
    | '\'' :: _ => (Quoted.cut cs).map fun (s, rest) => (.text (String.ofList s), rest)
    | cs => Number.cut cs

/-- The items of an array up to its closing bracket. A comma may stand behind the last one. -/
def items : Nat → Nat → List Char → Option (List Value × List Char)
  | 0, _, _ => none
  | fuel + 1, depth, cs =>
    match skipTrivia (cs.length + 1) cs with
    | none => none
    | some (']' :: rest) => some ([], rest)
    | some cs =>
      match value fuel depth cs with
      | none => none
      | some (v, cs) =>
        match skipTrivia (cs.length + 1) cs with
        | some (',' :: cs) => (items fuel depth cs).map fun (vs, rest) => (v :: vs, rest)
        | some (']' :: rest) => some ([v], rest)
        | _ => none

/-- The pairs of an inline table from the first key to its closing brace. No comma stands behind the
last one, and keys may have points. -/
def pairs : Nat → Nat → List Char → Option (List (List String × Value) × List Char)
  | 0, _, _ => none
  | fuel + 1, depth, cs =>
    match key cs with
    | some (k, '=' :: cs) =>
      match value fuel depth (skipBlanks cs) with
      | none => none
      | some (v, cs) =>
        match skipBlanks cs with
        | ',' :: cs => (pairs fuel depth cs).map fun (ps, rest) => ((k, v) :: ps, rest)
        | '\x7d' :: rest => some ([(k, v)], rest)
        | _ => none
    | _ => none

end

/-- **Cuts a value off the front of a text**, with fuel and depth enough for any that is allowed. -/
def cutValue (cs : List Char) : Option (Value × List Char) :=
  value (2 * cs.length + 2) (depthBound - 1) cs

/-! ## Documents

A document is a sequence of lines: headers, pairs of a key and a value, comments and empty lines. A
pair belongs to the table of the last header. -/

/-- **A document under construction**: its tables, and the path of the last header. -/
structure Draft where
  entries : Node.Entries
  path : List String

namespace Draft

/-- An empty document. -/
def empty : Draft := ⟨[], []⟩

/-- A header, which begins a table. Pairs go into this table until the next header. -/
def header (d : Draft) (path : List String) : Option Draft :=
  (Node.changeParent Node.openTable path d.entries).map fun es => ⟨es, path⟩

/-- A header of one more table of an array. -/
def itemHeader (d : Draft) (path : List String) : Option Draft :=
  (Node.changeParent Node.openItem path d.entries).map fun es => ⟨es, path⟩

/-- A key and its value, in the table of the last header. -/
def pair (d : Draft) (k : List String) (v : Value) : Option Draft :=
  (Node.changeAt (Node.addDotted v k) d.path d.entries).map fun es => ⟨es, d.path⟩

end Draft

/-- The header line behind its first bracket. -/
def headerLine (d : Draft) : List Char → Option (Draft × List Char)
  | '[' :: cs => do
    let (path, cs) ← key cs
    match cs with
    | ']' :: ']' :: cs =>
      let rest ← endOfLine cs
      let d ← d.itemHeader path
      some (d, rest)
    | _ => none
  | cs => do
    let (path, cs) ← key cs
    match cs with
    | ']' :: cs =>
      let rest ← endOfLine cs
      let d ← d.header path
      some (d, rest)
    | _ => none

/-- A line with a key and its value. -/
def pairLine (d : Draft) (cs : List Char) : Option (Draft × List Char) := do
  let (k, cs) ← key cs
  match cs with
  | '=' :: cs =>
    let (v, cs) ← cutValue (skipBlanks cs)
    let rest ← endOfLine cs
    let d ← d.pair k v
    some (d, rest)
  | _ => none

/-- Reads line after line. Every line takes a character at least, so the length of the text is fuel
enough. The first line at fault makes the text no document. -/
def lines : Nat → Draft → List Char → Option Draft
  | 0, _, _ => none
  | fuel + 1, d, cs =>
    match skipBlanks cs with
    | [] => some d
    | '#' :: cs => (endOfLine ('#' :: cs)).bind (lines fuel d)
    | '\n' :: cs => lines fuel d cs
    | '\r' :: '\n' :: cs => lines fuel d cs
    | '[' :: cs => (headerLine d cs).bind fun (d, rest) => lines fuel d rest
    | cs => (pairLine d cs).bind fun (d, rest) => lines fuel d rest

/-- **Reads a document**; a byte order mark in front is skipped. The table of the document takes
headers and pairs like one that has a header. -/
def ofText? (s : String) : Option Value :=
  let cs := match s.toList with
    | '\uFEFF' :: cs => cs
    | cs => cs
  (lines (cs.length + 1) Draft.empty cs).map fun d => Node.close (.table .headed d.entries)

/-- Reads a document as a value of its own, in which no date is on its way. -/
def valueOfText? (s : String) : Option Value := (ofText? s).bind Value.restoreDates?

end Ingest.Toml
