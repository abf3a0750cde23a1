import Ingest.Toml.Value

/-!
# Building tables

A document defines its tables piece by piece: by headers, by dotted keys, and by naming a table
within one. The same table must not be defined twice, so while it is built every table remembers
what brought it about. A table that only stands on the way of a header may still be defined by a
header of its own; one that dotted keys made may only grow by dotted keys; and a header's table
takes no dotted keys from outside.
-/

namespace Ingest.Toml

/-- What brought a table about. It decides who may still add to the table. -/
inductive Origin where
  /-- It lies on the way to the table of a header. -/
  | passed
  /-- It lies on the way of a dotted key. -/
  | dotted
  /-- It has a header, or it is the document. -/
  | headed
  deriving DecidableEq, Repr

/-- A place in a document under construction. The tables of an array stand in the order of their
headers. -/
inductive Node where
  | value (v : Value)
  | table (origin : Origin) (entries : List (String × Node))
  | tables (items : List (List (String × Node)))
  deriving Inhabited

namespace Node

/-- The entries of a table, in the order in which their keys are defined. Settings are read in this
order. -/
abbrev Entries := List (String × Node)

/-- The node under a key. -/
def find? (k : String) : Entries → Option Node
  | [] => none
  | (k', n) :: es => if k = k' then some n else find? k es

/-- Puts a node under a key, in the place of one that stands there. -/
def put (k : String) (n : Node) : Entries → Entries
  | [] => [(k, n)]
  | (k', m) :: es => if k = k' then (k, n) :: es else (k', m) :: put k n es

/-- Changes the last of several tables. The others are finished. -/
def changeLast (f : Entries → Option Entries) : List Entries → Option (List Entries)
  | [] => none
  | [t] => (f t).map ([·])
  | t :: ts => (changeLast f ts).map (t :: ·)

/-- **Changes the table at the end of a header's path.** Tables on the way are made where they are
missing; an array of tables stands for its last one. -/
def changeAt (f : Entries → Option Entries) : List String → Entries → Option Entries
  | [], es => f es
  | k :: path, es =>
    match find? k es with
    | none => (changeAt f path []).map fun t => put k (.table .passed t) es
    | some (.table o t) => (changeAt f path t).map fun t => put k (.table o t) es
    | some (.tables ts) => (changeLast (changeAt f path) ts).map fun ts => put k (.tables ts) es
    | some (.value _) => none

/-- Adds a value under a key that is still free. A key is never defined twice, not even alike. -/
def addValue (k : String) (v : Value) (es : Entries) : Option Entries :=
  match find? k es with
  | none => some (put k (.value v) es)
  | some _ => none

/-- **Adds a value under a dotted key.** The table that takes the value belongs to dotted keys; the
way there may lead through tables on the way of headers and through the last table of an array. -/
def addDotted (v : Value) : List String → Entries → Option Entries
  | [], _ => none
  | [k], es => addValue k v es
  | k :: path, es =>
    match find? k es with
    | none => (addDotted v path []).map fun t => put k (.table .dotted t) es
    | some (.table .dotted t) => (addDotted v path t).map fun t => put k (.table .dotted t) es
    | some (.table .passed t) =>
      if path.length < 2 then none
      else (addDotted v path t).map fun t => put k (.table .passed t) es
    | some (.tables ts) =>
      if path.length < 2 then none
      else (changeLast (addDotted v path) ts).map fun ts => put k (.tables ts) es
    | some _ => none

/-- The entries without a key. -/
def erase (k : String) (es : Entries) : Entries := es.filter fun e => e.1 ≠ k

/-- The table of a header. One that has been passed before moves to the end, as if it were defined
here for the first time; one that has a header already is refused. -/
def openTable (k : String) (es : Entries) : Option Entries :=
  match find? k es with
  | none => some (put k (.table .headed []) es)
  | some (.table .passed t) => some (put k (.table .headed t) (erase k es))
  | some _ => none

/-- One more table of an array. The array has to be one that headers made: a value that is an array
takes no more items. -/
def openItem (k : String) (es : Entries) : Option Entries :=
  match find? k es with
  | none => some (put k (.tables [[]]) es)
  | some (.tables ts) => some (put k (.tables (ts ++ [[]])) es)
  | some _ => none

/-- Applies `f` to the last key of a path, in the table that the rest leads to. -/
def changeParent (f : String → Entries → Option Entries) (path : List String) (es : Entries) :
    Option Entries :=
  match path.getLast? with
  | none => none
  | some k => changeAt (f k) path.dropLast es

mutual

/-- The finished value of a node. What brought a table about is forgotten here. -/
def close : Node → Value
  | .value v => v
  | .table _ es => .table (closeEntries es)
  | .tables ts => .arr (closeItems ts)

/-- The finished entries of a table. -/
def closeEntries : List (String × Node) → List (String × Value)
  | [] => []
  | (k, n) :: es => (k, close n) :: closeEntries es

/-- The finished tables of an array. -/
def closeItems : List (List (String × Node)) → List Value
  | [] => []
  | t :: ts => .table (closeEntries t) :: closeItems ts

end

end Node

/-- The table of an inline table's pairs. It is finished at its brace, and nothing can be added to
it afterwards. -/
def inlineTable (pairs : List (List String × Value)) : Option Value :=
  let add (es : Option Node.Entries) (p : List String × Value) : Option Node.Entries :=
    es.bind (Node.addDotted p.2 p.1)
  (pairs.foldl add (some [])).map fun es => Node.close (.table .headed es)

end Ingest.Toml
