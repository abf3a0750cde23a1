import Ingest.Http.Message
import Ingest.Text.Basic

/-!
# Messages on the wire

A request as the bytes that are sent, and a reply from the bytes that have come so far. A reply says
itself where it ends: after a length, after a last chunk, or, if it names neither, where the
connection ends. Replies that only announce another one are passed over.
-/

namespace Ingest.Http.Wire

/-- The end of a line. -/
def lineEnd : Bytes := [Bytes.cr, Bytes.lf]

/-! ## Requests -/

/-- The part of an address that the host itself is asked for. It is a slash at least, and the query
goes with it but the fragment does not. -/
def target (u : Url) : List Char :=
  match u.path.chars with
  | [] => '/' :: Url.partChars '?' u.query
  | cs => cs ++ Url.partChars '?' u.query

/-- The name that a request calls the host by, with the port if the address says one that is not
usual. -/
def hostName (u : Url) : List Char :=
  match u.host with
  | some h => h.chars ++ Url.portChars u.port
  | none => []

/-- The length that goes with a body. A request without a body does not say that it has none. -/
def lengthField (q : Request) : Headers :=
  match q.method with
  | .put => [("content-length", Bytes.ofText (toString q.body.length))]
  | .get => []

/-- The fields that every request has, unless it names them itself. The name of the host is among
them. -/
def usualFields (q : Request) : Headers :=
  [("accept", Bytes.ofText "*/*"), ("host", Bytes.ofText (String.ofList (hostName q.url)))] ++
    lengthField q

/-- A field on its line. -/
def fieldLine (f : String × Bytes) : Bytes :=
  Bytes.ofText f.1 ++ Bytes.ofText ": " ++ f.2 ++ lineEnd

/-- **The bytes of a request.** The usual fields stand behind its own, and the body follows the
empty line as it is. -/
def encode (q : Request) : Bytes :=
  let fields := q.headers ++ (usualFields q).filter fun f => !Headers.has f.1 q.headers
  Bytes.ofText (q.method.name ++ " " ++ String.ofList (target q.url) ++ " HTTP/1.1") ++ lineEnd ++
    fields.flatMap fieldLine ++ lineEnd ++ q.body

/-! ## The head of a reply -/

/-- The characters of bytes. -/
def chars (bs : Bytes) : List Char := bs.map fun b => Char.ofNat b.toNat

/-- A line without the carriage return at its end. A line feed alone ends a line too. -/
def dropReturn (line : Bytes) : Bytes :=
  if line.getLast? = some Bytes.cr then line.dropLast else line

/-- The lines of a head, and what stands behind the empty line that ends it. The first line goes on
from `line`. -/
def cutHead (line : Bytes) : Bytes → Option (List Bytes × Bytes)
  | [] => none
  | b :: bs =>
    if b = Bytes.lf then
      if dropReturn line = [] then some ([], bs)
      else (cutHead [] bs).map fun r => (dropReturn line :: r.1, r.2)
    else cutHead (line ++ [b]) bs

/-- Behind a head there is less than before. -/
theorem length_lt_of_cutHead {line bs : Bytes} {r : List Bytes × Bytes}
    (h : cutHead line bs = some r) : r.2.length < bs.length := by
  induction bs generalizing line r with
  | nil => simp [cutHead] at h
  | cons b bs ih =>
    rw [cutHead] at h
    split at h
    · split at h
      · simp only [Option.some.injEq] at h
        simp [← h]
      · obtain ⟨s, hs, rfl⟩ := Option.map_eq_some_iff.1 h
        have := ih hs
        simp only [List.length_cons]
        omega
    · have := ih h
      simp only [List.length_cons]
      omega

/-- The status in the first line of a reply. Three digits are asked for; the words behind them are
not looked at. -/
def status? (line : Bytes) : Option Nat :=
  match chars line with
  | 'H' :: 'T' :: 'T' :: 'P' :: '/' :: '1' :: '.' :: _ :: ' ' :: cs =>
    match Digit.fixed 10 3 0 cs with
    | some (n, []) => some n
    | some (n, ' ' :: _) => some n
    | _ => none
  | _ => none

/-- The field on a line, with its name in lower case and no blanks around its value. -/
def field? (line : Bytes) : Option (String × Bytes) :=
  match line.dropWhile (· ≠ 0x3A) with
  | [] => none
  | _ :: value =>
    (fieldName? (String.ofList (chars (line.takeWhile (· ≠ 0x3A))))).map fun name =>
      (name, trimValue value)

/-- The status and the fields of a head. One line that is no field spoils all of it. -/
def head? : List Bytes → Option (Nat × Headers)
  | [] => none
  | first :: lines => do
    let status ← status? first
    let fields ← lines.mapM field?
    some (status, fields)

/-! ## The body of a reply -/

/-- **What has come so far**: too little yet, enough, or something of which nothing can be made,
whatever may still come. -/
inductive Arrival (α : Type) where
  | unfinished
  | complete (a : α)
  | useless
  deriving DecidableEq, Repr

/-- How the end of a body is found. Where the head names neither a length nor chunks, the connection
has to end. -/
inductive Extent where
  | length (n : Nat)
  | chunks
  | connection
  deriving DecidableEq, Repr

/-- How the end of a reply's body is found, if its head makes sense. Chunks come before a length,
and two statuses never have a body. -/
def extent? (status : Nat) (fields : Headers) : Option Extent :=
  if status = 204 ∨ status = 304 then some (.length 0)
  else
    match Headers.first? "transfer-encoding" fields with
    | some coding =>
      if (chars coding).map Char.toLower = "chunked".toList then some .chunks else none
    | none =>
      match Headers.first? "content-length" fields with
      | none => some .connection
      | some n =>
        match Numeral.readChars UInt64.size (chars n) with
        | .ok n => some (.length n)
        | .error _ => none

/-- The size on a chunk's line; what follows a semicolon is no part of it. -/
def chunkSize? (line : Bytes) : Option Nat :=
  match ((chars (dropReturn line)).takeWhile (· ≠ ';')).filter (· ≠ ' ') with
  | [] => none
  | ds => (ds.mapM Digit.hex?).map (Digit.number 16)

/-- Where a reader of chunks stands. It goes byte by byte, so a part of a chunk may come at any
time. -/
inductive ChunkPlace where
  /-- Inside the line with the size. -/
  | size (line : Bytes)
  /-- Inside a chunk, with so many bytes to come after the next. -/
  | inside (left : Nat)
  /-- Behind a chunk, before the end of the line. -/
  | behind
  /-- Inside a line behind the last chunk. -/
  | trailer (line : Bytes)

/-- Joins chunks; `done` holds what they have held so far, the last byte first. -/
def joinChunks : ChunkPlace → Bytes → Bytes → Arrival Bytes
  | _, _, [] => .unfinished
  | .size line, done, b :: bs =>
    if b = Bytes.lf then
      match chunkSize? line with
      | none => .useless
      | some 0 => joinChunks (.trailer []) done bs
      | some (n + 1) => joinChunks (.inside n) done bs
    else joinChunks (.size (line ++ [b])) done bs
  | .inside 0, done, b :: bs => joinChunks .behind (b :: done) bs
  | .inside (n + 1), done, b :: bs => joinChunks (.inside n) (b :: done) bs
  | .behind, done, b :: bs =>
    if b = Bytes.lf then joinChunks (.size []) done bs
    else if b = Bytes.cr then joinChunks .behind done bs
    else .useless
  | .trailer line, done, b :: bs =>
    if b = Bytes.lf then
      if dropReturn line = [] then .complete done.reverse else joinChunks (.trailer []) done bs
    else joinChunks (.trailer (line ++ [b])) done bs

/-- The body in what stands behind a head. `closed` says that nothing more will come, which only the
last of the three kinds needs to know. -/
def body (extent : Extent) (closed : Bool) (bs : Bytes) : Arrival Bytes :=
  match extent with
  | .length n => if n ≤ bs.length then .complete (bs.take n) else .unfinished
  | .chunks => joinChunks (.size []) [] bs
  | .connection => if closed then .complete bs else .unfinished

/-! ## Replies -/

/-- A reply from its head and what has come of its body. A body that makes no sense leaves a reply
without one, and so does a body that is cut short. -/
def reply (status : Nat) (fields : Headers) (closed : Bool) : Arrival Bytes → Arrival Reply
  | .complete bs => .complete ⟨status, fields, some bs⟩
  | .useless => .complete ⟨status, fields, none⟩
  | .unfinished => if closed then .complete ⟨status, fields, none⟩ else .unfinished

/-- **The reply in what has come so far.** `closed` says that nothing more will come: a reply whose
head is known has broken off then, and one without a head is none. -/
def decode (closed : Bool) (received : Bytes) : Arrival Reply :=
  match h : cutHead [] received with
  | none => if closed then .useless else .unfinished
  | some (lines, rest) =>
    match head? lines with
    | none => .useless
    | some (status, fields) =>
      if status / 100 = 1 then
        have : rest.length < received.length := length_lt_of_cutHead h
        decode closed rest
      else
        match extent? status fields with
        | none => .useless
        | some extent => reply status fields closed (body extent closed rest)
termination_by received.length

end Ingest.Http.Wire
