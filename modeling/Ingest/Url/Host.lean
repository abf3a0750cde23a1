import Ingest.Text.Basic
import Ingest.Url.Domain
import Ingest.Url.Percent

/-!
# Hosts

A host is a domain name, an address of version 4 or an address of version 6, or its place is left
empty. A name whose last label is a number has to be an address. Addresses of version 6 are written
with the longest run of zero pieces left out.
-/

namespace Ingest.Url

/-- Why a text is no address. Where the fault lies in the text is not told. -/
inductive Fault where
  | noBase
  | baseHasNoPath
  | emptyHost
  | port
  | ipv4
  | ipv6
  | domainName
  | hostCharacter
  deriving DecidableEq, Repr

/-- The wording of a fault. -/
def Fault.message : Fault → String
  | .noBase => "relative URL without a base"
  | .baseHasNoPath => "relative URL with a cannot-be-a-base base"
  | .emptyHost => "empty host"
  | .port => "invalid port number"
  | .ipv4 => "invalid IPv4 address"
  | .ipv6 => "invalid IPv6 address"
  | .domainName => "invalid international domain name"
  | .hostCharacter => "invalid domain character"

/-- The host of an address. Addresses are kept as numbers, so that two spellings of one are
equal. -/
inductive Host where
  /-- The place for a host is there, and nothing is in it. -/
  | empty
  | domain (name : String)
  | ipv4 (n : Nat)
  | ipv6 (pieces : List Nat)
  deriving DecidableEq, Repr

namespace Host

/-- A number in some base; the empty text is zero. So `0x` alone is a zero too. -/
def numberIn? (base : Nat) (cs : List Char) : Option Nat :=
  (cs.mapM (Digit.inBase? base)).map (Digit.number base)

/-! ## Version 4 -/

/-- A part of an address of version 4: decimal, or octal after `0`, or hexadecimal after `0x`. -/
def ipv4Part? : List Char → Option Nat
  | [] => none
  | '0' :: 'x' :: cs => numberIn? 16 cs
  | '0' :: 'X' :: cs => numberIn? 16 cs
  | '0' :: c :: cs => numberIn? 8 (c :: cs)
  | cs => numberIn? 10 cs

/-- The labels without an empty one at the end. -/
def dropEmptyLast (ls : List (List Char)) : List (List Char) :=
  if ls.getLast? = some [] then ls.dropLast else ls

/-- Whether a name has to be an address of version 4: its last label is a number. Such a name is
never looked up. -/
def endsInNumber (ls : List (List Char)) : Bool :=
  match (dropEmptyLast ls).getLast? with
  | some l => (!l.isEmpty && l.all (fun c => (Digit.decimal? c).isSome)) || (ipv4Part? l).isSome
  | none => false

/-- The number of an address from its parts: all but the last are bytes, the last fills the rest. An
address may thus have less than four parts. -/
def ipv4OfParts (parts : List Nat) : Option Nat :=
  match parts.getLast? with
  | none => none
  | some last =>
    let front := parts.dropLast
    if 3 < front.length ∨ Nat.pow 256 (4 - front.length) ≤ last ∨ front.any (255 < ·) then none
    else some (front.foldl (fun n b => n * 256 + b) 0 * Nat.pow 256 (4 - front.length) + last)

/-- An address of version 4 from its labels. A point at the end is allowed. -/
def ipv4? (ls : List (List Char)) : Option Nat :=
  ((dropEmptyLast ls).mapM ipv4Part?).bind ipv4OfParts

/-- The four bytes with points between them. -/
def ipv4Chars (n : Nat) : List Char :=
  let byte (k : Nat) := Nat.toDigits 10 (n / Nat.pow 256 k % 256)
  byte 3 ++ '.' :: byte 2 ++ '.' :: byte 1 ++ '.' :: byte 0

/-! ## Version 6 -/

/-- Cuts a text at a character. -/
def cutAt (sep : Char) : List Char → List (List Char)
  | [] => [[]]
  | c :: cs =>
    if c = sep then [] :: cutAt sep cs
    else match cutAt sep cs with
      | [] => [[c]]
      | l :: ls => (c :: l) :: ls

/-- A byte in decimal without a superfluous zero. Within an address of version 6 no other base is
allowed. -/
def byte? (cs : List Char) : Option Nat :=
  match cs with
  | [] => none
  | '0' :: _ :: _ => none
  | _ => (numberIn? 10 cs).filter (· < 256)

/-- A piece: up to four hexadecimal digits. -/
def piece? (cs : List Char) : Option Nat :=
  if cs.isEmpty ∨ 4 < cs.length then none else numberIn? 16 cs

/-- The two pieces of four bytes with points between them. -/
def dotted? (cs : List Char) : Option (List Nat) :=
  match (cutAt '.' cs).mapM byte? with
  | some [a, b, c, d] => some [a * 256 + b, c * 256 + d]
  | _ => none

/-- Pieces; the last one may be four bytes, which count as two. -/
def pieces? : List (List Char) → Option (List Nat)
  | [] => some []
  | [l] => match piece? l with
    | some n => some [n]
    | none => dotted? l
  | l :: ls => do
    let n ← piece? l
    let ns ← pieces? ls
    some (n :: ns)

/-- Pieces in front of a gap. -/
def plainPieces? (cs : List Char) : Option (List Nat) :=
  if cs.isEmpty then some [] else (cutAt ':' cs).mapM piece?

/-- Pieces at the end. -/
def lastPieces? (cs : List Char) : Option (List Nat) :=
  if cs.isEmpty then some [] else pieces? (cutAt ':' cs)

/-- The texts around the first `::`. -/
def cutGap : List Char → Option (List Char × List Char)
  | ':' :: ':' :: cs => some ([], cs)
  | c :: cs => (cutGap cs).map fun (l, r) => (c :: l, r)
  | [] => none

/-- **An address of version 6.** A gap stands for one zero piece at least. There is one gap at most,
and without one there are eight pieces. -/
def ipv6? (cs : List Char) : Option (List Nat) :=
  match cutGap cs with
  | none => (lastPieces? cs).filter (·.length = 8)
  | some (l, r) => do
    let l ← plainPieces? l
    let r ← lastPieces? r
    if l.length + r.length ≤ 7 then some (l ++ List.replicate (8 - l.length - r.length) 0 ++ r)
    else none

/-- The length of the run of zeros in front. -/
def zeroRun : List Nat → Nat
  | 0 :: ns => zeroRun ns + 1
  | _ => 0

/-- The start and the length of the longest run of zeros, the first of several. This is the run that
is left out. -/
def longestRun : List Nat → Nat × Nat
  | [] => (0, 0)
  | n :: ns =>
    let here := zeroRun (n :: ns)
    let r := longestRun ns
    if r.2 ≤ here then (0, here) else (r.1 + 1, r.2)

/-- Pieces with colons between them. -/
def pieceChars : List Nat → List Char
  | [] => []
  | [n] => Nat.toDigits 16 n
  | n :: ns => Nat.toDigits 16 n ++ ':' :: pieceChars ns

/-- The pieces, the longest run of at least two zeros left out. -/
def ipv6Chars (ns : List Nat) : List Char :=
  let r := longestRun ns
  if r.2 < 2 then pieceChars ns
  else pieceChars (ns.take r.1) ++ ':' :: ':' :: pieceChars (ns.drop (r.1 + r.2))

/-! ## Reading and writing -/

/-- The inside of a text in brackets, of which the first one has been read. Only an address of
version 6 stands in brackets. -/
def bracketed : List Char → Except Fault Host
  | cs =>
    if cs.getLast? = some ']' then
      match ipv6? cs.dropLast with
      | some ns => .ok (.ipv6 ns)
      | none => .error .ipv6
    else .error .ipv6

/-- **The host of an address of the web.** Escapes are read first, so a name may be given in them,
and then it is brought into the form that is sent. -/
def parse (cs : List Char) : Except Fault Host :=
  match cs with
  | '[' :: cs => bracketed cs
  | _ =>
    match Domain.ofBytes? (unescape (cs.flatMap String.utf8EncodeChar)) with
    | none => .error .domainName
    | some [] => .error .emptyHost
    | some name =>
      let ls := Domain.labels name
      if endsInNumber ls then
        match ipv4? ls with
        | some n => .ok (.ipv4 n)
        | none => .error .ipv4
      else .ok (.domain (String.ofList name))

/-- The characters that no host may hold, whatever its scheme: those that mean something in an
address. -/
def isForbidden (c : Char) : Bool :=
  c.toNat = 0 || "\t\n\r #/:<>?@[\\]^|".toList.contains c

/-- The host of any other address: a name without meaning, in its escaped form. Capitals stay, and a
name of numbers stays a name. -/
def parseOther (cs : List Char) : Except Fault Host :=
  match cs with
  | [] => .ok .empty
  | '[' :: cs => bracketed cs
  | _ =>
    if cs.any isForbidden then .error .hostCharacter
    else .ok (.domain (escape EscapeSet.controls cs))

/-- The text of a host, with brackets around an address of version 6. -/
def chars : Host → List Char
  | .empty => []
  | .domain name => name.toList
  | .ipv4 n => ipv4Chars n
  | .ipv6 ns => '[' :: ipv6Chars ns ++ [']']

/-- The text of a host as a name to connect to, without brackets. -/
def bare : Host → String
  | .ipv6 ns => String.ofList (ipv6Chars ns)
  | h => String.ofList h.chars

end Host

end Ingest.Url
