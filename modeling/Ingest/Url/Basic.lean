import Ingest.Url.Host
import Ingest.Bytes
import Ingest.Url.Percent

/-!
# Addresses

The parts of an address, and its text. The address of a resource on the web has a host and a path
of segments; other addresses may leave the place of the host empty, or have no such place. An
address whose scheme gives the rest no structure has a path that is one text.
-/

namespace Ingest

/-- The path of an address, in segments or as one text. -/
inductive Url.Path where
  /-- Segments, with a slash in front of each. -/
  | segments (ss : List String)
  /-- One text. -/
  | flat (s : String)
  deriving DecidableEq, Repr

/-- **An address.** User information, path, query and fragment are held in their escaped form. A
port that is the scheme's own is left out. -/
structure Url where
  scheme : String
  username : String
  password : Option String
  host : Option Url.Host
  port : Option Nat
  path : Url.Path
  query : Option String
  fragment : Option String
  deriving DecidableEq, Repr

namespace Url

/-- The schemes whose addresses are built like those of the web. These need a host, and a backslash
is a slash in them. -/
def isWeb (scheme : String) : Bool := ["http", "https", "ws", "wss", "ftp"].contains scheme

/-- The port that a scheme uses when none is given. Schemes beyond these have none. -/
def defaultPort? : String → Option Nat
  | "http" => some 80
  | "ws" => some 80
  | "https" => some 443
  | "wss" => some 443
  | "ftp" => some 21
  | _ => none

/-- The host, if there is one. A place for a host that is left empty counts as none. -/
def host? (u : Url) : Option Host := u.host.filter (· ≠ .empty)

/-- The port to connect to, if there is one: the address says it, or its scheme does. -/
def port? (u : Url) : Option Nat := u.port.or (defaultPort? u.scheme)

/-- The user information and its sign. -/
def userInfoChars (u : Url) : List Char :=
  match u.username, u.password with
  | "", none => []
  | name, none => name.toList ++ ['@']
  | name, some p => name.toList ++ ':' :: p.toList ++ ['@']

/-- A port and its sign. -/
def portChars : Option Nat → List Char
  | none => []
  | some n => ':' :: Nat.toDigits 10 n

/-- The part of the address that names the host. -/
def authorityChars (u : Url) : List Char :=
  match u.host with
  | some h => '/' :: '/' :: u.userInfoChars ++ h.chars ++ portChars u.port
  | none => []

/-- A path as it stands in the text, with a slash in front of each segment. -/
def Path.chars : Path → List Char
  | .segments ss => ss.flatMap fun s => '/' :: s.toList
  | .flat s => s.toList

/-- What keeps a path that begins with two slashes from being taken for a host. It stands in the
text and is no part of the path. -/
def pathGuard (u : Url) : List Char :=
  match u.host, u.path with
  | none, .segments ("" :: _ :: _) => ['/', '.']
  | _, _ => []

/-- A part of the address behind its sign. -/
def partChars (sign : Char) : Option String → List Char
  | none => []
  | some s => sign :: s.toList

/-- The text of an address without its fragment. -/
def charsBeforeFragment (u : Url) : List Char :=
  u.scheme.toList ++ ':' :: u.authorityChars ++ u.pathGuard ++ u.path.chars ++ partChars '?' u.query

/-- **The text of an address.** It is not the text that was read: what was left out there is filled
in, and what was escaped stays so. -/
def text (u : Url) : String := String.ofList (u.charsBeforeFragment ++ partChars '#' u.fragment)

/-- The address without user information, as it is shown and sent once the account has become a
header. -/
def withoutUserInfo (u : Url) : Url := { u with username := "", password := none }

/-- The address without its fragment, which is never sent. -/
def requestText (u : Url) : String := String.ofList u.charsBeforeFragment

end Url

end Ingest

/-! ## Pairs in a query

A query may be a sequence of pairs of a name and a value, written as form fields are: letters,
digits and `*-._` stand for themselves, a blank is a plus sign, and every other byte is escaped.
What is written can be read back, since no byte is written like another. -/

namespace Ingest.Url

namespace Form

/-- Whether a byte stands for itself: letters, digits and four signs of ASCII. -/
def isPlain (b : UInt8) : Bool :=
  (0x30 ≤ b && b ≤ 0x39) || (0x41 ≤ b && b ≤ 0x5A) || (0x61 ≤ b && b ≤ 0x7A) ||
    b = 0x2A || b = 0x2D || b = 0x2E || b = 0x5F

/-- A byte of a field. A blank becomes a plus sign here, and nowhere else in an address. -/
def encodeByte (b : UInt8) : List Char :=
  if isPlain b then [Char.ofNat b.toNat] else if b = 0x20 then ['+'] else escapeByte b

/-- A field, in which only plain bytes and plus signs are left beside escapes. -/
def encode (s : String) : List Char := (Bytes.ofText s).flatMap encodeByte

/-- A pair, with an equals sign between name and value. There is one even if the value is empty. -/
def encodePair (name value : String) : List Char := encode name ++ '=' :: encode value

/-! ### Reading -/

/-- A byte with a plus sign turned back into a blank. -/
def blankOfPlus (b : UInt8) : UInt8 := if b = 0x2B then 0x20 else b

/-- The text of a field. Bytes that are no text are replaced. -/
def decode (cs : List Char) : String :=
  Utf8.decodeLossy (unescape ((cs.flatMap String.utf8EncodeChar).map blankOfPlus))

/-- Cuts a query at its ampersands. -/
def cutFields : List Char → List (List Char)
  | [] => [[]]
  | c :: cs =>
    if c = '&' then [] :: cutFields cs
    else match cutFields cs with
      | [] => [[c]]
      | f :: fs => (c :: f) :: fs

/-- The pair of a field, at its first equals sign. Without one the value is empty. -/
def decodePair (cs : List Char) : String × String :=
  (decode (cs.takeWhile (· ≠ '=')), decode ((cs.dropWhile (· ≠ '=')).drop 1))

/-- **The pairs of a query**, in order. Empty fields are none; a name may stand in several. -/
def pairs (query : String) : List (String × String) :=
  ((cutFields query.toList).filter (!·.isEmpty)).map decodePair

end Form

/-- **Appends a pair to the query of an address.** The name and the value are escaped so that no
sign in them can end the pair, and what the query held before stays in front. -/
def appendPair (u : Url) (name value : String) : Url :=
  let pair := Form.encodePair name value
  let query := match u.query with
    | none => pair
    | some "" => pair
    | some q => q.toList ++ '&' :: pair
  { u with query := some (String.ofList query) }

end Ingest.Url
