import Ingest.Bytes
import Ingest.Time
import Ingest.Url.Basic

/-!
# Requests and replies

What goes to the store and what comes back. A reply may break off inside its body: then status and
headers are known and the body is not.
-/

/-! ## Header fields

The fields of a message in the order in which they stand. Names are tokens in lower case; a name may
stand more than once. Setting a field takes the place of every field of that name, appending leaves
them. -/

namespace Ingest.Http

/-- A character of a token: a letter or a digit of ASCII, or one of fifteen signs. Blanks and
separators are none. -/
def isTokenChar (c : Char) : Bool :=
  ('0' ≤ c && c ≤ '9') || ('a' ≤ c && c ≤ 'z') || ('A' ≤ c && c ≤ 'Z') ||
    "!#$%&'*+-.^_\x60|~".toList.contains c

def nameBound : Nat := 65535

/-- **The name of a field in lower case**, if the text is a token that is not too long. Case does
not count in names, and in lower case two names are the same field exactly if they are equal. -/
def fieldName? (s : String) : Option String :=
  if s ≠ "" ∧ s.utf8ByteSize ≤ nameBound ∧ s.toList.all isTokenChar then
    some (String.ofList (s.toList.map Char.toLower))
  else none

/-- A byte of a field's value: a tab or no control character. Bytes beyond ASCII are allowed, and
mean nothing in particular. -/
def isFieldByte (b : UInt8) : Bool := b = 9 || (0x20 ≤ b && b ≠ 0x7F)

/-- **The value of a field**, if the text is one. Nothing is trimmed or escaped: a text with a line
end in it is refused, since it would end the field. -/
def fieldValue? (s : String) : Option Bytes :=
  let bs := Bytes.ofText s
  if bs.all isFieldByte then some bs else none

/-- The fields of a message, in the order in which they were added. The order is kept for fields of
one name, where it can matter to a reader. -/
abbrev Headers := List (String × Bytes)

namespace Headers

def has (name : String) (hs : Headers) : Bool := hs.any (·.1 == name)

/-- The first value under a name, which is the one a reader takes who expects only one. -/
def first? (name : String) (hs : Headers) : Option Bytes :=
  (hs.find? (·.1 == name)).map Prod.snd

def all (name : String) (hs : Headers) : List Bytes :=
  (hs.filter (·.1 == name)).map Prod.snd

/-- Adds a field behind the others, also if there is one of its name already. The message then has
both. -/
def append (name : String) (value : Bytes) (hs : Headers) : Headers := hs ++ [(name, value)]

/-- Sets a field. It takes the place of the first of its name and all others of that name go, so
there is one field of the name afterwards. -/
def set (name : String) (value : Bytes) (hs : Headers) : Headers :=
  if has name hs then
    let front := hs.takeWhile (·.1 != name)
    let back := (hs.dropWhile (·.1 != name)).drop 1
    front ++ (name, value) :: back.filter (·.1 != name)
  else hs ++ [(name, value)]

/-- Sets one field after another. Among these, of one name the last wins. -/
def setAll (fields : Headers) (hs : Headers) : Headers :=
  fields.foldl (fun hs f => set f.1 f.2 hs) hs

def insertSorted (f : String × Bytes) : Headers → Headers
  | [] => [f]
  | g :: hs => if f.1 < g.1 then f :: g :: hs else g :: insertSorted f hs

/-- The fields sorted by name; those of one name keep their order. Requests are compared in this
form, where the order of other fields makes no difference. -/
def sorted (hs : Headers) : Headers := hs.foldl (fun acc f => insertSorted f acc) []

end Headers

/-! ## Messages -/

/-- The methods in use: payloads are put, and everything else is got. -/
inductive Method where
  | get
  | put
  deriving DecidableEq, Repr

def Method.name : Method → String
  | .get => "GET"
  | .put => "PUT"

/-- How long the sender of a request waits. The three times run side by side, and the first that is
over ends the exchange. -/
structure Patience where
  /-- For a connection. -/
  connect : Duration
  /-- For the next part of the reply; without one, forever. -/
  silence : Option Duration
  /-- For the whole exchange. -/
  whole : Option Duration
  deriving DecidableEq

/-- A request, as it is handed over to be sent. The fields that the sender adds on its own, such as
the name of the host, are not among these. -/
structure Request where
  method : Method
  url : Url
  headers : Headers
  body : Bytes
  patience : Patience
  deriving DecidableEq

/-- A reply; it has no body when it broke off. Status and fields come first on the way, so they are
known even then. -/
structure Reply where
  status : Nat
  headers : Headers
  body : Option Bytes
  deriving DecidableEq

/-- **Why there is no usable reply.** The first two are found before anything is sent; the other two
leave open whether the store has taken the request. -/
inductive Fault where
  /-- A part of the request is not what it has to be. -/
  | unusable
  /-- The address cannot be reached by a request of the web. -/
  | unusableUrl (url : Url)
  /-- The request got no reply. -/
  | unanswered (url : Url)
  /-- The reply broke off inside its body. -/
  | brokenBody
  deriving DecidableEq

def Fault.message : Fault → String
  | .unusable => "builder error"
  | .unusableUrl url => "builder error for url (" ++ url.text ++ ")"
  | .unanswered url => "error sending request for url (" ++ url.text ++ ")"
  | .brokenBody => "error decoding response body"

/-! ### Credentials -/

/-- The value that carries a name and a password. They are joined by a colon before they are
encoded, so a name with a colon in it is read as a shorter name. -/
def basicCredentials (name password : Bytes) : Bytes :=
  Bytes.ofText ("Basic " ++ Base64.encode (name ++ 0x3A :: password))

def authorization : String := "authorization"

/-- The text behind the escapes of a name or a password, as bytes, if it is one. -/
def unescapeText? (s : String) : Option Bytes :=
  let bs := Url.unescape (Bytes.ofText s)
  (Utf8.decode? bs).map fun _ => bs

/-- **The credentials in an address**, and the address without them. A name that is no text stays
where it is; a password that is no text counts as none. -/
def takeCredentials (u : Url) : Url × Option Bytes :=
  match unescapeText? u.username with
  | none => (u, none)
  | some name =>
    match u.password.bind unescapeText? with
    | none =>
      if name.isEmpty then (u, none) else (u.withoutUserInfo, some (basicCredentials name []))
    | some password => (u.withoutUserInfo, some (basicCredentials name password))

/-- The headers that a request begins with: the credentials of its address, if there are any. -/
def credentialHeaders (credentials : Option Bytes) : Headers :=
  match credentials with
  | none => []
  | some value => [(authorization, value)]

/-- Whether a character may be part of a name in an address, but of none that a request names. These
four are allowed in the names of some addresses and refused when a request is made. -/
def isUnsendable (c : Char) : Bool := "\"\x60\x7b\x7d".toList.contains c

/-- The addresses of requests are shorter than this number of bytes. -/
def addressBound : Nat := 65535

/-- **Whether a request of the web can be made to an address**: its scheme is one of the two, it is
not too long, and its host can stand in a request. -/
def isReachable (u : Url) : Bool :=
  (u.scheme = "http" || u.scheme = "https") && u.text.utf8ByteSize < addressBound &&
    match u.host? with
    | some h => !h.chars.any isUnsendable
    | none => false

/-! ### Statuses -/

/-- Whether a status sends the sender on. These are the five that name another place; others of the
same hundred do not. -/
def isRedirect (status : Nat) : Bool := [301, 302, 303, 307, 308].contains status

def redirectName : Nat → String
  | 301 => "Moved Permanently"
  | 302 => "Found"
  | 303 => "See Other"
  | 307 => "Temporary Redirect"
  | 308 => "Permanent Redirect"
  | _ => ""

/-- Whether a byte is readable: a tab or a visible character of ASCII. A value with any other byte
is not taken for a text. -/
def isReadable (b : UInt8) : Bool := b = 9 || (0x20 ≤ b && b < 0x7F)

def trimValue (bs : Bytes) : Bytes :=
  let isBlank (b : UInt8) : Bool := b = 9 || b = 0x20
  (((bs.dropWhile isBlank).reverse).dropWhile isBlank).reverse

/-- The place a reply sends the sender to, if it is readable. The first field of the name counts,
without the blanks around its value. -/
def Reply.location? (r : Reply) : Option String :=
  (Headers.first? "location" r.headers).bind fun v =>
    let v := trimValue v
    if v.all isReadable then some (String.ofList (v.map fun b => Char.ofNat b.toNat)) else none

end Ingest.Http
