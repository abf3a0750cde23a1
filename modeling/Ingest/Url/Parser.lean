import Ingest.Url.Basic

/-!
# Reading addresses

An address is read from left to right: scheme, user information, host, port, path, query, fragment.
For the schemes of the web a backslash counts as a slash, and slashes may be missing or
superfluous. Tabs and line ends are dropped wherever they stand, blanks and controls at both ends.
Dots in a path take the segment in front of them away, but never the letter of a drive.

A reference is read against the address it was found at, and takes over what it does not say itself.
-/

namespace Ingest.Url

/-- A text without what is dropped of it before it is read: blanks and controls at its ends, tabs
and line ends wherever they stand. -/
def clean (s : String) : List Char :=
  let isOuter (c : Char) : Bool := c.toNat ≤ 0x20
  let inner := (((s.toList.dropWhile isOuter).reverse).dropWhile isOuter).reverse
  inner.filter fun c => c ≠ '\t' && c ≠ '\n' && c ≠ '\r'

/-- A character of a scheme behind the first. -/
def isSchemeChar (c : Char) : Bool := c.isAlphanum || c = '+' || c = '-' || c = '.'

/-- The scheme in front of a text, in lower case. A colon has to end it, and a text without one has
no scheme. -/
def scheme? (cs : List Char) : Option (String × List Char) :=
  match cs with
  | [] => none
  | c :: _ =>
    if c.isAlpha then
      match cs.dropWhile isSchemeChar with
      | ':' :: rest => some (String.ofList ((cs.takeWhile isSchemeChar).map Char.toLower), rest)
      | _ => none
    else none

/-- Whether a character counts as a slash. For schemes of the web a backslash does. -/
def isSlash (web : Bool) (c : Char) : Bool := c = '/' || (web && c = '\\')

/-- Whether a character ends the part that names the host. Which these are depends on the scheme. -/
def endsAuthority (web : Bool) (c : Char) : Bool := isSlash web c || c = '?' || c = '#'

/-! ## Query and fragment -/

/-- The query and the fragment behind a path. Each is escaped by its own set, and a fragment may
hold the sign of a query. -/
def tail (web : Bool) (cs : List Char) : Option String × Option String :=
  let set := if web then EscapeSet.webQuery else EscapeSet.query
  let fragment (cs : List Char) : Option String :=
    match cs with
    | '#' :: cs => some (escape EscapeSet.fragment cs)
    | _ => none
  match cs with
  | '?' :: cs => (some (escape set (cs.takeWhile (· ≠ '#'))), fragment (cs.dropWhile (· ≠ '#')))
  | cs => (none, fragment cs)

/-- The path in front of query and fragment. -/
def beforeTail (cs : List Char) : List Char := cs.takeWhile fun c => c ≠ '?' && c ≠ '#'

/-- The query and fragment, with their signs. -/
def fromTail (cs : List Char) : List Char := cs.dropWhile fun c => c ≠ '?' && c ≠ '#'

/-! ## Paths -/

/-- Cuts a path at its slashes. Slashes side by side have an empty segment between them. -/
def cutSegments (web : Bool) : List Char → List (List Char)
  | [] => [[]]
  | c :: cs =>
    if isSlash web c then [] :: cutSegments web cs
    else match cutSegments web cs with
      | [] => [[c]]
      | s :: ss => (c :: s) :: ss

/-- Whether a segment stands for the segment it stands in. The point may be escaped, also in
part. -/
def isDot (s : List Char) : Bool :=
  [".", "%2e", "%2E"].contains (String.ofList s)

/-- Whether a segment stands for the one before, with either point escaped or not. -/
def isDoubleDot (s : List Char) : Bool :=
  ["..", "%2e%2e", "%2e%2E", "%2E%2e", "%2E%2E", "%2e.", "%2E.", ".%2e", ".%2E"].contains
    (String.ofList s)

/-- Whether a segment is the letter of a drive. -/
def isDriveLetter (s : List Char) : Bool :=
  match s with
  | [c, d] => c.isAlpha && (d = ':' || d = '|')
  | _ => false

/-- The segments, last one first, without the last. The letter of a drive is never taken away. -/
def stepBack : List String → List String
  | [] => []
  | s :: ss => if isDriveLetter s.toList then s :: ss else ss

/-- The segments, last one first, and one more. The letter of a drive in front of the path of a
file is written with a colon. -/
def stepInto (isFile : Bool) (done : List String) (s : List Char) : List String :=
  if isFile && done.isEmpty && isDriveLetter s then [String.ofList (s.take 1 ++ [':'])]
  else escape EscapeSet.path s :: done

/-- **Walks a path**: each segment either joins the ones walked so far, last one first, or takes
the last of them away. A path that ends in dots ends in a slash. -/
def walk (isFile : Bool) : List String → List (List Char) → List String
  | done, [] => done.reverse
  | done, [s] =>
    if isDoubleDot s then ("" :: stepBack done).reverse
    else if isDot s then ("" :: done).reverse
    else (stepInto isFile done s).reverse
  | done, s :: ss =>
    if isDoubleDot s then walk isFile (stepBack done) ss
    else if isDot s then walk isFile done ss
    else walk isFile (stepInto isFile done s) ss

/-- A path without the slash in front, which may be missing. -/
def afterSlash (web : Bool) : List Char → List Char
  | [] => []
  | c :: cs => if isSlash web c then cs else c :: cs

/-- The path behind a host. Only an address of the web has one in every case, if it is only a
slash. -/
def rootPath (web : Bool) (cs : List Char) : Path :=
  if cs.isEmpty && !web then .segments []
  else .segments (walk false [] (cutSegments web (afterSlash web cs)))

/-! ## User information, host and port -/

/-- The texts around the last sign of user information. Signs in front of it belong to the password
or the name, and are escaped there. -/
def cutUserInfo (cs : List Char) : Option (List Char × List Char) :=
  if cs.contains '@' then
    let host := (cs.reverse.takeWhile (· ≠ '@')).reverse
    some (cs.take (cs.length - host.length - 1), host)
  else none

/-- A name and a password. An empty password is none. -/
def userInfo (cs : List Char) : String × Option String :=
  let name := escape EscapeSet.userInfo (cs.takeWhile (· ≠ ':'))
  match cs.dropWhile (· ≠ ':') with
  | _ :: c :: rest => (name, some (escape EscapeSet.userInfo (c :: rest)))
  | _ => (name, none)

/-- The texts around the colon in front of a port; a colon in brackets belongs to the host. -/
def cutPort : Bool → List Char → List Char × Option (List Char)
  | _, [] => ([], none)
  | inside, c :: cs =>
    if c = ':' && !inside then ([], some cs)
    else
      let r := cutPort (if c = '[' then true else if c = ']' then false else inside) cs
      (c :: r.1, r.2)

/-- The digits of a port, read onto `n`. -/
def portDigits : Nat → List Char → Option Nat
  | n, [] => some n
  | n, c :: cs =>
    if '0' ≤ c ∧ c ≤ '9' then
      let m := n * 10 + (c.toNat - '0'.toNat)
      if m < 65536 then portDigits m cs else none
    else none

/-- A port that is not the scheme's own. A colon without digits behind it is the same as no
colon. -/
def readPort (scheme : String) (cs : List Char) : Except Fault (Option Nat) :=
  match portDigits 0 cs with
  | none => .error .port
  | some n => .ok (if cs.isEmpty ∨ defaultPort? scheme = some n then none else some n)

/-- The part of an address that names the host. A backslash ends the digits of a port even where
it is no slash; what stands behind them belongs to the path. -/
structure Authority where
  username : String
  password : Option String
  host : Host
  port : Option Nat
  rest : List Char

/-- The host of an authority: an address of the web has to have one. -/
def readHost (web : Bool) (cs : List Char) (hasPort : Bool) : Except Fault Host :=
  if cs.isEmpty && (web || hasPort) then .error .emptyHost
  else if web then Host.parse cs
  else Host.parseOther cs

/-- Whether a sign of user information stands in vain: nothing is in front of it and no host
behind it, though the address goes on. -/
def isVainSign (cs : List Char) (goesOn : Bool) : Bool := goesOn && cs = ['@']

/-- **Reads the part that names the host**, and is told whether the address goes on behind it. The
account is cut off first, then the port, and what is left is the host. -/
def authority (scheme : String) (cs : List Char) (goesOn : Bool) : Except Fault Authority := do
  let web := isWeb scheme
  let (name, password, rest) := match cutUserInfo cs with
    | none => ("", none, cs)
    | some (info, rest) => let i := userInfo info; (i.1, i.2, rest)
  let (hostText, portText) := cutPort false rest
  let h ← readHost web hostText portText.isSome
  let digits := (portText.map fun ds => ds.takeWhile (· ≠ '\\')).getD []
  let p ← readPort scheme digits
  if isVainSign cs goesOn || (h = .empty && (name ≠ "" || password.isSome)) then .error .emptyHost
  else .ok ⟨name, password, h, p, (portText.getD []).dropWhile (· ≠ '\\')⟩

/-- An address from the part behind its two slashes. The host and the port may be at fault; the rest
of the text cannot be. -/
def afterSlashes (scheme : String) (cs : List Char) : Except Fault Url := do
  let web := isWeb scheme
  let rest := cs.dropWhile (!endsAuthority web ·)
  let a ← authority scheme (cs.takeWhile (!endsAuthority web ·)) (!rest.isEmpty)
  let t := tail web (fromTail rest)
  let path := rootPath web (a.rest ++ beforeTail rest)
  .ok ⟨scheme, a.username, a.password, some a.host, a.port, path, t.1, t.2⟩

/-! ## Files -/

/-- Drops empty segments in front of others. -/
def dropEmptyFront : List String → List String
  | "" :: s :: ss => dropEmptyFront (s :: ss)
  | ss => ss

/-- Whether the letter of a drive stands in front of a path. -/
def isOnDrive (ss : List String) : Bool := ss.head?.any fun s => isDriveLetter s.toList

/-- The host and the path of a file. A file on a drive needs no host. -/
def filePlace (h : Host) (cs : List Char) : Host × Path :=
  let ss := walk true [] (cutSegments true (afterSlash true cs))
  (if isOnDrive ss then .empty else h, .segments (dropEmptyFront ss))

/-- The address of a file, from the part behind the colon. -/
def file (cs : List Char) : Except Fault Url := do
  let t := tail true (fromTail cs)
  let build (place : Host × Path) : Url := ⟨"file", "", none, some place.1, none, place.2, t.1, t.2⟩
  match beforeTail cs with
  | c :: d :: rest =>
    if isSlash true c && isSlash true d then
      let name := rest.takeWhile (!isSlash true ·)
      if name.isEmpty || isDriveLetter name then .ok (build (filePlace .empty rest))
      else
        let h ← Host.parse name
        let h := if h = .domain "localhost" then .empty else h
        .ok (build (filePlace h (rest.dropWhile (!isSlash true ·))))
    else .ok (build (filePlace .empty (c :: d :: rest)))
  | cs => .ok (build (filePlace .empty cs))

/-! ## Whole addresses -/

/-- Whether a text begins with two slashes. -/
def afterTwo : List Char → Option (List Char)
  | '/' :: '/' :: cs => some cs
  | _ => none

/-- An address whose scheme is not one of the web. Without two slashes it has no host, and perhaps a
path that is one text. -/
def other (scheme : String) (cs : List Char) : Except Fault Url :=
  match afterTwo cs with
  | some cs => afterSlashes scheme cs
  | none =>
    let t := tail false (fromTail cs)
    let path := match beforeTail cs with
      | '/' :: p => .segments (walk false [] (cutSegments false p))
      | p => .flat (escape EscapeSet.controls p)
    .ok ⟨scheme, "", none, none, none, path, t.1, t.2⟩

/-- An address with its own scheme, read by the rules that the scheme calls for. -/
def withScheme (scheme : String) (cs : List Char) : Except Fault Url :=
  if scheme = "file" then file cs
  else if isWeb scheme then afterSlashes scheme (cs.dropWhile (isSlash true))
  else other scheme cs

/-- **Reads an address.** Without a scheme a text is only a reference, and is none by itself. -/
def parse (s : String) : Except Fault Url :=
  let cs := clean s
  match scheme? cs with
  | some (scheme, rest) => withScheme scheme rest
  | none => .error .noBase

/-! ## References -/

/-- The segments of a path without the last one. -/
def Path.directory : Path → List String
  | .segments ss => ss.dropLast
  | .flat _ => []

/-- A reference without a scheme, or with that of its base, read against the base. What the
reference says first takes the place of that part of the base and of all behind it. -/
def relative (base : Url) (cs : List Char) : Except Fault Url :=
  let web := isWeb base.scheme
  let t := tail web (fromTail cs)
  match cs with
  | [] => .ok { base with fragment := none }
  | '?' :: _ => .ok { base with query := t.1, fragment := t.2 }
  | '#' :: _ => .ok { base with fragment := t.2 }
  | c :: rest =>
    if c = '/' ∨ c = '\\' then
      match rest with
      | d :: _ =>
        if d = '/' ∨ d = '\\' then
          match afterTwo cs with
          | some cs => afterSlashes base.scheme cs
          | none => afterSlashes base.scheme (cs.dropWhile (isSlash true))
        else
          let path := .segments (walk false [] (cutSegments web (beforeTail rest)))
          .ok { base with path := path, query := t.1, fragment := t.2 }
      | [] => .ok { base with path := .segments [""], query := none, fragment := none }
    else
      let onto := base.path.directory.reverse
      let path := .segments (walk false onto (cutSegments web (beforeTail cs)))
      .ok { base with path := path, query := t.1, fragment := t.2 }

/-- **Reads a reference against the address it was found at.** Redirects are followed by this. A
reference with a scheme of its own does not depend on the base. -/
def join (base : Url) (s : String) : Except Fault Url :=
  let cs := clean s
  match scheme? cs with
  | some (scheme, rest) =>
    let slashes := rest.takeWhile (isSlash true)
    if isWeb scheme && scheme = base.scheme && slashes.length < 2 then relative base rest
    else withScheme scheme rest
  | none =>
    match base.path, cs with
    | .flat _, '#' :: _ => .ok { base with fragment := (tail false cs).2 }
    | .flat _, _ => .error .baseHasNoPath
    | _, _ => relative base cs

end Ingest.Url
