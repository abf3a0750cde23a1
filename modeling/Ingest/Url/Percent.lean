import Ingest.Bytes
import Ingest.Text.Basic

/-!
# Percent encoding

A byte is written as `%` and two hexadecimal digits when the part of the address where it stands
does not admit it. Each part has its own set of such characters; bytes beyond ASCII belong to all
of them.
-/

namespace Ingest.Url

/-- A byte as an escape, with capitals as digits. -/
def escapeByte (b : UInt8) : List Char :=
  ['%', Digit.upper (b.toNat / 16), Digit.upper (b.toNat % 16)]

/-- The characters of a part that have to be escaped. Each set holds the ones that would end the
part. -/
abbrev EscapeSet := Char → Bool

namespace EscapeSet

/-- Control characters and everything beyond ASCII. All other sets hold these. -/
def controls : EscapeSet := fun c => c.toNat < 0x20 || 0x7F ≤ c.toNat

/-- For fragments, where blanks, quotes and angles are escaped. -/
def fragment : EscapeSet := fun c => controls c || " \"<>\x60".toList.contains c

/-- For the segments of a path, which a question mark or number sign would end. -/
def path : EscapeSet := fun c => fragment c || "#?\x7b\x7d".toList.contains c

/-- For user names and passwords, in which every sign of an address has to be escaped. -/
def userInfo : EscapeSet := fun c => path c || "/:;=@[\\]^|".toList.contains c

/-- For queries, where a number sign would begin the fragment. -/
def query : EscapeSet := fun c => controls c || " \"#<>".toList.contains c

/-- For queries of the schemes of the web. -/
def webQuery : EscapeSet := fun c => query c || c = '\''

end EscapeSet

/-- A character, escaped if its part asks for it. One beyond ASCII becomes an escape for each of its
bytes. -/
def escapeChar (set : EscapeSet) (c : Char) : List Char :=
  if set c then (String.utf8EncodeChar c).flatMap escapeByte else [c]

/-- A text with its characters escaped. A percent sign stays, so what is escaped already is not
escaped again. -/
def escape (set : EscapeSet) (cs : List Char) : String :=
  String.ofList (cs.flatMap (escapeChar set))

/-! ## Decoding -/

/-- The byte of two hexadecimal digits. -/
def hexPair? (a b : UInt8) : Option UInt8 := do
  let a ← Digit.hex? (Char.ofNat a.toNat)
  let b ← Digit.hex? (Char.ofNat b.toNat)
  some (UInt8.ofNat (a * 16 + b))

/-- **The bytes behind the escapes.** A percent sign without two digits stands for itself. Every
text of an address can thus be read. -/
def unescape : Bytes → Bytes
  | [] => []
  | 0x25 :: a :: b :: rest =>
    match hexPair? a b with
    | some x => x :: unescape rest
    | none => 0x25 :: unescape (a :: b :: rest)
  | x :: rest => x :: unescape rest

end Ingest.Url
