/-!
# Bytes and texts

Rows, payloads and message bodies are byte strings. They are lists, so that joining and cutting
them is list recursion and every statement about a payload is a statement about lists. A text
becomes bytes in UTF-8 and is read from them in UTF-8; where only letters will do, bytes are written
in base 64.
-/

namespace Ingest

/-- A byte string. Payloads are compared, cut and counted far more often than they are printed, so
what is sent is bytes everywhere and a text only where somebody reads it. -/
abbrev Bytes := List UInt8

namespace Bytes

/-- The UTF-8 bytes of a text. Every text has them, and `Utf8.decode?` reads them back. -/
def ofText (s : String) : Bytes := s.toList.flatMap String.utf8EncodeChar

def lf : UInt8 := 10

def cr : UInt8 := 13

@[simp] theorem ofText_empty : ofText "" = [] := by simp [ofText]

end Bytes

end Ingest

/-! ## Reading UTF-8

Bytes are read one at a time. Between characters the reader holds nothing; inside a character it
holds the bits read so far, how many continuation bytes are owed and the range the next one must
lie in. The range of the first continuation byte depends on the lead byte: that is what shuts out
overlong forms, surrogates and values past the last character.

Bytes that are no character are reported once per longest prefix of a character, so a reader that
substitutes U+FFFD for each report gives the usual lossy text. -/

namespace Ingest.Utf8

/-- **A character that has begun**: its bits so far, the continuation bytes owed, and the bounds of
the next one. -/
structure Pending where
  bits : Nat
  owed : Nat
  least : UInt8
  greatest : UInt8

/-- What a byte between characters begins: a whole character, a longer one, or nothing. -/
inductive Lead where
  | whole (c : Char)
  | begins (p : Pending)
  | stray

/-- The lead bytes of UTF-8. `C0`, `C1` and `F5` upwards begin no character; behind `E0`, `ED`, `F0`
and `F4` only some continuation bytes may follow, and their bounds are told here. -/
def lead (b : UInt8) : Lead :=
  if b < 0x80 then .whole (Char.ofNat b.toNat)
  else if b < 0xC2 then .stray
  else if b < 0xE0 then .begins ⟨b.toNat - 0xC0, 1, 0x80, 0xBF⟩
  else if b = 0xE0 then .begins ⟨0, 2, 0xA0, 0xBF⟩
  else if b = 0xED then .begins ⟨13, 2, 0x80, 0x9F⟩
  else if b < 0xF0 then .begins ⟨b.toNat - 0xE0, 2, 0x80, 0xBF⟩
  else if b = 0xF0 then .begins ⟨0, 3, 0x90, 0xBF⟩
  else if b < 0xF4 then .begins ⟨b.toNat - 0xF0, 3, 0x80, 0xBF⟩
  else if b = 0xF4 then .begins ⟨4, 3, 0x80, 0x8F⟩
  else .stray

/-- The result of a byte between characters: what it adds to the reading, and what it leaves begun.
A byte that begins nothing is a fault by itself. -/
def openAt (b : UInt8) : List (Option Char) × Option Pending :=
  match lead b with
  | .whole c => ([some c], none)
  | .begins p => ([], some p)
  | .stray => ([none], none)

/-- **The reading of a byte string**: its characters, with `none` for every run of bytes that is the
longest beginning of a character but no character. The byte that breaks off a character is read once
more, as one between characters, so a fault never hides what follows it. -/
def scan : Option Pending → Bytes → List (Option Char)
  | none, [] => []
  | some _, [] => [none]
  | none, b :: bs =>
    (openAt b).1 ++ scan (openAt b).2 bs
  | some p, b :: bs =>
    if p.least ≤ b ∧ b ≤ p.greatest then
      let bits := p.bits * 64 + (b.toNat - 0x80)
      if p.owed ≤ 1 then some (Char.ofNat bits) :: scan none bs
      else scan (some ⟨bits, p.owed - 1, 0x80, 0xBF⟩) bs
    else none :: ((openAt b).1 ++ scan (openAt b).2 bs)

/-- The text of a byte string that is UTF-8 throughout. One fault anywhere and there is no text. -/
def decode? (bs : Bytes) : Option String :=
  ((scan none bs).mapM id).map String.ofList

/-- The text of any byte string, with U+FFFD for what is no character. Bodies of replies are read
so: what the store sends is looked at even if it is damaged. -/
def decodeLossy (bs : Bytes) : String :=
  String.ofList ((scan none bs).map (·.getD '\uFFFD'))

end Ingest.Utf8

/-! ## Base 64

Three bytes make four letters of six bits each; what is missing in the last group is filled with
`=`. -/

namespace Ingest.Base64

def letter (n : Nat) : Char :=
  if n < 26 then Char.ofNat (0x41 + n)
  else if n < 52 then Char.ofNat (0x61 + (n - 26))
  else if n < 62 then Char.ofNat (0x30 + (n - 52))
  else if n = 62 then '+' else '/'

/-- The letters of a byte string, three bytes at a time. The last group may be shorter, and is
filled with zero bits and then with signs. -/
def encodeChars : Bytes → List Char
  | [] => []
  | [a] => [letter (a.toNat / 4), letter (a.toNat % 4 * 16), '=', '=']
  | [a, b] =>
    [letter (a.toNat / 4), letter (a.toNat % 4 * 16 + b.toNat / 16), letter (b.toNat % 16 * 4), '=']
  | a :: b :: c :: rest =>
    letter (a.toNat / 4) :: letter (a.toNat % 4 * 16 + b.toNat / 16) ::
      letter (b.toNat % 16 * 4 + c.toNat / 64) :: letter (c.toNat % 64) :: encodeChars rest

/-- A byte string in base 64, in the alphabet with `+` and `/` and on one line. An account is sent
so. -/
def encode (bs : Bytes) : String := String.ofList (encodeChars bs)

end Ingest.Base64
