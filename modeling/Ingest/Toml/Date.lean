import Ingest.Text.Basic

/-!
# Dates and times of TOML

A date, a time of day, or both, the latter perhaps with an offset from universal time. Days are
checked against their month, seconds may be a leap second, and fractions of a second are cut after
nine digits.
-/

namespace Ingest.Toml

/-- A day of the calendar. Years have four digits, and the calendar is carried back to the first of
them. -/
structure Date where
  year : Nat
  month : Nat
  day : Nat
  deriving DecidableEq, Repr

/-- A time of day. Without a fraction of a second this is zero nanoseconds. -/
structure Time where
  hour : Nat
  minute : Nat
  second : Nat
  nanosecond : Nat
  deriving DecidableEq, Repr

/-- An offset from universal time: the sign that says there is none, or a number of minutes. -/
inductive Offset where
  | universal
  | minutes (n : Int)
  deriving DecidableEq, Repr

/-- A date, a time, or both. Only where both are there can there be an offset. -/
structure DateTime where
  date : Option Date
  time : Option Time
  offset : Option Offset
  deriving DecidableEq, Repr

/-! ## Reading -/

/-- A two-digit number between two bounds. The second digit is never left out. -/
def twoDigits (least greatest : Nat) (cs : List Char) : Option (Nat × List Char) :=
  match Digit.fixed 10 2 0 cs with
  | some (n, rest) => if least ≤ n ∧ n ≤ greatest then some (n, rest) else none
  | none => none

/-- The text after one given character. -/
def after (c : Char) : List Char → Option (List Char)
  | [] => none
  | d :: cs => if c = d then some cs else none

namespace Date

/-- Whether February has a 29th day. -/
def isLeap (year : Nat) : Bool := year % 4 = 0 && (year % 100 ≠ 0 || year % 400 = 0)

/-- The days of a month. -/
def daysIn (year month : Nat) : Nat :=
  if month = 2 then (if isLeap year then 29 else 28)
  else if month = 4 ∨ month = 6 ∨ month = 9 ∨ month = 11 then 30 else 31

/-- A date in the form `yyyy-mm-dd`. A day that its month does not have is no date. -/
def cut (cs : List Char) : Option (Date × List Char) := do
  let (year, cs) ← Digit.fixed 10 4 0 cs
  let cs ← after '-' cs
  let (month, cs) ← twoDigits 1 12 cs
  let cs ← after '-' cs
  let (day, cs) ← twoDigits 1 31 cs
  if day ≤ daysIn year month then some (⟨year, month, day⟩, cs) else none

end Date

namespace Time

/-- Digits of a fraction of a second onto `acc`; `left` of them count. Those behind are read and
dropped, and not rounded. -/
def fraction : Nat → Nat → List Char → Nat × List Char
  | left, acc, [] => (acc * Nat.pow 10 left, [])
  | left, acc, c :: cs =>
    match Digit.decimal? c with
    | some d =>
      match left with
      | 0 => fraction 0 acc cs
      | left + 1 => fraction left (acc * 10 + d) cs
    | none => (acc * Nat.pow 10 left, c :: cs)

/-- An optional fraction of a second, in nanoseconds. -/
def nanoseconds : List Char → Option (Nat × List Char)
  | '.' :: c :: cs => if (Digit.decimal? c).isSome then some (fraction 9 0 (c :: cs)) else none
  | ['.'] => none
  | cs => some (0, cs)

/-- `hh:mm:ss` up to a greatest hour, perhaps with a fraction -/
def cut (greatestHour : Nat) (cs : List Char) : Option (Time × List Char) := do
  let (hour, cs) ← twoDigits 0 greatestHour cs
  let cs ← after ':' cs
  let (minute, cs) ← twoDigits 0 59 cs
  let cs ← after ':' cs
  let (second, cs) ← twoDigits 0 60 cs
  let (nanosecond, cs) ← nanoseconds cs
  some (⟨hour, minute, second, nanosecond⟩, cs)

end Time

namespace Offset

/-- The hours and minutes after a sign, in minutes. -/
def hours (greatestHour greatestMinute : Nat) (cs : List Char) : Option (Nat × List Char) := do
  let (hour, cs) ← twoDigits 0 greatestHour cs
  let cs ← after ':' cs
  let (minute, cs) ← twoDigits 0 greatestMinute cs
  some (hour * 60 + minute, cs)

/-- An optional offset, whose hours and minutes are read by `size`. -/
def cut (size : List Char → Option (Nat × List Char)) :
    List Char → Option (Option Offset × List Char)
  | 'Z' :: cs => some (some .universal, cs)
  | 'z' :: cs => some (some .universal, cs)
  | '+' :: cs => (size cs).map fun (n, cs) => (some (.minutes n), cs)
  | '-' :: cs => (size cs).map fun (n, cs) => (some (.minutes (-n)), cs)
  | cs => some (none, cs)

/-- The size of an offset in a document. -/
def ofDocument (cs : List Char) : Option (Nat × List Char) := hours 23 59 cs

/-- The size of an offset in a text: any number of minutes up to a day. A text admits more here than
a document does. -/
def ofText (cs : List Char) : Option (Nat × List Char) :=
  (hours 99 99 cs).filter fun r => r.1 ≤ 24 * 60

end Offset

namespace DateTime

/-- Whether a character may stand between date and time. -/
def isSeparator (c : Char) : Bool := c = 'T' || c = 't' || c = ' '

/-- The time after a date, if one follows. A blank may also end the date, so a blank without a time
behind it is left where it is. -/
def afterDate (date : Date) : List Char → Option (DateTime × List Char)
  | [] => some (⟨some date, none, none⟩, [])
  | c :: cs =>
    if isSeparator c then
      match Time.cut 23 cs with
      | some (time, rest) =>
        (Offset.cut Offset.ofDocument rest).map fun (offset, rest) =>
          (⟨some date, some time, offset⟩, rest)
      | none => some (⟨some date, none, none⟩, c :: cs)
    else some (⟨some date, none, none⟩, c :: cs)

/-- **Cuts a date or a time off the front of a text.** -/
def cut (cs : List Char) : Option (DateTime × List Char) :=
  match Date.cut cs with
  | some (date, rest) => afterDate date rest
  | none => (Time.cut 23 cs).map fun (time, rest) => (⟨none, some time, none⟩, rest)

/-- The time that ends a text, behind a date. -/
def endingIn (date : Date) : List Char → Option (DateTime × List Char)
  | [] => some (⟨some date, none, none⟩, [])
  | c :: cs =>
    if isSeparator c then do
      let (time, rest) ← Time.cut 24 cs
      let (offset, rest) ← Offset.cut Offset.ofText rest
      some (⟨some date, some time, offset⟩, rest)
    else none

/-- **The date or time that a whole text is.** Here a day has an hour 24, and the offset may be
larger: this reader is not the one of documents. -/
def ofText? (s : String) : Option DateTime :=
  let r := match Date.cut s.toList with
    | some (date, rest) => endingIn date rest
    | none => (Time.cut 24 s.toList).map fun (time, rest) => (⟨none, some time, none⟩, rest)
  (r.filter (·.2.isEmpty)).map (·.1)

/-! ## Writing -/

/-- A number with zeros in front, at least `width` digits wide. -/
def padded (width n : Nat) : List Char :=
  let ds := Nat.toDigits 10 n
  List.replicate (width - ds.length) '0' ++ ds

/-- A fraction of a second without trailing zeros. -/
def fractionChars (nanosecond : Nat) : List Char :=
  if nanosecond = 0 then []
  else '.' :: ((padded 9 nanosecond).reverse.dropWhile (· = '0')).reverse

/-- A date, with four digits for the year and two for month and day. -/
def dateChars (d : Date) : List Char :=
  padded 4 d.year ++ '-' :: padded 2 d.month ++ '-' :: padded 2 d.day

/-- A time of day, with a fraction of a second only if there is one. -/
def timeChars (t : Time) : List Char :=
  padded 2 t.hour ++ ':' :: padded 2 t.minute ++ ':' :: padded 2 t.second ++
    fractionChars t.nanosecond

/-- An offset, in hours and minutes behind its sign, or by a letter. -/
def offsetChars : Offset → List Char
  | .universal => ['Z']
  | .minutes n =>
    (if n < 0 then '-' else '+') :: padded 2 (n.natAbs / 60) ++ ':' :: padded 2 (n.natAbs % 60)

/-- The normal text: `T` between date and time, no zeros at the end of a fraction, and a letter for
the offset that is none. -/
def text (d : DateTime) : String :=
  let separator := if d.date.isSome && d.time.isSome then ['T'] else []
  String.ofList ((d.date.map dateChars).getD [] ++ separator ++ (d.time.map timeChars).getD [] ++
    (d.offset.map offsetChars).getD [])

end DateTime

end Ingest.Toml
