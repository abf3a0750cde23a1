import Ingest.Text.Composite
import Ingest.Text.Classes
import Ingest.Url.Domain.Mapping
import Ingest.Url.Punycode
import Ingest.Bytes

/-!
# Domain names

The form in which a domain name is sent: small letters, composed characters, and labels beyond ASCII
in Punycode. A name of ASCII alone needs no table but its case.

A label is shown with all its characters and sent in ASCII: one beyond ASCII is sent in Punycode
behind `xn--`. A label that is given in Punycode has to be the form of one that needs it and that
would not change any more.

What is shown must be unambiguous. A label beyond ASCII does not begin with a mark, invisible
joiners stand only where the script gives them an effect, and if anything in a name runs from right
to left, each of its labels has to keep to one direction.
-/

namespace Ingest.Url.Domain

/-- Whether every character is ASCII. -/
def isAscii (cs : List Char) : Bool := cs.all (·.toNat < 0x80)

/-! ## Shown and sent -/

/-- The Punycode of a label that is given in it. -/
def punycode? : List Char → Option (List Char)
  | 'x' :: 'n' :: '-' :: '-' :: code => some code
  | _ => none

/-- The greatest length of a label in Punycode. -/
def greatestCode : Nat := 2000

/-- Whether a label is one that Punycode is for, and would not change any more. Others must not be
hidden in Punycode. -/
def isFinal (cs : List Char) : Bool :=
  !isAscii cs && cs.all isSettled && Composite.compose cs = cs

/-- **What a label shows.** One in Punycode is read, and has to be just what would be written for
what it shows. -/
def shown? (label : List Char) : Option (List Char) :=
  match punycode? label with
  | none => some label
  | some code =>
    if code.getLast? = some '-' ∨ greatestCode < code.length then none
    else (Punycode.decode? code).filter fun cs => isFinal cs && Punycode.encode cs = code

/-- **How a label is sent.** Whatever a label shows, its form on the way is ASCII. -/
def sent (cs : List Char) : List Char :=
  if isAscii cs then cs else "xn--".toList ++ Punycode.encode cs

/-- A label that shows what it is, and is no Punycode, is sent as it is. -/
theorem sent_of_isAscii {cs : List Char} (h : isAscii cs = true) : sent cs = cs := by
  simp [sent, h]

/-- What a label in Punycode shows is sent in the same Punycode. -/
theorem sent_of_shown? {code cs : List Char} (h : shown? ("xn--".toList ++ code) = some cs) :
    sent cs = "xn--".toList ++ code := by
  have hp : punycode? ("xn--".toList ++ code) = some code := rfl
  simp only [shown?, hp] at h
  split at h
  · simp at h
  · obtain ⟨_, hf⟩ := Option.filter_eq_some_iff.1 h
    simp only [isFinal, Bool.and_eq_true, Bool.not_eq_true', decide_eq_true_eq] at hf
    simp [sent, hf.1.1.1, hf.2]

/-! ## Joiners -/

/-- Keeps letters apart that would join. -/
def nonJoiner : Char := '\u200C'

/-- Joins letters that would stand apart. -/
def joiner : Char := '\u200D'

/-- Whether the nearest character that joins at all satisfies `p`. Those that letters join across
are passed over. -/
def meets (p : Joining → Bool) : List Char → Bool
  | [] => false
  | c :: cs =>
    match Joining.ofChar? c with
    | some .transparent => meets p cs
    | some j => p j
    | none => false

/-- Whether a joiner fits between the characters in front of it, last one first, and those behind
it. Behind a mark that takes the vowel away either fits, and what keeps letters apart fits where
they would join. -/
def joinerFits (c : Char) (front behind : List Char) : Bool :=
  front.head?.any (combiningClass · = viramaClass) ||
    (c = nonJoiner && meets Joining.joinsBehind front && meets Joining.joinsInFront behind)

/-- Whether all joiners fit, behind the characters in front, last one first. -/
def joinersFit (front : List Char) : List Char → Bool
  | [] => true
  | c :: cs =>
    (if c = nonJoiner ∨ c = joiner then joinerFits c front cs else true) &&
      joinersFit (c :: front) cs

/-- The greatest length of a label beyond ASCII. -/
def greatestLabel : Nat := 1000

/-- **Whether what a label shows is unambiguous**, its direction apart. Labels of ASCII are never at
fault here. -/
def isClear (cs : List Char) : Bool :=
  isAscii cs || (cs.length ≤ greatestLabel && !cs.head?.any isMark && joinersFit [] cs)

/-! ## Directions -/

/-- Whether a character makes a name run from right to left. -/
def turns (c : Char) : Bool :=
  let d := Direction.ofChar c
  d = .rightToLeft || d = .arabicDigit

/-- The direction of the last character that is no mark. -/
def lastDirection? (ds : List Direction) : Option Direction := (ds.filter (· ≠ .mark)).getLast?

/-- **Whether a label keeps to one direction.** It begins with a letter, ends in a letter or digit
of that letter's direction, and holds no letter of the other one; from right to left it holds digits
of one kind only. -/
def keepsDirection (cs : List Char) : Bool :=
  let ds := cs.map Direction.ofChar
  match ds with
  | [] => true
  | .leftToRight :: _ =>
    ds.all (fun d => d ≠ .rightToLeft && d ≠ .arabicDigit) &&
      (lastDirection? ds).any fun d => d = .leftToRight || d = .digit
  | .rightToLeft :: _ =>
    !ds.contains .leftToRight && !(ds.contains .digit && ds.contains .arabicDigit) &&
      (lastDirection? ds).any fun d => d = .rightToLeft || d = .digit || d = .arabicDigit
  | _ => false

/-- Whether the labels of a name go together. As long as nothing in the name runs from right to
left, they do. -/
def goTogether (ls : List (List Char)) : Bool := !ls.any (·.any turns) || ls.all keepsDirection

/-! ## Names -/

/-- The characters that a domain name may not hold: blanks, controls, and those with a meaning
elsewhere in an address. -/
def isForbidden (c : Char) : Bool :=
  c.toNat ≤ 0x20 || c.toNat = 0x7F || "%#/:<>?@[\\]^|".toList.contains c

/-- **The text of a name before it is cut into labels**, unless a character is refused. The mapping
may make a point, so labels are cut behind it. -/
def mapped? (cs : List Char) : Option (List Char) :=
  let mapped := if isAscii cs then some (cs.map Char.toLower)
    else (cs.mapM mapChar?).map fun parts => Composite.compose parts.flatten
  mapped.filter (!·.any isForbidden)

/-- Cuts a text at the points. A point at the end makes an empty label behind it. -/
def labels : List Char → List (List Char)
  | [] => [[]]
  | c :: cs =>
    if c = '.' then [] :: labels cs
    else match labels cs with
      | [] => [[c]]
      | l :: ls => (c :: l) :: ls

/-- Labels with points between them. -/
def joinLabels : List (List Char) → List Char
  | [] => []
  | [l] => l
  | l :: ls => l ++ '.' :: joinLabels ls

/-- **The form in which a domain name is sent**, from its bytes. Every step may refuse the name, and
what is sent is in lower case. -/
def ofBytes? (bs : Bytes) : Option (List Char) := do
  let s ← Utf8.decode? bs
  let cs ← mapped? s.toList
  let shown ← (labels cs).mapM shown?
  if shown.all isClear && goTogether shown then some (joinLabels (shown.map sent)) else none

end Ingest.Url.Domain
