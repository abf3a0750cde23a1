import Ingest.Json.Parser

/-!
# The state of a label

The store decides every load under its label. While a load is under way its label is prepared; it
ends visible or committed, or aborted. A state that is not known is a state that will not be waited
for.
-/

namespace Ingest

/-- The state of a label, as the store names it. Only a label in preparation can still change. -/
inductive LabelState where
  | prepare
  | visible
  | committed
  | aborted
  | unknown
  deriving DecidableEq, Repr

namespace LabelState

/-- The name of a state. An unknown one is told by the word for it, whatever the store has called
it. -/
def name : LabelState → String
  | .prepare => "PREPARE"
  | .visible => "VISIBLE"
  | .committed => "COMMITTED"
  | .aborted => "ABORTED"
  | .unknown => "UNKNOWN"

/-- The state of a name; every other name is unknown. The names are compared as they are, in capital
letters. -/
def ofName : String → LabelState
  | "PREPARE" => .prepare
  | "VISIBLE" => .visible
  | "COMMITTED" => .committed
  | "ABORTED" => .aborted
  | _ => .unknown

/-- What a state says about its load: whether the rows are in, are not, or may still be either. -/
inductive Verdict where
  | undecided
  | succeeded
  | failed
  deriving DecidableEq, Repr

/-- **The verdict of a state.** Committed rows are in, even if they are not to be seen yet; an
unknown state is not waited for, since the store has no load to decide. -/
def verdict : LabelState → Verdict
  | .prepare => .undecided
  | .visible => .succeeded
  | .committed => .succeeded
  | .aborted => .failed
  | .unknown => .failed

@[simp] theorem ofName_name (s : LabelState) : ofName s.name = s := by cases s <;> rfl

end LabelState

end Ingest

/-! ## The reply about a label

The store tells the state of a label in an object with the member `state`, a text or null. The
object is read for this member alone, which must not stand twice. An array of the one value is read
like the object. -/

namespace Ingest.StateReply

def key : String := "state"

/-- A text or null, at the front of characters. A state that is null is there and tells nothing. -/
def optionalText : List Char → Option (Option String × List Char)
  | '"' :: cs => (Json.stringTail cs).map fun r => (some (String.ofList r.1), r.2)
  | 'n' :: cs => (Json.word "ull".toList cs).map fun rest => (none, rest)
  | _ => none

/-- The value of a member: the state is read, every other one is passed over. The state found so far
comes in and goes out, and a second one is refused even if it says the same. -/
def memberValue (k : String) (found : Option (Option String)) (cs : List Char) :
    Option (Option (Option String) × List Char) :=
  if k = key then
    match found with
    | some _ => none
    | none => (optionalText cs).map fun r => (some r.1, r.2)
  else (Json.pass cs).map fun rest => (found, rest)

/-- The members of the object from a key on, and whether the state was among them. Keys are compared
after their escapes have been read. -/
def members : Nat → Option (Option String) → List Char → Option (Option (Option String) × List Char)
  | 0, _, _ => none
  | fuel + 1, found, cs =>
    match cs with
    | '"' :: cs =>
      match Json.stringTail cs with
      | none => none
      | some (k, cs) =>
        match Json.skip cs with
        | ':' :: cs =>
          match memberValue (String.ofList k) found (Json.skip cs) with
          | none => none
          | some (found, cs) =>
            match Json.skip cs with
            | '\x7d' :: rest => some (found, rest)
            | ',' :: cs => members fuel found (Json.skip cs)
            | _ => none
        | _ => none
    | _ => none

/-- The array of the one value: the text itself takes the place of the object. More items than this
one are refused. -/
def single (cs : List Char) : Option (Option String × List Char) :=
  match optionalText cs with
  | none => none
  | some (s, cs) =>
    match Json.skip cs with
    | ']' :: rest => some (s, rest)
    | _ => none

/-- The reply in front of a text. An object without members is a reply too; it tells no state. -/
def cut : List Char → Option (Option String × List Char)
  | '\x7b' :: cs =>
    match Json.skip cs with
    | '\x7d' :: rest => some (none, rest)
    | cs => (members (cs.length + 1) none cs).map fun r => (r.1.bind id, r.2)
  | '[' :: cs => single (Json.skip cs)
  | _ => none

/-- **The name of the state in a reply**, if the reply is one and tells it. The whole text has to be
the reply, with nothing but blanks around it. -/
def ofText? (body : String) : Option String :=
  match cut (Json.skip body.toList) with
  | some (s, rest) => if (Json.skip rest).isEmpty then s else none
  | none => none

end Ingest.StateReply
