import Ingest.Load.Reconciliation

/-!
# Waiting on a clock

The waiting for a label, run against a clock that is only a number. Pauses move the clock, and so do
the answers that a script gives. A cancellation breaks off whatever is under way when it comes; one
that comes together with an answer is noticed at the next pause or question.
-/

namespace Ingest

/-- A question put while waiting for a label: for time to pass, or for the state. These are the
moves of a load as the waiting sees them. -/
inductive Poll where
  | pause (d : Duration)
  | state (host database label : String)

abbrev Poll.Answer : Poll → Type
  | .pause _ => Unit
  | .state _ _ _ => Except Failure LabelState

namespace Timeline

/-- **An answer of the script**: after some time it perhaps cancels the waiting, and perhaps it
answers. One that does neither leaves the question open for good. -/
structure Scripted where
  delay : Nat
  cancels : Bool
  answer : Option (Except Failure LabelState)

/-- A question about a label, with the time when it was put. The list of these is what a waiting
did, for an observer at the store. -/
structure Asked where
  time : Nat
  host : String
  database : String
  label : String
  deriving DecidableEq, Repr

/-- **A clock with a script.** Times are in nanoseconds from the start, and are numbers without an
end. -/
structure Clock where
  now : Nat
  /-- When the waiting is cancelled from outside. -/
  cancelAt : Option Nat
  cancelled : Bool
  /-- The answer to each question. -/
  script : Nat → Scripted
  asked : List Asked

namespace Clock

/-- A clock at the beginning, with nothing asked so far. It may be cancelled at a time, by an
answer, or not at all. -/
def start (cancelAt : Option Nat) (script : Nat → Scripted) : Clock :=
  ⟨0, cancelAt, false, script, []⟩

/-- Whether the waiting has been cancelled by now, by an answer or because its time has come. -/
def isCancelled (c : Clock) : Bool :=
  c.cancelled || c.cancelAt.any fun t => decide (t ≤ c.now)

/-- **Lets time pass**, unless a cancellation comes first: then the clock stands at its time. One
that would come at the very end does not come first. -/
def elapse (c : Clock) (n : Nat) : Option Clock × Clock :=
  match c.cancelAt with
  | some t =>
    if t < c.now + n then (none, { c with now := t })
    else (some { c with now := c.now + n }, { c with now := c.now + n })
  | none => (some { c with now := c.now + n }, { c with now := c.now + n })

def note (c : Clock) (host database label : String) : Clock :=
  { c with asked := c.asked ++ [⟨c.now, host, database, label⟩] }

/-- Stands still until the waiting is cancelled. If it never is, the clock stays where it is. -/
def stall (c : Clock) : Clock := if c.cancelled then c else { c with now := c.cancelAt.getD c.now }

/-- Gives the scripted answer, after its time. When there is none, only a cancellation ends the wait
for it. An answer counts even if it comes together with a cancellation. -/
def give (c : Clock) (s : Scripted) : Option (Except Failure LabelState) × Clock :=
  match c.elapse s.delay with
  | (none, c) => (none, c)
  | (some c, _) =>
    let c := { c with cancelled := c.cancelled || s.cancels }
    match s.answer with
    | some a => (some a, c)
    | none => (none, c.stall)

/-- The answer to a question. Who is cancelled already answers nothing. -/
def answer (c : Clock) (q : Poll) : Option q.Answer × Clock :=
  if c.isCancelled then (none, c)
  else
    match q with
    | .pause d =>
      match c.elapse d.nanos with
      | (none, c) => (none, c)
      | (some c, _) => (some (), c)
    | .state host database label =>
      let n := c.asked.length
      (c.note host database label).give (c.script n)

def partner : Dialogue.Partner Poll.Answer Clock := ⟨answer⟩

end Clock

/-- What came of waiting for a label: how it ended, what was asked and when, and how long it
took. -/
structure Result where
  result : Except Failure LabelState
  asked : List Asked
  elapsed : Nat

/-- The waiting for a label, as a dialogue with a clock. It is the waiting of a load with other
words for its questions. -/
def dialogue (w : Waiting) (host database label : String) :
    Dialogue Poll.Answer (Except Failure LabelState) :=
  w.reconcile label (fun d => Dialogue.question (Poll.pause d))
    (Dialogue.question (Poll.state host database label))

/-- **Waits for a label on a clock.** A waiting that is broken off counts as cancelled. -/
def run (w : Waiting) (host database label : String) (clock : Clock) : Result :=
  let r := (dialogue w host database label).run Clock.partner clock
  ⟨r.result.getD (.error .cancelled), r.state.asked, r.state.now⟩

end Timeline

end Ingest
