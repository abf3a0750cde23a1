import Ingest.Dialogue

/-!
# Calls side by side

Several calls share one cursor. A call claims a slot, and later learns the answer to its probe; in
between, other calls may do the same. `Step` admits every order of these acts. `Pool.round` is one
of them: every call in turn learns its answer and goes on to its next probe.
-/

namespace Ingest

/-- **Calls that share a cursor**, with the probes begun so far in order. A call that has ended
stays in the list, so that it keeps its number. -/
structure Pool (α : Type) where
  cursor : UInt64
  begun : List String
  calls : List (Talk α)

namespace Pool

variable {α : Type}

/-- Calls that have not begun. They are told apart by their place in the list. -/
def start (cursor : UInt64) (calls : List (Talk α)) : Pool α := ⟨cursor, [], calls⟩

/-- The probe a call waits for, if it waits for one. -/
def waitingFor : Talk α → List String
  | .ask (.probe address _) _ => [address]
  | _ => []

/-- One act of one call: it claims a slot and begins its probe, or it learns the answer, which may
be any that `answers` allows. To claim and to begin the probe are one act, as no other call can come
between them to any effect. -/
inductive Step (answers : String → Bool → Prop) : Pool α → Pool α → Prop where
  | claim {p : Pool α} {i : Nat} {next : UInt64 → Talk α}
      (h : p.calls[i]? = some (.ask .claim next)) :
      Step answers p
        ⟨p.cursor + 1, p.begun ++ waitingFor (next p.cursor), p.calls.set i (next p.cursor)⟩
  | learn {p : Pool α} {i : Nat} {address : String} {wait : Duration} {next : Bool → Talk α}
      {reachable : Bool} (h : p.calls[i]? = some (.ask (.probe address wait) next))
      (ok : answers address reachable) :
      Step answers p ⟨p.cursor, p.begun, p.calls.set i (next reachable)⟩

/-- Any number of acts, by whichever calls, in any order. This is all that calls side by side can
do. -/
inductive Steps (answers : String → Bool → Prop) : Pool α → Pool α → Prop where
  | none (p : Pool α) : Steps answers p p
  | more {p q r : Pool α} (first : Step answers p q) (rest : Steps answers q r) : Steps answers p r

/-! ## Rounds -/

/-- A call on its way to its next probe: it claims slots at once, and stops where it has to wait. -/
def settle : UInt64 → Talk α → UInt64 × Talk α
  | cursor, .done a => (cursor, .done a)
  | cursor, .ask .claim next => settle (cursor + 1) (next cursor)
  | cursor, .ask q next => (cursor, .ask q next)

/-- A call that learns the answer to its probe. Calls that wait for nothing stay as they are. -/
def learn (reachable : String → Bool) : Talk α → Talk α
  | .ask (.probe address _) next => next (reachable address)
  | call => call

def ended : Talk α → Bool
  | .done _ => true
  | .ask _ _ => false

/-- One call's turn within a round: it learns its answer and goes on to its next probe. A call that
has ended is passed by. -/
def turn (reachable : String → Bool) (p : Pool α) (call : Talk α) : Pool α :=
  if ended call then { p with calls := p.calls ++ [call] }
  else
    let r := settle p.cursor (learn reachable call)
    ⟨r.1, p.begun ++ waitingFor r.2, p.calls ++ [r.2]⟩

/-- **One round**: every call learns its answer and goes on to its next probe, in the order of the
list. It is one of the orders that `Steps` admits. -/
def round (reachable : String → Bool) (p : Pool α) : Pool α :=
  p.calls.foldl (turn reachable) ⟨p.cursor, p.begun, []⟩

/-- Rounds until all calls have ended, at most `n`. A call makes at most one probe for each host, so
as many rounds as hosts, and one to begin, are enough. -/
def rounds (reachable : String → Bool) : Nat → Pool α → Pool α
  | 0, p => p
  | n + 1, p => if p.calls.all ended then p else rounds reachable n (round reachable p)

/-- What the calls have ended with. -/
def results (p : Pool α) : List (Option α) :=
  p.calls.map fun
    | .done a => some a
    | .ask _ _ => none

end Pool

end Ingest
