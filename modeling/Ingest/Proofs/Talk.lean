import Ingest.Dialogue
import Ingest.Proofs.Dialogue

/-!
# The record of a talk

The exchanges of a talk with the outside are claims, probes, pauses and requests. Here they are
picked apart: the slots that were claimed, the host that was reached, and the requests, each with
the reply it got.
-/

namespace Ingest

/-- The request in a move. -/
def Move.request? : Move → Option Http.Request
  | .send q => some q
  | _ => none

namespace Talk

open Http (Request Reply)

/-- The exchanges of a talk with the outside, in order. Claims, probes, pauses and requests stand
mixed as they were made. -/
abbrev Record := List (Sigma Move.Answer)

/-- A request with its reply, if there was one. -/
abbrev Sending := Request × Option Reply

/-- The request in an exchange. -/
def sending? : Sigma Move.Answer → Option Sending
  | ⟨.send q, r⟩ => some (q, r)
  | _ => none

/-- The address in an exchange that found it can be connected to. -/
def found? : Sigma Move.Answer → Option String
  | ⟨.probe address _, true⟩ => some address
  | _ => none

/-- The slot in an exchange that claimed one. -/
def slot? : Sigma Move.Answer → Option UInt64
  | ⟨.claim, slot⟩ => some slot
  | _ => none

/-- The address in an exchange that probed one. -/
def probe? : Sigma Move.Answer → Option String
  | ⟨.probe address _, _⟩ => some address
  | _ => none

/-- **The slots that were claimed** in order. Behind each of them, in the record of a search, stands
the probe of the host it names. -/
def claimed (t : Record) : List UInt64 := t.filterMap slot?

/-- **The addresses that were probed**, in order and with every attempt, also those in vain. -/
def probed (t : Record) : List String := t.filterMap probe?

/-- **The requests of a talk** in order, each with its reply. -/
def sent (t : Record) : List Sending := t.filterMap sending?

/-- **The host that was chosen**: the first that could be connected to. A search ends with it, so it
is also the last that was probed. -/
def reached (t : Record) : Option String := t.findSome? found?

@[simp] theorem claimed_claim (slot : UInt64) (t : Record) :
    claimed (⟨.claim, slot⟩ :: t) = slot :: claimed t := rfl

@[simp] theorem claimed_probe (address : String) (wait : Duration) (reachable : Bool)
    (t : Record) : claimed (⟨.probe address wait, reachable⟩ :: t) = claimed t := rfl

@[simp] theorem claimed_append (t t' : Record) : claimed (t ++ t') = claimed t ++ claimed t' :=
  List.filterMap_append

@[simp] theorem probed_claim (slot : UInt64) (t : Record) :
    probed (⟨.claim, slot⟩ :: t) = probed t := rfl

@[simp] theorem probed_probe (address : String) (wait : Duration) (reachable : Bool)
    (t : Record) : probed (⟨.probe address wait, reachable⟩ :: t) = address :: probed t := rfl

@[simp] theorem probed_append (t t' : Record) : probed (t ++ t') = probed t ++ probed t' :=
  List.filterMap_append

@[simp] theorem sent_nil : sent [] = [] := rfl

@[simp] theorem sent_append (t t' : Record) : sent (t ++ t') = sent t ++ sent t' :=
  List.filterMap_append

@[simp] theorem sent_claim (slot : UInt64) (t : Record) :
    sent (⟨.claim, slot⟩ :: t) = sent t := rfl

@[simp] theorem sent_probe (address : String) (wait : Duration) (reachable : Bool)
    (t : Record) : sent (⟨.probe address wait, reachable⟩ :: t) = sent t := rfl

@[simp] theorem sent_pause (d : Duration) (t : Record) :
    sent (⟨.pause d, ()⟩ :: t) = sent t := rfl

@[simp] theorem sent_send (q : Request) (r : Option Reply) (t : Record) :
    sent (⟨.send q, r⟩ :: t) = (q, r) :: sent t := rfl

@[simp] theorem reached_nil : reached [] = none := rfl

@[simp] theorem reached_append (t t' : Record) :
    reached (t ++ t') = (reached t).or (reached t') :=
  List.findSome?_append

@[simp] theorem reached_claim (slot : UInt64) (t : Record) :
    reached (⟨.claim, slot⟩ :: t) = reached t := rfl

@[simp] theorem reached_probe (address : String) (wait : Duration) (reachable : Bool)
    (t : Record) : reached (⟨.probe address wait, reachable⟩ :: t)
      = if reachable then some address else reached t := by
  cases reachable <;> rfl

@[simp] theorem reached_pause (d : Duration) (t : Record) :
    reached (⟨.pause d, ()⟩ :: t) = reached t := rfl

@[simp] theorem reached_send (q : Request) (r : Option Reply) (t : Record) :
    reached (⟨.send q, r⟩ :: t) = reached t := rfl

/-- The payloads among requests. A load sends nothing else by this method. -/
def puts (l : List Sending) : List Sending := l.filter (·.1.method = .put)

/-- The questions among requests: for the state of a label, and for a log. -/
def gets (l : List Sending) : List Sending := l.filter (·.1.method = .get)

theorem puts_append_gets {l l' : List Sending} (hl : ∀ e ∈ l, e.1.method = .put)
    (hl' : ∀ e ∈ l', e.1.method = .get) :
    puts (l ++ l') = l ∧ gets (l ++ l') = l' := by
  have hput : ∀ e ∈ l', ¬ e.1.method = .put := fun e he => by rw [hl' e he]; decide
  have hget : ∀ e ∈ l, ¬ e.1.method = .get := fun e he => by rw [hl e he]; decide
  unfold puts gets
  rw [List.filter_append, List.filter_append]
  rw [List.filter_eq_self.2 fun e he => decide_eq_true (hl e he),
    List.filter_eq_nil_iff.2 fun e he => by simpa using hput e he,
    List.filter_eq_nil_iff.2 fun e he => by simpa using hget e he,
    List.filter_eq_self.2 fun e he => decide_eq_true (hl' e he)]
  exact ⟨List.append_nil l, rfl⟩

end Talk

end Ingest
