import Ingest.Http.Message

/-!
# Dialogues

A computation that puts questions to the outside and goes on with the answers. What it asks and
what it makes of an answer is all there is to it: who answers, and how long that takes, is left to
whoever runs it. The same dialogue can be run against a network, against a script, or against a
clock that only exists in a proof.

Loading is such a computation. What it asks of the outside are the four moves at the end of this
file.
-/

namespace Ingest

/-- **A dialogue** that ends with an `α`. A question `q` has its answer in `A q`, so what may be
answered is part of the type, and there is no answer that a dialogue would have to refuse. -/
inductive Dialogue {Q : Type} (A : Q → Type) (α : Type) where
  | done (a : α)
  | ask (q : Q) (next : A q → Dialogue A α)

namespace Dialogue

variable {Q : Type} {A : Q → Type} {α β : Type}

/-- The dialogue that puts one question and ends with its answer. -/
def question (q : Q) : Dialogue A (A q) := .ask q .done

/-- Goes on with the result of a dialogue. This is what `do` blocks over dialogues mean, and the law
of it in records is `held_bind`. -/
def bind : Dialogue A α → (α → Dialogue A β) → Dialogue A β
  | .done a, f => f a
  | .ask q next, f => .ask q fun r => (next r).bind f

instance : Monad (Dialogue A) where
  pure := .done
  bind := bind

@[simp] theorem done_bind (a : α) (f : α → Dialogue A β) : (Dialogue.done a).bind f = f a := rfl

@[simp] theorem ask_bind (q : Q) (next : A q → Dialogue A α) (f : α → Dialogue A β) :
    (Dialogue.ask q next).bind f = .ask q fun r => (next r).bind f := rfl

theorem bind_assoc {γ : Type} (d : Dialogue A α) (f : α → Dialogue A β) (g : β → Dialogue A γ) :
    (d.bind f).bind g = d.bind fun a => (f a).bind g := by
  induction d with
  | done a => rfl
  | ask q next ih => simp only [ask_bind, ih]

/-- Goes on with the result if there is one, and ends with the error otherwise. A program of several
steps that may fail is a chain of these. -/
def andThen {ε : Type} (d : Dialogue A (Except ε α)) (f : α → Dialogue A (Except ε β)) :
    Dialogue A (Except ε β) :=
  d.bind fun r =>
    match r with
    | .ok a => f a
    | .error e => .done (.error e)

/-- **Puts the questions of a dialogue in other words**, and translates the answers back. A load
asks of the outside in its own words, and a program around it in those of the program. -/
def rephrase {P : Type} {B : P → Type} (word : Q → P) (read : (q : Q) → B (word q) → A q) :
    Dialogue A α → Dialogue B α
  | .done a => .done a
  | .ask q next => .ask (word q) fun r => (next (read q r)).rephrase word read

/-! ## Running a dialogue -/

/-- **One who answers.** An answer may fail to come, and then the dialogue is broken off. What
the partner remembers is in its state, so the same question may be answered differently the next
time. -/
structure Partner (A : Q → Type) (σ : Type) where
  answer : σ → (q : Q) → Option (A q) × σ

/-- What came of running a dialogue: its result unless it was broken off, the questions in order,
and what the partner is left with. The last question is among them even if nobody answered it. -/
structure Run (Q α σ : Type) where
  result : Option α
  asked : List Q
  state : σ

/-- **Runs a dialogue** to its end, or to the first question that is not answered. It always stops,
since a dialogue has no infinite way through it. -/
def run {σ : Type} (p : Partner A σ) : σ → Dialogue A α → Run Q α σ
  | s, .done a => ⟨some a, [], s⟩
  | s, .ask q next =>
    match p.answer s q with
    | (none, s) => ⟨none, [q], s⟩
    | (some r, s) =>
      let rest := run p s (next r)
      ⟨rest.result, q :: rest.asked, rest.state⟩

end Dialogue

/-! ## What a load asks of the outside

Four things only: the next slot of the rotation, whether a host can be connected to, an exchange of
messages, and the passing of time. -/

/-- A question to the outside. Everything by which one run of a load can differ from another goes
through these four: there is no clock, no chance and no shared memory besides. -/
inductive Move where
  /-- Takes the next slot of the rotation that all loads share. -/
  | claim
  /-- Asks whether a host can be connected to within some time. -/
  | probe (address : String) (wait : Duration)
  /-- Sends a request. There may be no reply to it. -/
  | send (request : Http.Request)
  /-- Lets time pass. -/
  | pause (d : Duration)
  deriving DecidableEq

/-- What a question is answered with. A request may get no reply; the other three always get an
answer, unless the load is broken off. -/
abbrev Move.Answer : Move → Type
  | .claim => UInt64
  | .probe _ _ => Bool
  | .send _ => Option Http.Reply
  | .pause _ => Unit

/-- A dialogue with the outside. Loads, their parts and the calls for a host are all of this
type. -/
abbrev Talk (α : Type) := Dialogue Move.Answer α

namespace Talk

def claim : Talk UInt64 := Dialogue.question Move.claim

def probe (address : String) (wait : Duration) : Talk Bool :=
  Dialogue.question (Move.probe address wait)

def send (request : Http.Request) : Talk (Option Http.Reply) :=
  Dialogue.question (Move.send request)

def pause (d : Duration) : Talk Unit := Dialogue.question (Move.pause d)

end Talk

end Ingest
