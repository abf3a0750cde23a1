import Ingest.Dialogue

/-!
# The courses of a dialogue

What happened in a dialogue is the list of its questions, each with the answer it got. `Reaches`
says where a dialogue stands after such a list, and `Held` that it has come to its end. Neither
mentions who answered: a statement about every list of exchanges is a statement about every partner
at once, whether the answers come from a network, from a script or from calls that take turns.

Two facts make these relations usable. A dialogue that goes on with the result of another is held
exactly when the one is held after the other (`held_bind`), so what is known of the parts adds up
along the list. And a partner who always answers holds every dialogue to its end
(`held_transcript`), since a dialogue is a tree without infinite branches.

A run need not come to its end for a question to be put. `Asks` says which question comes next, and
it is taken apart along the list as `Held` is (`asks_bind`).
-/

namespace Ingest.Dialogue

variable {Q : Type} {A : Q → Type} {α β σ : Type}

/-- **Where a dialogue stands** after some of its questions were answered. The answers are those in
the list and nobody else's; a run stands there if its partner gave these answers. -/
inductive Reaches : Dialogue A α → List (Sigma A) → Dialogue A α → Prop where
  | here (d : Dialogue A α) : Reaches d [] d
  | ask {q : Q} {next : A q → Dialogue A α} (r : A q) {t : List (Sigma A)} {d : Dialogue A α}
      (rest : Reaches (next r) t d) : Reaches (.ask q next) (⟨q, r⟩ :: t) d

/-- Where a dialogue stands is decided by the answers it was given. Nothing is left open in between,
so two accounts of one record agree in what comes next. -/
theorem Reaches.unique {d d₁ d₂ : Dialogue A α} {t : List (Sigma A)} (h₁ : Reaches d t d₁)
    (h₂ : Reaches d t d₂) : d₁ = d₂ := by
  induction h₁ with
  | here d =>
    cases h₂
    rfl
  | ask r rest ih =>
    cases h₂ with
    | ask r' rest' => exact ih rest'

/-- Two parts of a dialogue in a row, with the exchanges of both. Each proof about a load follows it
in parts this way, one for each function it is put together from. -/
theorem Reaches.append {d e f : Dialogue A α} {t t' : List (Sigma A)} (h : Reaches d t e)
    (h' : Reaches e t' f) : Reaches d (t ++ t') f := by
  induction h with
  | here d => exact h'
  | ask r rest ih => exact .ask r (ih h')

/-- **A dialogue that was held to its end**, with the exchanges made on the way. -/
def Held (d : Dialogue A α) (t : List (Sigma A)) (a : α) : Prop := Reaches d t (.done a)

theorem held_done {a b : α} {t : List (Sigma A)} :
    Held (.done a) t b ↔ t = [] ∧ b = a := by
  constructor
  · intro h
    cases h
    exact ⟨rfl, rfl⟩
  · rintro ⟨rfl, rfl⟩
    exact .here _

/-- The first exchange of a dialogue and the rest of it. With `held_done` this takes a record apart
in step with the dialogue it belongs to. -/
theorem held_ask {q : Q} {next : A q → Dialogue A α} {t : List (Sigma A)} {b : α} :
    Held (.ask q next) t b ↔ ∃ r t', t = ⟨q, r⟩ :: t' ∧ Held (next r) t' b := by
  constructor
  · intro h
    cases h with
    | ask r rest => exact ⟨r, _, rfl, rest⟩
  · rintro ⟨r, t', rfl, rest⟩
    exact .ask r rest

theorem held_question {q : Q} {t : List (Sigma A)} {r : A q} :
    Held (question q) t r ↔ t = [⟨q, r⟩] := by
  unfold question
  rw [held_ask]
  constructor
  · rintro ⟨r', t', rfl, h⟩
    obtain ⟨rfl, rfl⟩ := held_done.1 h
    rfl
  · rintro rfl
    exact ⟨r, [], rfl, .here _⟩

/-- **One dialogue after another**: the exchanges of a dialogue that goes on with the result of
another are those of the one and then those of the other. Every law about a load is taken apart
along this one, since a load is such a sequence throughout. -/
theorem held_bind {d : Dialogue A α} {f : α → Dialogue A β} {t : List (Sigma A)} {b : β} :
    Held (d.bind f) t b ↔ ∃ t₁ a t₂, t = t₁ ++ t₂ ∧ Held d t₁ a ∧ Held (f a) t₂ b := by
  induction d generalizing t with
  | done a =>
    constructor
    · intro h
      exact ⟨[], a, t, rfl, .here _, h⟩
    · rintro ⟨t₁, a', t₂, rfl, h₁, h₂⟩
      obtain ⟨rfl, rfl⟩ := held_done.1 h₁
      exact h₂
  | ask q next ih =>
    rw [ask_bind, held_ask]
    constructor
    · rintro ⟨r, t', rfl, h⟩
      obtain ⟨t₁, a, t₂, rfl, h₁, h₂⟩ := (ih r).1 h
      exact ⟨⟨q, r⟩ :: t₁, a, t₂, rfl, held_ask.2 ⟨r, t₁, rfl, h₁⟩, h₂⟩
    · rintro ⟨t₁, a, t₂, rfl, h₁, h₂⟩
      obtain ⟨r, t', rfl, h⟩ := held_ask.1 h₁
      exact ⟨r, t' ++ t₂, rfl, (ih r).2 ⟨t', a, t₂, rfl, h, h₂⟩⟩

/-- Where a dialogue stands decides what it can still be held by. So a dialogue that was followed
part of the way is left behind, and only the rest is spoken of. -/
theorem Reaches.held_iff {d e : Dialogue A α} {t t' : List (Sigma A)} {b : α} (h : Reaches d t e) :
    Held d (t ++ t') b ↔ Held e t' b := by
  induction h with
  | here d => exact Iff.rfl
  | ask r rest ih =>
    rw [List.cons_append, held_ask, ← ih]
    constructor
    · rintro ⟨r', t'', heq, hheld⟩
      cases heq
      exact hheld
    · exact fun hheld => ⟨r, _, rfl, hheld⟩

/-- A dialogue that goes on with the result of another stands there when the other has ended. -/
theorem Held.reaches_bind {d : Dialogue A α} {t : List (Sigma A)} {a : α} (h : Held d t a)
    (f : α → Dialogue A β) : Reaches (d.bind f) t (f a) := by
  induction d generalizing t with
  | done a' =>
    obtain ⟨rfl, rfl⟩ := held_done.1 h
    exact .here _
  | ask q next ih =>
    obtain ⟨r, t', rfl, hheld⟩ := held_ask.1 h
    exact .ask r (ih r hheld)

/-- What goes on with a result goes on with it if there is one. -/
theorem held_andThen {ε : Type} {d : Dialogue A (Except ε α)} {f : α → Dialogue A (Except ε β)}
    {t : List (Sigma A)} {b : β} :
    Held (d.andThen f) t (.ok b) ↔
      ∃ t₁ a t₂, t = t₁ ++ t₂ ∧ Held d t₁ (.ok a) ∧ Held (f a) t₂ (.ok b) := by
  unfold andThen
  rw [held_bind]
  constructor
  · rintro ⟨t₁, r, t₂, rfl, h₁, h₂⟩
    cases r with
    | error e => exact nomatch (held_done.1 h₂).2
    | ok a => exact ⟨t₁, a, t₂, rfl, h₁, h₂⟩
  · rintro ⟨t₁, a, t₂, rfl, h₁, h₂⟩
    exact ⟨t₁, .ok a, t₂, rfl, h₁, h₂⟩

/-! ## The question that comes next -/

/-- **What a dialogue asks next**, when some of its questions were answered. This speaks of
questions that were put and not answered too, as `Held` cannot: a dialogue that is broken off at a
question has asked it. -/
def Asks (d : Dialogue A α) (t : List (Sigma A)) (q : Q) : Prop :=
  ∃ next, Reaches d t (.ask q next)

theorem not_asks_done {a : α} {t : List (Sigma A)} {q : Q} :
    ¬ Asks (.done a : Dialogue A α) t q := by
  rintro ⟨next, h⟩
  exact nomatch h

/-- A question is asked first, before there are any answers, or it is asked in what follows the
first one. -/
theorem asks_ask {q q' : Q} {next : A q → Dialogue A α} {t : List (Sigma A)} :
    Asks (.ask q next) t q' ↔
      (t = [] ∧ q' = q) ∨ ∃ r t', t = ⟨q, r⟩ :: t' ∧ Asks (next r) t' q' := by
  constructor
  · rintro ⟨next', h⟩
    cases h with
    | here => exact .inl ⟨rfl, rfl⟩
    | ask r rest => exact .inr ⟨r, _, rfl, next', rest⟩
  · rintro (⟨rfl, rfl⟩ | ⟨r, t', rfl, next', rest⟩)
    · exact ⟨next, .here _⟩
    · exact ⟨next', .ask r rest⟩

theorem Reaches.asks {d e : Dialogue A α} {t t' : List (Sigma A)} {q : Q} {r : A q}
    (h : Reaches d (t ++ ⟨q, r⟩ :: t') e) : Asks d t q := by
  induction t generalizing d with
  | nil =>
    cases h with
    | ask r rest => exact ⟨_, .here _⟩
  | cons x t ih =>
    cases h with
    | ask r rest => exact asks_ask.2 (.inr ⟨_, t, rfl, ih rest⟩)

/-- **One dialogue after another** asks what the one asks, and what the other asks when the one has
ended. The second case has to know the result of the first dialogue, and so it has all its
exchanges. -/
theorem asks_bind {d : Dialogue A α} {f : α → Dialogue A β} {t : List (Sigma A)} {q : Q} :
    Asks (d.bind f) t q ↔
      Asks d t q ∨ ∃ t₁ a t₂, t = t₁ ++ t₂ ∧ Held d t₁ a ∧ Asks (f a) t₂ q := by
  induction d generalizing t with
  | done a =>
    constructor
    · exact fun h => .inr ⟨[], a, t, rfl, .here _, h⟩
    · rintro (h | ⟨t₁, a', t₂, rfl, h₁, h₂⟩)
      · exact absurd h not_asks_done
      · obtain ⟨rfl, rfl⟩ := held_done.1 h₁
        exact h₂
  | ask q' next ih =>
    simp only [ask_bind, asks_ask, ih]
    constructor
    · rintro (h | ⟨r, t', rfl, h | ⟨t₁, a, t₂, rfl, h₁, h₂⟩⟩)
      · exact .inl (.inl h)
      · exact .inl (.inr ⟨r, t', rfl, h⟩)
      · exact .inr ⟨⟨q', r⟩ :: t₁, a, t₂, rfl, held_ask.2 ⟨r, t₁, rfl, h₁⟩, h₂⟩
    · rintro ((h | ⟨r, t', rfl, h⟩) | ⟨t₁, a, t₂, rfl, h₁, h₂⟩)
      · exact .inl h
      · exact .inr ⟨r, t', rfl, .inl h⟩
      · obtain ⟨r, t', rfl, h⟩ := held_ask.1 h₁
        exact .inr ⟨r, t' ++ t₂, rfl, .inr ⟨t', a, t₂, rfl, h, h₂⟩⟩

/-- A dialogue that goes on only after success asks what its first part asks, and what the second
asks behind a success of the first. A failure of the first part asks nothing more. -/
theorem asks_andThen {ε : Type} {d : Dialogue A (Except ε α)} {f : α → Dialogue A (Except ε β)}
    {t : List (Sigma A)} {q : Q} :
    Asks (d.andThen f) t q ↔
      Asks d t q ∨ ∃ t₁ a t₂, t = t₁ ++ t₂ ∧ Held d t₁ (.ok a) ∧ Asks (f a) t₂ q := by
  unfold andThen
  rw [asks_bind]
  refine or_congr_right ⟨?_, ?_⟩
  · rintro ⟨t₁, r, t₂, rfl, h₁, h₂⟩
    cases r with
    | error e => exact absurd h₂ not_asks_done
    | ok a => exact ⟨t₁, a, t₂, rfl, h₁, h₂⟩
  · rintro ⟨t₁, a, t₂, rfl, h₁, h₂⟩
    exact ⟨t₁, .ok a, t₂, rfl, h₁, h₂⟩

/-- A dialogue that is put in other words asks only in these words. The program asks for the moves
of a load in this way, which is why every move in its record is one of a load. -/
theorem asks_of_rephrase {P : Type} {B : P → Type} {word : Q → P}
    {read : (q : Q) → B (word q) → A q} {d : Dialogue A α} {t : List (Sigma B)} {p : P}
    (h : Asks (d.rephrase word read) t p) : ∃ t' q, p = word q ∧ Asks d t' q := by
  induction d generalizing t with
  | done a => exact absurd h not_asks_done
  | ask q next ih =>
    rcases asks_ask.1 h with ⟨-, rfl⟩ | ⟨r, t', -, hrest⟩
    · exact ⟨[], q, rfl, asks_ask.2 (.inl ⟨rfl, rfl⟩)⟩
    · obtain ⟨t'', q', rfl, hq'⟩ := ih _ hrest
      exact ⟨⟨q, read q r⟩ :: t'', q', rfl, asks_ask.2 (.inr ⟨_, t'', rfl, hq'⟩)⟩

/-! ## Dialogues with questions of one kind -/

/-- **A dialogue that asks questions of one kind only**, whatever it is answered. It is a property
of the whole tree and not of a course through it, so it is decided before anyone answers. -/
def AsksOnly (P : Q → Prop) : Dialogue A α → Prop
  | .done _ => True
  | .ask q next => P q ∧ ∀ r, AsksOnly P (next r)

/-- What two dialogues keep to, one after the other keeps to. Results do not matter here, so the
second has to keep to it after each of them. -/
theorem AsksOnly.bind {P : Q → Prop} {d : Dialogue A α} {f : α → Dialogue A β}
    (h : AsksOnly P d) (hf : ∀ a, AsksOnly P (f a)) : AsksOnly P (d.bind f) := by
  induction d with
  | done a => exact hf a
  | ask q next ih => exact ⟨h.1, fun r => ih r (h.2 r)⟩

theorem asksOnly_rephrase {P : Type} {B : P → Type} (word : Q → P)
    (read : (q : Q) → B (word q) → A q) (d : Dialogue A α) :
    AsksOnly (∃ q, · = word q) (d.rephrase word read) := by
  induction d with
  | done a => trivial
  | ask q next ih => exact ⟨⟨q, rfl⟩, fun r => ih _⟩

/-- Wherever such a dialogue stands, its questions so far were of that kind, and those to come are
as well. -/
theorem AsksOnly.reaches {P : Q → Prop} {d e : Dialogue A α} {t : List (Sigma A)}
    (h : AsksOnly P d) (hr : Reaches d t e) : (∀ x ∈ t, P x.1) ∧ AsksOnly P e := by
  induction hr with
  | here d => exact ⟨fun x hx => (nomatch hx), h⟩
  | ask r rest ih =>
    obtain ⟨ht, he⟩ := ih (h.2 r)
    exact ⟨List.forall_mem_cons.2 ⟨h.1, ht⟩, he⟩

/-- A dialogue that keeps to certain questions has asked nothing else so far either, and its next
question is again one of them. -/
theorem AsksOnly.asks {P : Q → Prop} {d : Dialogue A α} {t : List (Sigma A)} {q : Q}
    (h : AsksOnly P d) (hq : Asks d t q) : (∀ x ∈ t, P x.1) ∧ P q := by
  obtain ⟨next, hr⟩ := hq
  obtain ⟨ht, hnext⟩ := h.reaches hr
  exact ⟨ht, hnext.1⟩

/-! ## Partners who answer -/

/-- **A partner who always answers**, in whatever state he is. A partner who may cancel is none. -/
def Partner.Answers (p : Partner A σ) : Prop := ∀ s q, ∃ r s', p.answer s q = (some r, s')

/-- The exchanges of a run, up to the first question that gets no answer. -/
def transcript (p : Partner A σ) : σ → Dialogue A α → List (Sigma A)
  | _, .done _ => []
  | s, .ask q next =>
    match p.answer s q with
    | (none, _) => []
    | (some r, s) => ⟨q, r⟩ :: transcript p s (next r)

/-- **A partner who always answers holds every dialogue to its end**, and the questions of the run
are those of its exchanges. This carries laws of records over to runs: what holds of everything that
a dialogue can be held by holds of the run with its result. -/
theorem held_transcript {p : Partner A σ} (hp : p.Answers) (s : σ) (d : Dialogue A α) :
    ∃ a, (d.run p s).result = some a ∧ Held d (d.transcript p s) a
      ∧ (d.run p s).asked = (d.transcript p s).map Sigma.fst := by
  induction d generalizing s with
  | done a => exact ⟨a, rfl, .here _, rfl⟩
  | ask q next ih =>
    obtain ⟨r, s', hr⟩ := hp s q
    obtain ⟨a, ha, hd, hq⟩ := ih r s'
    refine ⟨a, ?_, ?_, ?_⟩
    · simpa only [run, hr] using ha
    · simpa only [transcript, hr] using held_ask.2 ⟨r, _, rfl, hd⟩
    · simp only [run, transcript, hr, List.map_cons, hq]

/-- A question that is answered takes the run to what follows from the answer. -/
theorem run_question_bind {p : Partner A σ} {s s' : σ} {q : Q} {r : A q} {f : A q → Dialogue A β}
    (h : p.answer s q = (some r, s')) :
    (((question q).bind f).run p s).result = ((f r).run p s').result ∧
      (((question q).bind f).run p s).state = ((f r).run p s').state := by
  unfold question
  rw [ask_bind, run, h]
  exact ⟨rfl, rfl⟩

/-! ## Runs that are broken off -/

/-- A dialogue can be held to its end if every question has an answer at all. The answers may be
any, so no partner is needed for it. -/
theorem exists_held (hA : ∀ q, Nonempty (A q)) (d : Dialogue A α) : ∃ t a, d.Held t a := by
  induction d with
  | done a => exact ⟨[], a, .here _⟩
  | ask q next ih =>
    obtain ⟨r⟩ := hA q
    obtain ⟨t, a, h⟩ := ih r
    exact ⟨⟨q, r⟩ :: t, a, .ask r h⟩

/-- **Nothing is asked in a run that is broken off** which is not also asked in a dialogue that is
held to its end. So what is true of all questions of whole courses is true of every question that is
ever put, also by a run that is cancelled behind it. -/
theorem exists_held_of_asked (hA : ∀ q, Nonempty (A q)) {p : Partner A σ} {s : σ}
    {d : Dialogue A α} {q : Q} (h : q ∈ (d.run p s).asked) :
    ∃ t a, d.Held t a ∧ ∃ r, ⟨q, r⟩ ∈ t := by
  induction d generalizing s with
  | done a => exact nomatch h
  | ask q' next ih =>
    rw [run] at h
    split at h
    · -- the run ends here, whatever the answer might have been
      obtain rfl := List.mem_singleton.1 h
      obtain ⟨r⟩ := hA q
      obtain ⟨t, a, hheld⟩ := exists_held hA (next r)
      exact ⟨⟨q, r⟩ :: t, a, .ask r hheld, r, .head t⟩
    · next r s' _ =>
      rcases List.mem_cons.1 h with rfl | hrest
      · obtain ⟨t, a, hheld⟩ := exists_held hA (next r)
        exact ⟨⟨q, r⟩ :: t, a, .ask r hheld, r, .head t⟩
      · obtain ⟨t, a, hheld, r', hr'⟩ := ih r hrest
        exact ⟨⟨q', r⟩ :: t, a, .ask r hheld, r', .tail _ hr'⟩

/-! ## Runs along given answers -/

/-- **What a partner says.** From a state on it gives the answers of some exchanges, one after
another, and is left in another state. -/
inductive Partner.Gives (p : Partner A σ) : σ → List (Sigma A) → σ → Prop where
  | nil (s : σ) : Gives p s [] s
  | cons {s s₁ s' : σ} {q : Q} {r : A q} {t : List (Sigma A)} (h : p.answer s q = (some r, s₁))
      (rest : Gives p s₁ t s') : Gives p s (⟨q, r⟩ :: t) s'

/-- A partner that answers is asked on. The three parts of a run are stated together, since a later
proof needs the question, the answer and the new state of the same step. -/
theorem run_ask_of_some {q : Q} {next : A q → Dialogue A α} {p : Partner A σ} {s s' : σ}
    {r : A q} (h : p.answer s q = (some r, s')) :
    (Dialogue.ask q next).run p s = ⟨((next r).run p s').result, q :: ((next r).run p s').asked,
      ((next r).run p s').state⟩ := by
  rw [run, h]

/-- A partner that gives no answer ends the run there. The question it left open is the last one
asked, and there is no result. -/
theorem run_ask_of_none {q : Q} {next : A q → Dialogue A α} {p : Partner A σ} {s s' : σ}
    (h : p.answer s q = (none, s')) : (Dialogue.ask q next).run p s = ⟨none, [q], s'⟩ := by
  rw [run, h]

/-- **A run goes on from where its answers lead**: what comes of it is what comes of the rest, with
the questions of the way in front. -/
theorem Reaches.run {d e : Dialogue A α} {t : List (Sigma A)} {p : Partner A σ} {s s' : σ}
    (h : Reaches d t e) (hp : p.Gives s t s') :
    d.run p s = ⟨(e.run p s').result, t.map Sigma.fst ++ (e.run p s').asked,
      (e.run p s').state⟩ := by
  induction h generalizing s with
  | here d =>
    cases hp
    rfl
  | ask r rest ih =>
    cases hp with
    | cons hanswer hrest =>
      rw [run_ask_of_some hanswer, ih hrest, List.map_cons, List.cons_append]

/-- **A run that comes to no end** has been led to a question that gets no answer. The question, and
the state in which the partner kept silent, are what a law about breaking off speaks of. -/
theorem exists_unanswered {p : Partner A σ} {s : σ} {d : Dialogue A α}
    (h : (d.run p s).result = none) : ∃ t q next s₁, Reaches d t (.ask q next) ∧
      p.Gives s t s₁ ∧ p.answer s₁ q = (none, (d.run p s).state) := by
  induction d generalizing s with
  | done a => exact nomatch h
  | ask q next ih =>
    cases hanswer : p.answer s q with
    | mk answer s₁ =>
      cases answer with
      | none =>
        rw [run_ask_of_none hanswer]
        exact ⟨[], q, next, s, .here _, .nil s, hanswer⟩
      | some r =>
        rw [run_ask_of_some hanswer] at h ⊢
        obtain ⟨t, q', next', s₂, hreach, hgives, hnone⟩ := ih r h
        exact ⟨⟨q, r⟩ :: t, q', next', s₂, .ask r hreach, .cons hanswer hgives, hnone⟩

end Ingest.Dialogue
