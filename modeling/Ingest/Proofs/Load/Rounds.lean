import Ingest.Load.Timeline
import Ingest.Proofs.Load.Polling

/-!
# Waiting in rounds

A round of waiting is a pause, a question and what is made of the answer. `Dialogue.loop` makes as
many rounds as it is told to, so nothing about the lengths of the pauses is needed to say what a
waiting does: a unit of no time is a unit like any other, only that the rounds need not come to an
end. When the unit takes time they do, and then they are the waiting (`loop_round`).
-/

namespace Ingest.Dialogue

variable {Q : Type} {A : Q → Type} {α β σ : Type}

theorem run_bind_done (p : Partner A σ) (s : σ) (f : α → β) (d : Dialogue A α) :
    (d.bind fun a => .done (f a)).run p s
      = ⟨(d.run p s).result.map f, (d.run p s).asked, (d.run p s).state⟩ := by
  induction d generalizing s with
  | done a => rfl
  | ask q next ih =>
    rw [ask_bind, run, run]
    split
    · rfl
    · next r s' hr => rw [ih r s']

/-- **A loop of at most `n` rounds.** A round says how to go on or what the loop comes to. There is
no result if the last of the rounds says how to go on. -/
def loop (round : σ → Dialogue A (σ ⊕ β)) : Nat → σ → Dialogue A (Option β)
  | 0, _ => .done none
  | n + 1, s => (round s).bind fun
    | .inl next => loop round n next
    | .inr b => .done (some b)

end Ingest.Dialogue

namespace Ingest.Waiting

variable {Q : Type} {A : Q → Type} {w : Waiting} {label : String}
  {pause : Duration → Dialogue A Unit} {query : Dialogue A (Except Failure LabelState)}

/-- Where a waiting stands before a question: all that a round has to know of those before it. -/
structure Stage where
  /-- The number of the question. -/
  number : Nat
  /-- The pauses so far. -/
  waited : Duration
  /-- The last state that was told. -/
  last : Option LabelState

def Stage.first : Stage := ⟨0, Duration.zero, none⟩

/-- The pause of a round and the time waited with it, if they are in range. Both sums are looked at,
the one that makes the pause and the one that adds it. -/
def pauseAt (unit : Duration) (s : Stage) : Option (Duration × Duration) :=
  (backoff unit s.number).bind fun d => (s.waited.add? d).map fun total => (d, total)

/-- What an answer makes of a round: the next stage, or what the waiting comes to. Only a label that
is told to be prepared leads to a next stage. -/
def judge (label : String) (s : Stage) (total : Duration) :
    Except Failure LabelState → Stage ⊕ Except Failure LabelState
  | .error f => .inr (.error f)
  | .ok state =>
    match state.verdict with
    | .undecided => .inl ⟨s.number + 1, total, some state⟩
    | .succeeded => .inr (.ok state)
    | .failed => .inr (.error (.lost label state))

/-- **One round of waiting**, for any deadline and any unit. It is the body of the loop as a
definition of its own, so a law about a round needs no waiting that is known to end. -/
def round (deadline unit : Duration) (label : String) (pause : Duration → Dialogue A Unit)
    (query : Dialogue A (Except Failure LabelState)) (s : Stage) :
    Dialogue A (Stage ⊕ Except Failure LabelState) :=
  if s.waited.nanos < deadline.nanos then
    match pauseAt unit s with
    | none => .done (.inr (.error .clockOverflow))
    | some (d, total) =>
      (pause d).bind fun _ => query.bind fun a => .done (judge label s total a)
  else .done (.inr (.error (.undecided label s.last s.waited)))

theorem pauseAt_first (unit : Duration) :
    pauseAt unit .first = some (Duration.zero, Duration.zero) := by
  have hpause : backoff unit 0 = some Duration.zero := by
    show Duration.ofNanos? (unit.nanos * 0) = some Duration.zero
    exact Duration.ofNanos?_eq_some_iff.2 (Nat.mul_zero unit.nanos).symm
  have htotal : Duration.zero.add? Duration.zero = some Duration.zero :=
    Duration.ofNanos?_eq_some_iff.2 rfl
  unfold pauseAt Stage.first
  rw [hpause, Option.bind_some, htotal, Option.map_some]

/-- A round that is not the last one pauses, asks and judges the answer. What is left of it is a
choice between another round and an end. -/
theorem round_of_pauseAt {deadline unit d total : Duration} {s : Stage}
    (hw : s.waited.nanos < deadline.nanos) (h : pauseAt unit s = some (d, total)) :
    round deadline unit label pause query s
      = (pause d).bind fun _ => query.bind fun a => .done (judge label s total a) := by
  unfold round
  rw [if_pos hw, h]

/-- When the unit takes time, enough rounds are the waiting: every round leaves less to wait for,
and the loop that counts its rounds and the one that counts what is left make the same of each. -/
theorem loop_round (i : Nat) (waited : Duration) (last : Option LabelState) {n : Nat}
    (hn : w.left i waited < n) :
    Dialogue.loop (round w.deadline w.unit label pause query) n ⟨i, waited, last⟩
      = (w.poll label pause query i waited last).bind fun r => .done (some r) := by
  induction i, waited, last using Waiting.poll.induct w generalizing n with
  | case1 i waited last hw hnone =>
    obtain ⟨n, rfl⟩ := Nat.exists_eq_succ_of_ne_zero (Nat.ne_zero_of_lt hn)
    have hpause : pauseAt w.unit ⟨i, waited, last⟩ = none := hnone
    rw [poll_of_overflow hw hnone]
    simp only [Dialogue.loop, round, if_pos hw, hpause, Dialogue.done_bind]
  | case3 i waited last hw =>
    obtain ⟨n, rfl⟩ := Nat.exists_eq_succ_of_ne_zero (Nat.ne_zero_of_lt hn)
    rw [poll_of_deadline hw]
    simp only [Dialogue.loop, round, if_neg hw, Dialogue.done_bind]
  | case2 i waited last hw d total hadvance ih =>
    obtain ⟨n, rfl⟩ := Nat.exists_eq_succ_of_ne_zero (Nat.ne_zero_of_lt hn)
    have hpause : pauseAt w.unit ⟨i, waited, last⟩ = some (d, total) := hadvance
    have hleft : w.left (i + 1) total < n :=
      Nat.lt_of_lt_of_le (left_advance hw hadvance) (Nat.lt_succ_iff.1 hn)
    rw [poll_of_advance hw hadvance, Dialogue.loop, round_of_pauseAt hw hpause]
    simp only [Dialogue.bind_assoc, Dialogue.done_bind]
    refine congrArg _ (funext fun _ => congrArg _ (funext fun a => ?_))
    cases a with
    | error f => rfl
    | ok state =>
      cases state with
      | prepare => exact ih .prepare hleft
      | visible | committed | aborted | unknown => rfl

end Ingest.Waiting

namespace Ingest.Timeline

/-- The rounds of waiting for a label, as a dialogue with a clock. The unit may be one of no time,
and then the rounds may go on as long as the label is undecided. -/
def rounds (deadline unit : Duration) (host database label : String) (n : Nat) :
    Dialogue Poll.Answer (Option (Except Failure LabelState)) :=
  Dialogue.loop (Waiting.round deadline unit label (fun d => Dialogue.question (Poll.pause d))
    (Dialogue.question (Poll.state host database label))) n .first

/-- **Waits for a label on a clock, for at most `n` rounds.** There is no result if the label is
still undecided after them. -/
def runRounds (deadline unit : Duration) (host database label : String) (n : Nat) (clock : Clock) :
    Option Result :=
  let r := (rounds deadline unit host database label n).run Clock.partner clock
  (r.result.getD (some (.error .cancelled))).map fun result => ⟨result, r.state.asked, r.state.now⟩

def enough (w : Waiting) : Nat := w.left 0 Duration.zero + 1

/-- **Rounds enough are the dialogue.** A bound on the number of rounds makes no difference when it
is above the rounds that are needed to reach the deadline. -/
theorem rounds_of_enough_le (w : Waiting) (host database label : String) {n : Nat}
    (hn : enough w ≤ n) : rounds w.deadline w.unit host database label n
      = (dialogue w host database label).bind fun r => .done (some r) :=
  Waiting.loop_round 0 Duration.zero none hn

theorem rounds_enough (w : Waiting) (host database label : String) :
    rounds w.deadline w.unit host database label (enough w)
      = (dialogue w host database label).bind fun r => .done (some r) :=
  rounds_of_enough_le w host database label (Nat.le_refl _)

/-- **When the unit takes time, enough rounds are the waiting**, and so are more, on every clock.
What is proved of rounds is by this a law of the waiting that runs. -/
theorem runRounds_of_enough_le (w : Waiting) (host database label : String) (clock : Clock)
    {n : Nat} (hn : enough w ≤ n) : runRounds w.deadline w.unit host database label n clock
      = some (run w host database label clock) := by
  unfold runRounds run
  rw [rounds_of_enough_le w host database label hn, Dialogue.run_bind_done]
  obtain ⟨result, asked, state⟩ := (dialogue w host database label).run Clock.partner clock
  cases result <;> rfl

theorem runRounds_enough (w : Waiting) (host database label : String) (clock : Clock) :
    runRounds w.deadline w.unit host database label (enough w) clock
      = some (run w host database label clock) :=
  runRounds_of_enough_le w host database label clock (Nat.le_refl _)

end Ingest.Timeline
