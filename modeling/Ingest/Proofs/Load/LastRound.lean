import Ingest.Proofs.Load.Rounds
import Ingest.Proofs.Load.Timeline

/-!
# Waiting that is cancelled in its last round

A waiting looks for a cancellation when it pauses and when it asks. Between an answer and the next
pause it looks at the deadline first. So a cancellation that comes while it pauses is always
noticed, and so is one that leaves a question without an answer; but one that comes together with an
answer is noticed only if there is another pause. After the question whose pause has used up the
time there is none, and the waiting ends as if nobody had cancelled it.

`Stands` says where a waiting stands after some rounds: at a stage on schedule, with the clock as
the answers have left it. It stands so before every pause and every question (`exists_stands`), and
what comes of the whole is what comes of the rest from there on. `run_of_cancelledDuring` tells for
every cancellation during a pause or a question what the waiting comes to.
-/

namespace Ingest.Waiting

variable {unit d total : Duration} {s : Stage}

/-- **A stage on schedule**: the pauses so far are those before its question. The rounds keep it, as
long as the pauses are in range. -/
def Stage.OnSchedule (unit : Duration) (s : Stage) : Prop :=
  s.waited.nanos = unit.nanos * unitsBefore s.number

theorem Stage.onSchedule_first (unit : Duration) : Stage.first.OnSchedule unit :=
  (Nat.mul_zero unit.nanos).symm

/-- A round keeps to the schedule: behind its pause the time waited is that of all pauses up to the
next question. -/
theorem nanos_of_pauseAt (hs : s.OnSchedule unit) (h : pauseAt unit s = some (d, total)) :
    total.nanos = unit.nanos * unitsBefore (s.number + 1) := by
  simp only [pauseAt, backoff, Option.bind_eq_some_iff, Option.map_eq_some_iff] at h
  obtain ⟨d', hd, total', htotal, heq⟩ := h
  obtain ⟨rfl, rfl⟩ := Prod.mk.inj heq
  rw [Duration.nanos_of_add? htotal, Duration.nanos_of_times? hd, hs, unitsBefore_succ, Nat.mul_add]

/-- **A pause is in range** exactly if the pauses together are. The pause itself is never what
leaves the range, since the sum leaves it first. -/
theorem pauseAt_isSome_iff (hs : s.OnSchedule unit) : (pauseAt unit s).isSome = true ↔
    unit.nanos * unitsBefore (s.number + 1) < 2 ^ 64 * nanosPerSecond := by
  constructor
  · intro h
    obtain ⟨⟨d, total⟩, hpause⟩ := Option.isSome_iff_exists.1 h
    rw [← nanos_of_pauseAt hs hpause]
    exact total.bounded
  · intro hrange
    have hsum : unit.nanos * unitsBefore (s.number + 1)
        = s.waited.nanos + unit.nanos * units s.number := by
      rw [unitsBefore_succ, Nat.mul_add, hs]
    rw [hsum] at hrange
    have hd : unit.times? (units s.number)
        = some ⟨_, Nat.lt_of_le_of_lt (Nat.le_add_left _ _) hrange⟩ :=
      Duration.ofNanos?_eq_some_iff.2 rfl
    have htotal : s.waited.add? ⟨_, Nat.lt_of_le_of_lt (Nat.le_add_left _ _) hrange⟩
        = some ⟨_, hrange⟩ :=
      Duration.ofNanos?_eq_some_iff.2 rfl
    rw [pauseAt, backoff, hd, Option.bind_some, htotal]
    rfl

/-- A label that is in preparation is the only answer after which a waiting goes on. Each other one,
a failure among them, is the end of it. -/
theorem judge_of_ne_prepare {label : String} {a : Except Failure LabelState}
    (h : a ≠ .ok .prepare) : judge label s total a = .inr (decision label a) := by
  cases a with
  | error f => rfl
  | ok state =>
    cases state with
    | prepare => exact absurd rfl h
    | visible | committed | aborted | unknown => rfl

theorem judge_prepare {label : String} :
    judge label s total (.ok .prepare) = .inl ⟨s.number + 1, total, some .prepare⟩ := rfl

end Ingest.Waiting

namespace Ingest.Timeline

open Dialogue (Reaches Partner)
open Waiting (Stage unitsBefore pauseAt judge)

/-! ## Clocks that are cancelled -/

namespace Clock

variable {c c' : Clock}

theorem answer_of_isCancelled (h : c.isCancelled = true) (q : Poll) :
    partner.answer c q = (none, c) := by
  show (if c.isCancelled then _ else _) = _
  rw [if_pos h]

/-- Time passes in full or up to a cancellation, and nothing else changes. -/
theorem elapse_eq (c : Clock) (n : ℕ) :
    ∃ t, c.elapse n = (some { c with now := t }, { c with now := t }) ∨
      c.elapse n = (none, { c with now := t }) := by
  unfold elapse
  split
  · next t _ =>
    split
    · exact ⟨t, .inr rfl⟩
    · exact ⟨c.now + n, .inl rfl⟩
  · exact ⟨c.now + n, .inl rfl⟩

theorem asked_stall (c : Clock) : c.stall.asked = c.asked := by
  unfold stall
  split <;> rfl

theorem asked_give (c : Clock) (s : Scripted) : (c.give s).2.asked = c.asked := by
  obtain ⟨t, h | h⟩ := c.elapse_eq s.delay
  · simp only [give, h]
    split
    · rfl
    · exact asked_stall _
  · simp only [give, h]

/-- **Only questions are noted**, each once, and also a question that is cut off before it is
answered. -/
theorem length_asked_answer (h : c.isCancelled = false) :
    (∀ d, (partner.answer c (.pause d)).2.asked.length = c.asked.length) ∧
      ∀ host database label,
        (partner.answer c (.state host database label)).2.asked.length = c.asked.length + 1 := by
  have hanswer : ¬ c.isCancelled = true := Bool.eq_false_iff.1 h
  refine ⟨fun d => ?_, fun host database label => ?_⟩
  · show (c.answer (.pause d)).2.asked.length = _
    unfold answer
    rw [if_neg hanswer]
    obtain ⟨t, h | h⟩ := c.elapse_eq d.nanos
    · simp only [h]
    · simp only [h]
  · show (c.answer (.state host database label)).2.asked.length = _
    unfold answer
    rw [if_neg hanswer, asked_give, note, List.length_append, List.length_singleton]

/-- Who is cancelled gives no answer, so an answer shows that the clock was not cancelled before it.
It may be cancelled when the answer is given. -/
theorem isCancelled_of_answer {q : Poll} {r : q.Answer} (h : partner.answer c q = (some r, c')) :
    c.isCancelled = false := by
  refine Bool.eq_false_iff.2 fun hcancelled => ?_
  rw [answer_of_isCancelled hcancelled] at h
  exact nomatch congrArg Prod.fst h

end Clock

/-! ## Where a waiting stands -/

section Stands

variable (deadline unit : Duration) (host database label : String)

/-- At most `n` rounds of waiting from a stage on. The whole waiting is the one from the first
stage. -/
def roundsFrom (n : ℕ) (s : Stage) : Dialogue Poll.Answer (Option (Except Failure LabelState)) :=
  Dialogue.loop (Waiting.round deadline unit label (fun d => Dialogue.question (Poll.pause d))
    (Dialogue.question (Poll.state host database label))) n s

def behind (n : ℕ) :
    Stage ⊕ Except Failure LabelState → Dialogue Poll.Answer (Option (Except Failure LabelState))
  | .inl next => roundsFrom deadline unit host database label n next
  | .inr result => .done (some result)

variable {deadline unit host database label} {s : Stage} {d total : Duration} {n : ℕ}

theorem roundsFrom_of_pauseAt (hearly : s.waited.nanos < deadline.nanos)
    (hpause : pauseAt unit s = some (d, total)) :
    roundsFrom deadline unit host database label (n + 1) s
      = .ask (.pause d) fun _ => .ask (.state host database label) fun a =>
        behind deadline unit host database label n (judge label s total a) := by
  unfold roundsFrom
  rw [Dialogue.loop, Waiting.round_of_pauseAt hearly hpause]
  simp only [Dialogue.question, Dialogue.ask_bind, Dialogue.done_bind]
  refine congrArg _ (funext fun _ => congrArg _ (funext fun a => ?_))
  cases judge label s total a <;> rfl

/-- At the deadline a waiting ends without a pause, and without a look at the clock: whether it is
cancelled does not matter here. -/
theorem roundsFrom_of_deadline (hlate : deadline.nanos ≤ s.waited.nanos) :
    roundsFrom deadline unit host database label (n + 1) s
      = .done (some (.error (.undecided label s.last s.waited))) := by
  unfold roundsFrom
  rw [Dialogue.loop, Waiting.round, if_neg (Nat.not_lt.2 hlate)]
  rfl

theorem roundsFrom_of_overflow (hearly : s.waited.nanos < deadline.nanos)
    (hpause : pauseAt unit s = none) :
    roundsFrom deadline unit host database label (n + 1) s
      = .done (some (.error .clockOverflow)) := by
  unfold roundsFrom
  rw [Dialogue.loop, Waiting.round, if_pos hearly, hpause]
  rfl

/-- **Where a waiting stands** when it begins with a pause: on schedule and before the deadline,
with a pause in range. The clock has been asked as often as the stage says, and the waiting, given
enough rounds, goes on from the stage as if it had begun there. -/
structure Stands (deadline unit : Duration) (host database label : String) (start : Stage)
    (clock : Clock) (s : Stage) (d total : Duration) (c : Clock) : Prop where
  onSchedule : s.OnSchedule unit
  early : s.waited.nanos < deadline.nanos
  pause : pauseAt unit s = some (d, total)
  asked : c.asked.length = s.number
  runs : ∃ k, ∀ n,
    ((roundsFrom deadline unit host database label (k + n) start).run Clock.partner clock).result
        = ((roundsFrom deadline unit host database label n s).run Clock.partner c).result ∧
      ((roundsFrom deadline unit host database label (k + n) start).run Clock.partner clock).state
        = ((roundsFrom deadline unit host database label n s).run Clock.partner c).state

/-- A round asks once. The clock and the stage count the questions apart from each other, and this
keeps the counts equal. -/
theorem length_asked_of_round {c c₁ c₂ : Clock} {a : Except Failure LabelState} {n : ℕ}
    (hpause : Clock.partner.answer c (.pause d) = (some (), c₁))
    (hstate : Clock.partner.answer c₁ (.state host database label) = (some a, c₂))
    (hasked : c.asked.length = n) : c₂.asked.length = n + 1 := by
  obtain ⟨hsame, -⟩ := Clock.length_asked_answer (Clock.isCancelled_of_answer hpause)
  obtain ⟨-, hone⟩ := Clock.length_asked_answer (Clock.isCancelled_of_answer hstate)
  have h₁ := hsame d
  have h₂ := hone host database label
  rw [hpause] at h₁
  rw [hstate] at h₂
  rw [h₂, h₁, hasked]

/-- **A waiting that pauses or asks stands at a stage.** Wherever its exchanges have led it, it is
in the pause of some round or waits for the answer of one, and everything before was a whole round.
The induction is on the rounds and begins at any stage on schedule. -/
theorem exists_stands {start : Stage} {clock c : Clock} {t : List (Sigma Poll.Answer)} {q : Poll}
    {next : q.Answer → Dialogue Poll.Answer (Option (Except Failure LabelState))}
    (hstart : start.OnSchedule unit) (hasked : clock.asked.length = start.number)
    (hreach : Reaches (roundsFrom deadline unit host database label n start) t (.ask q next))
    (hgives : Clock.partner.Gives clock t c) :
    ∃ s d total c₁, Stands deadline unit host database label start clock s d total c₁ ∧
      ((q = .pause d ∧ c = c₁) ∨
        (q = .state host database label ∧ Clock.partner.answer c₁ (.pause d) = (some (), c))) := by
  induction n generalizing start clock t with
  | zero => exact nomatch hreach
  | succ n ih =>
    rcases Nat.lt_or_ge start.waited.nanos deadline.nanos with hearly | hlate
    · cases hpause : pauseAt unit start with
      | none =>
        rw [roundsFrom_of_overflow hearly hpause] at hreach
        exact nomatch hreach
      | some p =>
        obtain ⟨d, total⟩ := p
        have hhere : Stands deadline unit host database label start clock start d total clock :=
          ⟨hstart, hearly, hpause, hasked, 0, fun n => by rw [Nat.zero_add]; exact ⟨rfl, rfl⟩⟩
        rw [roundsFrom_of_pauseAt hearly hpause] at hreach
        cases hreach with
        | here =>
          cases hgives
          exact ⟨start, d, total, _, hhere, .inl ⟨rfl, rfl⟩⟩
        | ask r hreach =>
          cases hreach with
          | here =>
            obtain _ | ⟨hanswer, hgives⟩ := hgives
            cases hgives
            exact ⟨start, d, total, clock, hhere, .inr ⟨rfl, hanswer⟩⟩
          | ask a hreach =>
            obtain _ | ⟨hanswer, hgives⟩ := hgives
            obtain _ | ⟨hanswer', hgives⟩ := hgives
            by_cases hprepare : a = .ok .prepare
            · -- the waiting goes on from the next stage
              subst hprepare
              have hnext : Stage.OnSchedule unit ⟨start.number + 1, total, some .prepare⟩ :=
                Waiting.nanos_of_pauseAt hstart hpause
              obtain ⟨s, d', total', c₁, hstands, hq⟩ := ih hnext
                (length_asked_of_round hanswer hanswer' hasked) hreach hgives
              refine ⟨s, d', total', c₁, { hstands with runs := ?_ }, hq⟩
              obtain ⟨k, hk⟩ := hstands.runs
              refine ⟨k + 1, fun n => ?_⟩
              rw [Nat.add_right_comm, roundsFrom_of_pauseAt hearly hpause,
                Dialogue.run_ask_of_some hanswer, Dialogue.run_ask_of_some hanswer']
              exact hk n
            · have hend : judge label start total a = .inr (Waiting.decision label a) :=
                Waiting.judge_of_ne_prepare hprepare
              simp only [hend, behind] at hreach
              exact nomatch hreach
    · rw [roundsFrom_of_deadline hlate] at hreach
      exact nomatch hreach

/-! ## How it ends -/

/-- What the store has said when a pause or a question is over. In a pause it says nothing. -/
def Clock.told (c : Clock) : Poll → Option (Except Failure LabelState)
  | .pause _ => none
  | .state host database label => (Clock.partner.answer c (.state host database label)).1

/-- **How a waiting ends that is cancelled** during a pause or a question, by what it is told there
and by how often it has asked until then. -/
inductive Ending (deadline unit : Duration) (label : String) (polls : ℕ) :
    Option (Except Failure LabelState) → Except Failure LabelState → Prop where
  /-- Without an answer it is cancelled. -/
  | unanswered : Ending deadline unit label polls none (.error .cancelled)
  /-- An answer that decides is taken. -/
  | decided {a : Except Failure LabelState} (decides : a ≠ .ok .prepare) :
      Ending deadline unit label polls (some a) (Waiting.decision label a)
  /-- Otherwise the next pause is where the cancellation is noticed. -/
  | noticed (early : unit.nanos * unitsBefore polls < deadline.nanos)
      (range : unit.nanos * unitsBefore (polls + 1) < 2 ^ 64 * nanosPerSecond) :
      Ending deadline unit label polls (some (.ok .prepare)) (.error .cancelled)
  /-- That pause may be out of range. -/
  | overflown (early : unit.nanos * unitsBefore polls < deadline.nanos)
      (range : 2 ^ 64 * nanosPerSecond ≤ unit.nanos * unitsBefore (polls + 1)) :
      Ending deadline unit label polls (some (.ok .prepare)) (.error .clockOverflow)
  /-- **Behind the last question there is none**, and the waiting ends at the deadline. -/
  | late {waited : Duration} (pauses : waited.nanos = unit.nanos * unitsBefore polls)
      (reached : deadline.nanos ≤ unit.nanos * unitsBefore polls) :
      Ending deadline unit label polls (some (.ok .prepare))
        (.error (.undecided label (some .prepare) waited))

/-- **A waiting that is cancelled while a pause or a question is in progress**: it has been led
there by the answers of the clock, it was not cancelled when the pause began or the question was
put, and it is cancelled when the pause or the wait for an answer is over. -/
structure CancelledDuring (deadline unit : Duration) (host database label : String) (clock : Clock)
    (q : Poll) (c : Clock) : Prop where
  inProgress : ∃ n t, (rounds deadline unit host database label n).Asks t q ∧
    Clock.partner.Gives clock t c
  begun : c.isCancelled = false
  cancelled : (Clock.partner.answer c q).2.isCancelled = true

/-- The rounds that are left behind an answer, on a clock that is cancelled: nothing more is asked,
and what they come to is how the waiting ends. The deadline is looked at before the next pause, so
the cancellation may go unnoticed here. -/
theorem run_behind_of_isCancelled (deadline : Duration) (host database label : String) {c : Clock}
    (h : c.isCancelled = true) (hs : s.OnSchedule unit)
    (hpause : pauseAt unit s = some (d, total)) (a : Except Failure LabelState) :
    ∃ e, Ending deadline unit label (s.number + 1) (some a) e ∧ ∀ n,
      let r := (behind deadline unit host database label (n + 1) (judge label s total a)).run
        Clock.partner c
      r.result.getD (some (.error .cancelled)) = some e ∧ r.state = c := by
  by_cases hprepare : a = .ok .prepare
  · subst hprepare
    have hnext : Stage.OnSchedule unit ⟨s.number + 1, total, some .prepare⟩ :=
      Waiting.nanos_of_pauseAt hs hpause
    rw [Waiting.judge_prepare]
    simp only [behind]
    rcases Nat.lt_or_ge total.nanos deadline.nanos with hearly | hlate
    · have hearly' : unit.nanos * unitsBefore (s.number + 1) < deadline.nanos := hnext ▸ hearly
      cases hpause' : pauseAt unit ⟨s.number + 1, total, some .prepare⟩ with
      | none =>
        refine ⟨.error .clockOverflow, .overflown hearly' ?_, fun n => ?_⟩
        · refine Nat.not_lt.1 fun hrange => ?_
          rw [← Waiting.pauseAt_isSome_iff hnext, hpause'] at hrange
          exact Bool.false_ne_true hrange
        · rw [roundsFrom_of_overflow hearly hpause']
          exact ⟨rfl, rfl⟩
      | some p =>
        refine ⟨.error .cancelled, .noticed hearly' ?_, fun n => ?_⟩
        · rw [← Waiting.pauseAt_isSome_iff hnext, hpause']
          rfl
        · rw [roundsFrom_of_pauseAt hearly hpause',
            Dialogue.run_ask_of_none (Clock.answer_of_isCancelled h _)]
          exact ⟨rfl, rfl⟩
    · refine ⟨_, .late hnext (hnext ▸ hlate), fun n => ?_⟩
      rw [roundsFrom_of_deadline hlate]
      exact ⟨rfl, rfl⟩
  · rw [Waiting.judge_of_ne_prepare hprepare]
    exact ⟨_, .decided hprepare, fun n => ⟨rfl, rfl⟩⟩

theorem exists_ending {c₁ c : Clock} {q : Poll} (hs : s.OnSchedule unit)
    (hearly : s.waited.nanos < deadline.nanos) (hpause : pauseAt unit s = some (d, total))
    (hasked : c₁.asked.length = s.number) (hbegun : c.isCancelled = false)
    (hcancelled : (Clock.partner.answer c q).2.isCancelled = true)
    (hq : (q = .pause d ∧ c = c₁) ∨
      (q = .state host database label ∧ Clock.partner.answer c₁ (.pause d) = (some (), c))) :
    ∃ e, Ending deadline unit label (Clock.partner.answer c q).2.asked.length (c.told q) e ∧ ∀ n,
      let r := (roundsFrom deadline unit host database label (n + 2) s).run Clock.partner c₁
      r.result.getD (some (.error .cancelled)) = some e ∧
        r.state = (Clock.partner.answer c q).2 := by
  rcases hq with ⟨rfl, rfl⟩ | ⟨rfl, hanswer⟩
  · -- at the end of a pause the question is not put
    refine ⟨.error .cancelled, .unanswered, fun n => ?_⟩
    rw [roundsFrom_of_pauseAt hearly hpause]
    cases hanswer : Clock.partner.answer c (.pause d) with
    | mk r c' =>
      rw [hanswer] at hcancelled
      cases r with
      | none =>
        rw [Dialogue.run_ask_of_none hanswer]
        exact ⟨rfl, rfl⟩
      | some r =>
        rw [Dialogue.run_ask_of_some hanswer,
          Dialogue.run_ask_of_none (Clock.answer_of_isCancelled hcancelled _)]
        exact ⟨rfl, rfl⟩
  · obtain ⟨-, hone⟩ := Clock.length_asked_answer hbegun
    have hpolls := hone host database label
    have hsame := (Clock.length_asked_answer (Clock.isCancelled_of_answer hanswer)).1 d
    rw [hanswer] at hsame
    rw [hsame, hasked] at hpolls
    rw [hpolls, Clock.told]
    simp only [roundsFrom_of_pauseAt hearly hpause, Dialogue.run_ask_of_some hanswer]
    cases hstate : Clock.partner.answer c (.state host database label) with
    | mk a c' =>
      rw [hstate] at hcancelled
      cases a with
      | none =>
        refine ⟨.error .cancelled, .unanswered, fun n => ?_⟩
        rw [Dialogue.run_ask_of_none hstate]
        exact ⟨rfl, rfl⟩
      | some a =>
        obtain ⟨e, hending, hruns⟩ :=
          run_behind_of_isCancelled deadline host database label hcancelled hs hpause a
        refine ⟨e, hending, fun n => ?_⟩
        rw [Dialogue.run_ask_of_some hstate]
        exact hruns n

/-- **How a waiting ends that is cancelled during a pause or a question**, for every deadline, every
unit and every script. Its questions are those that were put until then, and it ends at the time at
which the pause or the question is over. It is a timeout in one case only: the question is answered
with a state that does not decide, and its pause has used up the time. -/
theorem run_of_cancelledDuring {cancelAt : Option ℕ} {script : ℕ → Scripted} {q : Poll} {c : Clock}
    (h : CancelledDuring deadline unit host database label (.start cancelAt script) q c) :
    ∃ r : Result, Ending deadline unit label r.asked.length (c.told q) r.result ∧
      r.asked = (Clock.partner.answer c q).2.asked ∧
      r.elapsed = (Clock.partner.answer c q).2.now ∧
      (∀ hunit, run ⟨deadline, unit, hunit⟩ host database label (.start cancelAt script) = r) ∧
      ∃ enough, ∀ n ≥ enough,
        runRounds deadline unit host database label n (.start cancelAt script) = some r := by
  obtain ⟨n, t, ⟨next, hreach⟩, hgives⟩ := h.inProgress
  obtain ⟨s, d, total, c₁, hstands, hq⟩ :=
    exists_stands (Stage.onSchedule_first unit) rfl hreach hgives
  obtain ⟨e, hending, hruns⟩ := exists_ending hstands.onSchedule hstands.early hstands.pause
    hstands.asked h.begun h.cancelled hq
  obtain ⟨k, hk⟩ := hstands.runs
  have hrounds : ∀ n ≥ k + 2,
      runRounds deadline unit host database label n (.start cancelAt script)
        = some ⟨e, (Clock.partner.answer c q).2.asked, (Clock.partner.answer c q).2.now⟩ := by
    intro n hn
    obtain ⟨m, rfl⟩ := Nat.exists_eq_add_of_le hn
    obtain ⟨hresult, hstate⟩ := hk (m + 2)
    obtain ⟨hend, hclock⟩ := hruns m
    have hsame : rounds deadline unit host database label (k + 2 + m)
        = roundsFrom deadline unit host database label (k + (m + 2)) .first := by
      rw [Nat.add_assoc, Nat.add_comm 2 m]
      rfl
    unfold runRounds
    simp only [hsame, hresult, hstate, hend, hclock, Option.map_some]
  refine ⟨_, hending, rfl, rfl, fun hunit => ?_, k + 2, hrounds⟩
  -- a unit that takes time needs no more than enough rounds
  have hmany := hrounds _ (Nat.le_max_left (k + 2) (enough ⟨deadline, unit, hunit⟩))
  have hwhole := runRounds_of_enough_le ⟨deadline, unit, hunit⟩ host database label
    (.start cancelAt script) (Nat.le_max_right (k + 2) _)
  exact Option.some.inj (hwhole.symm.trans hmany)

end Stands

/-! ## The last question and the one before -/

/-- A label that stays undecided, and the second question about it cancels the waiting. The answer
comes together with the cancellation. -/
def cancelsSecond (n : ℕ) : Scripted := ⟨0, decide (n = 1), some (.ok .prepare)⟩

theorem answer_cancelsSecond (now : ℕ) (first : Asked) (host database label : String) :
    Clock.partner.answer ⟨now, none, false, cancelsSecond, [first]⟩ (.state host database label)
      = (some (.ok .prepare),
        ⟨now, none, true, cancelsSecond, [first, ⟨now, host, database, label⟩]⟩) := rfl

/-- With a deadline above zero there is a second question, put after one pause of a unit, and this
script cancels the waiting during it. How long the deadline is does not matter here. -/
theorem cancelledDuring_cancelsSecond {deadline : Duration} (hdeadline : 0 < deadline.nanos)
    (unit : Duration) (host database label : String) :
    CancelledDuring deadline unit host database label (.start none cancelsSecond)
      (.state host database label)
      ⟨unit.nanos, none, false, cancelsSecond, [⟨0, host, database, label⟩]⟩ := by
  have hsecond : pauseAt unit ⟨1, Duration.zero, some .prepare⟩ = some (unit, unit) := by
    have hpause : Waiting.backoff unit 1 = some unit :=
      Duration.ofNanos?_eq_some_iff.2 (Nat.mul_one unit.nanos).symm
    have htotal : Duration.zero.add? unit = some unit :=
      Duration.ofNanos?_eq_some_iff.2 (Nat.zero_add unit.nanos).symm
    rw [pauseAt, hpause, Option.bind_some, htotal]
    rfl
  have hasks : (rounds deadline unit host database label 2).Asks
      [⟨.pause Duration.zero, ()⟩, ⟨.state host database label, .ok .prepare⟩, ⟨.pause unit, ()⟩]
      (.state host database label) := by
    show (roundsFrom deadline unit host database label 2 .first).Asks _ _
    rw [roundsFrom_of_pauseAt hdeadline (Waiting.pauseAt_first unit)]
    refine Dialogue.asks_ask.2 (.inr ⟨(), _, rfl, Dialogue.asks_ask.2 (.inr ⟨_, _, rfl, ?_⟩)⟩)
    show (roundsFrom deadline unit host database label 1 ⟨1, _, _⟩).Asks _ _
    rw [roundsFrom_of_pauseAt hdeadline hsecond]
    exact Dialogue.asks_ask.2 (.inr ⟨(), _, rfl, Dialogue.asks_ask.2 (.inl ⟨rfl, rfl⟩)⟩)
  have hstart : Clock.partner.answer (.start none cancelsSecond) (.pause Duration.zero)
      = (some (), .start none cancelsSecond) := rfl
  have hstate : Clock.partner.answer (.start none cancelsSecond) (.state host database label)
      = (some (.ok .prepare), ⟨0, none, false, cancelsSecond, [⟨0, host, database, label⟩]⟩) := rfl
  have hpause : Clock.partner.answer
        ⟨0, none, false, cancelsSecond, [⟨0, host, database, label⟩]⟩ (.pause unit)
      = (some (), ⟨unit.nanos, none, false, cancelsSecond, [⟨0, host, database, label⟩]⟩) := by
    rw [answer_pause, Nat.zero_add]
  exact ⟨⟨2, _, hasks, .cons hstart (.cons hstate (.cons hpause (.nil _)))⟩, rfl, rfl⟩

/-- **A timeout of a waiting that was cancelled**: the second question is the last, and it is
answered at once with a state that does not decide. -/
theorem run_late_of_second :
    let unit := Duration.ofMillis 1
    let clock := Clock.start none cancelsSecond
    let question := Poll.state "http://fe:8030" "db" "L1"
    (∃ c, CancelledDuring unit unit "http://fe:8030" "db" "L1" clock question c ∧
      c.told question = some (.ok .prepare)) ∧
    ∃ f, (run ⟨unit, unit, by decide⟩ "http://fe:8030" "db" "L1" clock).result = .error f ∧
      f.kind = .reconcileTimeout := by
  intro unit clock question
  let w : Waiting := ⟨unit, unit, by decide⟩
  have hkind : (runRounds unit unit "http://fe:8030" "db" "L1" (enough w) clock).map
      (·.result.mapError Failure.kind) = some (.error .reconcileTimeout) := by decide +kernel
  rw [runRounds_enough w, Option.map_some, Option.some.injEq] at hkind
  refine ⟨⟨_, cancelledDuring_cancelsSecond (by decide) unit _ _ _, rfl⟩, ?_⟩
  show ∃ f, (run w "http://fe:8030" "db" "L1" clock).result = _ ∧ _
  cases hresult : (run w "http://fe:8030" "db" "L1" clock).result with
  | error f =>
    rw [hresult] at hkind
    exact ⟨f, rfl, Except.error.inj hkind⟩
  | ok state =>
    rw [hresult] at hkind
    exact nomatch hkind

/-- With time for another question the waiting is cancelled. -/
theorem run_noticed_of_second :
    let unit := Duration.ofMillis 1
    let deadline := Duration.ofMillis 2
    let clock := Clock.start none cancelsSecond
    let question := Poll.state "http://fe:8030" "db" "L1"
    (∃ c, CancelledDuring deadline unit "http://fe:8030" "db" "L1" clock question c ∧
      c.told question = some (.ok .prepare)) ∧
    run ⟨deadline, unit, by decide⟩ "http://fe:8030" "db" "L1" clock = ⟨.error .cancelled,
      [⟨0, "http://fe:8030", "db", "L1"⟩, ⟨unit.nanos, "http://fe:8030", "db", "L1"⟩],
      unit.nanos⟩ := by
  intro unit deadline clock question
  have hcancelled : CancelledDuring deadline unit "http://fe:8030" "db" "L1" clock question _ :=
    cancelledDuring_cancelsSecond (by decide) unit _ _ _
  refine ⟨⟨_, hcancelled, rfl⟩, ?_⟩
  obtain ⟨⟨result, asked, elapsed⟩, hending, hasked, helapsed, hrun, -⟩ :=
    run_of_cancelledDuring hcancelled
  rw [answer_cancelsSecond] at hasked helapsed
  rw [hrun]
  have hpolls : asked.length = 2 := congrArg List.length hasked
  have hresult : result = .error .cancelled := by
    rw [hpolls] at hending
    cases hending with
    | decided decides => exact absurd rfl decides
    | noticed early range => rfl
    | overflown early range => exact absurd range (by decide)
    | late pauses reached => exact absurd reached (by decide)
  rw [hresult]
  exact congrArg₂ (Result.mk (.error .cancelled)) hasked helapsed

end Ingest.Timeline
