import Ingest.Proofs.Load.Rounds
import Ingest.Proofs.Load.Timeline

/-!
# Waiting that is cancelled

Two runs of one dialogue are compared: one on a clock that nobody stops, and one on the same clock
that is stopped at a time. As long as that time has not come the two clocks give the same answers
and differ in nothing else (`answer_stoppedAt`). So the stopped run is the other one up to its
time, whatever the dialogue is: it comes to the same end if that end is earlier, and otherwise it
has put the questions that the other had put by then (`run_stoppedAt`).

What decides which of the two it is are the instants at which the other run learns something, the
end of a pause or an answer. A cancellation at such an instant is not spoken of.
-/

namespace Ingest.Timeline

variable {α : Type} {c : Clock} {t : ℕ}

/-- The instants at which a dialogue goes on: the ends of its pauses and the times of the answers
to its questions. -/
def instants : Clock → Dialogue Poll.Answer α → List ℕ
  | _, .done _ => []
  | c, .ask q next =>
    match Clock.partner.answer c q with
    | (none, _) => []
    | (some r, c) => c.now :: instants c (next r)

/-- What becomes of a result takes no time, so a run has the same instants with it. -/
theorem instants_bind_done {β : Type} (c : Clock) (f : α → β) (d : Dialogue Poll.Answer α) :
    instants c (d.bind fun a => .done (f a)) = instants c d := by
  induction d generalizing c with
  | done a => rfl
  | ask q next ih =>
    rw [Dialogue.ask_bind, instants, instants]
    split
    · rfl
    · next r c' hr => rw [ih r c']

/-- **A clock that nobody stops**: nothing is cancelled, and every question is answered. -/
structure Clock.Calm (c : Clock) : Prop where
  cancelAt : c.cancelAt = none
  cancelled : c.cancelled = false
  answers : ∀ n, ∃ delay a, c.script n = ⟨delay, false, some a⟩
  /-- The questions so far were put before now. -/
  past : ∀ x ∈ c.asked, x.time ≤ c.now

def Clock.stoppedAt (c : Clock) (t : ℕ) : Clock := { c with cancelAt := some t }

/-- The clock after an answer. Time has passed, and a question has been noted with the time at which
it was put, which is before that at which it was answered. -/
def Clock.after (c : Clock) : Poll → Clock
  | .pause d => { c with now := c.now + d.nanos }
  | .state host database label =>
    { c with
      now := c.now + (c.script c.asked.length).delay
      asked := c.asked ++ [⟨c.now, host, database, label⟩] }

/-- A clock that is never told to cancel is calm, whatever its answers are and however long they
take. -/
theorem calm_start (delay : ℕ → ℕ) (answer : ℕ → Except Failure LabelState) :
    (Clock.start none (answers delay answer)).Calm :=
  ⟨rfl, rfl, fun n => ⟨delay n, answer n, rfl⟩, fun _ hx => nomatch hx⟩

theorem Clock.now_le_after (c : Clock) (q : Poll) : c.now ≤ (c.after q).now := by
  cases q <;> exact Nat.le_add_right _ _

theorem Clock.asked_after (c : Clock) (q : Poll) :
    ∃ new, (c.after q).asked = c.asked ++ new ∧ ∀ x ∈ new, x.time = c.now := by
  cases q with
  | pause d => exact ⟨[], (List.append_nil _).symm, fun x hx => nomatch hx⟩
  | state host database label =>
    refine ⟨[⟨c.now, host, database, label⟩], rfl, fun x hx => ?_⟩
    rw [List.mem_singleton.1 hx]

/-- A calm clock stays so: an exchange moves it on and leaves neither a cancel nor a deadline
behind. -/
theorem Clock.Calm.after (hc : c.Calm) (q : Poll) : (c.after q).Calm := by
  have hpast : ∀ x ∈ (c.after q).asked, x.time ≤ (c.after q).now := by
    obtain ⟨new, hasked, hnew⟩ := c.asked_after q
    intro x hx
    rw [hasked] at hx
    refine Nat.le_trans ?_ (c.now_le_after q)
    rcases List.mem_append.1 hx with hx | hx
    · exact hc.past x hx
    · exact Nat.le_of_eq (hnew x hx)
  cases q <;> exact ⟨hc.cancelAt, hc.cancelled, hc.answers, hpast⟩

/-- **One answer on both clocks.** A clock that nobody stops answers. One that is stopped later than
the answer gives the same one; one that is stopped earlier gives none, and the question is noted on
both. -/
theorem answer_stoppedAt (hc : c.Calm) (q : Poll) :
    ∃ r, Clock.partner.answer c q = (some r, c.after q) ∧ ∀ t, c.now < t →
      ((c.after q).now < t →
        Clock.partner.answer (c.stoppedAt t) q = (some r, (c.after q).stoppedAt t)) ∧
      (t < (c.after q).now →
        Clock.partner.answer (c.stoppedAt t) q
          = (none, { (c.after q).stoppedAt t with now := t })) := by
  obtain ⟨now, cancelAt, cancelled, script, asked⟩ := c
  obtain ⟨rfl, rfl, hanswers, -⟩ := hc
  cases q with
  | pause d =>
    refine ⟨(), rfl, fun t ht => ?_⟩
    have hnot : ¬ t ≤ now := Nat.not_le.2 ht
    constructor
    · intro hlater
      have hlater' : ¬ t < now + d.nanos := Nat.not_lt.2 (Nat.le_of_lt hlater)
      simp [Clock.partner, Clock.answer, Clock.isCancelled, Clock.elapse, Clock.stoppedAt,
        Clock.after, hnot, hlater']
    · intro hearlier
      have hearlier' : t < now + d.nanos := hearlier
      simp [Clock.partner, Clock.answer, Clock.isCancelled, Clock.elapse, Clock.stoppedAt,
        Clock.after, hnot, hearlier']
  | state host database label =>
    obtain ⟨delay, a, hscript⟩ : ∃ delay a, script asked.length = ⟨delay, false, some a⟩ :=
      hanswers asked.length
    refine ⟨a, ?_, fun t ht => ?_⟩
    · simp [Clock.partner, Clock.answer, Clock.isCancelled, Clock.elapse, Clock.note, Clock.give,
        Clock.after, hscript]
    have hnot : ¬ t ≤ now := Nat.not_le.2 ht
    have hafter : (Clock.after ⟨now, none, false, script, asked⟩ (.state host database label)).now
        = now + delay := by
      simp only [Clock.after, hscript]
    rw [hafter]
    constructor
    · intro hlater
      have hlater' : ¬ t < now + delay := Nat.not_lt.2 (Nat.le_of_lt hlater)
      simp [Clock.partner, Clock.answer, Clock.isCancelled, Clock.elapse, Clock.note, Clock.give,
        Clock.stoppedAt, Clock.after, hscript, hnot, hlater']
    · intro hearlier
      simp [Clock.partner, Clock.answer, Clock.isCancelled, Clock.elapse, Clock.note, Clock.give,
        Clock.stoppedAt, Clock.after, hscript, hnot, hearlier]

/-- A run on a clock that nobody stops has a result, and it only adds questions. They are put at the
time the clock stands at or later, so a stopped run can be told from the times alone. -/
theorem run_calm (hc : c.Calm) (d : Dialogue Poll.Answer α) :
    (∃ a, (d.run Clock.partner c).result = some a) ∧ c.now ≤ (d.run Clock.partner c).state.now ∧
      ∃ later, (d.run Clock.partner c).state.asked = c.asked ++ later ∧
        ∀ x ∈ later, c.now ≤ x.time := by
  induction d generalizing c with
  | done a => exact ⟨⟨a, rfl⟩, Nat.le_refl _, [], (List.append_nil _).symm, fun x hx => nomatch hx⟩
  | ask q next ih =>
    obtain ⟨r, hr, -⟩ := answer_stoppedAt hc q
    obtain ⟨hresult, hnow, later, hlater, htimes⟩ := ih r (hc.after q)
    obtain ⟨new, hnew, hnewtimes⟩ := c.asked_after q
    simp only [Dialogue.run, hr]
    refine ⟨hresult, (c.now_le_after q).trans hnow, new ++ later, ?_, fun x hx => ?_⟩
    · rw [hlater, hnew, List.append_assoc]
    · rcases List.mem_append.1 hx with hx | hx
      · exact Nat.le_of_eq (hnewtimes x hx).symm
      · exact (c.now_le_after q).trans (htimes x hx)

/-- **A run that is stopped is the other one up to its time.** The two are followed question by
question, by induction on the dialogue. Each answer comes before the time on both clocks, or after
it on one of them, and then the stopped run ends. -/
theorem run_stoppedAt (hc : c.Calm) (hnow : c.now < t) (d : Dialogue Poll.Answer α)
    (ht : t ∉ instants c d) :
    ((d.run Clock.partner c).state.now < t →
      (d.run Clock.partner (c.stoppedAt t)).result = (d.run Clock.partner c).result ∧
        (d.run Clock.partner (c.stoppedAt t)).state
          = (d.run Clock.partner c).state.stoppedAt t) ∧
    (t ≤ (d.run Clock.partner c).state.now →
      (d.run Clock.partner (c.stoppedAt t)).result = none ∧
        (d.run Clock.partner (c.stoppedAt t)).state.now = t ∧
        (d.run Clock.partner (c.stoppedAt t)).state.asked
          = (d.run Clock.partner c).state.asked.filter (·.time < t)) := by
  induction d generalizing c with
  | done a => exact ⟨fun _ => ⟨rfl, rfl⟩, fun hle => absurd hnow (Nat.not_lt.2 hle)⟩
  | ask q next ih =>
    obtain ⟨r, hr, hstopped⟩ := answer_stoppedAt hc q
    obtain ⟨hlater, hearlier⟩ := hstopped t hnow
    simp only [instants, hr, List.mem_cons, not_or] at ht
    obtain ⟨hne, ht⟩ := ht
    rcases Nat.lt_or_gt_of_ne hne with hlt | hgt
    · -- the clock is stopped before this question is answered, and what comes is later
      obtain ⟨-, hend, later, hasked, htimes⟩ := run_calm (hc.after q) (next r)
      simp only [Dialogue.run, hr, hearlier hlt, true_and]
      refine ⟨fun h => absurd (hlt.trans_le hend) (Nat.lt_asymm h), fun _ => ?_⟩
      have hbefore : ∀ x ∈ (c.after q).asked, x.time < t := by
        obtain ⟨new, hnew, hnewtimes⟩ := c.asked_after q
        intro x hx
        rw [hnew] at hx
        rcases List.mem_append.1 hx with hx | hx
        · exact (hc.past x hx).trans_lt hnow
        · exact (hnewtimes x hx).symm ▸ hnow
      have hafter : ∀ x ∈ later, ¬ x.time < t := fun x hx =>
        Nat.not_lt.2 (hlt.le.trans (htimes x hx))
      rw [hasked, List.filter_append,
        List.filter_eq_self.2 fun x hx => decide_eq_true (hbefore x hx),
        List.filter_eq_nil_iff.2 fun x hx => by simpa using hafter x hx, List.append_nil]
      rfl
    · -- the answer comes first, and both runs go on with it
      simp only [Dialogue.run, hr, hlater hgt]
      exact ih r (hc.after q) hgt ht

/-- **A dialogue that asks, from the beginning.** A clock that is stopped before it starts gives no
answer at all. -/
theorem run_start (delay : ℕ → ℕ) (answer : ℕ → Except Failure LabelState)
    {d : Dialogue Poll.Answer α} (hask : ∃ q next, d = .ask q next)
    (ht : t = 0 ∨ t ∉ instants (.start none (answers delay answer)) d) :
    let calm := d.run Clock.partner (.start none (answers delay answer))
    let stopped := d.run Clock.partner (.start (some t) (answers delay answer))
    (calm.state.now < t → stopped.result = calm.result ∧ stopped.state = calm.state.stoppedAt t) ∧
      (t ≤ calm.state.now → stopped.result = none ∧ stopped.state.now = t ∧
        stopped.state.asked = calm.state.asked.filter (·.time < t)) := by
  intro calm stopped
  rcases Nat.eq_zero_or_pos t with rfl | hpos
  · obtain ⟨q, next, rfl⟩ := hask
    have hanswer : Clock.partner.answer (.start (some 0) (answers delay answer)) q
        = (none, .start (some 0) (answers delay answer)) := by
      simp [Clock.partner, Clock.answer, Clock.isCancelled, Clock.start]
    have hstopped : stopped = ⟨none, [q], .start (some 0) (answers delay answer)⟩ := by
      show Dialogue.run _ _ _ = _
      rw [Dialogue.run, hanswer]
    have hnone : calm.state.asked.filter (fun x => decide (x.time < 0)) = [] :=
      List.filter_eq_nil_iff.2 fun x _ => by simp
    rw [hstopped, hnone]
    exact ⟨fun h => absurd h (Nat.not_lt_zero _), fun _ => ⟨rfl, rfl, rfl⟩⟩
  · exact run_stoppedAt (calm_start delay answer) hpos d (ht.resolve_left hpos.ne')

/-! ## Waiting for a label -/

/-- **What is left of a waiting that is cancelled at a time**: all of it if it has come to its end
by then, and otherwise the questions that were put before. -/
def Result.cutAt (r : Result) (t : ℕ) : Result :=
  if r.elapsed < t then r else ⟨.error .cancelled, r.asked.filter (·.time < t), t⟩

/-- With a deadline above zero there is a first round, and a first question in it. A run with zero
rounds, or with no time at all, asks nothing. -/
theorem exists_rounds_eq {deadline : Duration} (h : 0 < deadline.nanos) (unit : Duration)
    (host database label : String) (n : ℕ) :
    ∃ q next, rounds deadline unit host database label (n + 1) = .ask q next := by
  unfold rounds
  rw [Dialogue.loop, Waiting.round_of_pauseAt h (Waiting.pauseAt_first unit)]
  exact ⟨_, _, rfl⟩

/-- **A cancelled waiting is the beginning of the one that is not cancelled.** The time of the
cancellation is not one at which a pause ends or an answer comes, or it is before the start. If the
waiting has ended by then, nothing changes. Otherwise it is cancelled, and the questions are exactly
those that the other had put before that time.

This is so for every deadline but the one that leaves no time, and for a unit of no time as well,
with which the waiting may need any number of rounds. -/
theorem run_cancelled (host database label : String) (delay : ℕ → ℕ)
    (answer : ℕ → Except Failure LabelState) (deadline unit : Duration)
    (hdeadline : 0 < deadline.nanos) :
    let calm := Clock.start none (answers delay answer)
    let stopped t := Clock.start (some t) (answers delay answer)
    (∀ (hunit : 0 < unit.nanos) (t : ℕ),
      t = 0 ∨ t ∉ instants calm (dialogue ⟨deadline, unit, hunit⟩ host database label) →
      run ⟨deadline, unit, hunit⟩ host database label (stopped t)
        = (run ⟨deadline, unit, hunit⟩ host database label calm).cutAt t) ∧
    ∀ (n : ℕ) (r : Result), runRounds deadline unit host database label n calm = some r →
      ∀ t, t = 0 ∨ t ∉ instants calm (rounds deadline unit host database label n) →
      runRounds deadline unit host database label n (stopped t) = some (r.cutAt t) := by
  intro calm stopped
  have hrounds : ∀ (n : ℕ) (r : Result),
      runRounds deadline unit host database label n calm = some r →
      ∀ t, t = 0 ∨ t ∉ instants calm (rounds deadline unit host database label n) →
      runRounds deadline unit host database label n (stopped t) = some (r.cutAt t) := by
    intro n r hr t ht
    cases n with
    | zero => exact nomatch hr
    | succ n =>
      obtain ⟨hlater, hearlier⟩ := run_start delay answer
        (exists_rounds_eq hdeadline unit host database label n) ht
      obtain ⟨result, hresult, rfl⟩ := Option.map_eq_some_iff.1 hr
      unfold Result.cutAt
      split
      · next hlt =>
        obtain ⟨hsame, hstate⟩ := hlater hlt
        show Option.map (fun result => Result.mk result _ _) (Option.getD _ _) = _
        rw [hsame, hstate, hresult]
        rfl
      · next hge =>
        obtain ⟨hnone, hnow, hasked⟩ := hearlier (Nat.not_lt.1 hge)
        show Option.map (fun result => Result.mk result _ _) (Option.getD _ _) = _
        rw [hnone, hnow, hasked]
        rfl
  refine ⟨fun hunit t ht => ?_, hrounds⟩
  -- a unit that takes time needs no more than enough rounds
  let w : Waiting := ⟨deadline, unit, hunit⟩
  have hcalm := runRounds_enough w host database label calm
  have ht' : t = 0 ∨ t ∉ instants calm (rounds deadline unit host database label (enough w)) := by
    rw [rounds_enough w, instants_bind_done]
    exact ht
  have hstopped := hrounds (enough w) _ hcalm t ht'
  rw [runRounds_enough w] at hstopped
  exact Option.some.inj hstopped

/-- A waiting with time for two questions, cancelled in the pause before the second; and one in
units of no time that would end with the third, cancelled while it waits for the second answer. -/
theorem run_cancelled_in_pause :
    let second := Duration.ofMillis 1000
    let instant := Duration.zero
    let answer (n : ℕ) : Except Failure LabelState := if n < 2 then .ok .prepare else .ok .visible
    let calm := Clock.start none (answers (fun _ => 7) answer)
    let stopped t := Clock.start (some t) (answers (fun _ => 7) answer)
    let w : Waiting := ⟨second, second, by decide⟩
    0 < second.nanos ∧ 500 ∉ instants calm (dialogue w "http://a" "db" "l") ∧
      run w "http://a" "db" "l" (stopped 500)
        = ⟨.error .cancelled, [⟨0, "http://a", "db", "l"⟩], 500⟩ ∧
      runRounds second instant "http://a" "db" "l" 3 calm = some ⟨.ok .visible,
        [⟨0, "http://a", "db", "l"⟩, ⟨7, "http://a", "db", "l"⟩, ⟨14, "http://a", "db", "l"⟩], 21⟩ ∧
      10 ∉ instants calm (rounds second instant "http://a" "db" "l" 3) ∧
      runRounds second instant "http://a" "db" "l" 3 (stopped 10)
        = some ⟨.error .cancelled, [⟨0, "http://a", "db", "l"⟩, ⟨7, "http://a", "db", "l"⟩], 10⟩ := by
  intro second instant answer calm stopped w
  have hpos : 0 < second.nanos := by decide
  have hpause : 500 ∉ instants calm (dialogue w "http://a" "db" "l") := by
    rw [← instants_bind_done calm some, ← rounds_enough w]
    decide +kernel
  have hr : runRounds second instant "http://a" "db" "l" 3 calm = some ⟨.ok .visible,
      [⟨0, "http://a", "db", "l"⟩, ⟨7, "http://a", "db", "l"⟩, ⟨14, "http://a", "db", "l"⟩], 21⟩ := rfl
  have hwait : 10 ∉ instants calm (rounds second instant "http://a" "db" "l" 3) := by
    decide +kernel
  obtain ⟨hrun, hrounds⟩ := run_cancelled "http://a" "db" "l" (fun _ => 7) answer second instant hpos
  have hcut := hrounds 3 _ hr 10 (.inr hwait)
  -- the waiting that is not cancelled, read off its rounds
  have hcalm : (runRounds second second "http://a" "db" "l" (enough w) calm).map
        (fun r => (r.asked, r.elapsed))
      = some ([⟨0, "http://a", "db", "l"⟩, ⟨second.nanos + 7, "http://a", "db", "l"⟩],
        second.nanos + 14) := by decide +kernel
  rw [runRounds_enough w, Option.map_some, Option.some.injEq, Prod.mk.injEq] at hcalm
  refine ⟨hpos, hpause, ?_, hr, hwait, hcut⟩
  rw [(run_cancelled "http://a" "db" "l" (fun _ => 7) answer second second hpos).1 hpos 500
    (.inr hpause), Result.cutAt, hcalm.1, hcalm.2]
  rfl

end Ingest.Timeline
