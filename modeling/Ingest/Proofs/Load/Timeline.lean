import Ingest.Load.Timeline
import Ingest.Proofs.Load.Polling
import Ingest.Proofs.Load.Schedule
import Mathlib.Order.Bounds.Basic

/-!
# Waiting for a label on a clock

Without a cancellation the waiting for a label is a walk along its schedule. As long as the label is
undecided, the clock after `n` questions is known in full: it stands at the first `n` pauses and the
times that the answers took, and the questions so far were put at the times between (`clockAfter`).
`run_pollFrom` is one step of the walk and `run_dialogue` the walk up to any question that is
reached, and what the waiting comes to is read off where the walk ends.
-/

namespace Ingest.Timeline

open Waiting (units)

variable {w : Waiting} {host database label : String} {delay : ℕ → ℕ}
  {answer : ℕ → Except Failure LabelState}

/-! ## A clock that is not stopped -/

theorem answer_pause (now : ℕ) (script : ℕ → Scripted) (asked : List Asked) (d : Duration) :
    Clock.partner.answer ⟨now, none, false, script, asked⟩ (.pause d)
      = (some (), ⟨now + d.nanos, none, false, script, asked⟩) := rfl

theorem answer_state {now t : ℕ} {script : ℕ → Scripted} {asked : List Asked}
    {a : Except Failure LabelState} (h : script asked.length = ⟨t, false, some a⟩)
    (host database label : String) :
    Clock.partner.answer ⟨now, none, false, script, asked⟩ (.state host database label)
      = (some a, ⟨now + t, none, false, script,
          asked ++ [⟨now, host, database, label⟩]⟩) := by
  simp [Clock.partner, Clock.answer, Clock.isCancelled, Clock.note, Clock.give, Clock.elapse, h]

/-- A script without cancellations: every question is answered after some time. Neither the times
nor the answers are bounded or decided in advance. -/
def answers (delay : ℕ → ℕ) (answer : ℕ → Except Failure LabelState) (n : ℕ) : Scripted :=
  ⟨delay n, false, some (answer n)⟩

/-- The time after `n` questions about a label that is undecided: the pauses before them and the
delays of the answers to them. -/
def timeAfter (w : Waiting) (delay : ℕ → ℕ) (n : ℕ) : ℕ :=
  w.pauses n + ∑ i ∈ Finset.range n, delay i

/-- Those questions, each put a pause after the one before was answered. -/
def askedAfter (w : Waiting) (host database label : String) (delay : ℕ → ℕ) (n : ℕ) :
    List Asked :=
  (List.range n).map fun i =>
    ⟨timeAfter w delay i + w.unit.nanos * units i, host, database, label⟩

/-- **The clock after `n` questions** about a label that is undecided. It is known in full, so each
step of the walk is an equation between clocks. -/
def clockAfter (w : Waiting) (host database label : String) (delay : ℕ → ℕ)
    (answer : ℕ → Except Failure LabelState) (n : ℕ) : Clock :=
  ⟨timeAfter w delay n, none, false, answers delay answer, askedAfter w host database label delay n⟩

/-- A question takes the pause before it and the delay of its answer. Delays add to the time that
has passed, and not to the time that is counted against the deadline. -/
theorem timeAfter_succ (n : ℕ) :
    timeAfter w delay (n + 1) = timeAfter w delay n + w.unit.nanos * units n + delay n := by
  unfold timeAfter
  rw [w.pauses_succ, Finset.sum_range_succ]
  omega

/-- A question is noted when it is put, behind its pause and before its answer. -/
theorem askedAfter_succ (n : ℕ) :
    askedAfter w host database label delay (n + 1)
      = askedAfter w host database label delay n
        ++ [⟨timeAfter w delay n + w.unit.nanos * units n, host, database, label⟩] := by
  unfold askedAfter
  rw [List.range_succ, List.map_append]
  rfl

@[simp] theorem length_askedAfter (n : ℕ) :
    (askedAfter w host database label delay n).length = n := by
  unfold askedAfter
  rw [List.length_map, List.length_range]

theorem map_askedAfter (n : ℕ) :
    (askedAfter w host database label delay n).map (fun q => (q.host, q.database, q.label))
      = List.replicate n (host, database, label) := by
  refine List.eq_replicate_iff.2 ⟨?_, fun x hx => ?_⟩
  · rw [List.length_map, length_askedAfter]
  · obtain ⟨q, hq, rfl⟩ := List.mem_map.1 hx
    obtain ⟨i, -, rfl⟩ := List.mem_map.1 hq
    rfl

/-! ## The walk -/

def pollFrom (w : Waiting) (host database label : String) (n : ℕ) (waited : Duration)
    (last : Option LabelState) : Dialogue Poll.Answer (Except Failure LabelState) :=
  w.poll label (fun d => Dialogue.question (Poll.pause d))
    (Dialogue.question (Poll.state host database label)) n waited last

/-- What the waiting makes of the answer to question number `n`. As long as it leaves the label
undecided this is the waiting from the next question on. -/
def goOn (w : Waiting) (host database label : String) (n : ℕ) (total : Duration)
    (a : Except Failure LabelState) : Dialogue Poll.Answer (Except Failure LabelState) :=
  w.afterAnswer label (fun d => Dialogue.question (Poll.pause d))
    (Dialogue.question (Poll.state host database label)) n total a

theorem run_eq {clock clock' : Clock} {result : Except Failure LabelState}
    (hresult : ((dialogue w host database label).run Clock.partner clock).result = some result)
    (hstate : ((dialogue w host database label).run Clock.partner clock).state = clock') :
    run w host database label clock = ⟨result, clock'.asked, clock'.now⟩ := by
  show Result.mk _ _ _ = _
  rw [hresult, hstate, Option.getD_some]

section Walk

variable (host database label : String) (delay : ℕ → ℕ) (answer : ℕ → Except Failure LabelState)

/-- **One step of the walk**: the pause on schedule, the question, and what is made of the
answer. -/
theorem run_pollFrom {n : ℕ} {waited : Duration} (last : Option LabelState)
    (hwaited : waited.nanos = w.pauses n) (hn : n < w.limit)
    (hrange : w.pauses (n + 1) < 2 ^ 64 * nanosPerSecond) :
    ∃ total : Duration, total.nanos = w.pauses (n + 1) ∧
      ((pollFrom w host database label n waited last).run Clock.partner
          (clockAfter w host database label delay answer n)).result
        = ((goOn w host database label n total (answer n)).run Clock.partner
          (clockAfter w host database label delay answer (n + 1))).result ∧
      ((pollFrom w host database label n waited last).run Clock.partner
          (clockAfter w host database label delay answer n)).state
        = ((goOn w host database label n total (answer n)).run Clock.partner
          (clockAfter w host database label delay answer (n + 1))).state := by
  obtain ⟨d, total, hadvance, hd, htotal⟩ := Waiting.advance_of_pauses hwaited hrange
  have hdeadline : waited.nanos < w.deadline.nanos := hwaited ▸ Waiting.pauses_lt_deadline hn
  refine ⟨total, htotal, ?_⟩
  have hclock : clockAfter w host database label delay answer (n + 1)
      = ⟨timeAfter w delay n + d.nanos + delay n, none, false, answers delay answer,
        askedAfter w host database label delay n
          ++ [⟨timeAfter w delay n + d.nanos, host, database, label⟩]⟩ := by
    unfold clockAfter
    rw [timeAfter_succ, askedAfter_succ, hd]
  have hscript : answers delay answer (askedAfter w host database label delay n).length
      = ⟨delay n, false, some (answer n)⟩ := by
    rw [length_askedAfter]
    rfl
  unfold pollFrom
  rw [Waiting.poll_of_advance hdeadline hadvance, hclock]
  -- first the pause, and then the question at its end
  obtain ⟨hresult₁, hstate₁⟩ := Dialogue.run_question_bind (f := fun _ =>
      (Dialogue.question (Poll.state host database label)).bind
        (goOn w host database label n total))
    (answer_pause (timeAfter w delay n) (answers delay answer)
      (askedAfter w host database label delay n) d)
  obtain ⟨hresult₂, hstate₂⟩ := Dialogue.run_question_bind
    (f := goOn w host database label n total) (answer_state hscript host database label)
  exact ⟨hresult₁.trans hresult₂, hstate₁.trans hstate₂⟩

/-- The last state that was told after `n` answers which leave the label undecided. -/
def lastAfter (n : ℕ) : Option LabelState := if n = 0 then none else some .prepare

/-- **The walk up to a question**: as long as the answers leave the label undecided, the waiting
comes to stand at the next question on schedule. -/
theorem run_dialogue {n : ℕ} (hn : n ≤ w.limit)
    (hrange : w.pauses n < 2 ^ 64 * nanosPerSecond)
    (hundecided : ∀ i < n, answer i = .ok .prepare) :
    ∃ waited : Duration, waited.nanos = w.pauses n ∧
      ((dialogue w host database label).run Clock.partner
          (.start none (answers delay answer))).result
        = ((pollFrom w host database label n waited (lastAfter n)).run
          Clock.partner (clockAfter w host database label delay answer n)).result ∧
      ((dialogue w host database label).run Clock.partner
          (.start none (answers delay answer))).state
        = ((pollFrom w host database label n waited (lastAfter n)).run
          Clock.partner (clockAfter w host database label delay answer n)).state := by
  induction n with
  | zero => exact ⟨Duration.zero, rfl, rfl, rfl⟩
  | succ n ih =>
    have hmono : w.pauses n ≤ w.pauses (n + 1) := w.pauses_mono (Nat.le_succ n)
    obtain ⟨waited, hwaited, hresult, hstate⟩ := ih (Nat.le_of_succ_le hn)
      (Nat.lt_of_le_of_lt hmono hrange) fun i hi => hundecided i (Nat.lt_succ_of_lt hi)
    obtain ⟨total, htotal, hresult', hstate'⟩ :=
      run_pollFrom host database label delay answer (lastAfter n) hwaited hn hrange
    -- an answer that leaves the label undecided is followed by the next question
    rw [hundecided n (Nat.lt_succ_self n)] at hresult' hstate'
    exact ⟨total, htotal, hresult.trans hresult', hstate.trans hstate'⟩

/-- **The walk ends with the first answer that decides.** No question is put behind it, and the time
is that at which it was answered. -/
theorem run_of_decided {j : ℕ} (hj : j < w.limit)
    (hrange : w.pauses w.limit < 2 ^ 64 * nanosPerSecond)
    (hundecided : ∀ i < j, answer i = .ok .prepare) (hne : answer j ≠ .ok .prepare) :
    run w host database label (.start none (answers delay answer))
      = ⟨Waiting.decision label (answer j), askedAfter w host database label delay (j + 1),
          timeAfter w delay (j + 1)⟩ := by
  have hrange' : w.pauses (j + 1) < 2 ^ 64 * nanosPerSecond :=
    Nat.lt_of_le_of_lt (w.pauses_mono hj) hrange
  have hmono : w.pauses j ≤ w.pauses (j + 1) := w.pauses_mono (Nat.le_succ j)
  obtain ⟨waited, hwaited, hresult, hstate⟩ := run_dialogue host database label delay answer
    (Nat.le_of_lt hj) (Nat.lt_of_le_of_lt hmono hrange') hundecided
  obtain ⟨total, -, hresult', hstate'⟩ :=
    run_pollFrom host database label delay answer (lastAfter j) hwaited hj hrange'
  rw [goOn, Waiting.afterAnswer_of_ne_prepare hne] at hresult' hstate'
  exact run_eq (hresult.trans hresult') (hstate.trans hstate')

/-- **The walk ends at the deadline** if no answer decides before it. What has been waited is the
sum of the pauses, and how long the answers took does not count. -/
theorem run_of_undecided (hrange : w.pauses w.limit < 2 ^ 64 * nanosPerSecond)
    (hundecided : ∀ i < w.limit, answer i = .ok .prepare) :
    ∃ waited : Duration, waited.nanos = w.pauses w.limit ∧
      run w host database label (.start none (answers delay answer))
        = ⟨.error (.undecided label (lastAfter w.limit) waited),
            askedAfter w host database label delay w.limit, timeAfter w delay w.limit⟩ := by
  obtain ⟨waited, hwaited, hresult, hstate⟩ := run_dialogue host database label delay answer
    (Nat.le_refl w.limit) hrange hundecided
  have hend : ¬ waited.nanos < w.deadline.nanos := by
    rw [hwaited]
    exact Nat.not_lt.2 w.deadline_le_pauses_limit
  refine ⟨waited, hwaited, ?_⟩
  unfold pollFrom at hresult hstate
  rw [Waiting.poll_of_deadline hend] at hresult hstate
  exact run_eq hresult hstate

/-- **A waiting that ends with a state** was told that state by the first answer that decides, and
it is one of success. -/
theorem exists_answer_of_run_eq_ok (hrange : w.pauses w.limit < 2 ^ 64 * nanosPerSecond)
    {s : LabelState}
    (hs : (run w host database label (.start none (answers delay answer))).result = .ok s) :
    ∃ j < w.limit, (∀ i < j, answer i = .ok .prepare) ∧ answer j = .ok s ∧
      s.verdict = .succeeded := by
  by_cases hall : ∀ i < w.limit, answer i = .ok .prepare
  · -- the waiting ended at the deadline, and not with a state
    obtain ⟨waited, -, hr⟩ := run_of_undecided host database label delay answer hrange hall
    rw [hr] at hs
    exact nomatch hs
  · classical
    have hfirst : ∃ j, j < w.limit ∧ answer j ≠ .ok .prepare := by
      by_contra hno
      exact hall fun i hi => by_contra fun hne => hno ⟨i, hi, hne⟩
    obtain ⟨hj, hne⟩ := Nat.find_spec hfirst
    have hundecided : ∀ i < Nat.find hfirst, answer i = .ok .prepare := fun i hi =>
      by_contra fun hne => Nat.find_min hfirst hi ⟨hi.trans hj, hne⟩
    rw [run_of_decided host database label delay answer hj hrange hundecided hne] at hs
    obtain ⟨hanswer, hverdict⟩ := Waiting.decision_eq_ok.1 hs
    exact ⟨_, hj, hundecided, hanswer, hverdict⟩

/-- **What waiting for a label comes to.** The first answer that does not leave the label undecided
decides it, if it comes within the questions that there is time for. The label is then in a state of
success, or lost, or the question has failed. Otherwise the waiting ends at the deadline, after all
of those questions. It ends with success only if a store names one of two states. -/
theorem run_outcome (w : Waiting) (hrange : w.pauses w.limit < 2 ^ 64 * nanosPerSecond) :
    let r := run w host database label (.start none (answers delay answer))
    let questions := r.asked.map fun q => (q.host, q.database, q.label)
    (∀ j < w.limit, (∀ i < j, answer i = .ok .prepare) → answer j ≠ .ok .prepare →
      questions = List.replicate (j + 1) (host, database, label) ∧
        (∀ s, answer j = .ok s → s = .visible ∨ s = .committed → r.result = .ok s) ∧
        (∀ s, answer j = .ok s → s = .aborted ∨ s = .unknown →
          r.result = .error (.lost label s)) ∧
        ∀ f, answer j = .error f → r.result = .error f) ∧
    ((∀ i < w.limit, answer i = .ok .prepare) →
      questions = List.replicate w.limit (host, database, label) ∧
        ∃ waited : Duration, waited.nanos = w.pauses w.limit ∧ r.result = .error (.undecided label
          (if w.deadline.nanos = 0 then none else some .prepare) waited)) ∧
    ∀ s, r.result = .ok s → ∃ j < w.limit, (∀ i < j, answer i = .ok .prepare) ∧
      answer j = .ok s ∧
      ∀ name, LabelState.ofName name = s → name = "VISIBLE" ∨ name = "COMMITTED" := by
  intro r questions
  refine ⟨fun j hj hundecided hne => ?_, fun hundecided => ?_, fun s hs => ?_⟩
  · have hr : r = _ := run_of_decided host database label delay answer hj hrange hundecided hne
    refine ⟨?_, fun s hs hsuccess => ?_, fun s hs hfailure => ?_, fun f hf => ?_⟩
    · show r.asked.map _ = _
      rw [hr]
      exact map_askedAfter (j + 1)
    · rw [hr, hs]
      rcases hsuccess with rfl | rfl <;> rfl
    · rw [hr, hs]
      rcases hfailure with rfl | rfl <;> rfl
    · rw [hr, hf]
      rfl
  · obtain ⟨waited, hwaited, hr⟩ :=
      run_of_undecided host database label delay answer hrange hundecided
    have hlast : lastAfter w.limit = if w.deadline.nanos = 0 then none else some .prepare := by
      simp only [lastAfter, Waiting.limit_eq_zero_iff]
    refine ⟨?_, waited, hwaited, ?_⟩
    · show (run w host database label _).asked.map _ = _
      rw [hr]
      exact map_askedAfter w.limit
    · show (run w host database label _).result = _
      rw [hr, hlast]
  · obtain ⟨j, hj, hundecided, hanswer, hverdict⟩ :=
      exists_answer_of_run_eq_ok host database label delay answer hrange hs
    exact ⟨j, hj, hundecided, hanswer, LabelState.name_of_succeeded hverdict⟩

end Walk

/-- A label that is prepared when it is first asked about and visible when it is asked about again,
with time for three questions. -/
theorem run_outcome_of_visible :
    let w : Waiting := ⟨Duration.ofMillis 3000, Duration.ofMillis 1000, by decide⟩
    let r := run w "http://a" "db" "l" (.start none
      (answers (fun _ => 7) fun n => if n = 0 then .ok .prepare else .ok .visible))
    r.asked.map (fun q => (q.host, q.database, q.label))
        = List.replicate 2 ("http://a", "db", "l") ∧
      r.result = .ok .visible := by
  intro w r
  have hlimit : w.limit ≤ 3 := Nat.find_min' w.exists_le_pauses (by decide)
  have hpauses : w.pauses 3 < 2 ^ 64 * nanosPerSecond := by decide
  have hrange : w.pauses w.limit < 2 ^ 64 * nanosPerSecond :=
    Nat.lt_of_le_of_lt (w.pauses_mono hlimit) hpauses
  have htwo : 1 < w.limit := by
    refine (Nat.lt_find_iff w.exists_le_pauses 1).2 fun m hm => ?_
    exact Nat.not_le.2 (Nat.lt_of_le_of_lt (w.pauses_mono hm) (by decide))
  obtain ⟨hquestions, hsuccess, -, -⟩ := (run_outcome "http://a" "db" "l" (fun _ => 7)
    (fun n => if n = 0 then .ok .prepare else .ok .visible) w hrange).1 1 htwo
    (fun i hi => if_pos (Nat.lt_one_iff.1 hi)) (by simp)
  exact ⟨hquestions, hsuccess .visible rfl (.inl rfl)⟩

/-! ## How long a loop takes

A store that never decides a label is asked about it on a schedule that is known in advance. The
number of questions is the least one whose pauses together reach the deadline, the deadline is
passed by less than the longest pause, and every question stands at its pauses and the delays of
the answers before it. How long the answers take does not count against the deadline, and so it
changes the times of the questions and not their number. -/

open Waiting (unitsBefore)

/-- The questions about an undecided label, with their times in closed form. -/
theorem askedAfter_eq (w : Waiting) (host database label : String) (delay : ℕ → ℕ) (n : ℕ) :
    askedAfter w host database label delay n = (List.range n).map fun i =>
      ⟨w.unit.nanos * unitsBefore (i + 1) + ∑ j ∈ Finset.range i, delay j,
        host, database, label⟩ := by
  unfold askedAfter timeAfter
  refine List.map_congr_left fun i _ => ?_
  rw [← w.pauses_eq, w.pauses_succ, Nat.add_right_comm]

/-- **Waiting ends on schedule**, for every store that leaves the label undecided and whatever time
its answers take. The number of questions is the least one whose pauses reach the deadline, and it
is known in closed form, as are the times of the questions and the time of the end. -/
theorem run_of_prepare (host database label : String) (delay : ℕ → ℕ) (w : Waiting)
    (hrange : w.unit.nanos * unitsBefore w.limit < 2 ^ 64 * nanosPerSecond) :
    IsLeast {n | w.deadline.nanos ≤ w.unit.nanos * unitsBefore n} w.limit ∧
      (w.limit = 0 ↔ w.deadline.nanos = 0) ∧
      ∃ waited : Duration, waited.nanos = w.unit.nanos * unitsBefore w.limit ∧
        (0 < w.deadline.nanos → w.deadline.nanos ≤ waited.nanos ∧
          waited.nanos < w.deadline.nanos + 5 * w.unit.nanos) ∧
        run w host database label (.start none (answers delay fun _ => .ok .prepare))
          = ⟨.error (.undecided label
                (if w.deadline.nanos = 0 then none else some .prepare) waited),
              (List.range w.limit).map fun n =>
                ⟨w.unit.nanos * unitsBefore (n + 1) + ∑ i ∈ Finset.range n, delay i,
                  host, database, label⟩,
              waited.nanos + ∑ i ∈ Finset.range w.limit, delay i⟩ := by
  rw [← w.pauses_eq] at hrange
  obtain ⟨waited, hwaited, hrun⟩ := run_of_undecided host database label delay
    (fun _ => .ok .prepare) hrange fun _ _ => rfl
  have hleast : IsLeast {n | w.deadline.nanos ≤ w.pauses n} w.limit :=
    ⟨w.deadline_le_pauses_limit, fun n hn => Nat.find_min' w.exists_le_pauses hn⟩
  have hlast : lastAfter w.limit = if w.deadline.nanos = 0 then none else some .prepare := by
    simp only [lastAfter, Waiting.limit_eq_zero_iff]
  refine ⟨?_, Waiting.limit_eq_zero_iff, waited, ?_, fun hpos => ?_, ?_⟩
  · simpa only [w.pauses_eq] using hleast
  · rw [hwaited, w.pauses_eq]
  · rw [hwaited]
    exact ⟨w.deadline_le_pauses_limit, Waiting.pauses_limit_lt hpos⟩
  · rw [hrun, hlast, askedAfter_eq, timeAfter, hwaited]

/-- Five seconds in units of one: four questions, the last of them six seconds of pauses later. -/
theorem run_of_prepare_of_five_units :
    let w : Waiting := ⟨Duration.ofMillis 5000, Duration.ofMillis 1000, by decide⟩
    w.unit.nanos * unitsBefore w.limit < 2 ^ 64 * nanosPerSecond ∧
      ∃ waited : Duration, waited.nanos = 6 * nanosPerSecond ∧
        run w "http://a" "db" "l" (.start none (answers (fun n => n) fun _ => .ok .prepare))
          = ⟨.error (.undecided "l" (some .prepare) waited),
              [⟨0, "http://a", "db", "l"⟩, ⟨nanosPerSecond, "http://a", "db", "l"⟩,
                ⟨3 * nanosPerSecond + 1, "http://a", "db", "l"⟩,
                ⟨6 * nanosPerSecond + 3, "http://a", "db", "l"⟩],
              6 * nanosPerSecond + 6⟩ := by
  intro w
  have hlimit : w.limit = 4 := (Nat.find_eq_iff w.exists_le_pauses).2 (by decide)
  have hrange : w.unit.nanos * unitsBefore w.limit < 2 ^ 64 * nanosPerSecond := by
    rw [hlimit]
    decide
  obtain ⟨-, -, waited, hwaited, -, hrun⟩ :=
    run_of_prepare "http://a" "db" "l" (fun n => n) w hrange
  have hunit : w.unit.nanos = nanosPerSecond := by decide
  have hdeadline : w.deadline.nanos = 5 * nanosPerSecond := by decide
  rw [hlimit, hunit] at hwaited hrun
  have hsix : waited.nanos = 6 * nanosPerSecond := hwaited.trans (Nat.mul_comm _ _)
  refine ⟨hrange, waited, hsix, ?_⟩
  rw [hrun, hsix, hdeadline]
  simp [unitsBefore, nanosPerSecond, List.range_succ, Finset.sum_range_succ]

end Ingest.Timeline
