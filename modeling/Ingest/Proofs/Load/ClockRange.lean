import Ingest.Proofs.Load.LastRound
import Ingest.Proofs.Load.Setup

/-!
# The range of the clock

A waiting adds up its pauses, and a length of time stays below `2 ^ 64` seconds. Each pause is far
inside that range, because a unit is a number of milliseconds, and the count of the questions that
makes it longer is cut off at five (`exists_backoff`). The sum need not be inside: it goes on as
long as it has not reached the deadline, and the last pause may carry it beyond both.

Which waitings leave the range is known before they begin (`Overflows`). A dialogue can fail because
of it only in such a waiting (`overflows_of_held`), and a store that leaves the label undecided for
long enough brings it about (`run_of_overflows`). It takes a deadline within five units of the end
of the range.
-/

namespace Ingest

namespace Waiting

open Dialogue (held_bind held_done)

variable {Q : Type} {A : Q → Type} {w : Waiting} {label : String}
  {pause : Duration → Dialogue A Unit} {query : Dialogue A (Except Failure LabelState)} {n : ℕ}
  {waited : Duration} {last : Option LabelState} {t : List (Sigma A)}

/-! ## The count of the questions -/

/-- **The count of the questions as it is kept**: in 32 bits, and it stays where these end. -/
def count : ℕ → UInt32
  | 0 => 0
  | n + 1 => if count n = UInt32.ofNat (2 ^ 32 - 1) then count n else count n + 1

theorem toNat_count (n : ℕ) : (count n).toNat = min n (2 ^ 32 - 1) := by
  induction n with
  | zero => rfl
  | succ n ih =>
    have hlast : (UInt32.ofNat (2 ^ 32 - 1)).toNat = 2 ^ 32 - 1 := rfl
    rw [count]
    split
    · next hend =>
      rw [hend, hlast] at ih
      rw [hend, hlast]
      omega
    · next hend =>
      have hne : (count n).toNat ≠ 2 ^ 32 - 1 := fun h =>
        hend (UInt32.toNat_inj.1 (h.trans hlast.symm))
      have hsum : (count n + 1).toNat = ((count n).toNat + 1) % 2 ^ 32 := UInt32.toNat_add _ _
      rw [hsum]
      omega

/-- **A count that stays changes no pause**: the pauses have stopped growing long before. So the
count may be taken for the number of questions itself. -/
theorem units_count (n : ℕ) : units (count n).toNat = units n := by
  rw [toNat_count, units, units, maxUnits]
  omega

/-! ## One pause -/

/-- **A pause of a unit in milliseconds is in range**, and so it is five times that unit. -/
theorem exists_backoff (ms : UInt64) (n : ℕ) : ∃ d, backoff (Duration.ofMillis ms) n = some d ∧
    d.nanos = (Duration.ofMillis ms).nanos * units n := by
  have hunits : units n ≤ 5 := Nat.min_le_right n maxUnits
  have hms : ms.toNat < 2 ^ 64 := ms.toNat_lt
  have hrange : (Duration.ofMillis ms).nanos * units n < UInt64.size * nanosPerSecond :=
    calc (Duration.ofMillis ms).nanos * units n
        ≤ ms.toNat * nanosPerMilli * 5 := Nat.mul_le_mul_left _ hunits
      _ < UInt64.size * nanosPerSecond := by
        simp only [nanosPerMilli, nanosPerSecond, UInt64.size]
        omega
  exact ⟨⟨_, hrange⟩, Duration.ofNanos?_eq_some_iff.2 rfl, rfl⟩

/-- A pause cannot be made exactly where the pauses so far and this one do not fit in a length of
time. Whether the product with the unit or the sum leaves the range makes no difference. -/
theorem advance_eq_none_iff (hwaited : waited.nanos = w.pauses n) :
    w.advance n waited = none ↔ 2 ^ 64 * nanosPerSecond ≤ w.pauses (n + 1) := by
  have hschedule : (Stage.mk n waited none).OnSchedule w.unit := hwaited.trans (w.pauses_eq n)
  have hpause : pauseAt w.unit ⟨n, waited, none⟩ = w.advance n waited := rfl
  rw [← Option.isNone_iff_eq_none, ← Option.not_isSome, ← hpause, w.pauses_eq, ← Nat.not_lt,
    ← pauseAt_isSome_iff hschedule, Bool.not_eq_true', Bool.eq_false_iff]

/-! ## All pauses together -/

/-- **A waiting that leaves the range of the clock**: so do the pauses that reach its deadline. It
is a condition on the deadline and the unit alone. -/
def Overflows (w : Waiting) : Prop := 2 ^ 64 * nanosPerSecond ≤ w.pauses w.limit

/-- The pause that leaves the range is the last one: the pauses before it have not reached the
deadline. -/
theorem Overflows.limit_eq (h : w.Overflows) : ∃ n, w.limit = n + 1 ∧
    w.pauses n < w.deadline.nanos ∧ 2 ^ 64 * nanosPerSecond ≤ w.pauses (n + 1) := by
  have hpos : w.limit ≠ 0 := fun hzero => by
    rw [Overflows, hzero, pauses_zero] at h
    exact absurd h (by decide)
  obtain ⟨n, hn⟩ := Nat.exists_eq_succ_of_ne_zero hpos
  refine ⟨n, hn, pauses_lt_deadline (by omega), ?_⟩
  rwa [Overflows, hn] at h

/-- **When a waiting leaves the range**: before its deadline, with the next pause. This is the form
in which a waiting that stands somewhere on its schedule finds out about it. -/
theorem overflows_iff : w.Overflows ↔
    ∃ n, w.pauses n < w.deadline.nanos ∧ 2 ^ 64 * nanosPerSecond ≤ w.pauses (n + 1) := by
  constructor
  · intro h
    obtain ⟨n, -, hn⟩ := h.limit_eq
    exact ⟨n, hn⟩
  · rintro ⟨n, hearly, hlate⟩
    have hn : n < w.limit := by
      by_contra hle
      have hreached := w.deadline_le_pauses_limit.trans (w.pauses_mono (Nat.not_lt.1 hle))
      omega
    exact hlate.trans (w.pauses_mono hn)

/-- **With five units to spare** a waiting stays in range, since the deadline is passed by less than
the longest pause. -/
theorem not_overflows_of_le (h : w.deadline.nanos + 5 * w.unit.nanos ≤ 2 ^ 64 * nanosPerSecond) :
    ¬ w.Overflows := by
  intro hover
  obtain ⟨n, hearly, -⟩ := overflows_iff.1 hover
  have hlast : w.pauses w.limit < w.deadline.nanos + 5 * w.unit.nanos :=
    pauses_limit_lt (Nat.zero_lt_of_lt hearly)
  rw [Overflows] at hover
  omega

/-! ## Whole waitings -/

theorem decision_eq_clockOverflow {a : Except Failure LabelState} :
    decision label a = .error .clockOverflow ↔ a = .error .clockOverflow := by
  cases a with
  | error f => exact Iff.rfl
  | ok state => by_cases h : state.verdict = .succeeded <;> simp [decision, h]

/-- **Only a waiting that leaves the range fails because of it**, whatever it asks and whoever
answers. The questions themselves must not fail in that way, which those about a label never do. -/
theorem overflows_of_held_poll (hquery : ∀ t, ¬ query.Held t (.error .clockOverflow))
    (hwaited : waited.nanos = w.pauses n)
    (h : (w.poll label pause query n waited last).Held t (.error .clockOverflow)) :
    w.Overflows := by
  induction n, waited, last using Waiting.poll.induct w generalizing t with
  | case1 n waited last hearly hnone =>
    rw [hwaited] at hearly
    exact overflows_iff.2 ⟨n, hearly, (advance_eq_none_iff hwaited).1 hnone⟩
  | case3 n waited last hlate =>
    rw [poll_of_deadline hlate, held_done] at h
    simp only [Except.error.injEq, reduceCtorEq, and_false] at h
  | case2 n waited last hearly d total hadvance ih =>
    rw [poll_of_advance hearly hadvance] at h
    obtain ⟨-, -, t', -, -, hasked⟩ := held_bind.1 h
    obtain ⟨t₁, a, t₂, -, hanswer, hafter⟩ := held_bind.1 hasked
    obtain ⟨hd, htotal⟩ := nanos_of_advance hadvance
    by_cases hprepare : a = .ok .prepare
    · subst hprepare
      exact ih .prepare (by rw [htotal, hd, hwaited, w.pauses_succ]) hafter
    · -- the answer decides, and it would have to be the failure
      rw [afterAnswer_of_ne_prepare hprepare] at hafter
      have hfailed := decision_eq_clockOverflow.1 (held_done.1 hafter).2.symm
      exact absurd (hfailed ▸ hanswer) (hquery t₁)

/-- A run can fail by the clock only in a waiting that overflows. The hypothesis is on the query,
which must not report such a failure as its own. -/
theorem overflows_of_held (hquery : ∀ t, ¬ query.Held t (.error .clockOverflow))
    (h : (w.reconcile label pause query).Held t (.error .clockOverflow)) : w.Overflows :=
  overflows_of_held_poll hquery rfl h

end Waiting

namespace Timeline

open Waiting (Overflows)

/-- **A label that stays undecided brings it about**: a waiting that leaves the range asks about the
label as long as it is in range, and fails with the next pause. -/
theorem run_of_overflows {w : Waiting} (h : w.Overflows) (host database label : String)
    (delay : ℕ → ℕ) :
    run w host database label (.start none (answers delay fun _ => .ok .prepare))
      = ⟨.error .clockOverflow, askedAfter w host database label delay (w.limit - 1),
          timeAfter w delay (w.limit - 1)⟩ := by
  obtain ⟨n, hlimit, hearly, hlate⟩ := h.limit_eq
  have hrange : w.pauses n < 2 ^ 64 * nanosPerSecond := hearly.trans w.deadline.bounded
  obtain ⟨waited, hwaited, hresult, hstate⟩ := run_dialogue host database label delay
    (fun _ => .ok .prepare) (by omega) hrange fun _ _ => rfl
  rw [← hwaited] at hearly
  unfold pollFrom at hresult hstate
  rw [Waiting.poll_of_overflow hearly ((Waiting.advance_eq_none_iff hwaited).2 hlate)]
    at hresult hstate
  rw [hlimit, Nat.add_sub_cancel]
  exact run_eq hresult hstate

end Timeline

namespace Load

theorem not_held_queryState_clockOverflow (c : Client) (host database label : String)
    (t : List (Sigma Move.Answer)) :
    ¬ (queryState c host database label).Held t (.error .clockOverflow) := by
  intro h
  have hreply : ∀ r, stateOf label r ≠ .error .clockOverflow := fun r hr => by
    unfold stateOf at hr
    split at hr
    · exact nomatch hr
    · split at hr <;> exact nomatch hr
    · exact nomatch hr
    · exact nomatch hr
  unfold queryState storeUrl at h
  cases hurl : Url.parse (stateAddress host database) with
  | error f =>
    simp only [hurl] at h
    exact nomatch (Dialogue.held_done.1 h).2
  | ok url =>
    simp only [hurl] at h
    obtain ⟨-, a, t₂, -, -, hafter⟩ := Dialogue.held_bind.1 h
    cases a with
    | error f => exact nomatch (Dialogue.held_done.1 hafter).2
    | ok r => exact hreply r (Dialogue.held_done.1 hafter).2.symm

end Load

namespace Settings

open Waiting (Overflows backoff count units)

variable {s : Settings}

/-- **What the clock does in a waiting of settings that pass the check.** The multiplication is
always in range, and that the count of the questions stays at the end of its own range changes no
pause. The sum is in range in every waiting that does not leave it: no dialogue of it fails because
of the clock, whatever it asks about the label and whoever answers, and so neither does the waiting
of a load. A waiting that leaves the range fails so, if the label stays undecided, with the last
pause before its deadline. Whether it does is decided by the deadline and the unit, and never if
there are five units between the deadline and the end of the range. -/
theorem clock_of_check (h : s.check = .ok ()) :
    ∃ w, Loader.waitingOf s = .ok w ∧ s.labelTimeout = .ok w.deadline ∧ w.unit = s.pollUnit ∧
      (∀ n, ∃ d, backoff w.unit n = some d ∧ d.nanos = w.unit.nanos * units n ∧
        backoff w.unit (count n).toNat = some d) ∧
      (∀ {Q : Type} {A : Q → Type} (label : String) (pause : Duration → Dialogue A Unit)
        (query : Dialogue A (Except Failure LabelState)),
        (∀ t, ¬ query.Held t (.error .clockOverflow)) →
        ∀ t, (w.reconcile label pause query).Held t (.error .clockOverflow) → w.Overflows) ∧
      (∀ (c : Load.Client) (host database label : String) (t : List (Sigma Move.Answer)),
        (w.reconcile label Talk.pause (Load.queryState c host database label)).Held t
          (.error .clockOverflow) → w.Overflows) ∧
      (w.Overflows → ∀ (host database label : String) (delay : ℕ → ℕ),
        let r := Timeline.run w host database label
          (.start none (Timeline.answers delay fun _ => .ok .prepare))
        r.result = .error .clockOverflow ∧ r.asked.length = w.limit - 1) ∧
      (w.Overflows ↔ ∃ n, w.unit.nanos * Waiting.unitsBefore n < w.deadline.nanos ∧
        2 ^ 64 * nanosPerSecond ≤ w.unit.nanos * Waiting.unitsBefore (n + 1)) ∧
      (w.deadline.nanos + 5 * w.unit.nanos ≤ 2 ^ 64 * nanosPerSecond → ¬ w.Overflows) := by
  obtain ⟨w, hw, hdeadline, hunit⟩ := Loader.exists_waitingOf h
  refine ⟨w, hw, hdeadline, hunit, fun n => ?_,
    fun label pause query hquery t => Waiting.overflows_of_held hquery,
    fun c host database label t =>
      Waiting.overflows_of_held (Load.not_held_queryState_clockOverflow c host database label),
    fun hover host database label delay => ?_, ?_, Waiting.not_overflows_of_le⟩
  · obtain ⟨d, hd, hnanos⟩ := Waiting.exists_backoff s.pollUnitMs n
    have hcount : backoff w.unit (count n).toNat = backoff w.unit n := by
      rw [backoff, backoff, Waiting.units_count]
    rw [hcount, hunit]
    exact ⟨d, hd, hnanos, hd⟩
  · rw [Timeline.run_of_overflows hover]
    exact ⟨rfl, Timeline.length_askedAfter _⟩
  · simp only [Waiting.overflows_iff, Waiting.pauses_eq]

/-- With the usual settings the clock is far from its end, and no load can fail by it: ten minutes,
and a pause behind them, are few enough seconds. -/
theorem clock_of_check_of_ten_minutes :
    let s := Settings.ofHosts ["fe:8030"]
    s.check = .ok () ∧ ∃ w, Loader.waitingOf s = .ok w ∧ ¬ w.Overflows ∧
      ∀ (c : Load.Client) (host database label : String) (t : List (Sigma Move.Answer)),
        ¬ (w.reconcile label Talk.pause (Load.queryState c host database label)).Held t
          (.error .clockOverflow) := by
  intro s
  have hcheck : s.check = .ok () := rfl
  obtain ⟨w, hw, hdeadline, hunit, -, -, honly, -, -, hspare⟩ := clock_of_check hcheck
  have hinside : ¬ w.Overflows := by
    refine hspare ?_
    rw [← Except.ok.inj hdeadline, hunit]
    decide +kernel
  exact ⟨hcheck, w, hw, hinside, fun c host database label t h =>
    hinside (honly c host database label t h)⟩

/-- **A deadline at the end of the range, and a long unit.** The settings pass the check, and a
label that stays undecided is asked about 203 times before the clock fails. The deadline is a second
below the end of the range, and a thousand units are another second less. -/
theorem run_clockOverflow_of_last_second :
    let s := { Settings.ofHosts ["fe:8030"] with
      labelTimeoutSecs := some (UInt64.ofNat (2 ^ 64 - 1))
      pollUnitMs := UInt64.ofNat (2 ^ 64 - 2) }
    s.check = .ok () ∧
      (∃ w, Loader.waitingOf s = .ok w ∧
        let r := Timeline.run w "http://fe:8030" "d" "l"
          (.start none (Timeline.answers (fun _ => 0) fun _ => .ok .prepare))
        r.result = .error .clockOverflow ∧ r.asked.length = 203) ∧
      ¬ ∀ (s : Settings) (w : Waiting) (clock : Timeline.Clock), s.check = .ok () →
        Loader.waitingOf s = .ok w →
        (Timeline.run w "http://fe:8030" "d" "l" clock).result ≠ .error .clockOverflow := by
  intro s
  have hcheck : s.check = .ok () := by decide +kernel
  obtain ⟨w, hw, hdeadline, hunit⟩ := Loader.exists_waitingOf hcheck
  have hdeadline' : w.deadline.nanos = (2 ^ 64 - 1) * nanosPerSecond := by
    rw [← Except.ok.inj hdeadline]
    decide +kernel
  have hunit' : w.unit.nanos = (2 ^ 64 - 2) * nanosPerMilli := by
    rw [hunit]
    decide +kernel
  have hearly : w.pauses 203 < w.deadline.nanos := by
    rw [w.pauses_eq, hdeadline', hunit']
    decide +kernel
  have hlate : 2 ^ 64 * nanosPerSecond ≤ w.pauses 204 := by
    rw [w.pauses_eq, hunit']
    decide +kernel
  have hlimit : w.limit = 204 := by
    refine Nat.le_antisymm (Nat.find_min' w.exists_le_pauses ?_) (Nat.not_lt.1 fun hlt => ?_)
    · exact w.deadline.bounded.le.trans hlate
    · have hreached := w.deadline_le_pauses_limit.trans (w.pauses_mono (Nat.le_of_lt_succ hlt))
      omega
  have hrun := Timeline.run_of_overflows (Waiting.overflows_iff.2 ⟨203, hearly, hlate⟩)
    "http://fe:8030" "d" "l" fun _ => 0
  refine ⟨hcheck, ⟨w, hw, ?_⟩, fun hall => ?_⟩
  · rw [hrun, hlimit]
    exact ⟨rfl, Timeline.length_askedAfter 203⟩
  · refine hall s w (.start none (Timeline.answers (fun _ => 0) fun _ => .ok .prepare)) hcheck hw ?_
    rw [hrun]

end Settings

end Ingest
