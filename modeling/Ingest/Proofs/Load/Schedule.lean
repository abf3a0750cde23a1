import Ingest.Load.Reconciliation
import Mathlib.Algebra.BigOperators.Group.Finset.Basic
import Mathlib.Algebra.Order.BigOperators.Group.Finset
import Mathlib.Data.Nat.Find

/-!
# The schedule of waiting

The pauses before the questions about a label are known in advance: none, one, two, … and at most
five units. The unit is positive, so their sum passes every deadline, and `limit` is the number of
pauses that are needed for that. It is the number of questions that a label is asked about which
stays undecided.
-/

namespace Ingest.Waiting

variable (w : Waiting)

/-- **The first `n` pauses together**, in nanoseconds. This is a number and not a length of time, so
it is there also where the sum of the pauses leaves the range of one. -/
def pauses (n : ℕ) : ℕ := ∑ i ∈ Finset.range n, w.unit.nanos * units i

@[simp] theorem pauses_zero : w.pauses 0 = 0 := rfl

theorem pauses_succ (n : ℕ) : w.pauses (n + 1) = w.pauses n + w.unit.nanos * units n :=
  Finset.sum_range_succ _ n

theorem pauses_mono : Monotone w.pauses := by
  refine monotone_nat_of_le_succ fun n => ?_
  rw [pauses_succ]
  exact Nat.le_add_right _ _

/-- Each pause but the first takes at least a nanosecond, so the pauses pass every number. -/
theorem le_pauses (n : ℕ) : n ≤ w.pauses (n + 1) := by
  induction n with
  | zero => exact Nat.zero_le _
  | succ n ih =>
    have hunits : 0 < units (n + 1) := by
      unfold units maxUnits
      omega
    have hpause : 0 < w.unit.nanos * units (n + 1) := Nat.mul_pos w.unit_pos hunits
    rw [pauses_succ]
    omega

theorem exists_le_pauses : ∃ n, w.deadline.nanos ≤ w.pauses n :=
  ⟨_, w.le_pauses w.deadline.nanos⟩

/-- **The number of pauses that reach the deadline.** It is the number of questions a label is asked
about which nobody decides, and it is none if the deadline leaves no time. -/
def limit : ℕ := Nat.find w.exists_le_pauses

/-- With `pauses_lt_deadline` this says what the limit is, and the proofs about it use nothing else:
the pauses reach the deadline there, and no earlier. -/
theorem deadline_le_pauses_limit : w.deadline.nanos ≤ w.pauses w.limit :=
  Nat.find_spec w.exists_le_pauses

variable {w}

theorem pauses_lt_deadline {n : ℕ} (h : n < w.limit) : w.pauses n < w.deadline.nanos :=
  Nat.lt_of_not_le (Nat.find_min w.exists_le_pauses h)

/-- Only a deadline of zero leaves no time for a first question, since the pause before this one is
none. -/
theorem limit_eq_zero_iff : w.limit = 0 ↔ w.deadline.nanos = 0 := by
  unfold limit
  rw [Nat.find_eq_zero, pauses_zero, Nat.le_zero]

/-! ## The pauses in closed form -/

/-- **The units of the first `n` pauses together.** The pauses grow by one unit each until they
are five units long, and no further. -/
def unitsBefore (n : ℕ) : ℕ := if n ≤ 5 then n * (n - 1) / 2 else 5 * n - 15

theorem unitsBefore_succ (n : ℕ) : unitsBefore (n + 1) = unitsBefore n + units n := by
  rcases Nat.lt_or_ge n 6 with hn | hn
  · -- while the pauses grow, and at the first one that does not
    have hgrow : ∀ k < 6, unitsBefore (k + 1) = unitsBefore k + units k := by decide
    exact hgrow n hn
  · have hlong : ¬ n + 1 ≤ 5 := by omega
    have hlong' : ¬ n ≤ 5 := by omega
    unfold unitsBefore units maxUnits
    rw [if_neg hlong, if_neg hlong']
    omega

/-- The pauses together are units in a closed form, so that the sum does not have to be taken apart
where the time of a question is told. -/
theorem pauses_eq (w : Waiting) (n : ℕ) : w.pauses n = w.unit.nanos * unitsBefore n := by
  induction n with
  | zero => rfl
  | succ n ih => rw [pauses_succ, ih, ← Nat.mul_add, unitsBefore_succ]

/-- **The deadline is passed by less than the longest pause**, since before the last pause it had
not been reached and no pause is longer than five units. -/
theorem pauses_limit_lt (h : 0 < w.deadline.nanos) :
    w.pauses w.limit < w.deadline.nanos + 5 * w.unit.nanos := by
  obtain ⟨n, hn⟩ : ∃ n, w.limit = n + 1 :=
    Nat.exists_eq_succ_of_ne_zero fun h0 => h.ne' (limit_eq_zero_iff.1 h0)
  have hbefore : w.pauses n < w.deadline.nanos := pauses_lt_deadline (by omega)
  have hpause : w.unit.nanos * units n ≤ w.unit.nanos * 5 :=
    Nat.mul_le_mul_left _ (Nat.min_le_right n maxUnits)
  rw [hn, pauses_succ]
  omega

/-! ## Pauses in range -/

/-- **A pause on schedule** is in range if the time waited with it is. The time waited is then again
on schedule, which is what the next step of a walk along it needs. -/
theorem advance_of_pauses {n : ℕ} {waited : Duration} (hwaited : waited.nanos = w.pauses n)
    (hrange : w.pauses (n + 1) < 2 ^ 64 * nanosPerSecond) :
    ∃ d total, w.advance n waited = some (d, total) ∧ d.nanos = w.unit.nanos * units n ∧
      total.nanos = w.pauses (n + 1) := by
  have hsum := w.pauses_succ n
  have hpause : w.unit.nanos * units n < 2 ^ 64 * nanosPerSecond := by omega
  refine ⟨⟨_, hpause⟩, ⟨_, hrange⟩, ?_, rfl, rfl⟩
  have hd : w.unit.times? (units n) = some ⟨_, hpause⟩ := Duration.ofNanos?_eq_some_iff.2 rfl
  have htotal : waited.add? ⟨_, hpause⟩ = some ⟨_, hrange⟩ := by
    refine Duration.ofNanos?_eq_some_iff.2 ?_
    rw [hwaited]
    exact hsum
  unfold advance backoff
  rw [hd, Option.bind_some, htotal, Option.map_some]

end Ingest.Waiting
