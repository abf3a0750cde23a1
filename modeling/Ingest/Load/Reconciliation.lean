import Ingest.Dialogue
import Ingest.Failure

/-!
# Waiting for a label

A label that was used before belongs to a load that is still under way or was decided earlier. Its
state is asked for again and again, with pauses of no, one, two, … and at most five units before the
questions. When the pauses together reach the time that the label is given, the waiting ends.

The pauses, not the questions, are what counts against that time. Since the unit is positive, every
pause but the first brings the end nearer, and so the waiting ends whatever the store answers.
-/

namespace Ingest

/-- **How long to wait for a label**: the time it is given and the unit of the pauses. That the unit
is positive is part of it, because the waiting would not end otherwise. -/
structure Waiting where
  deadline : Duration
  unit : Duration
  /-- Pauses take time. -/
  unit_pos : 0 < unit.nanos

namespace Waiting

/-- Pauses stop growing at this many units. Longer ones would tell of a decision too late. -/
def maxUnits : Nat := 5

/-- The units of the pause before question number `i`. The first question is number zero and is put
at once. -/
def units (i : Nat) : Nat := min i maxUnits

/-- **The pause before a question**, if it is in range. It is checked although it is in range for
every unit that settings can give. -/
def backoff (unit : Duration) (i : Nat) : Option Duration := unit.times? (units i)

/-- A pause and the time waited with it, if they are in range. The sum is the one number here that
can leave the range. -/
def advance (w : Waiting) (i : Nat) (waited : Duration) : Option (Duration × Duration) :=
  (backoff w.unit i).bind fun pause => (waited.add? pause).map fun total => (pause, total)

/-- What is left to wait, with one more for the first question, which is put at once. It falls with
every question, which is why the waiting ends. -/
def left (w : Waiting) (i : Nat) (waited : Duration) : Nat :=
  w.deadline.nanos - waited.nanos + (if i = 0 then 1 else 0)

theorem nanos_of_advance {w : Waiting} {i : Nat} {waited : Duration} {r : Duration × Duration}
    (h : w.advance i waited = some r) :
    r.1.nanos = w.unit.nanos * units i ∧ r.2.nanos = waited.nanos + r.1.nanos := by
  simp only [advance, backoff, Option.bind_eq_some_iff, Option.map_eq_some_iff] at h
  obtain ⟨pause, hp, total, ht, rfl⟩ := h
  exact ⟨Duration.nanos_of_times? hp, Duration.nanos_of_add? ht⟩

theorem left_advance {w : Waiting} {i : Nat} {waited : Duration} {r : Duration × Duration}
    (hw : waited.nanos < w.deadline.nanos) (h : w.advance i waited = some r) :
    w.left (i + 1) r.2 < w.left i waited := by
  obtain ⟨hp, ht⟩ := nanos_of_advance h
  have hu := w.unit_pos
  unfold left
  rcases Nat.eq_zero_or_pos i with rfl | hi
  · simp only [units, Nat.zero_min, Nat.mul_zero] at hp
    simp; omega
  · have hm : 0 < units i := by unfold units maxUnits; omega
    have : 0 < w.unit.nanos * units i := Nat.mul_pos hu hm
    simp [show i ≠ 0 by omega]; omega

variable {Q : Type} {A : Q → Type}

/-- **Waits for a label**, from question number `i` on, given the ways to pause and to ask. The
deadline is looked at before each pause and not behind an answer, so an answer that decides is taken
whenever it comes; time that questions take is not counted. -/
def poll (w : Waiting) (label : String) (pause : Duration → Dialogue A Unit)
    (query : Dialogue A (Except Failure LabelState)) (i : Nat) (waited : Duration)
    (last : Option LabelState) : Dialogue A (Except Failure LabelState) :=
  if _hw : waited.nanos < w.deadline.nanos then
    match _h : w.advance i waited with
    | none => .done (.error .clockOverflow)
    | some (d, total) =>
      (pause d).bind fun _ =>
        query.bind fun
          | .error f => .done (.error f)
          | .ok state =>
            match state.verdict with
            | .undecided => poll w label pause query (i + 1) total (some state)
            | .succeeded => .done (.ok state)
            | .failed => .done (.error (.lost label state))
  else .done (.error (.undecided label last waited))
termination_by w.left i waited
decreasing_by exact left_advance _hw _h

/-- **Waits for a label from the beginning**: no question was put, no time is waited, and no state
is known. -/
def reconcile (w : Waiting) (label : String) (pause : Duration → Dialogue A Unit)
    (query : Dialogue A (Except Failure LabelState)) : Dialogue A (Except Failure LabelState) :=
  w.poll label pause query 0 Duration.zero none

end Waiting

end Ingest
