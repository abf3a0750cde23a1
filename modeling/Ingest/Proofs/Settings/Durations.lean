import Ingest.Proofs.Load.Rounds
import Ingest.Proofs.Load.Setup
import Mathlib.Algebra.Order.Ring.Nat

/-!
# Settings of time

A length of time is set in nanoseconds and kept as a whole number of its unit in 64 bits: what does
not fill a unit is dropped, and so are the high bits of a number that needs more. All four settings
of time keep whole units modulo `2 ^ 64` (`nanos_kept`), and what is kept is the length that was
set, to within a unit, exactly if that is at least a unit and needs no more bits
(`faithful_kept_iff`).

The two ends are not alike. Of the settings in milliseconds the check refuses a zero, so a length
below the unit never passes; but one that is too long comes out shorter, and passes unless nothing
is left of it. The time for labels is kept in seconds, of which there are never too many. Here the
check does not look at the zero, and a label that is given less than a second is given no time: its
state is never asked for (`neverAsks_iff`).
-/

namespace Ingest

namespace Waiting

/-- **A waiting that never asks** about its label, and ends at once. -/
def NeverAsks (w : Waiting) : Prop :=
  ∀ {Q : Type} {A : Q → Type} (label : String) (pause : Duration → Dialogue A Unit)
    (query : Dialogue A (Except Failure LabelState)),
    w.reconcile label pause query = .done (.error (.undecided label none Duration.zero))

/-- Only a label that is given no time is never asked about. With any time at all there is a first
question, since the pause before it takes none. -/
theorem neverAsks_iff {w : Waiting} : w.NeverAsks ↔ w.deadline.nanos = 0 := by
  constructor
  · intro h
    by_contra hne
    have hearly : Duration.zero.nanos < w.deadline.nanos := Nat.pos_of_ne_zero hne
    have hfirst : w.advance 0 Duration.zero = some (Duration.zero, Duration.zero) :=
      pauseAt_first w.unit
    -- before the deadline the waiting begins with a pause
    have hasks := h (A := Poll.Answer) "" (fun d => Dialogue.question (Poll.pause d))
      (Dialogue.question (Poll.state "" "" ""))
    rw [reconcile, poll_of_advance hearly hfirst] at hasks
    exact nomatch hasks
  · intro hzero Q A label pause query
    exact poll_of_deadline (Nat.not_lt.2 (Nat.le_of_eq hzero))

end Waiting

namespace Settings

/-- **The settings that are lengths of time.** They are one family: what is said of one of them is
said of all, with its unit as the only difference. -/
inductive TimeSetting where
  | connectTimeout
  | socketTimeout
  | pollUnit
  | labelTimeout
  deriving DecidableEq

namespace TimeSetting

variable {t : TimeSetting} {s : Settings} {d e : Duration}

/-- The unit in which a setting is kept, in nanoseconds: a second for the time of labels, a
millisecond for the others. -/
def unit : TimeSetting → ℕ
  | .labelTimeout => nanosPerSecond
  | _ => nanosPerMilli

/-- Sets one of the four, by the setter of its own. -/
def set : TimeSetting → Settings → Duration → Settings
  | .connectTimeout => withConnectTimeout
  | .socketTimeout => withSocketTimeout
  | .pollUnit => withPollUnit
  | .labelTimeout => withLabelTimeout

/-- What is in force, if there is something. A time for labels need not be, as a property may stand
for it that is no number. -/
def get? : TimeSetting → Settings → Option Duration
  | .connectTimeout, s => some s.connectTimeout
  | .socketTimeout, s => s.socketTimeout
  | .pollUnit, s => some s.pollUnit
  | .labelTimeout, s => s.labelTimeout.toOption

/-- **What is kept of a length of time.** The number of units is written into 64 bits, without a
look at what does not fit. -/
def kept : TimeSetting → Duration → Duration
  | .labelTimeout, d => Duration.ofSecs (UInt64.ofNat d.secs)
  | _, d => Duration.ofMillis (millis64 d)

/-- **What is kept says what was set**: it is not zero and not longer, and less than a unit is
missing. -/
def Faithful (t : TimeSetting) (d v : Duration) : Prop :=
  0 < v.nanos ∧ v.nanos ≤ d.nanos ∧ d.nanos - v.nanos < t.unit

theorem get?_set (t : TimeSetting) (s : Settings) (d : Duration) :
    t.get? (t.set s d) = some (t.kept d) := by
  cases t <;> rfl

/-! ## What is kept -/

theorem unit_pos (t : TimeSetting) : 0 < t.unit := by cases t <;> decide

/-- **Whole units are kept, modulo `2 ^ 64`.** It is the one closed form that everything below is
read off, for all four settings at once. -/
theorem nanos_kept (t : TimeSetting) (d : Duration) :
    (t.kept d).nanos = d.nanos / t.unit % 2 ^ 64 * t.unit := by
  cases t <;> rfl

/-- A setting keeps whole units only, and what is left of one is dropped. So no time grows longer by
being set. -/
theorem nanos_kept_le (t : TimeSetting) (d : Duration) : (t.kept d).nanos ≤ d.nanos := by
  rw [nanos_kept]
  exact (Nat.mul_le_mul_right _ (Nat.mod_le _ _)).trans (Nat.div_mul_le_self _ _)

/-- Nothing is left of a length of time exactly if its whole units are a multiple of `2 ^ 64`. -/
theorem nanos_kept_eq_zero_iff : (t.kept d).nanos = 0 ↔ d.nanos / t.unit % 2 ^ 64 = 0 := by
  rw [nanos_kept, Nat.mul_eq_zero, or_iff_left t.unit_pos.ne']

/-- **Less than a unit is missing** exactly if the number of units needs no more than 64 bits. -/
theorem sub_nanos_kept_lt_iff :
    d.nanos - (t.kept d).nanos < t.unit ↔ d.nanos < 2 ^ 64 * t.unit := by
  have hsplit : d.nanos / t.unit * t.unit + d.nanos % t.unit = d.nanos :=
    Nat.div_add_mod' d.nanos t.unit
  have hrest : d.nanos % t.unit < t.unit := Nat.mod_lt _ t.unit_pos
  rw [nanos_kept]
  constructor
  · intro h
    by_contra hlong
    -- of the units at least `2 ^ 64` are lost
    have hwrapped : d.nanos / t.unit % 2 ^ 64 + 2 ^ 64 ≤ d.nanos / t.unit := by
      have hmany : 2 ^ 64 ≤ d.nanos / t.unit :=
        (Nat.le_div_iff_mul_le t.unit_pos).2 (Nat.not_lt.1 hlong)
      omega
    have hlost := Nat.mul_le_mul_right t.unit hwrapped
    rw [Nat.add_mul] at hlost
    have hunit : 1 * t.unit ≤ 2 ^ 64 * t.unit := Nat.mul_le_mul_right _ (by decide)
    omega
  · intro h
    have hfew : d.nanos / t.unit < 2 ^ 64 := Nat.div_lt_of_lt_mul (by rwa [Nat.mul_comm])
    rw [Nat.mod_eq_of_lt hfew]
    omega

/-- **When what is kept says what was set**: there is a whole unit, and the number of units needs no
more than 64 bits. -/
theorem faithful_kept_iff :
    t.Faithful d (t.kept d) ↔ t.unit ≤ d.nanos ∧ d.nanos < 2 ^ 64 * t.unit := by
  unfold Faithful
  rw [sub_nanos_kept_lt_iff, and_iff_right (nanos_kept_le t d)]
  refine and_congr_left fun hlt => ?_
  have hfew : d.nanos / t.unit < 2 ^ 64 := Nat.div_lt_of_lt_mul (by rwa [Nat.mul_comm])
  rw [Nat.pos_iff_ne_zero, ne_eq, nanos_kept_eq_zero_iff, Nat.mod_eq_of_lt hfew,
    Nat.div_eq_zero_iff, not_or, Nat.not_lt]
  exact and_iff_right t.unit_pos.ne'

/-- Lengths of time keep their order as long as they need no more than 64 bits. Beyond that a longer
one may come out as the shorter. -/
theorem nanos_kept_mono (hle : d.nanos ≤ e.nanos) (he : e.nanos < 2 ^ 64 * t.unit) :
    (t.kept d).nanos ≤ (t.kept e).nanos := by
  have hunits : d.nanos / t.unit ≤ e.nanos / t.unit := Nat.div_le_div_right hle
  have hfew : e.nanos / t.unit < 2 ^ 64 := Nat.div_lt_of_lt_mul (by rwa [Nat.mul_comm])
  rw [nanos_kept, nanos_kept, Nat.mod_eq_of_lt hfew, Nat.mod_eq_of_lt (hunits.trans_lt hfew)]
  exact Nat.mul_le_mul_right _ hunits

/-! ## What the check lets pass -/

theorem nanos_kept_ne_zero_iff (ht : t ≠ .labelTimeout) :
    (t.kept d).nanos ≠ 0 ↔ millis64 d ≠ 0 := by
  have hkept : t.kept d = Duration.ofMillis (millis64 d) := by
    cases t with
    | labelTimeout => exact absurd rfl ht
    | connectTimeout | socketTimeout | pollUnit => rfl
  rw [hkept, Duration.nanos_ofMillis, ne_eq, Nat.mul_eq_zero, or_iff_left (by decide),
    ← ne_eq, ← UInt64.toNat_zero, ne_eq, UInt64.toNat_inj]

/-- **The check refuses a zero** of every setting but the time for labels. The rest of the check is
what it was before the setting was made. -/
theorem check_set_iff (h : s.check = .ok ()) :
    (t.set s d).check = .ok () ↔ t = .labelTimeout ∨ (t.kept d).nanos ≠ 0 := by
  obtain ⟨hhosts, hconnect, hsocket, hunit, hframing, hlabel⟩ := check_eq_ok.1 h
  by_cases ht : t = .labelTimeout
  · subst ht
    refine iff_of_true (check_eq_ok.2 ?_) (.inl rfl)
    exact ⟨hhosts, hconnect, hsocket, hunit, hframing, _, rfl⟩
  rw [or_iff_right ht, nanos_kept_ne_zero_iff ht, check_eq_ok]
  cases t with
  | labelTimeout => exact absurd rfl ht
  | connectTimeout =>
    exact ⟨fun hset => hset.2.1, fun hset => ⟨hhosts, hset, hsocket, hunit, hframing, hlabel⟩⟩
  | socketTimeout =>
    exact ⟨fun hset => mt (congrArg some) hset.2.2.1, fun hset =>
      ⟨hhosts, hconnect, mt Option.some.inj hset, hunit, hframing, hlabel⟩⟩
  | pollUnit =>
    exact ⟨fun hset => hset.2.2.2.1, fun hset =>
      ⟨hhosts, hconnect, hsocket, hset, hframing, hlabel⟩⟩

theorem set_set (t : TimeSetting) (s : Settings) (d e : Duration) :
    t.set (t.set s d) e = t.set s e := by
  cases t <;> rfl

theorem nanos_kept_pos (h : (t.set s d).check = .ok ()) (ht : t ≠ .labelTimeout) :
    0 < (t.kept d).nanos := by
  have hagain : (t.set (t.set s d) d).check = .ok () := by rwa [set_set]
  exact Nat.pos_of_ne_zero (((check_set_iff h).1 hagain).resolve_left ht)

/-- What is kept is positive only if a whole unit was there to be kept. -/
theorem unit_le_of_nanos_kept_pos (h : 0 < (t.kept d).nanos) : t.unit ≤ d.nanos := by
  by_contra hshort
  have hnone : d.nanos / t.unit = 0 := Nat.div_eq_of_lt (Nat.not_le.1 hshort)
  rw [nanos_kept, hnone, Nat.zero_mod, Nat.zero_mul] at h
  exact Nat.lt_irrefl 0 h

theorem lt_of_labelTimeout (d : Duration) : d.nanos < 2 ^ 64 * unit .labelTimeout := d.bounded

/-- Less than a second is no time for a label. -/
theorem nanos_kept_labelTimeout_eq_zero_iff :
    (kept .labelTimeout d).nanos = 0 ↔ d.nanos < unit .labelTimeout := by
  have hfew : d.nanos / unit .labelTimeout < 2 ^ 64 :=
    Nat.div_lt_of_lt_mul (by rw [Nat.mul_comm]; exact lt_of_labelTimeout d)
  rw [nanos_kept_eq_zero_iff, Nat.mod_eq_of_lt hfew, Nat.div_eq_zero_iff]
  exact or_iff_right (unit_pos .labelTimeout).ne'

/-- A loader made with a time for its label waits that long. Less than a unit leaves a deadline of
zero, and then nothing is ever asked. -/
theorem exists_waitingOf_set (h : (set .labelTimeout s d).check = .ok ()) :
    ∃ w, Loader.waitingOf (set .labelTimeout s d) = .ok w ∧ w.deadline = kept .labelTimeout d ∧
      (w.NeverAsks ↔ d.nanos < unit .labelTimeout) := by
  obtain ⟨w, hw, hdeadline, -⟩ := Loader.exists_waitingOf h
  have hkept : w.deadline = kept .labelTimeout d := (Except.ok.inj hdeadline).symm
  refine ⟨w, hw, hkept, ?_⟩
  rw [Waiting.neverAsks_iff, hkept, nanos_kept_labelTimeout_eq_zero_iff]

/-- **What a setting of time comes to** in settings that pass the check. What is in force are the
whole units of what was set, modulo `2 ^ 64`. It is never longer, and it says what was set exactly
if that is at least a unit and needs no more than 64 bits. In milliseconds it is never zero, so only
the second can fail. In seconds the second never fails, but the first can: a label that is given
less than a second is never asked about. The order of lengths of time is kept as far as they need no
more than 64 bits. -/
theorem faithful_iff_of_check (h : (t.set s d).check = .ok ()) :
    ∃ v, t.get? (t.set s d) = some v ∧
      v.nanos = d.nanos / t.unit % 2 ^ 64 * t.unit ∧ v.nanos ≤ d.nanos ∧
      (t.Faithful d v ↔ t.unit ≤ d.nanos ∧ d.nanos < 2 ^ 64 * t.unit) ∧
      (t ≠ .labelTimeout → 0 < v.nanos ∧ t.unit ≤ d.nanos) ∧
      (t = .labelTimeout → d.nanos < 2 ^ 64 * t.unit ∧ d.nanos - v.nanos < t.unit ∧
        ∃ w, Loader.waitingOf (t.set s d) = .ok w ∧ w.deadline = v ∧
          (w.NeverAsks ↔ d.nanos < t.unit)) ∧
      ∀ e, d.nanos ≤ e.nanos → e.nanos < 2 ^ 64 * t.unit →
        ∃ v', t.get? (t.set s e) = some v' ∧ v.nanos ≤ v'.nanos := by
  refine ⟨t.kept d, t.get?_set s d, t.nanos_kept d, t.nanos_kept_le d, faithful_kept_iff,
    fun ht => ?_, ?_, fun e hle he => ⟨t.kept e, t.get?_set s e, nanos_kept_mono hle he⟩⟩
  · have hpos := nanos_kept_pos h ht
    exact ⟨hpos, unit_le_of_nanos_kept_pos hpos⟩
  · rintro rfl
    exact ⟨lt_of_labelTimeout d, sub_nanos_kept_lt_iff.2 (lt_of_labelTimeout d),
      exists_waitingOf_set h⟩

/-- A second and a half is kept as a second, and a label that is given so long is asked about. -/
theorem faithful_iff_of_check_of_seconds :
    let s := Settings.ofHosts ["fe:8030"]
    let d := Duration.ofMillis 1500
    (set .labelTimeout s d).check = .ok () ∧
      get? .labelTimeout (set .labelTimeout s d) = some (Duration.ofSecs 1) ∧
      Faithful .labelTimeout d (Duration.ofSecs 1) ∧
      ∃ w, Loader.waitingOf (set .labelTimeout s d) = .ok w ∧ ¬ w.NeverAsks := by
  intro s d
  have hcheck : (set .labelTimeout s d).check = .ok () := rfl
  have hkept : get? .labelTimeout (set .labelTimeout s d) = some (Duration.ofSecs 1) := by
    decide +kernel
  obtain ⟨v, hv, -, -, hfaithful, -, hlabel, -⟩ := faithful_iff_of_check hcheck
  obtain rfl : Duration.ofSecs 1 = v := Option.some.inj (hkept.symm.trans hv)
  obtain ⟨-, -, w, hw, -, hnever⟩ := hlabel rfl
  have hunit : unit .labelTimeout ≤ d.nanos := by decide +kernel
  exact ⟨hcheck, hv, hfaithful.2 ⟨hunit, lt_of_labelTimeout d⟩, w, hw,
    mt hnever.1 (Nat.not_lt.2 hunit)⟩

/-- **Half a second for labels is no time, and too many milliseconds are few.** Both settings pass
the check, and nothing tells whoever made them that another length of time is in force. -/
theorem not_faithful_of_half_second :
    let s := Settings.ofHosts ["fe:8030"]
    let half := Duration.ofMillis 500
    let long : Duration := ⟨(2 ^ 64 + 1) * nanosPerMilli, by decide⟩
    ((set .labelTimeout s half).check = .ok () ∧
      get? .labelTimeout (set .labelTimeout s half) = some Duration.zero ∧
      ∃ w, Loader.waitingOf (set .labelTimeout s half) = .ok w ∧ w.NeverAsks) ∧
    ((set .connectTimeout s long).check = .ok () ∧
      get? .connectTimeout (set .connectTimeout s long) = some (Duration.ofMillis 1)) ∧
    ¬ ∀ (t : TimeSetting) (s : Settings) (d : Duration), 0 < d.nanos → s.check = .ok () →
      (t.set s d).check = .ok () → ∃ v, t.get? (t.set s d) = some v ∧ t.Faithful d v := by
  intro s half long
  have hcheck : (set .labelTimeout s half).check = .ok () := rfl
  have hzero : get? .labelTimeout (set .labelTimeout s half) = some Duration.zero := by
    decide +kernel
  obtain ⟨w, hw, -, hnever⟩ := exists_waitingOf_set hcheck
  refine ⟨⟨hcheck, hzero, w, hw, hnever.2 (by decide +kernel)⟩,
    ⟨by decide +kernel, by decide +kernel⟩, fun hall => ?_⟩
  obtain ⟨v, hv, hpos, -⟩ := hall .labelTimeout s half (by decide +kernel) rfl hcheck
  obtain rfl : Duration.zero = v := Option.some.inj (hzero.symm.trans hv)
  exact Nat.lt_irrefl 0 hpos

end TimeSetting

end Settings

end Ingest
