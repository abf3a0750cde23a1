/-!
# Lengths of time

A length of time is counted in nanoseconds and stays below `2 ^ 64` seconds. Sums and multiples
that leave this range do not exist, and whoever adds has to say what happens then.
-/

namespace Ingest

def nanosPerSecond : Nat := 1000000000

def nanosPerMilli : Nat := 1000000

/-- **A length of time.** The bound is in the type, so a sum or a multiple that leaves it cannot be
taken by mistake for a length of time. -/
@[ext] structure Duration where
  nanos : Nat
  /-- It stays below `2 ^ 64` seconds. -/
  bounded : nanos < UInt64.size * nanosPerSecond
  deriving DecidableEq

namespace Duration

def zero : Duration := ⟨0, by decide⟩

/-- A length of time, if it is in range. Whatever makes one out of others comes through here. -/
def ofNanos? (n : Nat) : Option Duration :=
  if h : n < UInt64.size * nanosPerSecond then some ⟨n, h⟩ else none

/-- A number of milliseconds, which is always in range. -/
def ofMillis (ms : UInt64) : Duration :=
  ⟨ms.toNat * nanosPerMilli, by
    have := ms.toNat_lt
    simp only [nanosPerMilli, nanosPerSecond, UInt64.size]; omega⟩

/-- A number of seconds. The longest of these is just below the end of the range. -/
def ofSecs (s : UInt64) : Duration :=
  ⟨s.toNat * nanosPerSecond, by
    have := s.toNat_lt
    simp only [nanosPerSecond, UInt64.size]; omega⟩

/-- The whole milliseconds, without the part of one that is left over. -/
def millis (d : Duration) : Nat := d.nanos / nanosPerMilli

/-- The whole seconds, without the part of one that is left over. -/
def secs (d : Duration) : Nat := d.nanos / nanosPerSecond

/-- The sum, if it is in range. The caller decides what becomes of a sum that is not. -/
def add? (a b : Duration) : Option Duration := ofNanos? (a.nanos + b.nanos)

/-- A multiple, if it is in range. The pauses between questions are multiples of a unit. -/
def times? (d : Duration) (n : Nat) : Option Duration := ofNanos? (d.nanos * n)

@[simp] theorem nanos_zero : zero.nanos = 0 := rfl

@[simp] theorem nanos_ofMillis (ms : UInt64) : (ofMillis ms).nanos = ms.toNat * nanosPerMilli := rfl

@[simp] theorem nanos_ofSecs (s : UInt64) : (ofSecs s).nanos = s.toNat * nanosPerSecond := rfl

theorem ofNanos?_eq_some_iff {n : Nat} {d : Duration} : ofNanos? n = some d ↔ d.nanos = n := by
  unfold ofNanos?
  split
  · next h =>
    simp only [Option.some.injEq]
    constructor
    · rintro rfl; rfl
    · intro hn; ext; exact hn.symm
  · next h =>
    simp only [reduceCtorEq, false_iff]
    intro hn
    exact h (hn ▸ d.bounded)

theorem nanos_of_add? {a b c : Duration} (h : a.add? b = some c) : c.nanos = a.nanos + b.nanos :=
  ofNanos?_eq_some_iff.1 h

theorem nanos_of_times? {d e : Duration} {n : Nat} (h : d.times? n = some e) :
    e.nanos = d.nanos * n :=
  ofNanos?_eq_some_iff.1 h

end Duration

end Ingest
