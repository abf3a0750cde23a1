import Ingest.Host.Rotation
import Ingest.Proofs.Talk
import Mathlib.Algebra.Group.Nat.Defs

/-!
# The search for a host

A search claims a slot before each probe, and which slots it gets is not up to it. `held_search`
says what any search comes to, `held_search_none` when it comes to nothing: as many slots were
claimed as there were probes to make, and none of their hosts could be connected to. Whether
these were all the hosts depends on the slots. A slot names every host once within a full turn of
consecutive slots (`exists_slot`), so a search that is not disturbed finds a host if there is one.
-/

namespace Ingest.Rotation

open Talk (Record claimed sent reached)

variable {r : Rotation}

/-- A slot may be any number; the host it stands for is found by the remainder, and is one of the
list. -/
theorem address_mem (h : r.hosts ≠ []) (slot : UInt64) :
    r.address slot ∈ r.hosts.map HostEntry.normalize := by
  have hlt : slot.toNat % r.hosts.length < r.hosts.length :=
    Nat.mod_lt _ (List.length_pos_iff.2 h)
  unfold address
  rw [List.getD_eq_getElem?_getD, List.getElem?_eq_getElem hlt]
  exact List.mem_map_of_mem (List.getElem_mem hlt)

/-- The search of a host begins with a slot, so that no host is tried before its turn came. -/
theorem exists_next_eq (h : r.hosts ≠ []) : ∃ next, r.next = .ask .claim next := by
  unfold next
  cases hl : r.hosts with
  | nil => exact absurd hl h
  | cons host hosts => exact ⟨_, rfl⟩

/-- **What a search comes to.** It sends nothing, and its result is the host that was reached, which
is one of those that were entered. The slots may be any: nothing is said of the order in which they
come. -/
theorem held_search (hr : r.hosts ≠ []) {n : Nat} {t : Record} {host : Option String}
    (h : (r.search n).Held t host) :
    sent t = [] ∧ reached t = host ∧ ∀ a, host = some a → a ∈ r.hosts.map HostEntry.normalize := by
  induction n generalizing t with
  | zero =>
    obtain ⟨rfl, rfl⟩ := Dialogue.held_done.1 h
    exact ⟨rfl, rfl, fun a ha => nomatch ha⟩
  | succ n ih =>
    obtain ⟨slot, t₁, rfl, h₁⟩ := Dialogue.held_ask.1 h
    obtain ⟨reachable, t₂, rfl, h₂⟩ := Dialogue.held_ask.1 h₁
    rw [Talk.sent_claim, Talk.sent_probe, Talk.reached_claim, Talk.reached_probe]
    cases reachable with
    | false => exact ih h₂
    | true =>
      obtain ⟨rfl, rfl⟩ := Dialogue.held_done.1 h₂
      refine ⟨rfl, rfl, fun a ha => ?_⟩
      rw [← Option.some.inj ha]
      exact address_mem hr slot

/-- A search sends no request. What it comes back with is the host it reached last, if it reached
any, and this is one of the list in its normal form. -/
theorem held_next {t : Record} {host : Option String} (h : r.next.Held t host) :
    sent t = [] ∧ reached t = host ∧
      ∀ a, host = some a → a ∈ r.hosts.map HostEntry.normalize := by
  by_cases hr : r.hosts = []
  · unfold next at h
    rw [hr] at h
    obtain ⟨rfl, rfl⟩ := Dialogue.held_done.1 h
    exact ⟨rfl, rfl, fun a ha => nomatch ha⟩
  · exact held_search hr h

/-! ## Searches that find nothing -/

/-- The exchanges of a search that probes the hosts of some slots in vain. The slots tell all of it:
the hosts are theirs, and every answer is the same. -/
def vain (r : Rotation) (slots : List UInt64) : Record :=
  slots.flatMap fun slot => [⟨.claim, slot⟩, ⟨.probe (r.address slot) r.wait, false⟩]

@[simp] theorem vain_cons (slot : UInt64) (slots : List UInt64) :
    r.vain (slot :: slots)
      = ⟨.claim, slot⟩ :: ⟨.probe (r.address slot) r.wait, false⟩ :: r.vain slots := rfl

@[simp] theorem claimed_vain (slots : List UInt64) : claimed (r.vain slots) = slots := by
  induction slots with
  | nil => rfl
  | cons slot slots ih =>
    rw [vain_cons, Talk.claimed_claim, Talk.claimed_probe, ih]

theorem mem_vain {slot : UInt64} {slots : List UInt64} (h : slot ∈ slots) :
    ⟨.probe (r.address slot) r.wait, false⟩ ∈ r.vain slots :=
  List.mem_flatMap.2 ⟨slot, h, .tail _ (.head _)⟩

/-- **A search finds nothing** exactly when all its probes were in vain. That need not mean that
every host was probed, as the slots may be of the same host more than once. -/
theorem held_search_none {n : Nat} {t : Record} :
    (r.search n).Held t none ↔ ∃ slots : List UInt64, slots.length = n ∧ t = r.vain slots := by
  induction n generalizing t with
  | zero =>
    constructor
    · intro h
      exact ⟨[], rfl, (Dialogue.held_done.1 h).1⟩
    · rintro ⟨slots, hlen, rfl⟩
      rw [List.length_eq_zero_iff.1 hlen]
      exact Dialogue.held_done.2 ⟨rfl, rfl⟩
  | succ n ih =>
    constructor
    · intro h
      obtain ⟨slot, t₁, rfl, h₁⟩ := Dialogue.held_ask.1 h
      obtain ⟨reachable, t₂, rfl, h₂⟩ := Dialogue.held_ask.1 h₁
      cases reachable with
      -- a host that was reached is the result
      | true => exact nomatch (Dialogue.held_done.1 h₂).2
      | false =>
        obtain ⟨slots, hlen, rfl⟩ := ih.1 h₂
        exact ⟨slot :: slots, congrArg (· + 1) hlen, rfl⟩
    · rintro ⟨slots, hlen, rfl⟩
      cases slots with
      | nil => exact nomatch hlen
      | cons slot slots =>
        have hrest : (r.search n).Held (r.vain slots) none :=
          ih.2 ⟨slots, Nat.succ.inj hlen, rfl⟩
        exact Dialogue.held_ask.2 ⟨slot, _, rfl, Dialogue.held_ask.2 ⟨false, _, rfl, hrest⟩⟩

/-! ## A full turn -/

/-- The `n` slots from a cursor on. They are counted in 64 bits, so the cursor may start over
within. -/
def turn (cursor : UInt64) (n : Nat) : List UInt64 :=
  (List.range n).map fun k => cursor + UInt64.ofNat k

theorem add_ofNat_succ (cursor : UInt64) (k : Nat) :
    cursor + UInt64.ofNat (k + 1) = cursor + 1 + UInt64.ofNat k := by
  rw [UInt64.ofNat_add, UInt64.add_comm (UInt64.ofNat k), ← UInt64.add_assoc]
  rfl

/-- Among as many numbers in a row as there are remainders, each remainder occurs. This is why a
full turn of slots meets every host. -/
theorem exists_add_mod (c : Nat) {n d : Nat} (hd : d < n) : ∃ k < n, (c + k) % n = d := by
  have hn : 0 < n := Nat.zero_lt_of_lt hd
  have hlt : c % n < n := Nat.mod_lt c hn
  refine ⟨(n - c % n + d) % n, Nat.mod_lt _ hn, ?_⟩
  have hsum : c + (n - c % n + d) = d + n * (c / n + 1) := by
    have hc := Nat.div_add_mod c n
    rw [Nat.mul_succ]
    omega
  rw [Nat.add_mod_mod, hsum, Nat.add_mul_mod_self_left, Nat.mod_eq_of_lt hd]

/-- **A full turn passes every host**, unless the cursor starts over in the middle of it.
Consecutive numbers have every remainder, and where the count starts over they are not
consecutive. -/
theorem exists_slot {cursor : UInt64} (hc : cursor.toNat + r.hosts.length ≤ 2 ^ 64) {h : String}
    (hh : h ∈ r.hosts) :
    ∃ slot ∈ turn cursor r.hosts.length, r.address slot = HostEntry.normalize h := by
  obtain ⟨d, hd, rfl⟩ := List.getElem_of_mem hh
  obtain ⟨k, hk, hmod⟩ := exists_add_mod cursor.toNat hd
  refine ⟨_, List.mem_map_of_mem (List.mem_range.2 hk), ?_⟩
  have hk' : k < 2 ^ 64 := by omega
  have hsum : cursor.toNat + k < 2 ^ 64 := by omega
  have hslot : (cursor + UInt64.ofNat k).toNat = cursor.toNat + k := by
    rw [UInt64.toNat_add, UInt64.toNat_ofNat', Nat.mod_eq_of_lt hk', Nat.mod_eq_of_lt hsum]
  unfold address
  rw [hslot, hmod, List.getD_eq_getElem?_getD, List.getElem?_eq_getElem hd]
  rfl

end Ingest.Rotation
