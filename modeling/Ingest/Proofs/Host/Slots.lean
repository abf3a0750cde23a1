import Ingest.Proofs.Host.Interleaving
import Mathlib.Data.Int.CardIntervalMod

/-!
# What becomes of the slots

Searches that share a cursor take its slots one by one, and each slot goes to one of them. Whose it
is depends on the order of the acts; which slots there are, and of which hosts they are, does not.
The acts of all searches together claim consecutive slots (`History.slots`), and those of a single
search are probes in vain with at most one probe more behind them (`reaches_search`). Everything
that can be said of the slots follows from these two: how often a host was probed, since a turn
gives every place of the list one slot, and what a single call has claimed, learnt and found.
-/

namespace Ingest.Rotation

open Dialogue (Reaches)
open Talk (Record claimed probed)

variable {r : Rotation}

/-! ## How far a search has come -/

/-- The place of a slot in the list of hosts. A slot is a number and the list is short, so the
places are gone through again and again. -/
def place (r : Rotation) (slot : UInt64) : ℕ := slot.toNat % r.hosts.length

/-- A search that has claimed a slot and waits for the answer to its probe. If it is in vain, up to
`n` more follow. -/
def probing (r : Rotation) (slot : UInt64) (n : ℕ) : Talk (Option String) :=
  .ask (.probe (r.address slot) r.wait) fun reachable =>
    if reachable then .done (some (r.address slot)) else r.search n

/-- **How far a search of at most `n` probes has come**, and what it has said on the way. -/
inductive Stands (r : Rotation) (n : ℕ) : Record → Talk (Option String) → Prop where
  /-- All its probes were in vain, and the others are still to come. -/
  | between (slots : List UInt64) (k : ℕ) (h : slots.length + k = n) :
      Stands r n (r.vain slots) (r.search k)
  /-- It has claimed a slot and waits. -/
  | waiting (slots : List UInt64) (slot : UInt64) (k : ℕ) (h : slots.length + (k + 1) = n) :
      Stands r n (r.vain slots ++ [⟨.claim, slot⟩]) (r.probing slot k)
  /-- Its last probe has found a host. -/
  | found (slots : List UInt64) (slot : UInt64) (h : slots.length < n) :
      Stands r n (r.vain slots ++ [⟨.claim, slot⟩, ⟨.probe (r.address slot) r.wait, true⟩])
        (.done (some (r.address slot)))

/-- A search that has tried one host in vain stands where it would stand had it begun with the next
slot. The invariant counts slots and hosts together, so one step changes both. -/
theorem Stands.after {n : ℕ} {t : Record} {d : Talk (Option String)} (h : r.Stands n t d)
    (slot : UInt64) :
    r.Stands (n + 1) (⟨.claim, slot⟩ :: ⟨.probe (r.address slot) r.wait, false⟩ :: t) d := by
  cases h with
  | between slots k h => exact .between (slot :: slots) k (by rw [List.length_cons]; omega)
  | waiting slots slot' k h =>
    exact .waiting (slot :: slots) slot' k (by rw [List.length_cons]; omega)
  | found slots slot' h => exact .found (slot :: slots) slot' (by rw [List.length_cons]; omega)

/-- **A search comes this far and no further**, whatever it is answered. It is the law of one search
from which its part in a pool is read off. -/
theorem reaches_search {n : ℕ} {t : Record} {d : Talk (Option String)}
    (h : Reaches (r.search n) t d) : r.Stands n t d := by
  induction n generalizing t with
  | zero =>
    cases h with
    | here => exact .between [] 0 rfl
  | succ n ih =>
    cases h with
    | here => exact .between [] (n + 1) (Nat.zero_add _)
    | ask slot rest =>
      cases rest with
      | here => exact .waiting [] slot n (Nat.zero_add _)
      | ask reachable rest =>
        cases reachable with
        | false => exact (ih rest).after slot
        | true =>
          cases rest with
          | here => exact .found [] slot (Nat.succ_pos n)

/-! ## What a search has done -/

theorem waitingFor_search (n : ℕ) : Pool.waitingFor (r.search n) = [] := by
  cases n <;> rfl

theorem not_mem_vain (slots : List UInt64) (address : String) (wait : Duration) :
    ⟨.probe address wait, true⟩ ∉ r.vain slots := by
  induction slots with
  | nil => exact List.not_mem_nil
  | cons slot slots ih =>
    rw [vain_cons]
    intro h
    rcases List.mem_cons.1 h with h | h
    · exact nomatch congrArg Sigma.fst h
    rcases List.mem_cons.1 h with h | h
    · exact Option.some_ne_none address (congrArg Talk.found? h)
    · exact ih h

@[simp] theorem probed_vain (slots : List UInt64) :
    probed (r.vain slots) = slots.map r.address := by
  induction slots with
  | nil => rfl
  | cons slot slots ih => rw [vain_cons, Talk.probed_claim, Talk.probed_probe, ih, List.map_cons]

/-- **What a call has done** that searches the hosts of a rotation and has come to `d`. It bounds
the call whatever slots it got, and it says what the call has found if it has ended. -/
structure Searched (r : Rotation) (t : Record) (d : Talk (Option String)) : Prop where
  /-- It has claimed no more slots than there are hosts. -/
  bounded : (claimed t).length ≤ r.hosts.length
  /-- The hosts of its slots are those it has probed, and the one it waits for. -/
  probes : (claimed t).map r.address = probed t ++ Pool.waitingFor d
  /-- Nothing comes behind a probe that finds a host. -/
  stops : ∀ address wait, ⟨.probe address wait, true⟩ ∉ t.dropLast
  /-- What it returns is a host that its last probe has found. -/
  found : ∀ address, d = .done (some address) → t.getLast? = some ⟨.probe address r.wait, true⟩

/-- **The law of a single call**, at every point that it comes to. Other calls are not mentioned,
since all they can do to it is to choose its slots. -/
theorem searched_of_reaches {t : Record} {d : Talk (Option String)} (h : Reaches r.next t d) :
    r.Searched t d := by
  cases reaches_search h with
  | between slots k hlen =>
    refine ⟨?_, ?_, fun address wait hmem => ?_, fun address hd => ?_⟩
    · rw [claimed_vain]
      omega
    · rw [claimed_vain, probed_vain, waitingFor_search, List.append_nil]
    · exact not_mem_vain slots address wait (List.dropLast_subset _ hmem)
    · cases k <;> exact nomatch hd
  | waiting slots slot k hlen =>
    refine ⟨?_, ?_, fun address wait hmem => ?_, fun address hd => nomatch hd⟩
    · rw [Talk.claimed_append, claimed_vain, List.length_append]
      show slots.length + 1 ≤ r.hosts.length
      omega
    · rw [Talk.claimed_append, claimed_vain, Talk.probed_append, probed_vain, List.map_append,
        List.append_assoc]
      rfl
    · rw [List.dropLast_concat] at hmem
      exact not_mem_vain slots address wait hmem
  | found slots slot hlen =>
    refine ⟨?_, ?_, fun address wait hmem => ?_, fun address hd => ?_⟩
    · rw [Talk.claimed_append, claimed_vain, List.length_append]
      show slots.length + 1 ≤ r.hosts.length
      omega
    · rw [Talk.claimed_append, claimed_vain, Talk.probed_append, probed_vain, List.map_append,
        List.append_assoc]
      rfl
    · rw [List.append_cons, List.dropLast_concat, List.mem_append, List.mem_singleton] at hmem
      exact hmem.elim (not_mem_vain slots address wait) fun h => nomatch h
    · obtain rfl := Option.some.inj (Dialogue.done.inj hd)
      rw [List.append_cons, List.getLast?_concat]

/-! ## Turns -/

theorem turn_succ (cursor : UInt64) (n : ℕ) :
    turn cursor (n + 1) = cursor :: turn (cursor + 1) n := by
  unfold turn
  rw [List.range_succ_eq_map, List.map_cons, List.map_map]
  refine congrArg₂ List.cons (UInt64.add_zero cursor) (List.map_congr_left fun k _ => ?_)
  exact add_ofNat_succ cursor k

theorem turn_zero (n : ℕ) : turn 0 n = (List.range n).map UInt64.ofNat := by
  unfold turn
  exact List.map_congr_left fun k _ => UInt64.zero_add _

/-- How many of some slots are of a place in the list of hosts. -/
def probesOf (r : Rotation) (place : ℕ) (slots : List UInt64) : ℕ :=
  slots.countP (r.place · = place)

/-- **A turn is fair**: of two places neither gets two slots more than the other. A number of slots
goes through the list of hosts some times in full, and once more to a place in it. -/
theorem probesOf_turn {n i j : ℕ} (hn : n ≤ 2 ^ 64) (hi : i < r.hosts.length)
    (hj : j < r.hosts.length) : r.probesOf i (turn 0 n) ≤ r.probesOf j (turn 0 n) + 1 := by
  have hcount : ∀ v < r.hosts.length,
      r.probesOf v (turn 0 n) = n / r.hosts.length + if v < n % r.hosts.length then 1 else 0 := by
    intro v hv
    have hplace : ∀ k ∈ List.range n, decide (r.place (UInt64.ofNat k) = v)
        ↔ decide (k ≡ v [MOD r.hosts.length]) := by
      intro k hk
      have hlt : k < 2 ^ 64 := (List.mem_range.1 hk).trans_le hn
      rw [decide_eq_true_iff, decide_eq_true_iff, place, UInt64.toNat_ofNat', Nat.mod_eq_of_lt hlt,
        Nat.ModEq, Nat.mod_eq_of_lt hv]
    have hmod := Nat.count_modEq_card n (Nat.zero_lt_of_lt hv) v
    rw [Nat.mod_eq_of_lt hv] at hmod
    rw [probesOf, turn_zero, List.countP_map, ← hmod]
    exact List.countP_congr hplace
  rw [hcount i hi, hcount j hj]
  split <;> split <;> omega

end Ingest.Rotation

namespace Ingest.Pool

open Dialogue (Reaches)
open Talk (Record claimed)
open Rotation (Searched)

variable {answers : String → Bool → Prop} {r : Rotation} {p q : Pool (Option String)}
  {acts : List Act}

/-! ## The slots of all calls -/

/-- The slots that were claimed, in order, each with the call it went to. -/
def claims (acts : List Act) : List (ℕ × UInt64) :=
  acts.filterMap fun a => (Talk.slot? a.2).map fun slot => (a.1, slot)

/-- The slots that were given out, with the call each went to, are those in the records of the
calls. -/
theorem mem_claims {i : ℕ} {slot : UInt64} :
    (i, slot) ∈ claims acts ↔ slot ∈ claimed (own i acts) := by
  unfold claims claimed
  rw [List.mem_filterMap, List.mem_filterMap]
  constructor
  · rintro ⟨⟨j, x⟩, hmem, h⟩
    obtain ⟨slot', hslot, heq⟩ := Option.map_eq_some_iff.1 h
    cases heq
    exact ⟨x, mem_own.2 hmem, hslot⟩
  · rintro ⟨x, hmem, h⟩
    exact ⟨(i, x), mem_own.1 hmem, Option.map_eq_some_iff.2 ⟨slot, h, rfl⟩⟩

/-- A search under way, wherever it stands: some answers have led to it from the beginning of a
search. -/
def IsSearching (r : Rotation) (d : Talk (Option String)) : Prop :=
  ∃ n t, Reaches (r.search n) t d

/-- A search is a search after every answer: it has reached a host, has tried all, or goes on with
one host less to try. -/
theorem IsSearching.answered {m : Move} {next : m.Answer → Talk (Option String)}
    (h : IsSearching r (.ask m next)) (a : m.Answer) : IsSearching r (next a) := by
  obtain ⟨n, t, h⟩ := h
  exact ⟨n, t ++ [⟨m, a⟩], h.append (.ask a (.here _))⟩

theorem IsSearching.waitingFor {next : UInt64 → Talk (Option String)}
    (h : IsSearching r (.ask .claim next)) (slot : UInt64) :
    waitingFor (next slot) = [r.address slot] := by
  obtain ⟨n, t, h⟩ := h
  generalize hd : (.ask .claim next : Talk (Option String)) = d at h
  cases Rotation.reaches_search h with
  | between slots k hlen =>
    cases k with
    | zero => exact nomatch hd
    | succ k =>
      cases hd
      rfl
  | waiting slots slot' k hlen => exact nomatch hd
  | found slots slot' hlen => exact nomatch hd

/-- One call moves and the others stand still, so that all of them are still searches after a
step. -/
theorem isSearching_of_mem_set {calls : List (Talk (Option String))} {i : ℕ} {m : Move}
    {next : m.Answer → Talk (Option String)} (hcalls : ∀ d ∈ calls, IsSearching r d)
    (h : calls[i]? = some (.ask m next)) (a : m.Answer) :
    ∀ d ∈ calls.set i (next a), IsSearching r d := by
  intro d hd
  rcases List.mem_or_eq_of_mem_set hd with hd | rfl
  · exact hcalls d hd
  · exact (hcalls _ (List.mem_of_getElem? h)).answered a

/-- **The slots that searches claim are consecutive**, whoever gets them, and each is followed by a
probe of its host. This is the invariant of a pool: one act keeps it, and the cursor and the probes
begun tell how far it has come. -/
theorem History.slots (h : History answers p acts q) (hp : ∀ d ∈ p.calls, IsSearching r d) :
    ∃ k, (claims acts).map Prod.snd = Rotation.turn p.cursor k ∧
      q.cursor = p.cursor + UInt64.ofNat k ∧
      q.begun = p.begun ++ (Rotation.turn p.cursor k).map r.address := by
  induction h with
  | nil p => exact ⟨0, rfl, (UInt64.add_zero _).symm, (List.append_nil _).symm⟩
  | @claim p q acts i next hcall rest ih =>
    obtain ⟨k, hslots, hcursor, hbegun⟩ := ih (isSearching_of_mem_set hp hcall p.cursor)
    refine ⟨k + 1, ?_, ?_, ?_⟩
    · rw [Rotation.turn_succ, ← hslots]
      rfl
    · exact hcursor.trans (Rotation.add_ofNat_succ p.cursor k).symm
    · have hprobe := (hp _ (List.mem_of_getElem? hcall)).waitingFor p.cursor
      rw [hbegun, hprobe, Rotation.turn_succ, List.map_cons, List.append_assoc]
      rfl
  | @learn p q acts i address wait next reachable hcall ok rest ih =>
    exact ih (isSearching_of_mem_set hp hcall reachable)

/-! ## The account of the slots -/

/-- **What has become of the slots** of a rotation, when calls have searched its hosts side by side
and this is what they have come to. The first part is about all calls together, the last about each
of them alone. -/
structure Accounted (r : Rotation) (acts : List Act) (q : Pool (Option String)) : Prop where
  /-- The cursor counts the probes. -/
  cursor : q.cursor.toNat = q.begun.length
  /-- There is a slot for each probe, and they are claimed in order. -/
  slots : (claims acts).map Prod.snd = (List.range q.begun.length).map UInt64.ofNat
  /-- Each of them went to one call. -/
  owner : ∀ k < q.begun.length, ∃! i, UInt64.ofNat k ∈ claimed (own i acts)
  /-- It stands for the host in its place, turn by turn. -/
  host : ∀ k < q.begun.length, ∃ entry,
    r.hosts[k % r.hosts.length]? = some entry ∧ q.begun[k]? = some (HostEntry.normalize entry)
  /-- No host is probed twice more than another. -/
  fair : ∀ i < r.hosts.length, ∀ j < r.hosts.length,
    r.probesOf i ((claims acts).map Prod.snd) ≤ r.probesOf j ((claims acts).map Prod.snd) + 1
  /-- Each call has done its part. -/
  calls : ∀ i d, q.calls[i]? = some d → r.Searched (own i acts) d

/-- Slots are words, and as many of them as there are words can be given out before one comes again.
Calls that take fewer probes than that never share a slot. -/
theorem nodup_slots {n : ℕ} (hn : n ≤ 2 ^ 64) : ((List.range n).map UInt64.ofNat).Nodup := by
  refine List.Nodup.map_on (fun k hk k' hk' h => ?_) List.nodup_range
  have hlt : k < 2 ^ 64 := (List.mem_range.1 hk).trans_le hn
  have hlt' : k' < 2 ^ 64 := (List.mem_range.1 hk').trans_le hn
  have hnat := congrArg UInt64.toNat h
  rwa [UInt64.toNat_ofNat', UInt64.toNat_ofNat', Nat.mod_eq_of_lt hlt,
    Nat.mod_eq_of_lt hlt'] at hnat

/-- **The account of the slots of searches side by side.** Any number of calls on a rotation that
has hosts, in any order of their acts and whatever their probes find: as long as there are fewer
probes than a cursor can count, it holds at every moment. -/
theorem accounted_of_history {m : ℕ} (hr : r.hosts ≠ [])
    (h : History answers (start 0 (List.replicate m r.next)) acts q)
    (hfew : q.begun.length < 2 ^ 64) : Accounted r acts q := by
  have hstart : ∀ d ∈ (start 0 (List.replicate m r.next)).calls, IsSearching r d := by
    intro d hd
    rw [List.eq_of_mem_replicate hd]
    exact ⟨_, _, .here _⟩
  obtain ⟨k, hslots, hcursor, hbegun⟩ := h.slots hstart
  simp only [start, List.nil_append, UInt64.zero_add] at hslots hcursor hbegun
  obtain rfl : q.begun.length = k := by
    rw [hbegun, List.length_map, Rotation.turn_zero, List.length_map, List.length_range]
  have hnodup : ((claims acts).map Prod.snd).Nodup := by
    rw [hslots, Rotation.turn_zero]
    exact nodup_slots hfew.le
  refine ⟨?_, ?_, fun k hk => ?_, fun k hk => ?_, fun i hi j hj => ?_, fun i d hd => ?_⟩
  · rw [hcursor, UInt64.toNat_ofNat', Nat.mod_eq_of_lt hfew]
  · rw [hslots, Rotation.turn_zero]
  · have hmem : UInt64.ofNat k ∈ (claims acts).map Prod.snd := by
      rw [hslots, Rotation.turn_zero]
      exact List.mem_map_of_mem (List.mem_range.2 hk)
    obtain ⟨⟨i, slot⟩, hi, rfl⟩ := List.mem_map.1 hmem
    refine ⟨i, mem_claims.1 hi, fun j hj => ?_⟩
    exact congrArg Prod.fst (List.inj_on_of_nodup_map hnodup (mem_claims.2 hj) hi rfl)
  · have hplace : k % r.hosts.length < r.hosts.length :=
      Nat.mod_lt k (List.length_pos_iff.2 hr)
    have hnat : (UInt64.ofNat k).toNat = k := by
      rw [UInt64.toNat_ofNat', Nat.mod_eq_of_lt (hk.trans hfew)]
    refine ⟨r.hosts[k % r.hosts.length], List.getElem?_eq_getElem hplace, ?_⟩
    rw [hbegun, Rotation.turn_zero, List.map_map, List.getElem?_map, List.getElem?_range hk,
      Option.map_some, Function.comp_apply, Rotation.address, hnat, List.getD_eq_getElem?_getD,
      List.getElem?_eq_getElem hplace]
    rfl
  · rw [hslots]
    exact Rotation.probesOf_turn hfew.le hi hj
  · have hi : i < m := by
      have hlt := (List.getElem?_eq_some_iff.1 hd).1
      rw [h.length_calls] at hlt
      rwa [show (start 0 (List.replicate m r.next)).calls.length = m from
        List.length_replicate] at hlt
    have hcall : (start 0 (List.replicate m r.next)).calls[i]? = some r.next :=
      List.getElem?_replicate_of_lt hi
    obtain ⟨d', hd', hreach⟩ := h.reaches hcall
    obtain rfl := Option.some.inj (hd.symm.trans hd')
    exact Rotation.searched_of_reaches hreach

/-- Two calls on two hosts: the second claims its slot before the first has learnt that its host
cannot be connected to, and so the first goes on to the third slot. -/
theorem accounted_of_two_calls :
    let r : Rotation := ⟨["a", "b"], Duration.zero⟩
    ∃ acts q, r.hosts ≠ [] ∧
      History (fun _ _ => True) (start 0 (List.replicate 2 r.next)) acts q ∧
      q.begun = ["http://a", "http://b", "http://a"] ∧ claims acts = [(0, 0), (1, 1), (0, 2)] ∧
      q.calls[1]? = some (.done (some "http://b")) ∧ Accounted r acts q := by
  intro r
  have h : History (fun _ _ => True) (start 0 (List.replicate 2 r.next))
      [(0, ⟨.claim, 0⟩), (1, ⟨.claim, 1⟩), (0, ⟨.probe (r.address 0) r.wait, false⟩),
        (0, ⟨.claim, 2⟩), (1, ⟨.probe (r.address 1) r.wait, true⟩)]
      ⟨3, [r.address 0, r.address 1, r.address 2],
        [r.probing 2 0, .done (some (r.address 1))]⟩ :=
    .claim rfl (.claim rfl (.learn rfl trivial (.claim rfl (.learn rfl trivial (.nil _)))))
  have hfirst : r.address 0 = "http://a" := by decide
  have hsecond : r.address 1 = "http://b" := by decide
  have hthird : r.address 2 = "http://a" := by decide
  rw [hfirst, hsecond, hthird] at h
  exact ⟨_, _, by decide, h, rfl, rfl, rfl, accounted_of_history (by decide) h (by decide)⟩

end Ingest.Pool
