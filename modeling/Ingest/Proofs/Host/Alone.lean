import Ingest.Proofs.Host.Slots

/-!
# A search that runs alone

While no other call takes a slot, the slots of a search are those from the cursor on, and its
probes are in the order of the list, from the place of the cursor on and around. `run_search` says
what the run of such a search is, at the level of slots. As long as the cursor does not start over,
consecutive slots are of consecutive places, and a turn of them is a list of all places
(`perm_placesFrom`). So a search that comes to nothing has seen every host, and one that finds a
host has left the cursor right behind it, which is where the next one begins.
-/

namespace Ingest.Rotation

variable {r : Rotation} {up : String → Bool}

/-! ## Those outside -/

/-- Those outside of a call that runs alone: the cursor moves for it only, and which hosts can be
connected to does not change before it has ended. -/
def alone (up : String → Bool) : Dialogue.Partner Move.Answer UInt64 where
  answer cursor
    | .claim => (some cursor, cursor + 1)
    | .probe address _ => (some (up address), cursor)
    | .send _ => (some none, cursor)
    | .pause _ => (some (), cursor)

def addressAt (r : Rotation) (place : ℕ) : String :=
  HostEntry.normalize (r.hosts.getD place "")

theorem addressAt_place (slot : UInt64) : r.addressAt (r.place slot) = r.address slot := rfl

/-- What is asked for one place: a slot, and whether its host can be connected to. What a call asks
is a row of these. -/
def attempt (r : Rotation) (place : ℕ) : List Move :=
  [.claim, .probe (r.addressAt place) r.wait]

/-- What comes of a call: its result, what it asked, and the cursor it has left. -/
abbrev Call := Dialogue.Run Move (Option String) UInt64

/-! ## The run of a search -/

/-- One turn of a search with nobody else about: the slot it takes is the cursor, so the host it
tries is known before the search begins, and a reachable one ends it. -/
theorem run_search_succ (up : String → Bool) (n : ℕ) (cursor : UInt64) :
    (r.search (n + 1)).run (alone up) cursor =
      if up (r.address cursor) then
        ⟨some (some (r.address cursor)), r.attempt (r.place cursor), cursor + 1⟩
      else
        let rest := (r.search n).run (alone up) (cursor + 1)
        ⟨rest.result, r.attempt (r.place cursor) ++ rest.asked, rest.state⟩ := by
  simp only [search, Dialogue.run, alone]
  cases up (r.address cursor) <;> rfl

/-- **How a search of at most `n` probes ends**: after how many of them, and with which host. -/
inductive Ends (r : Rotation) (up : String → Bool) (cursor : UInt64) (n : ℕ) :
    ℕ → Option String → Prop where
  /-- The hosts of some slots cannot be connected to, and that of the next one can. -/
  | found (j : ℕ) (hj : j < n) (before : ∀ slot ∈ turn cursor j, up (r.address slot) = false)
      (reachable : up (r.address (cursor + UInt64.ofNat j)) = true) :
      Ends r up cursor n (j + 1) (some (r.address (cursor + UInt64.ofNat j)))
  /-- None of them can be connected to. -/
  | nothing (all : ∀ slot ∈ turn cursor n, up (r.address slot) = false) :
      Ends r up cursor n n none

/-- A search that begins one slot earlier, at a host that is down, ends where the later one does and
has made one attempt more. The induction over the number of hosts rests on this step. -/
theorem Ends.after {cursor : UInt64} {n k : ℕ} {host : Option String}
    (h : r.Ends up (cursor + 1) n k host) (hdown : up (r.address cursor) = false) :
    r.Ends up cursor (n + 1) (k + 1) host := by
  have hturn : ∀ m, (∀ slot ∈ turn (cursor + 1) m, up (r.address slot) = false) →
      ∀ slot ∈ turn cursor (m + 1), up (r.address slot) = false := by
    intro m hm
    rw [turn_succ]
    exact List.forall_mem_cons.2 ⟨hdown, hm⟩
  cases h with
  | found j hj before reachable =>
    rw [← add_ofNat_succ] at reachable ⊢
    exact .found (j + 1) (Nat.succ_lt_succ hj) (hturn j before) reachable
  | nothing all => exact .nothing (hturn n all)

/-- **The run of a search that runs alone.** It takes the slots from the cursor on, as many as it
makes probes. -/
theorem run_search (r : Rotation) (up : String → Bool) (n : ℕ) (cursor : UInt64) :
    ∃ k host, r.Ends up cursor n k host ∧ (r.search n).run (alone up) cursor =
      ⟨some host, (turn cursor k).flatMap fun slot => r.attempt (r.place slot),
        cursor + UInt64.ofNat k⟩ := by
  induction n generalizing cursor with
  | zero =>
    refine ⟨0, none, .nothing fun slot h => (nomatch h), ?_⟩
    rw [show cursor + UInt64.ofNat 0 = cursor from UInt64.add_zero cursor]
    rfl
  | succ n ih =>
    rw [run_search_succ]
    cases hup : up (r.address cursor) with
    | true =>
      have hfirst : cursor + UInt64.ofNat 0 = cursor := UInt64.add_zero cursor
      have hends : r.Ends up cursor (n + 1) 1 (some (r.address (cursor + UInt64.ofNat 0))) :=
        .found 0 (Nat.succ_pos n) (fun slot h => nomatch h) (by rwa [hfirst])
      rw [hfirst] at hends
      refine ⟨1, _, hends, ?_⟩
      rw [if_pos rfl, turn_succ, List.flatMap_cons]
      exact congrArg₂ (Dialogue.Run.mk _) (List.append_nil _).symm rfl
    | false =>
      obtain ⟨k, host, hends, hrun⟩ := ih (cursor + 1)
      refine ⟨k + 1, host, hends.after hup, ?_⟩
      rw [if_neg Bool.false_ne_true, hrun, turn_succ, List.flatMap_cons, add_ofNat_succ]

/-! ## Places in order -/

/-- The `k` places from that of a cursor on, around the list. -/
def placesFrom (r : Rotation) (cursor : UInt64) (k : ℕ) : List ℕ :=
  (List.range k).map fun i => (cursor.toNat + i) % r.hosts.length

/-- A slot behind the cursor is of a place behind that of the cursor. -/
theorem place_add {cursor : UInt64} {i : ℕ} (h : cursor.toNat + i < 2 ^ 64) :
    r.place (cursor + UInt64.ofNat i) = (cursor.toNat + i) % r.hosts.length := by
  have hi : i < 2 ^ 64 := by omega
  rw [place, UInt64.toNat_add, UInt64.toNat_ofNat', Nat.mod_eq_of_lt hi, Nat.mod_eq_of_lt h]

/-- Slots that do not pass the end of a word are numbers, so their places in the list of hosts
follow one another and begin again at its end. -/
theorem map_place_turn {cursor : UInt64} {k : ℕ} (h : cursor.toNat + k ≤ 2 ^ 64) :
    (turn cursor k).map r.place = r.placesFrom cursor k := by
  unfold turn placesFrom
  rw [List.map_map]
  refine List.map_congr_left fun i hi => place_add ?_
  have := List.mem_range.1 hi
  omega

theorem placesFrom_succ (cursor : UInt64) (k : ℕ) :
    r.placesFrom cursor (k + 1)
      = r.placesFrom cursor k ++ [(cursor.toNat + k) % r.hosts.length] := by
  unfold placesFrom
  rw [List.range_succ, List.map_append]
  rfl

theorem nodup_placesFrom (cursor : UInt64) {k : ℕ} (hk : k ≤ r.hosts.length) :
    (r.placesFrom cursor k).Nodup := by
  refine List.Nodup.map_on (fun i hi j hj h => ?_) List.nodup_range
  have hmod : i ≡ j [MOD r.hosts.length] := Nat.ModEq.add_left_cancel' cursor.toNat h
  exact hmod.eq_of_lt_of_lt ((List.mem_range.1 hi).trans_le hk) ((List.mem_range.1 hj).trans_le hk)

/-- **A turn passes every place once**, wherever it begins: it has as many slots as there are
places, and no two of them are equal within it. -/
theorem perm_placesFrom (hr : r.hosts ≠ []) (cursor : UInt64) :
    (r.placesFrom cursor r.hosts.length).Perm (List.range r.hosts.length) := by
  refine (List.subperm_of_subset (nodup_placesFrom cursor le_rfl) ?_).perm_of_length_le ?_
  · intro place h
    obtain ⟨i, -, rfl⟩ := List.mem_map.1 h
    exact List.mem_range.2 (Nat.mod_lt _ (List.length_pos_iff.2 hr))
  · rw [placesFrom, List.length_map]

theorem forall_turn_iff (hr : r.hosts ≠ []) {cursor : UInt64}
    (hc : cursor.toNat + r.hosts.length ≤ 2 ^ 64) :
    (∀ slot ∈ turn cursor r.hosts.length, up (r.address slot) = false) ↔
      ∀ h ∈ r.hosts, up (HostEntry.normalize h) = false := by
  constructor
  · intro h host hhost
    obtain ⟨slot, hslot, haddress⟩ := exists_slot hc hhost
    rw [← haddress]
    exact h slot hslot
  · intro h slot _
    obtain ⟨host, hhost, haddress⟩ := List.mem_map.1 (address_mem hr slot)
    rw [← haddress]
    exact h host hhost

/-! ## The first host -/

/-- **What a call comes to that runs alone** and makes `k` probes. -/
structure FindsFirst (r : Rotation) (up : String → Bool) (cursor : UInt64) (k : ℕ) (call : Call) :
    Prop where
  /-- It makes no more probes than there are hosts. -/
  bounded : k ≤ r.hosts.length
  /-- It probes the hosts in order, from the place of the cursor on. -/
  inOrder : call.asked = (r.placesFrom cursor k).flatMap r.attempt
  /-- It probes no place twice. -/
  once : (r.placesFrom cursor k).Nodup
  /-- It advances the cursor by the number of its probes. -/
  advanced : call.state = cursor + UInt64.ofNat k
  /-- It comes to an end. -/
  ended : ∃ host, call.result = some host
  /-- It returns a host if this is the last one it probed, and the first that can be connected
  to. -/
  first : ∀ address, call.result = some (some address) ↔
    ∃ before place, r.placesFrom cursor k = before ++ [place] ∧
      (∀ p ∈ before, up (r.addressAt p) = false) ∧ up (r.addressAt place) = true ∧
      address = r.addressAt place
  /-- It returns none if none can be connected to. -/
  nothing : call.result = some none ↔ ∀ h ∈ r.hosts, up (HostEntry.normalize h) = false
  /-- It has then probed each place once. -/
  exhausted : call.result = some none →
    k = r.hosts.length ∧ (r.placesFrom cursor k).Perm (List.range r.hosts.length)

section Ended

variable {cursor : UInt64} {k : ℕ} {host : Option String}

/-- A search makes no more probes than it may. -/
theorem Ends.bounded {n : ℕ} (h : r.Ends up cursor n k host) : k ≤ n := by
  cases h with
  | found j hj => exact hj
  | nothing => exact le_rfl

/-- What is known of the hosts of slots is known of those of their places. -/
theorem forall_placesFrom (hc : cursor.toNat + k ≤ 2 ^ 64)
    (h : ∀ slot ∈ turn cursor k, up (r.address slot) = false) :
    ∀ p ∈ r.placesFrom cursor k, up (r.addressAt p) = false := by
  intro p hp
  rw [← map_place_turn hc] at hp
  obtain ⟨slot, hslot, rfl⟩ := List.mem_map.1 hp
  exact h slot hslot

variable (hc : cursor.toNat + r.hosts.length ≤ 2 ^ 64)

include hc

/-- A search returns the host of its last place, if that is the only one that can be connected
to. -/
theorem Ends.host_eq_some_iff (h : r.Ends up cursor r.hosts.length k host) {address : String} :
    host = some address ↔ ∃ before place, r.placesFrom cursor k = before ++ [place] ∧
      (∀ p ∈ before, up (r.addressAt p) = false) ∧ up (r.addressAt place) = true ∧
      address = r.addressAt place := by
  cases h with
  | found j hj before reachable =>
    have hlast : r.address (cursor + UInt64.ofNat j)
        = r.addressAt ((cursor.toNat + j) % r.hosts.length) := by
      rw [← addressAt_place, place_add (by omega)]
    rw [hlast] at reachable ⊢
    rw [placesFrom_succ]
    constructor
    · intro h
      obtain rfl := Option.some.inj h
      exact ⟨_, _, rfl, forall_placesFrom (by omega) before, reachable, rfl⟩
    · rintro ⟨before', place, heq, -, -, rfl⟩
      obtain ⟨-, hplace⟩ := List.append_inj' heq rfl
      rw [List.head_eq_of_cons_eq hplace]
  | nothing all =>
    refine ⟨fun h => (nomatch h), ?_⟩
    rintro ⟨before, place, heq, -, hup, -⟩
    have hmem : place ∈ r.placesFrom cursor r.hosts.length :=
      heq ▸ List.mem_append_right before (List.mem_singleton.2 rfl)
    exact absurd hup (Bool.eq_false_iff.1 (forall_placesFrom hc all place hmem))

/-- It returns none if there is none in the whole list, since its slots are a turn. -/
theorem Ends.host_eq_none_iff (hr : r.hosts ≠ [])
    (h : r.Ends up cursor r.hosts.length k host) :
    host = none ↔ ∀ h ∈ r.hosts, up (HostEntry.normalize h) = false := by
  rw [← forall_turn_iff hr hc]
  cases h with
  | found j hj before reachable =>
    refine ⟨fun h => (nomatch h), fun h => ?_⟩
    have hmem : cursor + UInt64.ofNat j ∈ turn cursor r.hosts.length :=
      List.mem_map_of_mem (List.mem_range.2 hj)
    exact absurd reachable (Bool.eq_false_iff.1 (h _ hmem))
  | nothing all => exact ⟨fun _ => all, fun _ => rfl⟩

/-- **A call that runs alone finds the first host**, if the cursor does not start over within the
turn. -/
theorem findsFirst_next (hr : r.hosts ≠ []) (up : String → Bool) :
    ∃ k, r.FindsFirst up cursor k (r.next.run (alone up) cursor) := by
  obtain ⟨k, host, hends, hrun⟩ := run_search r up r.hosts.length cursor
  have hrun : r.next.run (alone up) cursor = _ := hrun
  have hk : k ≤ r.hosts.length := hends.bounded
  have hplaces : (turn cursor k).map r.place = r.placesFrom cursor k := map_place_turn (by omega)
  rw [hrun]
  refine ⟨k, hk, ?_, nodup_placesFrom cursor hk, rfl, ⟨host, rfl⟩, fun address => ?_, ?_,
    fun h => ?_⟩
  · rw [← hplaces, List.flatMap_map]
  · exact Option.some_inj.trans (hends.host_eq_some_iff hc)
  · exact Option.some_inj.trans (hends.host_eq_none_iff hc hr)
  · cases hends with
    | found => exact nomatch h
    | nothing => exact ⟨rfl, perm_placesFrom hr cursor⟩

end Ended

/-! ## Calls one after another -/

/-- **Calls one after another**, each alone and each with its own reachable hosts. A call begins
with the cursor that the one before it has left. -/
def calls (r : Rotation) : UInt64 → List (String → Bool) → List Call
  | _, [] => []
  | cursor, up :: ups =>
    let call := r.next.run (alone up) cursor
    call :: calls r call.state ups

/-- The cursor that calls leave behind. There is no other trace of them. -/
def left (r : Rotation) (cursor : UInt64) (ups : List (String → Bool)) : UInt64 :=
  ups.foldl (fun cursor up => (r.next.run (alone up) cursor).state) cursor

/-- Each call of a sequence begins where the ones in front of it have left the cursor, and is
otherwise a call by itself. -/
theorem getElem?_calls (r : Rotation) (cursor : UInt64) (ups : List (String → Bool)) (i : ℕ) :
    (r.calls cursor ups)[i]?
      = ups[i]?.map fun up => r.next.run (alone up) (r.left cursor (ups.take i)) := by
  induction ups generalizing cursor i with
  | nil => rfl
  | cons up ups ih =>
    cases i with
    | zero => rfl
    | succ i => exact ih _ i

theorem run_next_of_reachable (hr : r.hosts ≠ []) {cursor : UInt64}
    (h : up (r.address cursor) = true) :
    r.next.run (alone up) cursor
      = ⟨some (some (r.address cursor)), r.attempt (r.place cursor), cursor + 1⟩ := by
  obtain ⟨n, hn⟩ := Nat.exists_eq_succ_of_ne_zero (mt List.length_eq_zero_iff.1 hr)
  rw [next, hn, run_search_succ, h, if_pos rfl]

/-- If all hosts can be connected to, a call makes one probe each, and so calls in a row take the
hosts in turns. -/
theorem left_of_reachable (hr : r.hosts ≠ []) {cursor : UInt64} {ups : List (String → Bool)}
    (h : ∀ up ∈ ups, ∀ host ∈ r.hosts, up (HostEntry.normalize host) = true) :
    r.left cursor ups = cursor + UInt64.ofNat ups.length := by
  induction ups generalizing cursor with
  | nil => exact (UInt64.add_zero cursor).symm
  | cons up ups ih =>
    obtain ⟨hup, hups⟩ := List.forall_mem_cons.1 h
    obtain ⟨host, hhost, haddress⟩ := List.mem_map.1 (address_mem hr cursor)
    have hcursor : up (r.address cursor) = true := haddress ▸ hup host hhost
    rw [left, List.foldl_cons, run_next_of_reachable hr hcursor, List.length_cons, add_ofNat_succ]
    exact ih hups

/-- **The law of calls that run alone**, on any list of hosts. A call finds the first host that can
be connected to, if the cursor does not start over within the turn. So does each one of a row of
calls, from the cursor that those before it have left, and if all hosts can be connected to, they
take the places in order. -/
theorem calls_alone (hr : r.hosts ≠ []) :
    (∀ up (cursor : UInt64), cursor.toNat + r.hosts.length ≤ 2 ^ 64 →
      ∃ k, r.FindsFirst up cursor k (r.next.run (alone up) cursor)) ∧
    ∀ (cursor : UInt64) ups,
      (∀ (i : ℕ) call, (r.calls cursor ups)[i]? = some call →
        let start := r.left cursor (ups.take i)
        start.toNat + r.hosts.length ≤ 2 ^ 64 →
          ∃ up k, ups[i]? = some up ∧ r.FindsFirst up start k call) ∧
      ((∀ up ∈ ups, ∀ host ∈ r.hosts, up (HostEntry.normalize host) = true) →
        ∀ i < ups.length, cursor.toNat + i < 2 ^ 64 → ∃ call,
          (r.calls cursor ups)[i]? = some call ∧
          call.result = some (some (r.addressAt ((cursor.toNat + i) % r.hosts.length)))) := by
  refine ⟨fun up cursor hc => findsFirst_next hc hr up, fun cursor ups => ⟨?_, ?_⟩⟩
  · intro i call hcall start hstart
    rw [getElem?_calls] at hcall
    obtain ⟨up, hup, rfl⟩ := Option.map_eq_some_iff.1 hcall
    obtain ⟨k, hk⟩ := findsFirst_next hstart hr up
    exact ⟨up, k, hup, hk⟩
  · intro hups i hi hfew
    have hup : ups[i] ∈ ups := List.getElem_mem hi
    have hleft : r.left cursor (ups.take i) = cursor + UInt64.ofNat i := by
      rw [left_of_reachable hr fun up h => hups up (List.mem_of_mem_take h), List.length_take,
        Nat.min_eq_left hi.le]
    obtain ⟨host, hhost, haddress⟩ :=
      List.mem_map.1 (address_mem hr (cursor + UInt64.ofNat i))
    have hreachable : ups[i] (r.address (cursor + UInt64.ofNat i)) = true :=
      haddress ▸ hups _ hup host hhost
    refine ⟨r.next.run (alone ups[i]) (cursor + UInt64.ofNat i), ?_, ?_⟩
    · rw [getElem?_calls, List.getElem?_eq_getElem hi, hleft, Option.map_some]
    · rw [run_next_of_reachable hr hreachable, ← addressAt_place, place_add hfew]

/-- Three hosts, and the cursor on the second one. As long as only the first one can be connected
to, a call probes all three. The next call begins behind it. -/
theorem calls_alone_of_three :
    let r : Rotation := ⟨["a:1", "b:2", "c:3"], Duration.zero⟩
    let ups : List (String → Bool) := [(· = "http://a:1"), fun _ => true]
    r.hosts ≠ [] ∧
      (∃ k, r.FindsFirst (· = "http://a:1") 1 k (r.next.run (alone (· = "http://a:1")) 1)) ∧
      (∃ up k, ups[1]? = some up ∧
        r.FindsFirst up 4 k (r.next.run (alone fun _ => true) 4)) ∧
      (r.calls 1 ups).map (·.result)
        = [some (some "http://a:1"), some (some "http://b:2")] ∧
      (∃ call, (r.calls 1 [fun _ => true, fun _ => true])[1]? = some call ∧
        call.result = some (some "http://c:3")) := by
  intro r ups
  have hr : r.hosts ≠ [] := by decide
  obtain ⟨hsingle, hrow⟩ := calls_alone hr
  have hleft : r.left 1 (ups.take 1) = 4 := by decide +kernel
  have hcall : (r.calls 1 ups)[1]? = some (r.next.run (alone fun _ => true) 4) := by
    rw [getElem?_calls, hleft]
    rfl
  have hsecond := (hrow 1 ups).1 1 _ hcall
  rw [hleft] at hsecond
  have hplace : r.addressAt (((1 : UInt64).toNat + 1) % r.hosts.length) = "http://c:3" := by
    decide +kernel
  refine ⟨hr, hsingle _ 1 (by decide), hsecond (by decide), by decide +kernel, ?_⟩
  rw [← hplace]
  exact (hrow 1 [fun _ => true, fun _ => true]).2 (by decide) 1 (by decide) (by decide)

end Ingest.Rotation
