import Ingest.Host.Interleaving
import Ingest.Proofs.Host.Rotation

/-!
# Searches side by side

When several searches share a cursor, the slots of one of them are no full turn: others claim slots
in between, and the hosts of those are not probed by it. A `History` is a run of the pool with its
acts in order, each with the call it was of. What is known of one dialogue carries over to every
call of a history by its own acts (`History.reaches`), and so a call ends without a host exactly
when the slots it happened to get were all of hosts that cannot be connected to.

That does not take a rotation without reachable hosts. `exists_steps_none` puts the acts of other
calls between those of one in such a way that each of its slots is of the same host, so no order of
the acts loses a call only if every single host can be connected to.
-/

namespace Ingest.Pool

open Dialogue (Reaches)
open Talk (Record claimed)

variable {α : Type} {answers : String → Bool → Prop} {p q s : Pool α}

/-! ## Histories -/

/-- An act: the call it is of, and the exchange. Calls are known by their place in the pool. -/
abbrev Act := Nat × Sigma Move.Answer

/-- **A run of a pool**, with its acts in order. It admits every order, so what holds of all
histories holds of calls on any number of threads. -/
inductive History (answers : String → Bool → Prop) : Pool α → List Act → Pool α → Prop where
  | nil (p : Pool α) : History answers p [] p
  | claim {p q : Pool α} {acts : List Act} {i : Nat} {next : UInt64 → Talk α}
      (h : p.calls[i]? = some (.ask .claim next))
      (rest : History answers
        ⟨p.cursor + 1, p.begun ++ waitingFor (next p.cursor), p.calls.set i (next p.cursor)⟩
        acts q) :
      History answers p ((i, ⟨.claim, p.cursor⟩) :: acts) q
  | learn {p q : Pool α} {acts : List Act} {i : Nat} {address : String} {wait : Duration}
      {next : Bool → Talk α} {reachable : Bool}
      (h : p.calls[i]? = some (.ask (.probe address wait) next)) (ok : answers address reachable)
      (rest : History answers ⟨p.cursor, p.begun, p.calls.set i (next reachable)⟩ acts q) :
      History answers p ((i, ⟨.probe address wait, reachable⟩) :: acts) q

/-- **Every run has a history**, and a history is of a run. -/
theorem steps_iff_history : Steps answers p q ↔ ∃ acts, History answers p acts q := by
  constructor
  · intro h
    induction h with
    | none p => exact ⟨[], .nil p⟩
    | more first rest ih =>
      obtain ⟨acts, hacts⟩ := ih
      cases first with
      | claim h => exact ⟨_, .claim h hacts⟩
      | learn h ok => exact ⟨_, .learn h ok hacts⟩
  · rintro ⟨acts, h⟩
    induction h with
    | nil p => exact .none p
    | claim h rest ih => exact .more (.claim h) ih
    | learn h ok rest ih => exact .more (.learn h ok) ih

theorem Steps.trans (h₁ : Steps answers p q) (h₂ : Steps answers q s) : Steps answers p s := by
  induction h₁ with
  | none p => exact h₂
  | more first rest ih => exact .more first (ih h₂)

/-- The exchanges of one call, without those of the others that stand between them. -/
def own (i : Nat) (acts : List Act) : Record :=
  acts.filterMap fun a => if a.1 = i then some a.2 else none

/-- A step of a call adds to what the call has done; by `own_cons_of_ne` no other call takes notice.
Interleaved histories come apart into one record for each call by these two. -/
theorem own_cons_self (i : Nat) (x : Sigma Move.Answer) (acts : List Act) :
    own i ((i, x) :: acts) = x :: own i acts := by
  simp [own]

theorem own_cons_of_ne {i j : Nat} (h : j ≠ i) (x : Sigma Move.Answer) (acts : List Act) :
    own i ((j, x) :: acts) = own i acts := by
  simp [own, h]

theorem mem_own {i : Nat} {x : Sigma Move.Answer} {acts : List Act} :
    x ∈ own i acts ↔ (i, x) ∈ acts := by
  unfold own
  rw [List.mem_filterMap]
  constructor
  · rintro ⟨⟨j, y⟩, hmem, h⟩
    split at h
    · next hji =>
      cases hji
      cases h
      exact hmem
    · exact nomatch h
  · intro hmem
    exact ⟨(i, x), hmem, if_pos rfl⟩

/-- A step of one call carries the records of all of them on. The call that moved has one exchange
more, and the others stand where they stood. -/
theorem exists_reaches_cons {calls after : List (Talk α)} {acts : List Act} {i j : Nat}
    {x : Sigma Move.Answer} {next : Move.Answer x.1 → Talk α} {d : Talk α}
    (hj : calls[j]? = some (.ask x.1 next)) (hd : calls[i]? = some d)
    (ih : ∀ {e}, (calls.set j (next x.2))[i]? = some e →
      ∃ d', after[i]? = some d' ∧ Reaches e (own i acts) d') :
    ∃ d', after[i]? = some d' ∧ Reaches d (own i ((j, x) :: acts)) d' := by
  by_cases hji : j = i
  · -- the act is its own: the dialogue goes on with the answer
    subst hji
    rw [hj] at hd
    obtain rfl := Option.some.inj hd
    obtain ⟨d', hd', hreach⟩ := ih (List.getElem?_set_self (List.getElem?_eq_some_iff.1 hj).1)
    rw [own_cons_self]
    exact ⟨d', hd', .ask x.2 hreach⟩
  · rw [own_cons_of_ne hji]
    exact ih ((List.getElem?_set_ne hji).trans hd)

/-- **Where a call stands** is where its own acts have brought it. The acts of others have no part
in it, though they have decided which slots it got; so a law about one dialogue is a law about each
call of a pool. -/
theorem History.reaches {acts : List Act} (h : History answers p acts q) {i : Nat} {d : Talk α}
    (hd : p.calls[i]? = some d) : ∃ d', q.calls[i]? = some d' ∧ Reaches d (own i acts) d' := by
  induction h generalizing d with
  | nil p => exact ⟨d, hd, .here d⟩
  | @claim p q acts j next hj rest ih =>
    exact exists_reaches_cons (x := ⟨.claim, p.cursor⟩) hj hd ih
  | @learn p q acts j address wait next reachable hj ok rest ih =>
    exact exists_reaches_cons (x := ⟨.probe address wait, reachable⟩) hj hd ih

/-- No call is begun or dropped in a history, so a call keeps its number from the first step to the
last. -/
theorem History.length_calls {acts : List Act} (h : History answers p acts q) :
    q.calls.length = p.calls.length := by
  induction h with
  | nil p => rfl
  | claim h rest ih => rw [ih, List.length_set]
  | learn h ok rest ih => rw [ih, List.length_set]

/-- An attempt in a history went as the partner of the whole history allows. The answers may change
from one attempt to the next, even for one address. -/
theorem History.answered {acts : List Act} (h : History answers p acts q) {i : Nat}
    {address : String} {wait : Duration} {reachable : Bool}
    (hmem : (i, ⟨.probe address wait, reachable⟩) ∈ acts) : answers address reachable := by
  induction h with
  | nil p => exact nomatch hmem
  | claim h rest ih =>
    cases hmem with
    | tail _ hmem => exact ih hmem
  | learn h ok rest ih =>
    cases hmem with
    | head => exact ok
    | tail _ hmem => exact ih hmem

/-! ## Searches among others -/

variable {r : Rotation}

/-- **How a search among others ends with nothing**: each slot that it got was of a host that cannot
be connected to, and there were as many of them as there are hosts. -/
theorem History.calls_eq_none_iff {up : String → Bool} {cursor : UInt64} {m i : Nat}
    {acts : List Act} {q : Pool (Option String)}
    (h : History (fun a b => up a = b) (start cursor (List.replicate m r.next)) acts q)
    (hi : i < m) :
    q.calls[i]? = some (.done none) ↔
      ∃ slots : List UInt64, slots.length = r.hosts.length ∧ own i acts = r.vain slots ∧
        ∀ slot ∈ slots, up (r.address slot) = false := by
  have hstart : (start cursor (List.replicate m r.next)).calls[i]? = some r.next :=
    List.getElem?_replicate_of_lt hi
  obtain ⟨d, hd, hreach⟩ := h.reaches hstart
  rw [hd]
  constructor
  · intro hnone
    obtain rfl := Option.some.inj hnone
    obtain ⟨slots, hlen, hown⟩ := Rotation.held_search_none.1 hreach
    refine ⟨slots, hlen, hown, fun slot hslot => ?_⟩
    have hprobe : ⟨.probe (r.address slot) r.wait, false⟩ ∈ r.vain slots :=
      Rotation.mem_vain hslot
    rw [← hown, mem_own] at hprobe
    exact h.answered hprobe
  · rintro ⟨slots, hlen, hown, -⟩
    rw [hown] at hreach
    have hheld : r.next.Held (r.vain slots) none :=
      Rotation.held_search_none.2 ⟨slots, hlen, rfl⟩
    rw [hreach.unique hheld]

/-- A call takes a slot while others stand around it. The lists in front and behind name the call by
its place, which is how a schedule of several calls is written down. -/
theorem Step.claim_append {cursor : UInt64} {begun : List String} (front rest : List (Talk α))
    (next : UInt64 → Talk α) :
    Step answers ⟨cursor, begun, front ++ .ask .claim next :: rest⟩
      ⟨cursor + 1, begun ++ waitingFor (next cursor), front ++ next cursor :: rest⟩ := by
  have hcall : (front ++ .ask .claim next :: rest)[front.length]? = some (.ask .claim next) := by
    simp
  have hset : (front ++ .ask .claim next :: rest).set front.length (next cursor)
      = front ++ next cursor :: rest := by simp
  rw [← hset]
  exact .claim hcall

theorem Step.learn_append {cursor : UInt64} {begun : List String} (front rest : List (Talk α))
    {address : String} {wait : Duration} (next : Bool → Talk α) {reachable : Bool}
    (ok : answers address reachable) :
    Step answers ⟨cursor, begun, front ++ .ask (.probe address wait) next :: rest⟩
      ⟨cursor, begun, front ++ next reachable :: rest⟩ := by
  have hcall : (front ++ .ask (.probe address wait) next :: rest)[front.length]?
      = some (.ask (.probe address wait) next) := by simp
  have hset : (front ++ .ask (.probe address wait) next :: rest).set front.length (next reachable)
      = front ++ next reachable :: rest := by simp
  rw [← hset]
  exact .learn hcall ok

/-- Any number of calls can take their first slots one after the other. They move the cursor past as
many hosts, so between two probes of one call it can be brought to where it was in the rotation. -/
theorem exists_steps_claims (hr : r.hosts ≠ []) (n : Nat) (cursor : UInt64) (begun : List String)
    (front tail : List (Talk (Option String))) :
    ∃ begun' started, Steps answers
      ⟨cursor, begun, front ++ (List.replicate n r.next ++ tail)⟩
      ⟨cursor + UInt64.ofNat n, begun', front ++ (started ++ tail)⟩ := by
  induction n generalizing cursor begun front with
  | zero =>
    have hzero : cursor + UInt64.ofNat 0 = cursor := UInt64.add_zero cursor
    rw [hzero]
    exact ⟨begun, [], .none _⟩
  | succ n ih =>
    obtain ⟨next, hnext⟩ := Rotation.exists_next_eq hr
    obtain ⟨begun', started, hsteps⟩ := ih (cursor + 1) (begun ++ waitingFor (next cursor))
      (front ++ [next cursor])
    rw [List.append_assoc, List.append_assoc] at hsteps
    rw [List.replicate_succ, hnext, Rotation.add_ofNat_succ]
    rw [hnext] at hsteps
    exact ⟨begun', next cursor :: started, .more (.claim_append front _ next) hsteps⟩

/-- A search takes a slot and learns that its host is down, if the answers allow this. Nobody else
moves meanwhile. -/
theorem steps_vain {slot : UInt64} (h : answers (r.address slot) false) (k : Nat)
    (begun : List String) (rest : List (Talk (Option String))) :
    Steps answers ⟨slot, begun, r.search (k + 1) :: rest⟩
      ⟨slot + 1, begun ++ [r.address slot], r.search k :: rest⟩ :=
  .more (.claim_append [] rest _) (.more (.learn_append [] rest _ h) (.none _))

/-- **How a search comes to nothing**: if there is a host that cannot be connected to, it gets a
slot of that host each time, because other calls claim the slots in between. The induction is on the
probes that are left, and for each of them as many other calls are begun as bring the cursor back to
that host. -/
theorem exists_steps_none (hr : r.hosts ≠ []) {slot : UInt64} (h : answers (r.address slot) false)
    (k : Nat) (cursor : UInt64) :
    ∃ m, ∀ begun tail, ∃ q,
      Steps answers ⟨cursor, begun, r.search k :: (List.replicate m r.next ++ tail)⟩ q ∧
        q.calls[0]? = some (.done none) := by
  induction k generalizing cursor with
  | zero => exact ⟨0, fun begun tail => ⟨_, .none _, rfl⟩⟩
  | succ k ih =>
    obtain ⟨m, hm⟩ := ih (slot + 1)
    -- as many calls as there are slots before the next one of the host, behind those of later turns
    refine ⟨m + (slot - cursor).toNat, fun begun tail => ?_⟩
    have hslot : cursor + UInt64.ofNat (slot - cursor).toNat = slot := by
      rw [UInt64.ofNat_toNat, UInt64.add_comm, UInt64.sub_add_cancel]
    obtain ⟨begun₁, started, h₁⟩ := exists_steps_claims hr (slot - cursor).toNat cursor begun
      (r.search (k + 1) :: List.replicate m r.next) tail
    rw [hslot] at h₁
    have h₂ := steps_vain h k begun₁ (List.replicate m r.next ++ (started ++ tail))
    obtain ⟨q, h₃, hq⟩ := hm (begun₁ ++ [r.address slot]) (started ++ tail)
    refine ⟨q, ?_, hq⟩
    rw [← List.replicate_append_replicate, List.append_assoc]
    exact (h₁.trans h₂).trans h₃

/-! ## What a search is good for -/

section Outcome

variable {up : String → Bool} {cursor : UInt64} {m : Nat} {q : Pool (Option String)}

/-- A search that had a full turn and ends with nothing has tried every host, and none of them could
be connected to. This is what a search is meant to say when it ends with nothing. -/
theorem History.down_of_turn {acts : List Act} {i : Nat} {c : UInt64}
    (h : History (fun a b => up a = b) (start cursor (List.replicate m r.next)) acts q)
    (hi : i < m) (hc : c.toNat + r.hosts.length ≤ 2 ^ 64)
    (hturn : claimed (own i acts) = Rotation.turn c r.hosts.length)
    (hnone : q.calls[i]? = some (.done none)) {host : String} (hhost : host ∈ r.hosts) :
    up (HostEntry.normalize host) = false := by
  obtain ⟨slots, -, hown, hdown⟩ := (h.calls_eq_none_iff hi).1 hnone
  rw [hown, Rotation.claimed_vain] at hturn
  obtain ⟨slot, hslot, haddress⟩ := Rotation.exists_slot hc hhost
  rw [← haddress]
  exact hdown slot (hturn ▸ hslot)

/-- A search that ends with nothing has had a slot, and that was of some host that cannot be
connected to. -/
theorem exists_down_of_mem (hr : r.hosts ≠ [])
    (h : Steps (fun a b => up a = b) (start cursor (List.replicate m r.next)) q)
    (hmem : .done none ∈ q.calls) :
    ∃ host ∈ r.hosts, up (HostEntry.normalize host) = false := by
  obtain ⟨acts, hacts⟩ := steps_iff_history.1 h
  obtain ⟨i, hi, hcall⟩ := List.getElem_of_mem hmem
  have him : i < m := by
    rw [hacts.length_calls] at hi
    exact Nat.lt_of_lt_of_eq hi List.length_replicate
  obtain ⟨slots, hlen, -, hdown⟩ := (hacts.calls_eq_none_iff him).1
    ((List.getElem?_eq_getElem hi).trans (congrArg some hcall))
  have hpos : 0 < slots.length := by
    rw [hlen]
    exact List.length_pos_iff.2 hr
  have hslot : slots[0] ∈ slots := List.getElem_mem hpos
  obtain ⟨host, hhost, haddress⟩ := List.mem_map.1 (Rotation.address_mem hr slots[0])
  refine ⟨host, hhost, ?_⟩
  rw [haddress]
  exact hdown _ hslot

/-- A host that cannot be connected to takes every slot of some search, and it may be any one of the
hosts, whatever the others do. -/
theorem exists_steps_of_down (hr : r.hosts ≠ []) (hn : r.hosts.length ≤ 2 ^ 64)
    (cursor : UInt64) {host : String} (hhost : host ∈ r.hosts)
    (hdown : up (HostEntry.normalize host) = false) :
    ∃ m q, Steps (fun a b => up a = b) (start cursor (List.replicate m r.next)) q ∧
      .done none ∈ q.calls := by
  have hzero : (0 : UInt64).toNat + r.hosts.length ≤ 2 ^ 64 := by
    rw [UInt64.toNat_zero, Nat.zero_add]
    exact hn
  obtain ⟨slot, -, haddress⟩ := Rotation.exists_slot hzero hhost
  rw [← haddress] at hdown
  obtain ⟨m, hm⟩ := @exists_steps_none (fun a b => up a = b) r hr slot hdown r.hosts.length cursor
  obtain ⟨q, hsteps, hq⟩ := hm [] []
  rw [List.append_nil] at hsteps
  exact ⟨m + 1, q, hsteps, List.mem_of_getElem? hq⟩

end Outcome

/-- **What a search among others comes to.** It ends with nothing exactly if all the slots that it
happened to get are of hosts that cannot be connected to. These are all the hosts if the slots are a
full turn. Otherwise they need not be: no order of the acts of any number of searches ends one of
them with nothing only if every host can be connected to. -/
theorem none_next_iff (r : Rotation) (hr : r.hosts ≠ []) (hn : r.hosts.length ≤ 2 ^ 64)
    (up : String → Bool) (cursor : UInt64) :
    (∀ m acts q, History (fun a b => up a = b) (start cursor (List.replicate m r.next)) acts q →
      ∀ i < m,
        (q.calls[i]? = some (.done none) ↔
          ∃ slots : List UInt64, slots.length = r.hosts.length ∧ own i acts = r.vain slots ∧
            ∀ slot ∈ slots, up (r.address slot) = false) ∧
        ∀ c : UInt64, c.toNat + r.hosts.length ≤ 2 ^ 64 →
          claimed (own i acts) = Rotation.turn c r.hosts.length →
          q.calls[i]? = some (.done none) →
          ∀ h ∈ r.hosts, up (HostEntry.normalize h) = false) ∧
    ((∀ m q, Steps (fun a b => up a = b) (start cursor (List.replicate m r.next)) q →
        .done none ∉ q.calls) ↔
      ∀ h ∈ r.hosts, up (HostEntry.normalize h) = true) := by
  refine ⟨fun m acts q h i hi => ⟨h.calls_eq_none_iff hi, ?_⟩, ?_, ?_⟩
  · intro c hc hturn hnone host hhost
    exact h.down_of_turn hi hc hturn hnone hhost
  · intro hnever host hhost
    cases hup : up (HostEntry.normalize host) with
    | true => rfl
    | false =>
      obtain ⟨m, q, hsteps, hmem⟩ := exists_steps_of_down hr hn cursor hhost hup
      exact absurd hmem (hnever m q hsteps)
  · intro hall m q hsteps hmem
    obtain ⟨host, hhost, hdown⟩ := exists_down_of_mem hr hsteps hmem
    rw [hall host hhost] at hdown
    exact nomatch hdown

/-- Of two hosts one of which can be connected to, some order of acts misses that one. -/
theorem none_next_of_one_down : ∃ m q,
    Steps (fun a b => (a == "http://b") = b)
      (start 0 (List.replicate m (⟨["a", "b"], Duration.zero⟩ : Rotation).next)) q ∧
      .done none ∈ q.calls := by
  have h := (none_next_iff ⟨["a", "b"], Duration.zero⟩ (by decide) (by decide)
    (· == "http://b") 0).2
  refine Classical.byContradiction fun hno => ?_
  have hup := h.1 (fun m q hsteps hmem => hno ⟨m, q, hsteps, hmem⟩) "a" (by decide)
  exact absurd hup (by decide)

/-- Two searches that begin together: one gets two slots of the first host and ends with nothing,
while the other finds the second host. So the host could be connected to all the time. -/
theorem none_next_beside_another :
    (HostEntry.normalize "b" == "http://b") = true ∧
      ∃ q, Steps (fun a b => (a == "http://b") = b)
        (start 0 (List.replicate 2 (⟨["a", "b"], Duration.zero⟩ : Rotation).next)) q ∧
        q.calls = [.done none, .done (some "http://b")] := by
  let r : Rotation := ⟨["a", "b"], Duration.zero⟩
  let up (a : String) (b : Bool) : Prop := (a == "http://b") = b
  let next : Bool → Talk (Option String) := fun reachable =>
    if reachable then .done (some (r.address 1)) else r.search 1
  let probing : Talk (Option String) := .ask (.probe (r.address 1) r.wait) next
  have hdown₀ : up (r.address 0) false := by decide
  have hdown₂ : up (r.address 2) false := by decide
  have hup₁ : up (r.address 1) true := by decide
  -- the first search gets the slots 0 and 2, because the other claims slot 1 in between
  have h₁ : Steps up ⟨0, [], [r.search 2, r.next]⟩ ⟨1, [r.address 0], [r.search 1, r.next]⟩ :=
    steps_vain hdown₀ 1 [] [r.next]
  have h₂ : Step up ⟨1, [r.address 0], [r.search 1, r.next]⟩
      ⟨2, [r.address 0, r.address 1], [r.search 1, probing]⟩ :=
    .claim_append [r.search 1] [] _
  have h₃ : Steps up ⟨2, [r.address 0, r.address 1], [r.search 1, probing]⟩
      ⟨3, [r.address 0, r.address 1, r.address 2], [r.search 0, probing]⟩ :=
    steps_vain hdown₂ 0 [r.address 0, r.address 1] [probing]
  have h₄ : Step up ⟨3, [r.address 0, r.address 1, r.address 2], [r.search 0, probing]⟩
      ⟨3, [r.address 0, r.address 1, r.address 2], [r.search 0, next true]⟩ :=
    .learn_append [r.search 0] [] next hup₁
  have haddress : r.address 1 = "http://b" := by decide
  refine ⟨by decide, _, h₁.trans (.more h₂ (h₃.trans (.more h₄ (.none _)))), ?_⟩
  show ([.done none, .done (some (r.address 1))] : List (Talk (Option String))) = _
  rw [haddress]

end Ingest.Pool
