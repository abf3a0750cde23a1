import Ingest.Proofs.Load.Polling
import Ingest.Proofs.Store.StateReply
import Ingest.Proofs.Text.Utf8

/-!
# When the state of a label is believed

A question about a label comes to a state if the reply tells one, and to a failure otherwise. Which
replies tell one is said by the grammar of their texts (`TellsState`), so that this does not rest on
the reader. The failure keeps the text of a reply that tells nothing (`Answered`). Waiting for a
label succeeds with the last of its questions only, and so with a reply that tells a state of
success. Such a reply is an object or an array of one string.
-/

namespace Ingest.Load

open Http (Request Reply)
open StateReply (ObjectTells ArrayTells)
open Talk (Record sent)

variable {c : Client} {host database label : String} {q : Request} {t : Record}

/-! ## Replies -/

/-- **A reply that tells the state of a label**, by its name: a success whose text, behind whatever
is made of bytes that are none, is an object with the state or an array of it alone. -/
def TellsState (r : Reply) (name : String) : Prop :=
  r.status = 200 ∧ ∃ bs, r.body = some bs ∧
    (ObjectTells (Utf8.decodeLossy bs).toList name ∨ ArrayTells (Utf8.decodeLossy bs).toList name)

/-- **What a question about a label comes to**, by the reply to it. The four cases are all there
are, and each of them says what is known of the label: its state, or nothing. -/
structure Answered (label : String) (r : Option Reply) (e : Except Failure LabelState) : Prop where
  /-- It is a state if the reply tells one. -/
  told : ∀ s, e = .ok s ↔
    ∃ reply name, r = some reply ∧ TellsState reply name ∧ s = LabelState.ofName name
  /-- It is a failure that names the label if the reply can be read and tells none. The text of the
  reply is in it, unless this is an empty reply of success. -/
  untold : ∀ reply bs, r = some reply → reply.body = some bs → (∀ name, ¬ TellsState reply name) →
    ∃ f, e = .error f ∧ f.kind = .protocol ∧
      f.message = "could not get the final state of label[" ++ label ++ "]" ∧
      f.rawBody = if reply.status = 200 ∧ bs = [] then none else some (Utf8.decodeLossy bs)
  /-- It is a failure of transport if there is no reply or it breaks off. -/
  unread : (∀ reply, r = some reply → reply.body = none) → ∃ f, e = .error f ∧ f.kind = .transport

/-- A reply tells a state if it is a success and its body can be read as one, as the reader of
bodies takes it. With a broken body a reply tells nothing. -/
theorem tells_iff {r : Reply} {bs : Bytes} {name : String} (hbody : r.body = some bs) :
    TellsState r name ↔ r.status = 200 ∧ StateReply.ofText? (Utf8.decodeLossy bs) = some name := by
  unfold TellsState
  rw [StateReply.ofText?_eq_some_iff]
  simp only [hbody, Option.some.injEq, exists_eq_left']

theorem stateOf_of_tells {r : Reply} {name : String} (h : TellsState r name) :
    stateOf label r = .ok (LabelState.ofName name) := by
  obtain ⟨hstatus, bs, hbody, -⟩ := id h
  obtain ⟨-, hname⟩ := (tells_iff hbody).1 h
  have hne : Utf8.decodeLossy bs ≠ "" := by
    intro hempty
    rw [hempty] at hname
    exact nomatch hname
  have hcontent : content r = .ok (.text (Utf8.decodeLossy bs)) := by
    simp only [content, hbody, hstatus, ne_eq, not_true_eq_false, if_false, hne]
  simp only [stateOf, hcontent, hname]

/-- The text of a reply that tells no state is kept, unless this is an empty reply of success. -/
theorem stateOf_of_not_tells {r : Reply} {bs : Bytes} (hbody : r.body = some bs)
    (h : ∀ name, ¬ TellsState r name) : stateOf label r = .error (.reply (.noState label)
      (if r.status = 200 ∧ bs = [] then none else some (Utf8.decodeLossy bs))) := by
  by_cases hstatus : r.status = 200
  · have hnone : StateReply.ofText? (Utf8.decodeLossy bs) = none :=
      Option.eq_none_iff_forall_ne_some.2 fun name hname =>
        h name ((tells_iff hbody).2 ⟨hstatus, hname⟩)
    by_cases hempty : bs = []
    · have htext : Utf8.decodeLossy bs = "" := Utf8.decodeLossy_eq_empty_iff.2 hempty
      have hcontent : content r = .ok .nothing := by
        simp only [content, hbody, hstatus, ne_eq, not_true_eq_false, if_false, htext, if_true]
      rw [if_pos ⟨hstatus, hempty⟩]
      simp only [stateOf, hcontent]
    · have htext : Utf8.decodeLossy bs ≠ "" := mt Utf8.decodeLossy_eq_empty_iff.1 hempty
      have hcontent : content r = .ok (.text (Utf8.decodeLossy bs)) := by
        simp only [content, hbody, hstatus, ne_eq, not_true_eq_false, if_false, htext]
      rw [if_neg fun h => hempty h.2]
      simp only [stateOf, hcontent, hnone]
  · have hcontent : content r = .ok (.refused r.status (Utf8.decodeLossy bs)) := by
      simp only [content, hbody, ne_eq, hstatus, not_false_eq_true, if_true]
    rw [if_neg fun h => hstatus h.1]
    simp only [stateOf, hcontent]

theorem stateOf_of_broken {r : Reply} (hbody : r.body = none) :
    stateOf label r = .error (.transport .brokenBody) := by
  simp only [stateOf, content, hbody]

/-- **The state that is believed** is the one that the reply tells. Nothing is made up where it
tells none, not even that the label is not known. -/
theorem stateOf_eq_ok_iff {r : Reply} {s : LabelState} :
    stateOf label r = .ok s ↔ ∃ name, TellsState r name ∧ s = LabelState.ofName name := by
  constructor
  · intro h
    cases hbody : r.body with
    | none =>
      rw [stateOf_of_broken hbody] at h
      exact nomatch h
    | some bs =>
      by_cases htells : ∃ name, TellsState r name
      · obtain ⟨name, hname⟩ := htells
        rw [stateOf_of_tells hname] at h
        exact ⟨name, hname, (Except.ok.inj h).symm⟩
      · rw [stateOf_of_not_tells hbody fun name hname => htells ⟨name, hname⟩] at h
        exact nomatch h
  · rintro ⟨name, hname, rfl⟩
    exact stateOf_of_tells hname

/-! ## Questions -/

/-- What a question comes to with an answer, which may be that there is no reply. -/
def outcome (label : String) (q : Request) : Option Reply → Except Failure LabelState
  | none => .error (.transport (.unanswered q.url))
  | some r => stateOf label r

/-- To ask about a label is a single exchange, and its reply decides the outcome, also when there is
none. So what is believed can be stated of replies alone. -/
theorem held_queryState_iff (hq : AsksState c host database label q) {r : Option Reply}
    {e : Except Failure LabelState} :
    (queryState c host database label).Held [⟨.send q, r⟩] e ↔ e = outcome label q r := by
  obtain ⟨url, hurl, hq⟩ := hq
  unfold queryState storeUrl
  simp only [hurl]
  rw [Dialogue.held_bind]
  constructor
  · rintro ⟨t₁, a, t₂, ht, h₁, h₂⟩
    rcases held_exchange.1 h₁ with ⟨f, hf, -⟩ | ⟨q', r', hq', rfl, rfl⟩
    · exact nomatch hq.symm.trans hf
    · obtain rfl := Except.ok.inj (hq.symm.trans hq')
      cases ht
      cases r <;> exact (Dialogue.held_done.1 h₂).2
  · rintro rfl
    refine ⟨[⟨.send q, r⟩], _, [], rfl, held_exchange.2 (.inr ⟨q, r, hq, rfl, rfl⟩), ?_⟩
    cases r <;> exact Dialogue.held_done.2 ⟨rfl, rfl⟩

/-- **The cases of a reply are all there are**: every reply, and the lack of one, is answered in one
of them. -/
theorem answered_outcome (label : String) (q : Request) (r : Option Reply) :
    Answered label r (outcome label q r) := by
  cases r with
  | none =>
    refine ⟨fun s => ?_, fun reply bs hr => (nomatch hr), fun _ => ⟨_, rfl, rfl⟩⟩
    exact ⟨fun h => (nomatch h), fun ⟨_, _, hr, _⟩ => nomatch hr⟩
  | some r =>
    refine ⟨fun s => ?_, fun reply bs hr hbody hnone => ?_, fun hbody => ?_⟩
    · rw [outcome, stateOf_eq_ok_iff]
      constructor
      · rintro ⟨name, hname, rfl⟩
        exact ⟨r, name, rfl, hname, rfl⟩
      · rintro ⟨reply, name, hr, hname, rfl⟩
        obtain rfl := Option.some.inj hr
        exact ⟨name, hname, rfl⟩
    · obtain rfl := Option.some.inj hr
      exact ⟨_, stateOf_of_not_tells hbody hnone, rfl, rfl, rfl⟩
    · exact ⟨_, stateOf_of_broken (hbody r rfl), rfl⟩

theorem exists_asksState :
    ∃ q, AsksState ⟨"root", "", [], Duration.ofSecs 1, none⟩ "http://fe:8030" "d" "l" q := by
  have h : ((Url.parse (stateAddress "http://fe:8030" "d")).toOption.bind fun url =>
      (stateRequest ⟨"root", "", [], Duration.ofSecs 1, none⟩
        (url.appendPair "label" "l")).toOption).isSome = true := by
    decide +kernel
  obtain ⟨q, hq⟩ := Option.isSome_iff_exists.1 h
  obtain ⟨url, hurl, hq⟩ := Option.bind_eq_some_iff.1 hq
  exact ⟨q, url, toOption_eq_some_iff.1 hurl, toOption_eq_some_iff.1 hq⟩

/-! ## Waiting -/

/-- A success that is waited for is in the last reply, by one of two names. The replies before it
told that the label was still prepared. -/
theorem tells_of_held_reconcile {w : Waiting} {s : LabelState}
    (h : (w.reconcile label Talk.pause (queryState c host database label)).Held t (.ok s)) :
    ∃ r name, lastReply (sent t) = some r ∧ TellsState r name ∧ s = LabelState.ofName name ∧
      (name = "VISIBLE" ∨ name = "COMMITTED") := by
  obtain ⟨-, -, hlast⟩ := held_poll w 0 Duration.zero none h
  obtain ⟨htold, hverdict⟩ := (hlast s).1 rfl
  obtain ⟨r, hr, hstate⟩ := Option.bind_eq_some_iff.1 htold
  obtain ⟨name, hname, rfl⟩ := stateOf_eq_ok_iff.1 (toOption_eq_some_iff.1 hstate)
  exact ⟨r, name, hr, hname, rfl, LabelState.name_of_succeeded hverdict name rfl⟩

/-- **The state of a label is believed from a reply that tells it, and from no other.** A question
comes to one end, which its reply decides, and waiting for the label succeeds with a last reply that
tells a state of success. -/
theorem believed (hq : AsksState c host database label q) :
    (∀ r, ∃ e, (∀ e', (queryState c host database label).Held [⟨.send q, r⟩] e' ↔ e' = e) ∧
      Answered label r e) ∧
    ∀ (w : Waiting) t s,
      (w.reconcile label Talk.pause (queryState c host database label)).Held t (.ok s) →
        ∃ r name, lastReply (sent t) = some r ∧ TellsState r name ∧ s = LabelState.ofName name ∧
          (name = "VISIBLE" ∨ name = "COMMITTED") := by
  refine ⟨fun r => ⟨outcome label q r, fun e' => held_queryState_iff hq, ?_⟩, ?_⟩
  · exact answered_outcome label q r
  · exact fun w t s h => tells_of_held_reconcile h

/-- A reply of the documented form, to a question that can be sent: the state is the one its object
names. -/
theorem believed_of_object :
    let c : Client := ⟨"root", "", [], Duration.ofSecs 1, none⟩
    let reply : Reply := ⟨200, [], some (Bytes.ofText "\x7b\"n\": [1], \"state\": \"VISIBLE\"\x7d")⟩
    ∃ q, AsksState c "http://fe:8030" "d" "l" q ∧
      (queryState c "http://fe:8030" "d" "l").Held [⟨.send q, some reply⟩] (.ok .visible) ∧
      Answered "l" (some reply) (.ok .visible) := by
  intro c reply
  obtain ⟨q, hq⟩ := exists_asksState
  refine ⟨q, hq, ?_⟩
  have htells : TellsState reply "VISIBLE" := (tells_iff rfl).2 ⟨rfl, by decide +kernel⟩
  obtain ⟨e, hheld, hanswered⟩ := (believed hq).1 (some reply)
  obtain rfl : e = .ok .visible := (hanswered.told _).2 ⟨reply, "VISIBLE", rfl, htells, rfl⟩
  exact ⟨(hheld _).2 rfl, hanswered⟩

/-- **An array is believed as well**, and ends the waiting with success. The response to a load is
not read from an array, so the two readers differ here. -/
theorem held_reconcile_array :
    let c : Client := ⟨"root", "", [], Duration.ofSecs 1, none⟩
    let w : Waiting := ⟨Duration.ofSecs 600, Duration.ofSecs 1, by decide⟩
    let reply : Reply := ⟨200, [], some (Bytes.ofText "[\"VISIBLE\"]")⟩
    (∀ name, ¬ ObjectTells "[\"VISIBLE\"]".toList name) ∧ ∃ t,
      (w.reconcile "l" Talk.pause (queryState c "http://fe:8030" "d" "l")).Held t (.ok .visible) ∧
      lastReply (sent t) = some reply := by
  intro c w reply
  constructor
  · rintro name ⟨w₁, w₂, t, w₃, ms, v, h₁, -, -, hbody, -⟩
    cases w₁ with
    | nil => exact nomatch (List.cons.inj hbody).1
    | cons c w₁ =>
      have hspace := h₁ c (List.mem_cons_self ..)
      rw [← (List.cons.inj hbody).1] at hspace
      exact Bool.false_ne_true hspace
  · obtain ⟨q, hq⟩ := exists_asksState
    have htells : TellsState reply "VISIBLE" := (tells_iff rfl).2 ⟨rfl, by decide +kernel⟩
    have hstate : stateOf "l" reply = .ok .visible := stateOf_of_tells htells
    have hquery : (queryState c "http://fe:8030" "d" "l").Held [⟨.send q, some reply⟩]
        (.ok .visible) := (held_queryState_iff hq).2 hstate.symm
    refine ⟨[⟨.pause Duration.zero, ()⟩, ⟨.send q, some reply⟩], ?_, rfl⟩
    rw [Waiting.reconcile, Waiting.poll_of_advance (by decide) rfl]
    refine Dialogue.held_bind.2 ⟨_, (), _, rfl, Dialogue.held_question.2 rfl, ?_⟩
    refine Dialogue.held_bind.2 ⟨_, .ok .visible, [], (List.append_nil _).symm, hquery, ?_⟩
    exact Dialogue.held_done.2 ⟨rfl, rfl⟩

end Ingest.Load
