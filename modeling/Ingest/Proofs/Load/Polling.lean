import Ingest.Load.Reconciliation
import Ingest.Proofs.Load.Submission

/-!
# Questions after a load

What follows a response is questions only: for the log of a rejected load, or again and again for
the state of a label. A log is asked for at most once, and only at an address that begins like one
of the web (`held_fetchLog`). The waiting for a label puts the same question every time, whatever
the answers are, and it succeeds exactly when the last answer does (`held_poll`).
-/

namespace Ingest.LabelState

theorem name_of_succeeded {s : LabelState} (h : s.verdict = .succeeded) (name : String)
    (hname : ofName name = s) : name = "VISIBLE" ∨ name = "COMMITTED" := by
  subst hname
  unfold ofName at h
  split at h
  · exact nomatch h
  · exact .inl rfl
  · exact .inr rfl
  · exact nomatch h
  · exact nomatch h

end Ingest.LabelState

namespace Ingest.Waiting

variable {Q : Type} {A : Q → Type} {w : Waiting} {label : String}
  {pause : Duration → Dialogue A Unit} {query : Dialogue A (Except Failure LabelState)} {i : Nat}
  {waited d total : Duration} {last : Option LabelState}

/-- What the waiting makes of an answer to question number `i`. Only an undecided label leads to
another question; that the branches are told apart here keeps the laws of the loop to one case
each. -/
def afterAnswer (w : Waiting) (label : String) (pause : Duration → Dialogue A Unit)
    (query : Dialogue A (Except Failure LabelState)) (i : Nat) (total : Duration) :
    Except Failure LabelState → Dialogue A (Except Failure LabelState)
  | .error f => .done (.error f)
  | .ok state =>
    match state.verdict with
    | .undecided => w.poll label pause query (i + 1) total (some state)
    | .succeeded => .done (.ok state)
    | .failed => .done (.error (.lost label state))

/-- What an answer that decides makes of the waiting: a state of success is the result, and every
other answer but that of a prepared label is the failure it stands for. -/
def decision (label : String) : Except Failure LabelState → Except Failure LabelState
  | .error f => .error f
  | .ok s => if s.verdict = .succeeded then .ok s else .error (.lost label s)

theorem decision_eq_ok {a : Except Failure LabelState} {s : LabelState} :
    decision label a = .ok s ↔ a = .ok s ∧ s.verdict = .succeeded := by
  cases a with
  | error f => simp only [decision, reduceCtorEq, false_and]
  | ok s' =>
    by_cases h : s'.verdict = .succeeded
    · simp only [decision, if_pos h, Except.ok.injEq]
      constructor
      · rintro rfl
        exact ⟨rfl, h⟩
      · exact fun h' => h'.1
    · simp only [decision, if_neg h, reduceCtorEq, Except.ok.injEq, false_iff]
      rintro ⟨rfl, h'⟩
      exact h h'

/-- Only a label that is prepared is asked about again. -/
theorem afterAnswer_of_ne_prepare {a : Except Failure LabelState} (h : a ≠ .ok .prepare) :
    w.afterAnswer label pause query i total a = .done (decision label a) := by
  cases a with
  | error f => rfl
  | ok s =>
    cases s with
    | prepare => exact absurd rfl h
    | visible | committed | aborted | unknown => rfl

/-- One round of the waiting, before the deadline: a pause, a question, and then what the answer
makes of it. Together with the next two this is all the loop does. -/
theorem poll_of_advance (hw : waited.nanos < w.deadline.nanos)
    (h : w.advance i waited = some (d, total)) :
    w.poll label pause query i waited last
      = (pause d).bind fun _ => query.bind (w.afterAnswer label pause query i total) := by
  rw [poll, dif_pos hw]
  split
  · next hnone => exact absurd (h.symm.trans hnone) (Option.some_ne_none _)
  · next d' total' hsome =>
    obtain ⟨rfl, rfl⟩ : d = d' ∧ total = total' := by
      simpa using h.symm.trans hsome
    refine congrArg _ (funext fun _ => congrArg _ (funext fun e => ?_))
    cases e <;> rfl

theorem poll_of_overflow (hw : waited.nanos < w.deadline.nanos)
    (h : w.advance i waited = none) :
    w.poll label pause query i waited last = .done (.error .clockOverflow) := by
  rw [poll, dif_pos hw]
  split
  · rfl
  · next d' total' hsome => exact absurd (hsome.symm.trans h) (Option.some_ne_none _)

theorem poll_of_deadline (hw : ¬ waited.nanos < w.deadline.nanos) :
    w.poll label pause query i waited last = .done (.error (.undecided label last waited)) := by
  rw [poll, dif_neg hw]

end Ingest.Waiting

namespace Ingest.Load

open Http (Request Reply)
open Talk (Record Sending sent reached puts gets)

/-- The state of a label in the reply to the last question, if there is one. Replies to earlier
questions are not looked at again. -/
def told (label : String) (l : List Sending) : Option LabelState :=
  (lastReply l).bind fun r => (stateOf label r).toOption

/-- A question to a host about a label: one whose address is that of the host's states, with the
label as the one pair of its query. -/
def AsksState (c : Client) (host database label : String) (q : Request) : Prop :=
  ∃ url, Url.parse (stateAddress host database) = .ok url ∧
    stateRequest c (url.appendPair "label" label) = .ok q

variable {c : Client} {host database label : String} {t : Record}

@[simp] theorem told_nil : told label [] = none := rfl

theorem told_append {l l' : List Sending} (h : l' ≠ []) :
    told label (l ++ l') = told label l' := by
  unfold told lastReply
  rw [List.getLast?_append, List.getLast?_eq_some_getLast h]
  rfl

theorem AsksState.method {q : Request} (h : AsksState c host database label q) :
    q.method = .get := by
  obtain ⟨url, -, hq⟩ := h
  exact method_stateRequest hq

/-- **What fetching a log comes to**: nothing is sent, or one question to the address. It always
comes to something, since what goes wrong on the way is itself the log. -/
theorem held_fetchLog {address : String} {log : Option String}
    (h : (fetchLog c address).Held t log) :
    reached t = none ∧ (sent t = [] ∨
      ∃ q r, HostEntry.startsWith "http".toList address.toList = true ∧
        logRequestAt c address = .ok q ∧ sent t = [(q, r)]) := by
  unfold fetchLog at h
  by_cases hweb : HostEntry.startsWith "http".toList address.toList = true
  · rw [if_pos hweb] at h
    obtain ⟨t₁, a, t₂, rfl, h₁, h₂⟩ := Dialogue.held_bind.1 h
    have ht₂ : t₂ = [] := by
      cases a <;> exact (Dialogue.held_done.1 h₂).1
    subst ht₂
    rcases held_exchange.1 h₁ with ⟨f, hf, rfl, rfl⟩ | ⟨q, r, hq, rfl, rfl⟩
    · exact ⟨rfl, .inl rfl⟩
    · exact ⟨rfl, .inr ⟨q, r, hweb, hq, rfl⟩⟩
  · rw [if_neg hweb] at h
    obtain ⟨rfl, -⟩ := Dialogue.held_done.1 h
    exact ⟨rfl, .inl rfl⟩

/-- **What a question about a label comes to**: it is put at most once, and the state is that in
the reply. -/
theorem held_queryState {e : Except Failure LabelState}
    (h : (queryState c host database label).Held t e) :
    reached t = none ∧ (∀ x ∈ sent t, AsksState c host database label x.1) ∧
      told label (sent t) = e.toOption := by
  unfold queryState storeUrl at h
  cases hurl : Url.parse (stateAddress host database) with
  | error f =>
    simp only [hurl] at h
    obtain ⟨rfl, rfl⟩ := Dialogue.held_done.1 h
    exact ⟨rfl, fun x hx => (nomatch hx), rfl⟩
  | ok url =>
    simp only [hurl] at h
    obtain ⟨t₁, a, t₂, rfl, h₁, h₂⟩ := Dialogue.held_bind.1 h
    have ht₂ : t₂ = [] ∧ e = (a.mapError Failure.transport).bind (stateOf label) := by
      cases a <;> exact Dialogue.held_done.1 h₂
    obtain ⟨rfl, rfl⟩ := ht₂
    rcases held_exchange.1 h₁ with ⟨f, hf, rfl, rfl⟩ | ⟨q, r, hq, rfl, rfl⟩
    · exact ⟨rfl, fun x hx => (nomatch hx), rfl⟩
    · refine ⟨rfl, fun x hx => ?_, ?_⟩
      · rw [List.mem_singleton.1 hx]
        exact ⟨url, hurl, hq⟩
      · cases r <;> rfl

/-- **What waiting for a label comes to.** Every question it puts is the one about the label, and
it ends with a state exactly when the last answer tells that state and the state is one of
success. -/
theorem held_poll (w : Waiting) (i : Nat) (waited : Duration) (last : Option LabelState)
    {e : Except Failure LabelState}
    (h : (w.poll label Talk.pause (queryState c host database label) i waited last).Held t e) :
    reached t = none ∧ (∀ x ∈ sent t, AsksState c host database label x.1) ∧
      ∀ s, e = .ok s ↔ told label (sent t) = some s ∧ s.verdict = .succeeded := by
  induction i, waited, last using Waiting.poll.induct w generalizing t with
  | case1 i waited last hw hnone =>
    rw [Waiting.poll_of_overflow hw hnone] at h
    obtain ⟨rfl, rfl⟩ := Dialogue.held_done.1 h
    exact ⟨rfl, fun x hx => (nomatch hx), fun s => by simp⟩
  | case3 i waited last hw =>
    rw [Waiting.poll_of_deadline hw] at h
    obtain ⟨rfl, rfl⟩ := Dialogue.held_done.1 h
    exact ⟨rfl, fun x hx => (nomatch hx), fun s => by simp⟩
  | case2 i waited last hw d total hadvance ih =>
    rw [Waiting.poll_of_advance hw hadvance] at h
    obtain ⟨t₀, u, t', rfl, h₀, h'⟩ := Dialogue.held_bind.1 h
    obtain rfl := Dialogue.held_question.1 h₀
    obtain ⟨t₁, a, t₂, rfl, h₁, h₂⟩ := Dialogue.held_bind.1 h'
    obtain ⟨hreached, hasks, htold⟩ := held_queryState h₁
    rw [List.singleton_append, Talk.sent_pause, Talk.reached_pause, Talk.sent_append,
      Talk.reached_append, hreached]
    by_cases hprepare : a = .ok .prepare
    · subst hprepare
      obtain ⟨hreached', hasks', hlast⟩ := ih .prepare h₂
      refine ⟨hreached', fun x hx => ?_, fun s => ?_⟩
      · exact (List.mem_append.1 hx).elim (hasks x) (hasks' x)
      · rw [hlast s]
        by_cases hnil : sent t₂ = []
        · -- the label is still undecided, and nothing more was asked
          rw [hnil, List.append_nil, htold]
          simp only [told_nil, reduceCtorEq, false_and, Except.toOption, Option.some.injEq,
            false_iff]
          rintro ⟨rfl, hs⟩
          exact absurd hs (by decide)
        · rw [told_append hnil]
    · rw [Waiting.afterAnswer_of_ne_prepare hprepare] at h₂
      obtain ⟨rfl, rfl⟩ := Dialogue.held_done.1 h₂
      rw [Talk.sent_nil, List.append_nil]
      refine ⟨rfl, hasks, fun s => ?_⟩
      rw [htold, Waiting.decision_eq_ok]
      cases a <;> simp only [Except.toOption, reduceCtorEq, Except.ok.injEq, Option.some.injEq]

end Ingest.Load
