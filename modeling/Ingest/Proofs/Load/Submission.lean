import Ingest.Proofs.Load.Exchange

/-!
# The chain of a submission

A payload is put to one address after another: each reply that sends the load on says where the
next request goes. `Chain` is such a list of requests with their replies, from an address on. It
says of every request but the last that its reply was followed, so nothing is put a second time
after a reply that is not a redirect.

The chase is bounded, and it ends with a reply exactly when the last reply of the chain does not
send the load on (`held_chase`). The reply then decides what the submission comes to
(`held_submit`): a response can only come from the last reply to the last payload.
-/

namespace Ingest.Load

open Http (Request Reply)
open Talk (Record Sending sent reached puts gets)

/-- **A chain of submissions** from an address on. Every request puts the same payload under the
same label; whatever comes behind a request goes where the reply to it sends the load on to. -/
inductive Chain (c : Client) (label : String) (payload : Bytes) : Url → List Sending → Prop where
  | none (url : Url) : Chain c label payload url []
  | last {url : Url} {q : Request} (r : Option Reply)
      (put : putRequest c url label payload = .ok q) : Chain c label payload url [(q, r)]
  | onward {url next : Url} {q : Request} {r : Reply} {l : List Sending}
      (put : putRequest c url label payload = .ok q) (moved : Http.isRedirect r.status = true)
      (target : redirectTarget url r = .ok next) (rest : Chain c label payload next l) :
      Chain c label payload url ((q, some r) :: l)

/-- The reply to the last of some requests. There is none if nothing was sent, and none if the last
request was not answered. -/
def lastReply (l : List Sending) : Option Reply := l.getLast?.bind Prod.snd

/-- The response in the reply to the last payload, if there is one. What is asked after the payloads
does not change it. -/
def decided (l : List Sending) : Option Response :=
  (lastReply (puts l)).bind fun r => (responseOf r).toOption

/-- **Whether a payload can be put under a label to an address at all**: the address is one of the
web and the label can stand in a header. -/
def Puttable (address label : String) : Prop :=
  ∃ url, Url.parse address = .ok url ∧ url.host?.isSome = true ∧
    Http.isReachable (Http.takeCredentials url).1 = true ∧ (Http.fieldValue? label).isSome = true

variable {c : Client} {label : String} {payload : Bytes} {url : Url} {t : Record}

@[simp] theorem lastReply_nil : lastReply [] = none := rfl

@[simp] theorem lastReply_singleton (q : Request) (r : Option Reply) :
    lastReply [(q, r)] = r := rfl

theorem lastReply_cons {e : Sending} {l : List Sending} (hl : l ≠ []) :
    lastReply (e :: l) = lastReply l := by
  unfold lastReply
  rw [List.getLast?_cons, List.getLast?_eq_some_getLast hl]
  rfl

/-- A chain of redirects puts the payload at each address, and never turns into a request that gets
something. -/
theorem Chain.method {l : List Sending} (h : Chain c label payload url l) :
    ∀ e ∈ l, e.1.method = .put := by
  induction h with
  | none url => exact fun e he => nomatch he
  | last r put =>
    intro e he
    rw [List.mem_singleton.1 he]
    exact method_putRequest put
  | onward put moved target rest ih =>
    intro e he
    rcases List.mem_cons.1 he with rfl | he
    · exact method_putRequest put
    · exact ih e he

/-- **What a chase comes to.** It makes a chain of at most `n` requests, and it ends with a reply
exactly when that is the reply to the last request and does not send the load on. -/
theorem held_chase {n : Nat} {e : Except Failure Reply}
    (h : (chase c label payload n url).Held t e) :
    reached t = none ∧ Chain c label payload url (sent t) ∧ (sent t).length ≤ n ∧
      ∀ r, e = .ok r ↔ lastReply (sent t) = some r ∧ Http.isRedirect r.status = false := by
  induction n generalizing url t with
  | zero =>
    obtain ⟨rfl, rfl⟩ := Dialogue.held_done.1 h
    exact ⟨rfl, .none url, Nat.le_refl 0, fun r => by simp⟩
  | succ n ih =>
    unfold chase at h
    obtain ⟨t₁, a, t₂, rfl, h₁, h₂⟩ := Dialogue.held_bind.1 h
    rcases held_exchange.1 h₁ with ⟨f, hf, rfl, rfl⟩ | ⟨q, reply, hq, rfl, rfl⟩
    · -- the request cannot be put together
      obtain ⟨rfl, rfl⟩ := Dialogue.held_done.1 h₂
      exact ⟨rfl, .none url, Nat.zero_le _, fun r => by simp⟩
    · cases reply with
      | none =>
        -- there is no reply
        obtain ⟨rfl, rfl⟩ := Dialogue.held_done.1 h₂
        exact ⟨rfl, .last none hq, by simp, fun r => by simp⟩
      | some r =>
        simp only [Option.elim] at h₂
        by_cases hmoved : Http.isRedirect r.status = true
        · rw [if_pos hmoved] at h₂
          have hmoves : ∀ r', ¬ (r = r' ∧ Http.isRedirect r'.status = false) := by
            rintro r' ⟨rfl, hstay⟩
            rw [hmoved] at hstay
            exact Bool.noConfusion hstay
          cases htarget : redirectTarget url r with
          | error f =>
            -- the reply does not say where to go
            rw [htarget] at h₂
            obtain ⟨rfl, rfl⟩ := Dialogue.held_done.1 h₂
            refine ⟨rfl, .last (some r) hq, by simp, fun r' => ?_⟩
            simp only [List.append_nil, Talk.sent_send, Talk.sent_nil, lastReply_singleton,
              Option.some.injEq, reduceCtorEq, false_iff]
            exact hmoves r'
          | ok next =>
            rw [htarget] at h₂
            obtain ⟨hreached, hchain, hlen, hlast⟩ := ih h₂
            refine ⟨by simp [hreached], ?_, ?_, fun r' => ?_⟩
            · exact .onward hq hmoved htarget hchain
            · simpa using hlen
            · rw [hlast r']
              simp only [List.cons_append, List.nil_append, Talk.sent_send]
              by_cases hnil : sent t₂ = []
              · -- the load is sent on, but nothing is sent after it
                rw [hnil, lastReply_nil, lastReply_singleton]
                simp only [reduceCtorEq, false_and, Option.some.injEq, false_iff]
                exact hmoves r'
              · rw [lastReply_cons hnil]
        · -- the load is not sent on
          rw [if_neg hmoved] at h₂
          obtain ⟨rfl, rfl⟩ := Dialogue.held_done.1 h₂
          refine ⟨rfl, .last (some r) hq, by simp, fun r' => ?_⟩
          simp only [List.append_nil, Talk.sent_send, Talk.sent_nil, lastReply_singleton,
            Option.some.injEq, Except.ok.injEq]
          constructor
          · rintro rfl
            exact ⟨rfl, Bool.eq_false_iff.2 hmoved⟩
          · exact fun h => h.1

/-- A chase that may put the payload at all does so unless the request cannot be put together: a
label that is no value of a header, or an address without a host that can be reached. -/
theorem sent_chase_eq_nil {n : Nat} {e : Except Failure Reply}
    (h : (chase c label payload (n + 1) url).Held t e) :
    sent t = [] ↔ ∀ q, putRequest c url label payload ≠ .ok q := by
  unfold chase at h
  obtain ⟨t₁, a, t₂, rfl, h₁, h₂⟩ := Dialogue.held_bind.1 h
  rcases held_exchange.1 h₁ with ⟨f, hf, rfl, rfl⟩ | ⟨q, reply, hq, rfl, rfl⟩
  · obtain ⟨rfl, -⟩ := Dialogue.held_done.1 h₂
    simp [hf]
  · simp [hq]

/-! ## The result -/

/-- A reply that sends the load on holds no response, whatever its body says. So a response that is
decided on is never one on the way. -/
theorem responseOf_of_isRedirect {r : Reply} (h : Http.isRedirect r.status = true) :
    (responseOf r).toOption = none := by
  have hstatus : r.status ≠ 200 := by
    intro h200
    rw [h200] at h
    exact absurd h (by decide)
  unfold responseOf content
  cases r.body with
  | none => rfl
  | some bs => simp [hstatus, Except.toOption]

/-- Whether the request for a load can be put together does not depend on its payload. That is why
`Puttable` can be said of an address and a label alone. -/
theorem puttable_iff (c : Client) (label : String) (payload : Bytes) {address : String} :
    Puttable address label ↔
      ∃ url, Url.parse address = .ok url ∧ ∃ q, putRequest c url label payload = .ok q := by
  constructor
  · rintro ⟨url, hurl, hhost, hreach, hlabel⟩
    obtain ⟨value, hvalue⟩ := Option.isSome_iff_exists.1 hlabel
    exact ⟨url, hurl, _, putRequest_eq_ok.2 ⟨hhost, hreach, value, hvalue, rfl⟩⟩
  · rintro ⟨url, hurl, q, hq⟩
    obtain ⟨hhost, hreach, value, hvalue, -⟩ := putRequest_eq_ok.1 hq
    exact ⟨url, hurl, hhost, hreach, by rw [hvalue]; rfl⟩

/-- **What a submission comes to.** Its requests are a chain of payloads from the address of the
table on, there are none exactly when nothing can be put there, and the response, if there is one,
is that in the reply to the last of them. -/
theorem held_submit {host database table : String} {e : Except Failure Response}
    (h : (submit c host database table label payload).Held t e) :
    reached t = none ∧ (∀ x ∈ sent t, x.1.method = .put) ∧
      (sent t).length ≤ maxRedirects + 1 ∧
      (∀ url, Url.parse (submitAddress host database table) = .ok url →
        Chain c label payload url (sent t)) ∧
      (sent t = [] ↔ ¬ Puttable (submitAddress host database table) label) ∧
      (lastReply (sent t)).bind (fun r => (responseOf r).toOption) = e.toOption := by
  rw [puttable_iff c label payload]
  unfold submit storeUrl at h
  cases hurl : Url.parse (submitAddress host database table) with
  | error f =>
    simp only [hurl] at h
    obtain ⟨rfl, rfl⟩ := Dialogue.held_done.1 h
    exact ⟨rfl, by simp, by simp, fun url hu => (nomatch hu), by simp, rfl⟩
  | ok url =>
    simp only [hurl] at h
    obtain ⟨t₁, a, t₂, rfl, h₁, h₂⟩ := Dialogue.held_bind.1 h
    obtain ⟨hreached, hchain, hlen, hlast⟩ := held_chase h₁
    have ht₂ : t₂ = [] ∧ e = a.bind responseOf := by
      cases a <;> exact Dialogue.held_done.1 h₂
    obtain ⟨rfl, rfl⟩ := ht₂
    rw [List.append_nil]
    refine ⟨hreached, hchain.method, hlen, ?_, ?_, ?_⟩
    · rintro url' ⟨⟩
      exact hchain
    · rw [sent_chase_eq_nil h₁]
      simp
    · cases a with
      | ok r =>
        rw [((hlast r).1 rfl).1]
        rfl
      | error f =>
        -- the last reply, if there is one, sends the load on
        cases hr : lastReply (sent t₁) with
        | none => rfl
        | some r =>
          cases hmoved : Http.isRedirect r.status with
          | false => exact nomatch (hlast r).2 ⟨hr, hmoved⟩
          | true => exact responseOf_of_isRedirect hmoved

end Ingest.Load
