import Ingest.Load.Requests
import Ingest.Proofs.Steps
import Ingest.Proofs.Talk

/-!
# What a load sends

The requests of a load are told apart by their methods: payloads are put, questions are got. A
request that cannot be put together is never sent, and `putRequest_eq_ok` says which ones those
are.
-/

namespace Ingest.Load

open Http (Headers Request Reply)
open Talk (Record sent reached)

/-! ## Requests -/

theorem withHost_eq_ok {url url' : Url} :
    withHost url = .ok url' ↔ url.host?.isSome = true ∧ url' = url := by
  unfold withHost
  cases url.host?.isSome with
  | false => simp only [Bool.false_eq_true, if_false, reduceCtorEq, false_and]
  | true => simp only [if_true, Except.ok.injEq, true_and, eq_comm]

theorem sendable_eq_ok {url : Url} {u : Unit} :
    sendable url = .ok u ↔ Http.isReachable url = true := by
  unfold sendable
  cases Http.isReachable url with
  | false => simp only [Bool.false_eq_true, if_false, reduceCtorEq]
  | true => simp only [if_true]

theorem labelValue_eq_ok {label : String} {value : Bytes} :
    labelValue label = .ok value ↔ Http.fieldValue? label = some value := by
  unfold labelValue
  cases Http.fieldValue? label with
  | none => simp only [reduceCtorEq]
  | some v => simp only [Except.ok.injEq, Option.some.injEq]

/-- **When a payload can be put to an address**: it has a host, the label can stand in a header,
and the address without its credentials is one of the web. Then the request carries the label and
the account of the client behind whatever else the headers hold. -/
theorem putRequest_eq_ok {c : Client} {url : Url} {label : String} {payload : Bytes}
    {q : Request} :
    putRequest c url label payload = .ok q ↔
      url.host?.isSome = true ∧ Http.isReachable (Http.takeCredentials url).1 = true ∧
        ∃ value, Http.fieldValue? label = some value ∧
          q = ⟨.put, (Http.takeCredentials url).1,
            ((Headers.setAll c.headers (Http.credentialHeaders (Http.takeCredentials url).2)).append
              "label" value).append Http.authorization c.credentials, payload, c.patience⟩ := by
  unfold putRequest
  simp only [bind_eq_ok, withHost_eq_ok, labelValue_eq_ok, sendable_eq_ok]
  constructor
  · rintro ⟨_, ⟨hhost, rfl⟩, value, hvalue, _, hreach, h⟩
    exact ⟨hhost, hreach, value, hvalue, (Except.ok.inj h).symm⟩
  · rintro ⟨hhost, hreach, value, hvalue, rfl⟩
    exact ⟨url, ⟨hhost, rfl⟩, value, hvalue, (), hreach, rfl⟩

theorem method_putRequest {c : Client} {url : Url} {label : String} {payload : Bytes}
    {q : Request} (h : putRequest c url label payload = .ok q) : q.method = .put := by
  obtain ⟨-, -, value, -, rfl⟩ := putRequest_eq_ok.1 h
  rfl

/-- **When a label can be asked about at an address.** The request carries the account and nothing
of the headers of a load; credentials of the address itself stand in front of it. -/
theorem stateRequest_eq_ok {c : Client} {url : Url} {q : Request} :
    stateRequest c url = .ok q ↔
      url.host?.isSome = true ∧ Http.isReachable (Http.takeCredentials url).1 = true ∧
        q = ⟨.get, (Http.takeCredentials url).1,
          ((Http.credentialHeaders (Http.takeCredentials url).2).append
            Http.authorization c.credentials).append "connection" (Bytes.ofText "close"),
          [], c.patience⟩ := by
  unfold stateRequest
  simp only [bind_eq_ok, withHost_eq_ok, sendable_eq_ok]
  constructor
  · rintro ⟨_, ⟨hhost, rfl⟩, _, hreach, h⟩
    exact ⟨hhost, hreach, (Except.ok.inj h).symm⟩
  · rintro ⟨hhost, hreach, rfl⟩
    exact ⟨url, ⟨hhost, rfl⟩, (), hreach, rfl⟩

theorem method_stateRequest {c : Client} {url : Url} {q : Request}
    (h : stateRequest c url = .ok q) : q.method = .get := by
  obtain ⟨-, -, rfl⟩ := stateRequest_eq_ok.1 h
  rfl

/-- **When a log can be asked for at an address.** The account of the client is not shown there, as
the address is one that the response has named. -/
theorem logRequest_eq_ok {c : Client} {url : Url} {q : Request} :
    logRequest c url = .ok q ↔
      url.host?.isSome = true ∧ Http.isReachable (Http.takeCredentials url).1 = true ∧
        q = ⟨.get, (Http.takeCredentials url).1,
          Http.credentialHeaders (Http.takeCredentials url).2, [], c.logPatience⟩ := by
  unfold logRequest
  simp only [bind_eq_ok, withHost_eq_ok, sendable_eq_ok]
  constructor
  · rintro ⟨_, ⟨hhost, rfl⟩, _, hreach, h⟩
    exact ⟨hhost, hreach, (Except.ok.inj h).symm⟩
  · rintro ⟨hhost, hreach, rfl⟩
    exact ⟨url, ⟨hhost, rfl⟩, (), hreach, rfl⟩

theorem method_logRequest {c : Client} {url : Url} {q : Request}
    (h : logRequest c url = .ok q) : q.method = .get := by
  obtain ⟨-, -, rfl⟩ := logRequest_eq_ok.1 h
  rfl

/-- **An exchange of messages**: nothing happens if there is no request, and otherwise the request
is sent and its reply, or that there is none, is what comes of it. -/
theorem held_exchange {request : Except Http.Fault Request} {t : Record}
    {e : Except Http.Fault Reply} :
    (exchange request).Held t e ↔
      (∃ f, request = .error f ∧ t = [] ∧ e = .error f) ∨
        ∃ q r, request = .ok q ∧ t = [⟨.send q, r⟩] ∧
          e = r.elim (.error (.unanswered q.url)) .ok := by
  cases request with
  | error f =>
    simp [exchange, Dialogue.held_done]
  | ok q =>
    unfold exchange Talk.send
    rw [Dialogue.held_bind]
    constructor
    · rintro ⟨t₁, r, t₂, rfl, h₁, h₂⟩
      obtain rfl := Dialogue.held_question.1 h₁
      refine .inr ⟨q, r, rfl, ?_⟩
      cases r <;> exact (Dialogue.held_done.1 h₂).imp (fun h => by rw [h]; rfl) id
    · rintro (⟨f, h, -⟩ | ⟨q', r, h, rfl, rfl⟩)
      · cases h
      · cases h
        refine ⟨[⟨.send q, r⟩], r, [], rfl, Dialogue.held_question.2 rfl, ?_⟩
        cases r <;> exact Dialogue.held_done.2 ⟨rfl, rfl⟩

end Ingest.Load
