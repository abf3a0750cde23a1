import Ingest.Proofs.Load.Headers
import Ingest.Proofs.Load.Rounds
import Ingest.Proofs.Load.Submission

/-!
# Redirects and what becomes of a submission

A submission is run against a store that sends one reply after another. `Attempts` says to which
addresses the payload is put: an attempt follows another exactly when the reply to the one before
sends the load on, and the limit is not reached. What every request carries is the same for all of
them (`Carries`), since each is put together anew from the client, the label and the payload. The
last attempt decides (`Decides`): it is the only one that may fail to become a request, to get a
reply, or to get one that is followed.

`run_submit` puts these together. The addresses are found along the recursion of the chase, with
the replies that are left as the state of the store.
-/

namespace Ingest

/-- **A store that sends one reply after another**, whatever is put to it. Its state are the
replies that are left. An attempt takes one of them, so the reply to attempt number `i` is reply
number `i`. -/
def Talk.script : Dialogue.Partner Move.Answer (Nat → Option Http.Reply) where
  answer replies
    | .claim => (some 0, replies)
    | .probe _ _ => (some true, replies)
    | .send _ => (some (replies 0), fun i => replies (i + 1))
    | .pause _ => (some (), replies)

namespace Load

open Http (Headers Request Reply)

variable {c : Client} {label : String} {payload : Bytes} {url next : Url} {q : Request} {r : Reply}
  {replies : Nat → Option Reply}

/-! ## What a request carries -/

/-- **What the request of a load carries** to an address. Nothing of it depends on the attempts
before: a request on the way has everything that the first one had. -/
structure Carries (c : Client) (label : String) (payload : Bytes) (url : Url) (q : Request) :
    Prop where
  method : q.method = .put
  /-- It goes to the address, without the user information. -/
  goes : q.url = (Http.takeCredentials url).1
  body : q.body = payload
  /-- The headers of the load, and no others. -/
  headers : ∀ name, name ≠ "label" → name ≠ Http.authorization →
    q.headers.all name = c.headers.all name
  /-- The label comes behind what the headers of the load hold under its name. -/
  labelled : q.headers.all "label" = c.headers.all "label" ++ [Bytes.ofText label]
  /-- The account of the client comes behind what the headers of the load hold under its name, or
  behind the user information of the address if they hold nothing. -/
  account : q.headers.all Http.authorization
    = (if c.headers.all Http.authorization = [] then (Http.takeCredentials url).2.toList
        else c.headers.all Http.authorization) ++ [c.credentials]

theorem all_credentialHeaders_self (own : Option Bytes) :
    Headers.all Http.authorization (Http.credentialHeaders own) = own.toList := by
  cases own <;> rfl

theorem all_credentialHeaders_of_ne {name : String} (h : name ≠ Http.authorization)
    (own : Option Bytes) : Headers.all name (Http.credentialHeaders own) = [] := by
  cases own with
  | none => rfl
  | some value => rw [Http.credentialHeaders, Headers.all_cons, if_neg h.symm, Headers.all_nil]

/-- A request that puts a payload carries the headers of the client as they are, with the label and
the account behind them. That the names of the headers differ is needed where a name is set once
more. -/
theorem carries_of_putRequest (hc : c.headers.Single)
    (put : putRequest c url label payload = .ok q) : Carries c label payload url q := by
  obtain ⟨-, -, value, hvalue, rfl⟩ := putRequest_eq_ok.1 put
  have hlabel : "label" ≠ Http.authorization := by decide
  -- the headers of the client were set over those of the address, the others were appended
  refine ⟨rfl, rfl, rfl, fun name hname hauth => ?_, ?_, ?_⟩
  · rw [Headers.all_append_of_ne hauth, Headers.all_append_of_ne hname,
      Headers.all_setAll_of_single hc, all_credentialHeaders_of_ne hauth]
    split
    · next hnil => exact hnil.symm
    · rfl
  · rw [Headers.all_append_of_ne hlabel, Headers.all_append_self, Headers.all_setAll_of_single hc,
      all_credentialHeaders_of_ne hlabel, fieldValue?_eq hvalue]
    split
    · next hnil => rw [hnil]
    · rfl
  · rw [Headers.all_append_self, Headers.all_append_of_ne hlabel.symm,
      Headers.all_setAll_of_single hc, all_credentialHeaders_self]

theorem Client.ofSettings_eq_ok {s : Settings} :
    Client.ofSettings s = .ok c ↔ ∃ hs, Load.headers s = .ok hs ∧
      c = ⟨s.username, s.password, hs, s.connectTimeout, s.socketTimeout⟩ := by
  unfold Client.ofSettings
  cases Load.headers s with
  | error f => simp only [reduceCtorEq, false_and, exists_false]
  | ok hs => simp only [Except.ok.injEq, exists_eq_left', eq_comm]

theorem single_of_ofSettings {s : Settings} (h : Client.ofSettings s = .ok c) :
    c.headers.Single := by
  obtain ⟨hs, hheaders, rfl⟩ := Client.ofSettings_eq_ok.1 h
  exact single_of_headers hheaders

/-! ## The attempts -/

/-- **A reply that sends a load on** from one address to another. The status alone does not: there
has to be a place to go to, and it has to make an address together with the one that was asked. -/
def SendsOn (r : Reply) (url next : Url) : Prop :=
  Http.isRedirect r.status = true ∧
    ∃ location, r.location? = some location ∧ url.join location = .ok next

/-- Where a redirect leads is what its location makes together with the address that was asked. A
location may be relative, so both are needed. -/
theorem redirectTarget_eq_ok :
    redirectTarget url r = .ok next ↔
      ∃ location, r.location? = some location ∧ url.join location = .ok next := by
  unfold redirectTarget
  cases r.location? with
  | none => simp only [reduceCtorEq, false_and, exists_false]
  | some location =>
    simp only [Option.some.injEq, exists_eq_left']
    cases url.join location with
    | ok u => simp only [Except.ok.injEq]
    | error f => simp only [reduceCtorEq]

theorem sendsOn_iff :
    SendsOn r url next ↔ Http.isRedirect r.status = true ∧ redirectTarget url r = .ok next := by
  rw [redirectTarget_eq_ok, SendsOn]

/-- **When an attempt leads to another**: it became a request, and the reply to it sends the load
on. -/
def SentOn (c : Client) (label : String) (payload : Bytes) (url : Url) (reply : Option Reply)
    (next : Url) : Prop :=
  ∃ q r, putRequest c url label payload = .ok q ∧ reply = some r ∧ SendsOn r url next

/-- A reply leads to one address at most. The list of the attempts is therefore determined by the
replies. -/
theorem SentOn.unique {reply : Option Reply} {other : Url}
    (h : SentOn c label payload url reply next) (h' : SentOn c label payload url reply other) :
    next = other := by
  obtain ⟨q, r, -, reply, sends⟩ := h
  obtain ⟨q', r', -, reply', sends'⟩ := h'
  cases reply.symm.trans reply'
  exact Except.ok.inj ((sendsOn_iff.1 sends).2.symm.trans (sendsOn_iff.1 sends').2)

/-- **The addresses of the attempts** of a submission in order, when at most `limit` redirects are
followed. -/
structure Attempts (c : Client) (label : String) (payload : Bytes) (limit : Nat)
    (replies : Nat → Option Reply) (url : Url) (l : List Url) : Prop where
  first : l[0]? = some url
  /-- An attempt follows exactly when the one before is sent on within the limit, and it goes where
  that one is sent. -/
  next : ∀ i next, l[i + 1]? = some next ↔
    i + 1 ≤ limit ∧ ∃ url, l[i]? = some url ∧ SentOn c label payload url (replies i) next

namespace Attempts

variable {limit : Nat} {l : List Url}

/-- There is one attempt more than redirects are allowed, and never another. -/
theorem length_le (h : Attempts c label payload limit replies url l) : l.length ≤ limit + 1 := by
  refine Nat.not_lt.1 fun hlt => ?_
  have hbound := ((h.next limit _).1 (List.getElem?_eq_getElem hlt)).1
  omega

/-- **When there is an attempt number `i + 1`**: all attempts up to number `i` are sent on, and one
more is allowed. The number of attempts can be read off the replies by this alone. -/
theorem lt_length_iff (h : Attempts c label payload limit replies url l) (i : Nat) :
    i + 1 < l.length ↔ i + 1 ≤ limit ∧
      ∀ j ≤ i, ∃ url next, l[j]? = some url ∧ SentOn c label payload url (replies j) next := by
  constructor
  · intro hlt
    refine ⟨((h.next i _).1 (List.getElem?_eq_getElem hlt)).1, fun j hj => ?_⟩
    have hj' : j + 1 < l.length := by omega
    obtain ⟨-, url, hurl, sent⟩ := (h.next j _).1 (List.getElem?_eq_getElem hj')
    exact ⟨url, _, hurl, sent⟩
  · rintro ⟨hi, hall⟩
    obtain ⟨url, next, hurl, sent⟩ := hall i (Nat.le_refl i)
    exact (List.getElem?_eq_some_iff.1 ((h.next i next).2 ⟨hi, url, hurl, sent⟩)).1

/-- An attempt is the only one if it is not sent on, or must not be. -/
theorem single (stop : ∀ next, SentOn c label payload url (replies 0) next → limit = 0) :
    Attempts c label payload limit replies url [url] := by
  refine ⟨rfl, fun i next => ⟨fun h => (nomatch h), ?_⟩⟩
  rintro ⟨hi, url', hurl, sent⟩
  cases i with
  | zero =>
    obtain rfl : url = url' := Option.some.inj hurl
    have hlimit := stop next sent
    omega
  | succ i => exact nomatch hurl

/-- An attempt comes before those that it leads to. -/
theorem cons (sent : SentOn c label payload url (replies 0) next)
    (h : Attempts c label payload limit (fun i => replies (i + 1)) next l) :
    Attempts c label payload (limit + 1) replies url (url :: l) := by
  refine ⟨rfl, fun i other => ?_⟩
  rw [List.getElem?_cons_succ]
  cases i with
  | zero =>
    -- the second attempt is the first of the others
    rw [h.first]
    constructor
    · rintro ⟨⟩
      exact ⟨by omega, url, rfl, sent⟩
    · rintro ⟨-, url', ⟨⟩, sent'⟩
      exact congrArg some (sent.unique sent')
  | succ i => rw [h.next i other, List.getElem?_cons_succ, Nat.add_le_add_iff_right]

end Attempts

/-! ## The last attempt -/

/-- **What the reply to the last request decides.** Every reply falls under exactly one of the
cases, which are told apart by its status, by the length of its body, and by the place it names. -/
structure DecidedBy (r : Reply) (url : Url) (result : Except Failure Response) : Prop where
  /-- A success with a body is read as a response. -/
  taken : r.status = 200 → ∀ bs, r.body = some bs → bs ≠ [] →
    result = (Response.ofText (Utf8.decodeLossy bs)).mapError
      fun f => .reply (.response f) (some (Utf8.decodeLossy bs))
  /-- A success without a body holds no result. -/
  empty : r.status = 200 → r.body = some [] → result = .error (.reply .noResult none)
  /-- Any other status is refused, with the body as it came. -/
  refused : r.status ≠ 200 → Http.isRedirect r.status = false → ∀ bs, r.body = some bs →
    result = .error (.reply (.refused r.status) (some (Utf8.decodeLossy bs)))
  /-- A reply that breaks off is none. -/
  broken : Http.isRedirect r.status = false → r.body = none →
    result = .error (.transport .brokenBody)
  /-- A redirect has to say where to go. -/
  unplaced : Http.isRedirect r.status = true → r.location? = none →
    result = .error (.reply (.noLocation r.status) none)
  misplaced : Http.isRedirect r.status = true → ∀ location f, r.location? = some location →
    url.join location = .error f → result = .error (.reply (.badLocation location f) none)
  /-- Redirects that go on are one too many. -/
  exceeded : ∀ next, SendsOn r url next →
    result = .error (.reply (.tooManyRedirects maxRedirects) none)

/-- **What the last attempt decides**, with the reply to it if there is one. An attempt may also
fail to become a request, or to get a reply, and then nothing is known of what the store did. -/
structure Decides (c : Client) (label : String) (payload : Bytes) (url : Url)
    (reply : Option Reply) (result : Except Failure Response) : Prop where
  /-- There is no request. -/
  unsendable : ∀ f, putRequest c url label payload = .error f → result = .error (.transport f)
  /-- There is no reply. -/
  unanswered : ∀ q, putRequest c url label payload = .ok q → reply = none →
    result = .error (.transport (.unanswered q.url))
  answered : ∀ q r, putRequest c url label payload = .ok q → reply = some r →
    DecidedBy r url result

namespace Decides

variable {reply : Option Reply} {result : Except Failure Response}

theorem of_unsendable {f : Http.Fault} (put : putRequest c url label payload = .error f) :
    Decides c label payload url reply (.error (.transport f)) := by
  refine ⟨fun f' hf => ?_, fun q hq => (nomatch put.symm.trans hq),
    fun q r hq => (nomatch put.symm.trans hq)⟩
  cases put.symm.trans hf
  rfl

theorem of_unanswered (put : putRequest c url label payload = .ok q) :
    Decides c label payload url none (.error (.transport (.unanswered q.url))) := by
  refine ⟨fun f hf => (nomatch put.symm.trans hf), fun q' hq _ => ?_, fun q r _ hr => (nomatch hr)⟩
  cases put.symm.trans hq
  rfl

theorem of_answered (put : putRequest c url label payload = .ok q) (h : DecidedBy r url result) :
    Decides c label payload url (some r) result := by
  refine ⟨fun f hf => (nomatch put.symm.trans hf), fun q' _ hr => (nomatch hr),
    fun q' r' _ hr => ?_⟩
  cases hr
  exact h

end Decides

theorem isRedirect_of_ok (h : r.status = 200) : Http.isRedirect r.status = false := by
  rw [h]
  rfl

/-- A reply that does not send the load on is looked at: its body is read as a response if the
status is one of success, and refused otherwise. -/
theorem decidedBy_responseOf (stay : Http.isRedirect r.status = false) :
    DecidedBy r url (responseOf r) := by
  have hmoved : ¬ Http.isRedirect r.status = true := by rw [stay]; exact Bool.false_ne_true
  refine ⟨fun hok bs hbody hne => ?_, fun hok hbody => ?_, fun hother _ bs hbody => ?_,
    fun _ hbody => ?_, fun h => absurd h hmoved, fun h => absurd h hmoved,
    fun _ h => absurd h.1 hmoved⟩
  · have htext : Utf8.decodeLossy bs ≠ "" := fun h => hne (Utf8.decodeLossy_eq_empty_iff.1 h)
    simp only [responseOf, content, Response.read, hbody, hok, ne_eq, not_true_eq_false, if_false,
      if_neg htext]
    cases Response.ofText (Utf8.decodeLossy bs) <;> rfl
  · have htext : Utf8.decodeLossy [] = "" := Utf8.decodeLossy_eq_empty_iff.2 rfl
    simp only [responseOf, content, hbody, hok, htext, ne_eq, not_true_eq_false, if_false, if_true]
  · simp only [responseOf, content, hbody, ne_eq, hother, not_false_eq_true, if_true]
  · simp only [responseOf, content, hbody]

/-- A redirect that is not followed is the end, and its body is not looked at. -/
theorem decidedBy_of_isRedirect {result : Except Failure Response}
    (moved : Http.isRedirect r.status = true)
    (unplaced : r.location? = none → result = .error (.reply (.noLocation r.status) none))
    (misplaced : ∀ location f, r.location? = some location → url.join location = .error f →
      result = .error (.reply (.badLocation location f) none))
    (exceeded : ∀ next, SendsOn r url next →
      result = .error (.reply (.tooManyRedirects maxRedirects) none)) :
    DecidedBy r url result := by
  have hstay : ¬ Http.isRedirect r.status = false := by rw [moved]; exact Bool.false_ne_true.symm
  have hother : r.status ≠ 200 := fun hok => hstay (isRedirect_of_ok hok)
  exact ⟨fun hok => absurd hok hother, fun hok => absurd hok hother, fun _ h => absurd h hstay,
    fun h => absurd h hstay, fun _ => unplaced, fun _ => misplaced, exceeded⟩

/-- A redirect without a place to go to, or with one that is no address, fails with a reason that
tells the two apart. -/
theorem decidedBy_of_redirectTarget {f : Failure} (moved : Http.isRedirect r.status = true)
    (h : redirectTarget url r = .error f) : DecidedBy r url (.error f) := by
  refine decidedBy_of_isRedirect moved (fun hnone => ?_) (fun location f' hlocation hjoin => ?_)
    (fun next sends => ?_)
  · rw [redirectTarget, hnone] at h
    rw [← Except.error.inj h]
  · simp only [redirectTarget, hlocation, hjoin] at h
    rw [← Except.error.inj h]
  · exact nomatch h.symm.trans (sendsOn_iff.1 sends).2

/-- At the end of the allowance even a good redirect is refused, and the failure names the number of
redirects that were followed. -/
theorem decidedBy_of_sendsOn (sends : SendsOn r url next) :
    DecidedBy r url (.error (.reply (.tooManyRedirects maxRedirects) none)) := by
  obtain ⟨moved, location, hlocation, hjoin⟩ := sends
  refine decidedBy_of_isRedirect moved (fun hnone => ?_) (fun location' f hlocation' hjoin' => ?_)
    (fun _ _ => rfl)
  · exact nomatch hnone.symm.trans hlocation
  · cases hlocation.symm.trans hlocation'
    exact nomatch hjoin.symm.trans hjoin'

/-! ## Running a submission -/

section Run

variable {α : Type} {request : Except Http.Fault Request}
  (k : Except Http.Fault Reply → Talk α)

theorem run_exchange_error {f : Http.Fault} (h : request = .error f) :
    ((exchange request).bind k).run Talk.script replies
      = (k (.error f)).run Talk.script replies := by
  rw [h]
  rfl

theorem run_exchange_ok (h : request = .ok q) :
    ((exchange request).bind k).run Talk.script replies
      = let rest := (k ((replies 0).elim (.error (.unanswered q.url)) .ok)).run Talk.script
          fun i => replies (i + 1)
        ⟨rest.result, .send q :: rest.asked, rest.state⟩ := by
  rw [h]
  show Dialogue.run Talk.script replies (.ask (Move.send q) _) = _
  have hanswer : Talk.script.answer replies (.send q)
      = (some (replies 0), fun i => replies (i + 1)) := rfl
  rw [Dialogue.run, hanswer]
  cases replies 0 <;> rfl

end Run

/-- The requests to addresses, as far as they can be put together. Only the last address of a
submission may be one to which there is no request. -/
def requests (c : Client) (label : String) (payload : Bytes) (l : List Url) : List Request :=
  l.filterMap fun url => (putRequest c url label payload).toOption

theorem requests_cons_ok (put : putRequest c url label payload = .ok q) (l : List Url) :
    requests c label payload (url :: l) = q :: requests c label payload l := by
  rw [requests, List.filterMap_cons, put]
  rfl

theorem requests_cons_error {f : Http.Fault} (put : putRequest c url label payload = .error f)
    (l : List Url) : requests c label payload (url :: l) = requests c label payload l := by
  rw [requests, List.filterMap_cons, put]
  rfl

/-- **The course of a submission**: the addresses of its attempts, what it asks, and the result that
the last attempt decides. -/
structure Submitted (c : Client) (label : String) (payload : Bytes) (limit : Nat)
    (replies : Nat → Option Reply) (url : Url) (l : List Url) (asked : List Move)
    (result : Except Failure Response) : Prop where
  attempts : Attempts c label payload limit replies url l
  /-- Every attempt that becomes a request is sent, and nothing else is asked. -/
  asked : asked = (requests c label payload l).map Move.send
  decided : ∀ i last, l[i]? = some last → l[i + 1]? = none →
    Decides c label payload last (replies i) result

namespace Submitted

variable {limit : Nat} {l : List Url} {asked : List Move} {result : Except Failure Response}

/-- A submission that ends with its first attempt. -/
theorem single (stop : ∀ next, SentOn c label payload url (replies 0) next → limit = 0)
    (hasked : asked = (requests c label payload [url]).map Move.send)
    (decides : Decides c label payload url (replies 0) result) :
    Submitted c label payload limit replies url [url] asked result := by
  refine ⟨.single stop, hasked, fun i last hi _ => ?_⟩
  cases i with
  | zero =>
    obtain rfl : url = last := Option.some.inj hi
    exact decides
  | succ i => exact nomatch hi

/-- The first attempt in front of the others, with its request. This is the step of the induction on
the number of redirects that may still be followed. -/
theorem cons (put : putRequest c url label payload = .ok q) (reply : replies 0 = some r)
    (sends : SendsOn r url next)
    (h : Submitted c label payload limit (fun i => replies (i + 1)) next l asked result) :
    Submitted c label payload (limit + 1) replies url (url :: l) (.send q :: asked) result := by
  refine ⟨.cons ⟨q, r, put, reply, sends⟩ h.attempts, ?_, fun i last hi hnone => ?_⟩
  · rw [requests_cons_ok put, List.map_cons, h.asked]
  · cases i with
    | zero => exact nomatch h.attempts.first.symm.trans hnone
    | succ i => exact h.decided i last hi hnone

end Submitted

theorem run_chase_unsendable (n : Nat) {f : Http.Fault}
    (put : putRequest c url label payload = .error f) :
    (chase c label payload (n + 1) url).run Talk.script replies
      = ⟨some (.error (.transport f)), [], replies⟩ := by
  rw [chase, run_exchange_error _ put]
  rfl

theorem run_chase_unanswered (n : Nat) (put : putRequest c url label payload = .ok q)
    (reply : replies 0 = none) :
    (chase c label payload (n + 1) url).run Talk.script replies
      = ⟨some (.error (.transport (.unanswered q.url))), [.send q], fun i => replies (i + 1)⟩ := by
  rw [chase, run_exchange_ok _ put, reply]
  rfl

/-- A chase with a reply that does not send the load on. -/
theorem run_chase_stay (n : Nat) (put : putRequest c url label payload = .ok q)
    (reply : replies 0 = some r) (stay : ¬ Http.isRedirect r.status = true) :
    (chase c label payload (n + 1) url).run Talk.script replies
      = ⟨some (.ok r), [.send q], fun i => replies (i + 1)⟩ := by
  rw [chase, run_exchange_ok _ put, reply]
  simp only [Option.elim, if_neg stay]
  rfl

/-- A chase with a reply that does not say where to go. -/
theorem run_chase_lost (n : Nat) (put : putRequest c url label payload = .ok q)
    (reply : replies 0 = some r) (moved : Http.isRedirect r.status = true) {f : Failure}
    (target : redirectTarget url r = .error f) :
    (chase c label payload (n + 1) url).run Talk.script replies
      = ⟨some (.error f), [.send q], fun i => replies (i + 1)⟩ := by
  rw [chase, run_exchange_ok _ put, reply]
  simp only [Option.elim, if_pos moved, target]
  rfl

/-- A redirect that is followed: the request is sent, its reply is used up, and the chase goes on at
the next address with one redirect less. -/
theorem run_chase_onward (n : Nat) (put : putRequest c url label payload = .ok q)
    (reply : replies 0 = some r) (sends : SendsOn r url next) :
    (chase c label payload (n + 1) url).run Talk.script replies
      = let rest := (chase c label payload n next).run Talk.script fun i => replies (i + 1)
        ⟨rest.result, .send q :: rest.asked, rest.state⟩ := by
  obtain ⟨moved, target⟩ := sendsOn_iff.1 sends
  rw [chase, run_exchange_ok _ put, reply]
  simp only [Option.elim, if_pos moved, target]

/-- A chase that is not sent on ends with its first attempt, for whichever reason: no request, no
reply, a reply to look at, or one that names no place to go. -/
theorem run_chase_first (limit : Nat)
    (stop : ∀ next, ¬ SentOn c label payload url (replies 0) next) :
    let run := (chase c label payload (limit + 1) url).run Talk.script replies
    ∃ e, run.result = some e ∧
      Submitted c label payload limit replies url [url] run.asked (e.bind responseOf) := by
  intro run
  have hstop : ∀ next, SentOn c label payload url (replies 0) next → limit = 0 :=
    fun next sent => absurd sent (stop next)
  cases put : putRequest c url label payload with
  | error f =>
    have hasked : [] = (requests c label payload [url]).map Move.send := by
      rw [requests_cons_error put]
      rfl
    rw [show run = _ from run_chase_unsendable limit put]
    exact ⟨_, rfl, .single hstop hasked (.of_unsendable put)⟩
  | ok q =>
    have hasked : [Move.send q] = (requests c label payload [url]).map Move.send := by
      rw [requests_cons_ok put]
      rfl
    cases reply : replies 0 with
    | none =>
      rw [show run = _ from run_chase_unanswered limit put reply]
      exact ⟨_, rfl, .single hstop hasked (reply ▸ .of_unanswered put)⟩
    | some r =>
      by_cases moved : Http.isRedirect r.status = true
      · cases target : redirectTarget url r with
        | error f =>
          rw [show run = _ from run_chase_lost limit put reply moved target]
          exact ⟨_, rfl, .single hstop hasked
            (reply ▸ .of_answered put (decidedBy_of_redirectTarget moved target))⟩
        | ok next =>
          exact absurd ⟨q, r, put, reply, sendsOn_iff.2 ⟨moved, target⟩⟩ (stop next)
      · rw [show run = _ from run_chase_stay limit put reply moved]
        exact ⟨_, rfl, .single hstop hasked
          (reply ▸ .of_answered put (decidedBy_responseOf (Bool.eq_false_iff.2 moved)))⟩

/-- A chase that is sent on beyond the limit ends with its first attempt, too. -/
theorem run_chase_exceeded (put : putRequest c url label payload = .ok q)
    (reply : replies 0 = some r) (sends : SendsOn r url next) :
    let run := (chase c label payload 1 url).run Talk.script replies
    ∃ e, run.result = some e ∧
      Submitted c label payload 0 replies url [url] run.asked (e.bind responseOf) := by
  intro run
  have hasked : [Move.send q] = (requests c label payload [url]).map Move.send := by
    rw [requests_cons_ok put]
    rfl
  rw [show run = _ from run_chase_onward 0 put reply sends]
  exact ⟨_, rfl, .single (fun _ _ => rfl) hasked
    (reply ▸ .of_answered put (decidedBy_of_sendsOn sends))⟩

/-- **What a chase does**, when there may be `limit` redirects. Each redirect that is followed takes
one reply from the store and one from the limit, so the induction is on the limit, with the address
and the replies left free. -/
theorem run_chase (c : Client) (label : String) (payload : Bytes) (limit : Nat)
    (replies : Nat → Option Reply) (url : Url) :
    let run := (chase c label payload (limit + 1) url).run Talk.script replies
    ∃ l e, run.result = some e ∧
      Submitted c label payload limit replies url l run.asked (e.bind responseOf) := by
  by_cases hsent : ∃ next, SentOn c label payload url (replies 0) next
  · obtain ⟨next, q, r, put, reply, sends⟩ := hsent
    cases limit with
    | zero => exact ⟨[url], run_chase_exceeded put reply sends⟩
    | succ limit =>
      obtain ⟨l, e, hresult, hsubmitted⟩ :=
        run_chase c label payload limit (fun i => replies (i + 1)) next
      rw [run_chase_onward (limit + 1) put reply sends]
      exact ⟨url :: l, e, hresult, .cons put reply sends hsubmitted⟩
  · exact ⟨[url], run_chase_first limit fun next sent => hsent ⟨next, sent⟩⟩

/-- Behind an address that could be read, a submission is a chase along redirects from there. -/
theorem submit_eq {host database table : String}
    (hurl : Url.parse (submitAddress host database table) = .ok url) :
    submit c host database table label payload
      = (chase c label payload (maxRedirects + 1) url).bind fun e => .done (e.bind responseOf) := by
  unfold submit storeUrl
  simp only [hurl]
  congr 1
  funext e
  cases e <;> rfl

/-- **What becomes of a submission**, whatever the store replies. There is always a result, and it
is the one that the last attempt decides. An attempt number `i + 1` is made exactly when all replies
up to number `i` send the load on and that many redirects are allowed, so there are at most eleven;
and all requests carry the same headers, label, account and payload. -/
theorem run_submit {s : Settings} (hc : Client.ofSettings s = .ok c)
    {host database table : String} (hurl : Url.parse (submitAddress host database table) = .ok url)
    (label : String) (payload : Bytes) (replies : Nat → Option Reply) :
    let run := (submit c host database table label payload).run Talk.script replies
    ∃ (l : List Url) (result : Except Failure Response), run.result = some result ∧
      Submitted c label payload 10 replies url l run.asked result ∧
      (∀ i, i + 1 < l.length ↔ i + 1 ≤ 10 ∧
        ∀ j ≤ i, ∃ url next, l[j]? = some url ∧ SentOn c label payload url (replies j) next) ∧
      l.length ≤ 11 ∧
      ∀ url ∈ l, ∀ q, putRequest c url label payload = .ok q → Carries c label payload url q := by
  obtain ⟨l, e, hresult, hsubmitted⟩ := run_chase c label payload maxRedirects replies url
  rw [submit_eq hurl, Dialogue.run_bind_done Talk.script replies
    fun e : Except Failure Reply => e.bind responseOf]
  exact ⟨l, e.bind responseOf, congrArg (Option.map _) hresult, hsubmitted,
    hsubmitted.attempts.lt_length_iff, hsubmitted.attempts.length_le,
    fun url _ q => carries_of_putRequest (single_of_ofSettings hc)⟩

/-- A submission that is sent on once, and taken there. Its second request goes to the address that
the first reply names. -/
theorem run_submit_of_moved :
    ∃ c url, Client.ofSettings (Settings.ofHosts ["fe:8030"]) = .ok c ∧
      Url.parse (submitAddress "http://fe:8030" "d" "t") = .ok url ∧
      let replies (i : Nat) : Option Reply :=
        if i = 0 then some ⟨307, [("location", Bytes.ofText "http://be:8040/load")], some []⟩
        else some ⟨200, [], some (Bytes.ofText "\x7b\"Status\":\"Success\"\x7d")⟩
      let run := (submit c "http://fe:8030" "d" "t" "L1" [49]).run Talk.script replies
      (run.asked.map fun
        | .send q => q.url.text
        | _ => "") = ["http://fe:8030/api/d/t/_stream_load", "http://be:8040/load"] ∧
        run.result.map Except.isOk = some true ∧
        ∃ l result, run.result = some result ∧
          Submitted c "L1" [49] 10 replies url l run.asked result ∧ l.length ≤ 11 := by
  have hc : Client.ofSettings (Settings.ofHosts ["fe:8030"]) = .ok _ := rfl
  have hok : (Url.parse (submitAddress "http://fe:8030" "d" "t")).isOk = true := by decide +kernel
  obtain ⟨url, hurl⟩ := exists_eq_ok_of_isOk hok
  refine ⟨_, _, hc, hurl, by decide +kernel, by decide +kernel, ?_⟩
  obtain ⟨l, result, hresult, hsubmitted, -, hlen, -⟩ := run_submit hc hurl "L1" [49] _
  exact ⟨l, result, hresult, hsubmitted, hlen⟩

end Load

end Ingest
