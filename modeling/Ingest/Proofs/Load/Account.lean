import Ingest.Proofs.Load.Course
import Mathlib.Data.List.Forall2

/-!
# Where the account goes

The name and the password of the account go into one field of the requests that put a payload or
ask about a label, and nowhere else: no address, no other field, no branch, no text of a failure
and no request for a log depends on them.

This is a statement about two loads. Two loaders that differ in the account are run side by side,
each against its own outside, and as long as requests that differ in nothing but the account are
answered alike, the loads make the same moves, request for request (`Move.Alike`, `Twins`), and
come to the same result. The two talks are compared as trees first (`Talk.InStep`): what is said in
step stays in step when one talk goes on with the result of another, and so the parts of a load can
be looked at one by one.
-/

namespace Ingest

/-! ## Talks in step -/

/-- **Two moves that differ in their requests only**, and in these only as `R` allows. -/
inductive Move.Alike (R : Http.Request → Http.Request → Prop) : Move → Move → Prop where
  | quiet {m : Move} (h : m.request? = none) : Alike R m m
  | send {q q' : Http.Request} (h : R q q') : Alike R (.send q) (.send q')

namespace Talk

variable {R : Http.Request → Http.Request → Prop} {α β σ : Type}

/-- **Two talks in step**: whatever the answers are, they make moves that differ in their requests
only, and end with the same. -/
inductive InStep (R : Http.Request → Http.Request → Prop) : Talk α → Talk α → Prop where
  | done (a : α) : InStep R (.done a) (.done a)
  | quiet {m : Move} {next next' : m.Answer → Talk α} (h : m.request? = none)
      (rest : ∀ r, InStep R (next r) (next' r)) : InStep R (.ask m next) (.ask m next')
  | send {q q' : Http.Request} {next next' : Option Http.Reply → Talk α} (h : R q q')
      (rest : ∀ r, InStep R (next r) (next' r)) :
      InStep R (.ask (.send q) next) (.ask (.send q') next')

/-- **Talks stay in step** when they go on with the same result in step. The parts of a load are
compared one by one, and this puts the comparisons together. -/
theorem InStep.bind {d d' : Talk α} {f f' : α → Talk β} (h : InStep R d d')
    (hf : ∀ a, InStep R (f a) (f' a)) : InStep R (d.bind f) (d'.bind f') := by
  induction h with
  | done a => exact hf a
  | quiet h rest ih => exact .quiet h ih
  | send h rest ih => exact .send h ih

/-- **Two who answer alike**, also where the requests differ as `R` allows. -/
structure AnswerAlike (R : Http.Request → Http.Request → Prop)
    (p p' : Dialogue.Partner Move.Answer σ) : Prop where
  quiet : ∀ s m, m.request? = none → p.answer s m = p'.answer s m
  send : ∀ s q q', R q q' → p.answer s (.send q) = p'.answer s (.send q')

/-- **The law of talks in step**: with two who answer alike they come to the same result, leave the
two in the same state, and make moves that are alike one by one. -/
theorem InStep.run {d d' : Talk α} {p p' : Dialogue.Partner Move.Answer σ} (h : InStep R d d')
    (hp : AnswerAlike R p p') (s : σ) :
    (d.run p s).result = (d'.run p' s).result ∧ (d.run p s).state = (d'.run p' s).state ∧
      List.Forall₂ (Move.Alike R) (d.run p s).asked (d'.run p' s).asked := by
  induction h generalizing s with
  | done a => exact ⟨rfl, rfl, .nil⟩
  | @quiet m next next' h rest ih =>
    rw [Dialogue.run, Dialogue.run, ← hp.quiet s m h]
    cases p.answer s m with
    | mk answer s' =>
      cases answer with
      | none => exact ⟨rfl, rfl, .cons (.quiet h) .nil⟩
      | some r =>
        obtain ⟨hresult, hstate, hasked⟩ := ih r s'
        exact ⟨hresult, hstate, .cons (.quiet h) hasked⟩
  | @send q q' next next' h rest ih =>
    rw [Dialogue.run, Dialogue.run, ← hp.send s q q' h]
    cases p.answer s (.send q) with
    | mk answer s' =>
      cases answer with
      | none => exact ⟨rfl, rfl, .cons (.send h) .nil⟩
      | some r =>
        obtain ⟨hresult, hstate, hasked⟩ := ih r s'
        exact ⟨hresult, hstate, .cons (.send h) hasked⟩

end Talk

/-! ## Requests that differ in the account -/

namespace Load

open Http (Headers Request Reply)
open Talk (InStep)

def Client.withCredentials (c : Client) (username password : String) : Client :=
  { c with username := username, password := password }

/-- **Two requests that differ in the account**: in the value of the one field that carries it, and
in nothing else. The field stands at the same place of both. -/
structure DiffersInAccount (c c' : Client) (q q' : Request) : Prop where
  method : q.method = q'.method
  url : q.url = q'.url
  body : q.body = q'.body
  patience : q.patience = q'.patience
  headers : ∃ front back : Headers,
    q.headers = front ++ (Http.authorization, c.credentials) :: back ∧
      q'.headers = front ++ (Http.authorization, c'.credentials) :: back

/-- **The same request of two clients.** A request for a log is no case where they could differ: it
is the same request. It is told apart from the others by having no header at all. -/
inductive Twins (c c' : Client) : Request → Request → Prop where
  /-- Payloads differ in the account. -/
  | load {url : Url} {label : String} {payload : Bytes} {q q' : Request}
      (put : putRequest c url label payload = .ok q)
      (put' : putRequest c' url label payload = .ok q') (differs : DiffersInAccount c c' q q') :
      Twins c c' q q'
  /-- Questions about a label differ in the account. -/
  | state {url : Url} {q q' : Request} (ask : stateRequest c url = .ok q)
      (ask' : stateRequest c' url = .ok q') (differs : DiffersInAccount c c' q q') :
      Twins c c' q q'
  /-- Requests for a log do not differ at all. -/
  | log {address : String} {q : Request} (ask : logRequestAt c address = .ok q)
      (ask' : logRequestAt c' address = .ok q) : Twins c c' q q

theorem Twins.url {c c' : Client} {q q' : Request} (h : Twins c c' q q') : q.url = q'.url := by
  cases h with
  | load put put' differs => exact differs.url
  | state ask ask' differs => exact differs.url
  | log ask ask' => rfl

/-- **A request for a log is its own twin.** No other request looks like one. -/
theorem Twins.eq_of_log {c c' : Client} {q q' : Request} {address : String} (h : Twins c c' q q')
    (ask : logRequestAt c address = .ok q) : q = q' := by
  obtain ⟨url, hurl⟩ : ∃ url, logRequest c url = .ok q := by
    unfold logRequestAt at ask
    split at ask
    · exact ⟨_, ask⟩
    · exact nomatch ask
  obtain ⟨-, -, rfl⟩ := logRequest_eq_ok.1 hurl
  cases h with
  | load put put' differs => exact nomatch (method_putRequest put).symm
  | @state url' q q' asks asks' differs =>
    -- a question about a label has a field that no request for a log has
    obtain ⟨-, -, hq⟩ := stateRequest_eq_ok.1 asks
    have hno : (Http.credentialHeaders (Http.takeCredentials url).2).has "connection" = false := by
      cases (Http.takeCredentials url).2 <;> rfl
    have hyes : ∀ hs : Headers, (hs.append "connection" (Bytes.ofText "close")).has "connection"
        = true := fun hs => List.any_eq_true.2 ⟨_, List.mem_concat_self, rfl⟩
    have hheaders := congrArg Request.headers hq
    dsimp only at hheaders
    rw [hheaders, hyes] at hno
    exact nomatch hno
  | log ask ask' => rfl

/-- **Two requests that are put together in the same way**: either neither can be, for the same
reason, or they are as `R` says. -/
inductive Agree (R : Request → Request → Prop) :
    Except Http.Fault Request → Except Http.Fault Request → Prop where
  | error (f : Http.Fault) : Agree R (.error f) (.error f)
  | ok {q q' : Request} (h : R q q') : Agree R (.ok q) (.ok q')

variable {R R' : Request → Request → Prop} {c c' : Client} {username password : String}

/-- Two requests that are made in the same steps agree if they do so from the first step on in which
the account is used. What comes before is one and the same. -/
theorem Agree.bind {α : Type} (x : Except Http.Fault α) {f f' : α → Except Http.Fault Request}
    (h : ∀ a, Agree R (f a) (f' a)) : Agree R (x >>= f) (x >>= f') := by
  cases x with
  | error fault => exact .error fault
  | ok a => exact h a

/-- What is left to show of two requests may use how they were made. This is how twins are found:
both sides are known to be requests of their clients. -/
theorem Agree.imp {r r' : Except Http.Fault Request} (h : Agree R r r')
    (himp : ∀ q q', r = .ok q → r' = .ok q' → R q q' → R' q q') : Agree R' r r' := by
  cases h with
  | error f => exact .error f
  | ok h => exact .ok (himp _ _ rfl rfl h)

/-- A payload is put with one field for the account. Change it, and the two requests are alike up to
the value of that field, or are refused for the same reason. -/
theorem agree_putRequest (c : Client) (username password : String) (url : Url) (label : String)
    (payload : Bytes) :
    Agree (Twins c (c.withCredentials username password)) (putRequest c url label payload)
      (putRequest (c.withCredentials username password) url label payload) := by
  have h : Agree (DiffersInAccount c (c.withCredentials username password))
      (putRequest c url label payload)
      (putRequest (c.withCredentials username password) url label payload) := by
    refine .bind (withHost url) fun url => .bind (labelValue label) fun value => ?_
    refine .bind (sendable (Http.takeCredentials url).1) fun _ => ?_
    exact .ok ⟨rfl, rfl, rfl, rfl, _, [], rfl, rfl⟩
  exact h.imp fun q q' put put' differs => .load put put' differs

/-- A question about a label carries the account as well, and differs in nothing else. It has no
body and none of the fields that the properties give. -/
theorem agree_stateRequest (c : Client) (username password : String) (url : Url) :
    Agree (Twins c (c.withCredentials username password)) (stateRequest c url)
      (stateRequest (c.withCredentials username password) url) := by
  have h : Agree (DiffersInAccount c (c.withCredentials username password)) (stateRequest c url)
      (stateRequest (c.withCredentials username password) url) := by
    refine .bind (withHost url) fun url => ?_
    refine .bind (sendable (Http.takeCredentials url).1) fun _ => ?_
    refine .ok ⟨rfl, rfl, rfl, rfl, Http.credentialHeaders (Http.takeCredentials url).2,
      [("connection", Bytes.ofText "close")], ?_, ?_⟩
    · exact List.append_assoc _ _ _
    · exact List.append_assoc _ _ _
  exact h.imp fun q q' ask ask' differs => .state ask ask' differs

/-- A request for a log carries no account. It may go to any host that a response names, and is the
same for both clients. -/
theorem agree_logRequestAt (c : Client) (username password : String) (address : String) :
    Agree (Twins c (c.withCredentials username password)) (logRequestAt c address)
      (logRequestAt (c.withCredentials username password) address) := by
  have hsame : logRequestAt (c.withCredentials username password) address
      = logRequestAt c address := rfl
  rw [hsame]
  cases h : logRequestAt c address with
  | error f => exact .error f
  | ok q => exact .ok (.log h (hsame.trans h))

/-! ## The parts of a load in step -/

theorem inStep_exchange {r r' : Except Http.Fault Request} (h : Agree (Twins c c') r r') :
    InStep (Twins c c') (exchange r) (exchange r') := by
  cases h with
  | error f => exact .done _
  | ok h =>
    refine .send h fun reply => ?_
    cases reply with
    | none =>
      rw [h.url]
      exact .done _
    | some reply => exact .done _

variable (c username password)

/-- Each redirect is followed with the account of the client, not with that of the first address.
The number of redirects is bounded, and the induction is on what is left of it. -/
theorem inStep_chase (label : String) (payload : Bytes) (n : ℕ) (url : Url) :
    InStep (Twins c (c.withCredentials username password)) (chase c label payload n url)
      (chase (c.withCredentials username password) label payload n url) := by
  induction n generalizing url with
  | zero => exact .done _
  | succ n ih =>
    refine (inStep_exchange (agree_putRequest c username password url label payload)).bind ?_
    rintro (f | reply)
    · exact .done _
    · by_cases hmoved : Http.isRedirect reply.status = true
      · simp only [if_pos hmoved]
        cases redirectTarget url reply with
        | error f => exact .done _
        | ok next => exact ih next
      · simp only [if_neg hmoved]
        exact .done _

theorem inStep_submit (host database table label : String) (payload : Bytes) :
    InStep (Twins c (c.withCredentials username password))
      (submit c host database table label payload)
      (submit (c.withCredentials username password) host database table label payload) := by
  unfold submit
  dsimp only
  cases storeUrl (submitAddress host database table) (submitAddress host database table) with
  | error f => exact .done _
  | ok url =>
    refine (inStep_chase c username password label payload (maxRedirects + 1) url).bind ?_
    rintro (f | reply) <;> exact .done _

theorem inStep_queryState (host database label : String) :
    InStep (Twins c (c.withCredentials username password)) (queryState c host database label)
      (queryState (c.withCredentials username password) host database label) := by
  unfold queryState
  cases storeUrl (stateAddress host database) host with
  | error f => exact .done _
  | ok url =>
    refine (inStep_exchange (agree_stateRequest c username password _)).bind ?_
    rintro (f | reply) <;> exact .done _

theorem inStep_fetchLog (address : String) :
    InStep (Twins c (c.withCredentials username password)) (fetchLog c address)
      (fetchLog (c.withCredentials username password) address) := by
  unfold fetchLog
  by_cases hweb : HostEntry.startsWith "http".toList address.toList = true
  · rw [if_pos hweb, if_pos hweb]
    refine (inStep_exchange (agree_logRequestAt c username password address)).bind ?_
    rintro (f | reply) <;> exact .done _
  · rw [if_neg hweb, if_neg hweb]
    exact .done _

end Load

/-- Waiting for a label is in step if the questions are. How long it waits, and when it gives up,
does not depend on the account, so the two loops make the same rounds. -/
theorem Waiting.inStep_poll {R : Http.Request → Http.Request → Prop} (w : Waiting) (label : String)
    {query query' : Talk (Except Failure LabelState)} (h : Talk.InStep R query query') (i : ℕ)
    (waited : Duration) (last : Option LabelState) :
    Talk.InStep R (w.poll label Talk.pause query i waited last)
      (w.poll label Talk.pause query' i waited last) := by
  induction i, waited, last using Waiting.poll.induct w with
  | case1 i waited last hw hnone =>
    rw [poll_of_overflow hw hnone, poll_of_overflow hw hnone]
    exact .done _
  | case3 i waited last hw =>
    rw [poll_of_deadline hw, poll_of_deadline hw]
    exact .done _
  | case2 i waited last hw d total hadvance ih =>
    rw [poll_of_advance hw hadvance, poll_of_advance hw hadvance]
    refine .quiet rfl fun _ => h.bind fun answer => ?_
    by_cases hprepare : answer = .ok .prepare
    · rw [hprepare]
      exact ih .prepare
    · rw [afterAnswer_of_ne_prepare hprepare, afterAnswer_of_ne_prepare hprepare]
      exact .done _

theorem Rotation.inStep_search {R : Http.Request → Http.Request → Prop} (r : Rotation) (n : ℕ) :
    Talk.InStep R (r.search n) (r.search n) := by
  induction n with
  | zero => exact .done _
  | succ n ih =>
    refine .quiet rfl fun slot => .quiet rfl fun reachable => ?_
    cases reachable with
    | true => exact .done _
    | false => exact ih

namespace Loader

open Load (Twins)

def withCredentials (l : Loader) (username password : String) : Loader :=
  { l with client := l.client.withCredentials username password }

variable (l : Loader) (username password : String)

/-- What follows a payload depends on its response. The log of a failure is fetched without an
account, and questions about a label go to the host of the load. -/
theorem inStep_conclude (host : String) (b : Batch) (r : Response) :
    Talk.InStep (Twins l.client (l.client.withCredentials username password))
      (l.conclude host b r) ((l.withCredentials username password).conclude host b r) := by
  unfold conclude
  cases r.status with
  | fail =>
    cases r.errorUrl with
    | none => exact .done _
    | some address =>
      exact (Load.inStep_fetchLog l.client username password address).bind fun log => .done _
  | labelAlreadyExists =>
    have hquery := Load.inStep_queryState l.client username password host b.database b.label
    refine (l.waiting.inStep_poll b.label hquery 0 Duration.zero none).bind ?_
    rintro (f | state) <;> exact .done _
  | success | publishTimeout | other => exact .done _

/-- **A load is in step with that under another account**, for every batch. The search for a host,
the chase, the questions and the log were each compared before; here they are put in order. -/
theorem inStep_load (b : Batch) :
    Talk.InStep (Twins l.client (l.client.withCredentials username password)) (l.load b)
      ((l.withCredentials username password).load b) := by
  refine (l.rotation.inStep_search l.rotation.hosts.length).bind ?_
  rintro (_ | host)
  · exact .done _
  · refine (Load.inStep_submit l.client username password host b.database b.table b.label
      (l.payload b)).bind ?_
    rintro (f | r)
    · exact .done _
    · exact l.inStep_conclude username password host b r

/-! ## Two runs -/

/-- **The client of settings under another account** is their client under it. In particular the
account has no part in whether settings give a client at all. -/
theorem client_withCredentials (s : Settings) :
    Load.Client.ofSettings (s.withCredentials username password)
      = (Load.Client.ofSettings s).map (·.withCredentials username password) := by
  unfold Load.Client.ofSettings
  rw [show Load.headers (s.withCredentials username password) = Load.headers s from rfl]
  cases Load.headers s <;> rfl

/-- A loader for another account is the loader with another account. The check looks at neither name
nor password, so one is refused where the other is. -/
theorem ofSettings_withCredentials (s : Settings) :
    ofSettings (s.withCredentials username password)
      = (ofSettings s).map (·.withCredentials username password) := by
  unfold ofSettings
  rw [client_withCredentials,
    show (s.withCredentials username password).check = s.check from rfl,
    show waitingOf (s.withCredentials username password) = waitingOf s from rfl,
    show (s.withCredentials username password).framing = s.framing from rfl]
  cases settingsFailure s.check with
  | error f => rfl
  | ok u =>
    cases settingsFailure (waitingOf s) with
    | error f => rfl
    | ok waiting =>
      cases Load.Client.ofSettings s with
      | error f => rfl
      | ok client => cases settingsFailure s.framing <;> rfl

/-- **Two outsides that treat two clients alike**: they answer twins in the same way, everything
else as well, and are cancelled at the same time. -/
structure Outside.Alike {σ : Type} (c c' : Load.Client) (outside outside' : Outside σ) : Prop where
  cancelled : outside.isCancelled = outside'.isCancelled
  answers : Talk.AnswerAlike (Twins c c') outside.partner outside'.partner

theorem Outside.scripted_alike {c c' : Load.Client} (reachable : String → Bool) :
    Outside.Alike c c' (Outside.scripted reachable) (Outside.scripted reachable) :=
  ⟨rfl, fun _ _ _ => rfl, fun _ _ _ _ => rfl⟩

/-- **What two runs of a load have in common** that differ in the account: all but the value of one
field, in the requests to the store. -/
structure SameButAccount {σ : Type} (c c' : Load.Client) (r r' : Report σ) : Prop where
  /-- They come to the same, in every detail of an outcome or a failure. -/
  result : r.result = r'.result
  /-- Those outside are left with the same. -/
  state : r.state = r'.state
  /-- Move for move, requests to the store are the same but for the account, and all others are the
  same. -/
  moves : List.Forall₂ (Move.Alike (Twins c c')) r.moves r'.moves
  /-- A request for a log stands in both runs as it is. -/
  logs : ∀ address q m, Load.logRequestAt c address = .ok q →
    (.send q, m) ∈ r.moves.zip r'.moves → m = .send q

/-- **Loads under two accounts** run alike against outsides that treat their clients alike: those
may be two stores, each of which knows its own account. -/
theorem sameButAccount_runLoad {σ : Type} {outside outside' : Outside σ}
    (h : Outside.Alike l.client (l.withCredentials username password).client outside outside')
    (start : σ) (b : Batch) :
    SameButAccount l.client (l.withCredentials username password).client
      (l.runLoad outside start b)
      ((l.withCredentials username password).runLoad outside' start b) := by
  obtain ⟨hresult, hstate, hasked⟩ := (l.inStep_load username password b).run h.answers start
  unfold runLoad
  rw [← h.cancelled]
  by_cases hstart : outside.isCancelled start = true
  · rw [if_pos hstart, if_pos hstart]
    exact ⟨rfl, rfl, .nil, fun _ _ _ _ hmem => nomatch hmem⟩
  · rw [if_neg hstart, if_neg hstart]
    refine ⟨congrArg (·.getD (.error .cancelled)) hresult, hstate, hasked, ?_⟩
    intro address q m ask hmem
    cases List.forall₂_zip hasked hmem with
    | quiet hquiet => rfl
    | send htwins => rw [htwins.eq_of_log ask]

variable {l}

/-- **Nothing but the account depends on the account.** If settings give a loader, they also do
under another account, and the two loaders run alike: for every batch, and against any two outsides
that answer in the same way what differs in the account only. -/
theorem sameButAccount_of_withCredentials {σ : Type} {s : Settings} (hl : ofSettings s = .ok l)
    {outside outside' : Outside σ}
    (h : Outside.Alike l.client (l.withCredentials username password).client outside outside')
    (start : σ) (b : Batch) :
    ofSettings (s.withCredentials username password) = .ok (l.withCredentials username password) ∧
      SameButAccount l.client (l.withCredentials username password).client
        (l.runLoad outside start b)
        ((l.withCredentials username password).runLoad outside' start b) := by
  refine ⟨?_, l.sameButAccount_runLoad username password h start b⟩
  rw [ofSettings_withCredentials, hl]
  rfl

/-- A load that is sent on, rejected and diagnosed, under two accounts: the requests that put the
payload differ, that for the log does not. -/
theorem sameButAccount_of_rejected :
    ∃ l, ofSettings (Settings.ofHosts ["fe:8030"]) = .ok l ∧
      let outside := Outside.scripted fun _ => true
      let reply (status : Nat) (headers : Http.Headers) (body : String) : Option Http.Reply :=
        some ⟨status, headers, some (Bytes.ofText body)⟩
      let start : UInt64 × List (Option Http.Reply) := (0, [
        reply 307 [("location", Bytes.ofText "http://be:8040/load")] "",
        reply 200 [] "\x7b\"Status\":\"Fail\",\"ErrorURL\":\"http://be:8040/log\"\x7d",
        reply 200 [] "row 1: no number"])
      let b := Batch.ofRows "d" "t" "L1" [Bytes.ofText "1,a"]
      let l' := l.withCredentials "admin" "secret"
      let r := l.runLoad outside start b
      let r' := l'.runLoad outside start b
      Outside.Alike l.client l'.client outside outside ∧
        (r.moves.zip r'.moves).map (fun m => (m.1.request?.map (·.method), decide (m.1 = m.2)))
          = [(none, true), (none, true), (some .put, false), (some .put, false),
            (some .get, true)] ∧
        ofSettings ((Settings.ofHosts ["fe:8030"]).withCredentials "admin" "secret") = .ok l' ∧
        SameButAccount l.client l'.client r r' := by
  have hl : ofSettings (Settings.ofHosts ["fe:8030"]) = .ok _ := rfl
  refine ⟨_, hl, Outside.scripted_alike _, by decide +kernel, ?_⟩
  exact sameButAccount_of_withCredentials "admin" "secret" hl (Outside.scripted_alike _) _ _

end Loader

end Ingest
