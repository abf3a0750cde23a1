import Ingest.Load.Attempt
import Ingest.Proofs.Host.Rotation
import Ingest.Proofs.Load.Polling
import Ingest.Proofs.Settings.Check

/-!
# The course of a load

A load is a choice of a host, a chain of payloads, and perhaps questions. `Course` says how the
requests of a load and its result hang together, for whatever the probes and the replies were: the
payloads come first and their last reply decides what follows, and `Conclusion` says what that is.
Both speak of the requests alone, in the order in which they were sent.

`runLoad_course` is the law of a whole run. It is put together from the laws of the parts along the
list of exchanges: the search for a host sends nothing, a submission puts payloads only, and what
follows a response asks questions only.
-/

namespace Ingest.Loader

open Load (Chain Puttable AsksState decided told lastReply)
open Talk (Record Sending sent reached puts gets)

/-- **What follows a response**: which questions may be asked, and what the load comes to. It is
stated about the questions and the result alone, so it holds of a loader as of anything else that
sends the same requests. -/
structure Conclusion (l : Loader) (b : Batch) (host : String) (r : Response)
    (questions : List Sending) (result : Except Failure Outcome) : Prop where
  /-- Only a rejected load and a label that was used before leave something to ask. -/
  asks : questions ≠ [] → r.status = .fail ∨ r.status = .labelAlreadyExists
  /-- A label is asked about through the host that was chosen. -/
  asks_state : r.status = .labelAlreadyExists →
    ∀ x ∈ questions, AsksState l.client host b.database b.label x.1
  /-- A log is asked for once, where the response says and if that is an address of the web. -/
  asks_log : r.status = .fail → questions = [] ∨ ∃ address q reply,
    r.errorUrl = some address ∧
      HostEntry.startsWith "http".toList address.toList = true ∧
      Load.logRequestAt l.client address = .ok q ∧ questions = [(q, reply)]
  /-- The load is an outcome by its status alone, or by the state that its label was last told to
  be in. -/
  accepted : ∀ o, result = .ok o ↔
    (r.status ≠ .fail ∧ r.status ≠ .labelAlreadyExists ∧ o = ⟨host, b.label, r, none⟩) ∨
      (r.status = .labelAlreadyExists ∧ ∃ state, told b.label questions = some state ∧
        (state = .visible ∨ state = .committed) ∧ o = ⟨host, b.label, r, some state⟩)
  /-- A rejected load fails as one, with the response as it came. -/
  rejected : r.status = .fail → ∃ log, result = .error (.rejected b.label r log)

/-- **The course of a load** through a host: the requests in order and the result. A load
without a response, whatever was in the way of one, asks nothing and fails; a load with one
concludes from it. -/
structure Course (l : Loader) (b : Batch) (host : String) (requests : List Sending)
    (result : Except Failure Outcome) : Prop where
  /-- Payloads come first. -/
  puts_first : requests = puts requests ++ gets requests
  /-- They are a chain of followed redirects from the address of the table on. -/
  chain : ∀ url, Url.parse (Load.submitAddress host b.database b.table) = .ok url →
    Chain l.client b.label (l.payload b) url (puts requests)
  /-- The chain is bounded. -/
  bounded : (puts requests).length ≤ Load.maxRedirects + 1
  /-- It is empty only if nothing can be put to the address under the label. -/
  none_put : puts requests = [] ↔ ¬ Puttable (Load.submitAddress host b.database b.table) b.label
  /-- Without a response in the reply to the last payload nothing is asked, and the load fails. -/
  undecided : decided requests = none → gets requests = [] ∧ ∃ f, result = .error f
  /-- With one, it decides what follows. -/
  follows : ∀ r, decided requests = some r → l.Conclusion b host r (gets requests) result

variable {l : Loader} {b : Batch} {host : String} {t : Record} {result : Except Failure Outcome}

theorem verdict_eq_succeeded {s : LabelState} :
    s.verdict = .succeeded ↔ s = .visible ∨ s = .committed := by
  cases s <;> decide

/-- A rejected load fails as one, whatever becomes of its log. A log is asked for at most once, at
the address the response gives, and what is found there only goes into the failure. -/
theorem held_conclude_of_fail {r : Response} (hfail : r.status = .fail)
    (h : (l.conclude host b r).Held t result) :
    reached t = none ∧
      (sent t = [] ∨ ∃ address q reply, r.errorUrl = some address ∧
        HostEntry.startsWith "http".toList address.toList = true ∧
        Load.logRequestAt l.client address = .ok q ∧ sent t = [(q, reply)]) ∧
      ∃ log, result = .error (.rejected b.label r log) := by
  simp only [conclude, hfail] at h
  cases haddress : r.errorUrl with
  | none =>
    simp only [haddress] at h
    obtain ⟨rfl, rfl⟩ := Dialogue.held_done.1 h
    exact ⟨rfl, .inl rfl, none, rfl⟩
  | some address =>
    simp only [haddress] at h
    obtain ⟨t₁, log, t₂, rfl, h₁, h₂⟩ := Dialogue.held_bind.1 h
    obtain ⟨rfl, rfl⟩ := Dialogue.held_done.1 h₂
    obtain ⟨hreached, hsent⟩ := Load.held_fetchLog h₁
    rw [List.append_nil]
    refine ⟨hreached, hsent.imp id ?_, log, rfl⟩
    rintro ⟨q, reply, hweb, hq, hs⟩
    exact ⟨address, q, reply, rfl, hweb, hq, hs⟩

/-- A label that was used before is asked about, and only the last state that is told decides: the
load counts as done exactly if that state is visible or committed. The response itself says nothing
about the rows, since they may have come with an earlier load under the same label. -/
theorem held_conclude_of_used {r : Response} (hused : r.status = .labelAlreadyExists)
    (h : (l.conclude host b r).Held t result) :
    reached t = none ∧ (∀ x ∈ sent t, AsksState l.client host b.database b.label x.1) ∧
      ∀ o, result = .ok o ↔ ∃ state, told b.label (sent t) = some state ∧
        (state = .visible ∨ state = .committed) ∧ o = ⟨host, b.label, r, some state⟩ := by
  simp only [conclude, hused] at h
  obtain ⟨t₁, e, t₂, rfl, h₁, h₂⟩ := Dialogue.held_bind.1 h
  obtain ⟨hreached, hasks, hlast⟩ := Load.held_poll _ _ _ _ h₁
  have ht₂ : t₂ = [] ∧ result = e.map fun state => ⟨host, b.label, r, some state⟩ := by
    cases e <;> exact Dialogue.held_done.1 h₂
  obtain ⟨rfl, rfl⟩ := ht₂
  rw [List.append_nil]
  refine ⟨hreached, hasks, fun o => ⟨fun ho => ?_, ?_⟩⟩
  · cases e with
    | error f => cases ho
    | ok state =>
      obtain ⟨htold, hverdict⟩ := (hlast state).1 rfl
      exact ⟨state, htold, verdict_eq_succeeded.1 hverdict, (Except.ok.inj ho).symm⟩
  · rintro ⟨state, htold, hstate, rfl⟩
    rw [(hlast state).2 ⟨htold, verdict_eq_succeeded.2 hstate⟩]
    rfl

theorem held_conclude_of_other {r : Response} (hfail : r.status ≠ .fail)
    (hused : r.status ≠ .labelAlreadyExists) (h : (l.conclude host b r).Held t result) :
    t = [] ∧ result = .ok ⟨host, b.label, r, none⟩ := by
  unfold conclude at h
  split at h
  · next hstatus => exact absurd hstatus hfail
  · next hstatus => exact absurd hstatus hused
  · exact Dialogue.held_done.1 h

theorem method_logRequestAt {c : Load.Client} {address : String} {q : Http.Request}
    (h : Load.logRequestAt c address = .ok q) : q.method = .get := by
  unfold Load.logRequestAt at h
  split at h
  · exact Load.method_logRequest h
  · exact nomatch h

/-- **What a load concludes from a response.** The three kinds of status are put together: of
every exchange that follows a response it is a question, and the result is one that `Conclusion`
admits. -/
theorem held_conclude {r : Response} (h : (l.conclude host b r).Held t result) :
    reached t = none ∧ (∀ x ∈ sent t, x.1.method = .get) ∧
      l.Conclusion b host r (sent t) result := by
  by_cases hfail : r.status = .fail
  · obtain ⟨hreached, hsent, hresult⟩ := held_conclude_of_fail hfail h
    have hused : r.status ≠ .labelAlreadyExists := by
      rw [hfail]
      exact fun h => nomatch h
    refine ⟨hreached, ?_, ⟨fun _ => .inl hfail, fun h => absurd h hused, fun _ => hsent, ?_,
      fun _ => hresult⟩⟩
    · rcases hsent with hnil | ⟨address, q, reply, -, -, hq, hs⟩
      · rw [hnil]
        exact fun x hx => nomatch hx
      · intro x hx
        rw [hs] at hx
        rw [List.mem_singleton.1 hx]
        exact method_logRequestAt hq
    · obtain ⟨log, rfl⟩ := hresult
      simp [hfail]
  by_cases hused : r.status = .labelAlreadyExists
  · obtain ⟨hreached, hasks, hresult⟩ := held_conclude_of_used hused h
    refine ⟨hreached, fun x hx => (hasks x hx).method,
      ⟨fun _ => .inr hused, fun _ => hasks, fun h => absurd h hfail, fun o => ?_,
        fun h => absurd h hfail⟩⟩
    simp only [hused, ne_eq, reduceCtorEq, not_true_eq_false, false_and, and_false, false_or,
      true_and]
    exact hresult o
  · obtain ⟨rfl, rfl⟩ := held_conclude_of_other hfail hused h
    refine ⟨rfl, fun x hx => (nomatch hx), ⟨fun h => absurd rfl h, fun h => absurd h hused,
      fun h => absurd h hfail, fun o => ?_, fun h => absurd h hfail⟩⟩
    simp only [hfail, hused, ne_eq, not_false_eq_true, true_and, false_and, or_false,
      Except.ok.injEq]
    exact eq_comm

/-- What is asked after a submission does not change the response that was decided on. -/
theorem decided_of_submit {t₁ : Record} {e : Except Failure Response} {questions : List Sending}
    (h : (Load.submit l.client host b.database b.table b.label (l.payload b)).Held t₁ e)
    (hget : ∀ x ∈ questions, x.1.method = .get) :
    decided (sent t₁ ++ questions) = e.toOption := by
  obtain ⟨-, hput, -, -, -, hdecided⟩ := Load.held_submit h
  unfold decided
  rw [(Talk.puts_append_gets hput hget).1]
  exact hdecided

/-- **A submission and what follows it are the course of a load**: the payloads are those of the
submission, and what follows is questions. No assumption is made on how the questions came about, so
the two halves of a load are proved apart and meet here. -/
theorem course_of_submit {t₁ : Record} {e : Except Failure Response} {questions : List Sending}
    (h : (Load.submit l.client host b.database b.table b.label (l.payload b)).Held t₁ e)
    (hget : ∀ x ∈ questions, x.1.method = .get)
    (hfailed : ∀ f, e = .error f → questions = [] ∧ ∃ f, result = .error f)
    (hfollows : ∀ r, e = .ok r → l.Conclusion b host r questions result) :
    l.Course b host (sent t₁ ++ questions) result := by
  obtain ⟨-, hput, hbound, hchain, hnone, -⟩ := Load.held_submit h
  obtain ⟨hputs, hgets⟩ := Talk.puts_append_gets hput hget
  have hresponse := decided_of_submit h hget
  refine ⟨?_, ?_, ?_, ?_, fun hn => ?_, fun r hr => ?_⟩
  · rw [hputs, hgets]
  · rwa [hputs]
  · rwa [hputs]
  · rwa [hputs]
  · rw [hgets]
    cases e with
    | error f => exact hfailed f rfl
    | ok r => exact nomatch hresponse.symm.trans hn
  · rw [hgets]
    cases e with
    | error f => exact nomatch hresponse.symm.trans hr
    | ok r' =>
      obtain rfl : r' = r := Option.some.inj (hresponse.symm.trans hr)
      exact hfollows r' rfl

/-- **What a load comes to.** Without a host nothing is sent; through a host the load takes its
course. The record is one of any exchanges at all: who answered, and when, is not mentioned. -/
theorem held_load (h : (l.load b).Held t result) :
    (reached t = none → sent t = [] ∧ result = .error (.noAvailableHost l.rotation.hosts)) ∧
      ∀ host, reached t = some host → host ∈ l.rotation.hosts.map HostEntry.normalize ∧
        l.Course b host (sent t) result := by
  unfold load at h
  obtain ⟨t₁, found, t', rfl, h₁, h'⟩ := Dialogue.held_bind.1 h
  obtain ⟨hsearch, hfound, hmem⟩ := Rotation.held_next h₁
  cases found with
  | none =>
    obtain ⟨rfl, rfl⟩ := Dialogue.held_done.1 h'
    rw [List.append_nil, hfound, hsearch]
    exact ⟨fun _ => ⟨rfl, rfl⟩, fun host hhost => nomatch hhost⟩
  | some host =>
    rw [Talk.reached_append, Talk.sent_append, hfound, hsearch, List.nil_append]
    refine ⟨fun hnone => (nomatch hnone), ?_⟩
    rintro host' ⟨⟩
    refine ⟨hmem host rfl, ?_⟩
    obtain ⟨t₂, e, t₃, rfl, h₂, h₃⟩ := Dialogue.held_bind.1 h'
    rw [Talk.sent_append]
    cases e with
    | error f =>
      -- without a response nothing follows
      obtain ⟨rfl, rfl⟩ := Dialogue.held_done.1 h₃
      exact course_of_submit h₂ (fun x hx => (nomatch hx)) (fun f' _ => ⟨rfl, f, rfl⟩)
        (fun r hr => (nomatch hr))
    | ok r =>
      obtain ⟨-, hget, hconclusion⟩ := held_conclude h₃
      refine course_of_submit h₂ hget (fun f hf => (nomatch hf)) fun r' hr' => ?_
      obtain rfl : r = r' := Except.ok.inj hr'
      exact hconclusion

/-! ## Whole runs -/

/-- A loader is put together from what its settings, if they pass the check, say of its parts. Every
law of a loader that begins with its settings is read off here. -/
theorem ofSettings_eq_ok {s : Settings} :
    ofSettings s = .ok l ↔ settingsFailure s.check = .ok () ∧
      ∃ waiting client framing, settingsFailure (waitingOf s) = .ok waiting ∧
        Load.Client.ofSettings s = .ok client ∧ settingsFailure s.framing = .ok framing ∧
        l = ⟨⟨s.hosts, s.connectTimeout⟩, client, framing, waiting⟩ := by
  unfold ofSettings
  simp only [bind_eq_ok]
  constructor
  · rintro ⟨_, hcheck, waiting, hwaiting, client, hclient, framing, hframing, h⟩
    exact ⟨hcheck, waiting, client, framing, hwaiting, hclient, hframing, (Except.ok.inj h).symm⟩
  · rintro ⟨hcheck, waiting, client, framing, hwaiting, hclient, hframing, rfl⟩
    exact ⟨(), hcheck, waiting, hwaiting, client, hclient, framing, hframing, rfl⟩

theorem hosts_ofSettings {s : Settings} (h : ofSettings s = .ok l) :
    l.rotation.hosts = s.hosts := by
  obtain ⟨-, _, _, _, -, -, -, rfl⟩ := ofSettings_eq_ok.1 h
  rfl

/-- A loader of settings, with what is found of it by evaluation. -/
theorem exists_loader {s : Settings} {P : Loader → Bool}
    (h : (ofSettings s).toOption.map P = some true) : ∃ l, ofSettings s = .ok l ∧ P l = true := by
  cases hl : ofSettings s with
  | error f =>
    rw [hl] at h
    exact nomatch h
  | ok l =>
    rw [hl] at h
    exact ⟨l, rfl, Option.some.inj h⟩

/-- **Those outside never cancel**: every question is answered. -/
structure Outside.Undisturbed {σ : Type} (outside : Outside σ) : Prop where
  not_cancelled : ∀ s, outside.isCancelled s = false
  answers : outside.partner.Answers

/-- Those outside as a script: hosts that can be connected to, and replies in order. When the
replies are used up, no more come. -/
def Outside.scripted (reachable : String → Bool) : Outside (UInt64 × List (Option Http.Reply)) where
  partner := ⟨fun s q =>
    match q with
    | .claim => (some s.1, (s.1 + 1, s.2))
    | .probe address _ => (some (reachable address), s)
    | .send _ => (some (s.2.headD none), (s.1, s.2.tail))
    | .pause _ => (some (), s)⟩
  isCancelled _ := false

theorem Outside.scripted_undisturbed (reachable : String → Bool) :
    (Outside.scripted reachable).Undisturbed := by
  refine ⟨fun _ => rfl, fun s q => ?_⟩
  cases q <;> exact ⟨_, _, rfl⟩

/-- **The law of a whole run.** Whoever answers, and whatever the answers are: as long as nothing is
cancelled, a load without a host sends nothing and says which hosts there were, and a load through a
host, which is one of the entered ones, takes its course.

The run is first turned into a record that is held to its end, which is possible since the outside
always answers; after that only the record is spoken of. -/
theorem runLoad_course {σ : Type} {s : Settings} (hl : ofSettings s = .ok l)
    {outside : Outside σ} (hout : outside.Undisturbed) (start : σ) (b : Batch) :
    let t := (l.load b).transcript outside.partner start
    let report := l.runLoad outside start b
    report.moves = t.map Sigma.fst ∧
      (reached t = none →
        sent t = [] ∧ report.result = .error (.noAvailableHost s.hosts)) ∧
      ∀ host, reached t = some host → host ∈ s.hosts.map HostEntry.normalize ∧
        l.Course b host (sent t) report.result := by
  intro t report
  obtain ⟨a, hresult, hheld, hasked⟩ :=
    Dialogue.held_transcript hout.answers start (l.load b)
  have hreport : report.result = a ∧ report.moves = t.map Sigma.fst := by
    show (l.runLoad outside start b).result = a ∧ (l.runLoad outside start b).moves = _
    unfold runLoad
    rw [hout.not_cancelled start, if_neg Bool.false_ne_true]
    exact ⟨congrArg (·.getD (.error .cancelled)) hresult, hasked⟩
  rw [hreport.1, ← hosts_ofSettings hl]
  exact ⟨hreport.2, held_load hheld⟩

/-- A load that is sent on, rejected and diagnosed: two payloads and a question. All requests of the
run are named, so this is also a load for which none of the cases of `Course` is empty talk. -/
theorem runLoad_course_of_rejected :
    ∃ l, ofSettings (Settings.ofHosts ["fe:8030"]) = .ok l ∧
      let outside := Outside.scripted fun address => address = "http://fe:8030"
      let reply (status : Nat) (headers : Http.Headers) (body : String) : Option Http.Reply :=
        some ⟨status, headers, some (Bytes.ofText body)⟩
      let start : UInt64 × List (Option Http.Reply) := (0, [
        reply 307 [("location", Bytes.ofText "http://be:8040/load")] "",
        reply 200 [] "\x7b\"Status\":\"Fail\",\"ErrorURL\":\"http://be:8040/log\"\x7d",
        reply 200 [] "row 1: no number"])
      let b := Batch.ofRows "d" "t" "L1" [Bytes.ofText "1,a"]
      let t := (l.load b).transcript outside.partner start
      outside.Undisturbed ∧ reached t = some "http://fe:8030" ∧
        (sent t).map (·.1.method) = [.put, .put, .get] ∧
        l.Course b "http://fe:8030" (sent t) (l.runLoad outside start b).result := by
  have hl : ofSettings (Settings.ofHosts ["fe:8030"]) = .ok _ := rfl
  have hout := Outside.scripted_undisturbed fun address => address = "http://fe:8030"
  refine ⟨_, hl, hout, by decide +kernel, by decide +kernel, ?_⟩
  exact ((runLoad_course hl hout _ _).2.2 _ (by decide +kernel)).2

end Ingest.Loader
