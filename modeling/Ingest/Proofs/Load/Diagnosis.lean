import Ingest.Proofs.Load.Course
import Ingest.Proofs.Store.Response
import Ingest.Proofs.Text.Utf8

/-!
# The diagnosis of a rejected load

A rejected load fails as one, whatever becomes of its log. `Diagnosed` goes through what can become
of it: the response does not say where it is, no request can be made to the place, no reply comes,
the reply breaks off, or it comes whole. Each of them leaves a log or none, and none of them is a
failure of its own (`diagnosed_of_fetchLog`).

The response in the failure is the object that the store sent, and nothing of it is lost
(`response_of_decided`). So what the store said about the rejected rows is what the caller is told,
together with the log (`runLoad_of_fail`).
-/

namespace Ingest.Load

open Http (Reply Request)
open Talk (Record Sending sent reached puts gets)

variable {c : Client} {address : String} {q : Request} {reply : Option Reply} {r : Response}
  {t : Record} {log : Option String}

/-! ## The log in a reply -/

/-- **What log a reply leaves.** It may be the text of the log, why there is none, or nothing; a
status other than success leaves nothing. -/
structure LogIn (r : Reply) (log : Option String) : Prop where
  /-- Of a text at most 3000 characters are kept. -/
  taken : r.status = 200 → ∀ bs, r.body = some bs → bs ≠ [] →
    log = some (String.ofList ((Utf8.decodeLossy bs).toList.take 3000))
  /-- A success without a body leaves no log. -/
  empty : r.status = 200 → r.body = some [] → log = none
  /-- Nor does any other status, whatever the body is. -/
  refused : r.status ≠ 200 → ∀ bs, r.body = some bs → log = none
  /-- A reply that breaks off is none. -/
  broken : r.body = none → log = some (failedLog .brokenBody)

/-- **What log a question leaves**, with the reply to it if there is one. That none came is a log,
too. -/
structure LogFrom (q : Request) (reply : Option Reply) (log : Option String) : Prop where
  unanswered : reply = none → log = some (failedLog (.unanswered q.url))
  answered : ∀ r, reply = some r → LogIn r log

theorem logIn_logOf (r : Reply) : LogIn r (logOf r) := by
  refine ⟨fun hok bs hbody hne => ?_, fun hok hbody => ?_, fun hother bs hbody => ?_,
    fun hbody => ?_⟩
  · have htext : Utf8.decodeLossy bs ≠ "" := fun h => hne (Utf8.decodeLossy_eq_empty_iff.1 h)
    simp only [logOf, content, hbody, hok, ne_eq, not_true_eq_false, if_false, if_neg htext,
      cutText, logLength]
  · have htext : Utf8.decodeLossy [] = "" := Utf8.decodeLossy_eq_empty_iff.2 rfl
    simp only [logOf, content, hbody, hok, htext, ne_eq, not_true_eq_false, if_false, if_true]
  · simp only [logOf, content, hbody, ne_eq, hother, not_false_eq_true, if_true]
  · simp only [logOf, content, hbody]

/-! ## Fetching a log -/

/-- **What becomes of the log of a response**, with the questions that were asked for it. -/
structure Diagnosed (c : Client) (r : Response) (questions : List Sending)
    (log : Option String) : Prop where
  /-- Without an address of the web nothing is asked. -/
  nowhere : (∀ address, r.errorUrl = some address →
    HostEntry.startsWith "http".toList address.toList = false) → questions = [] ∧ log = none
  /-- Nothing is asked either where no request can be made to the address. -/
  unasked : ∀ address f, r.errorUrl = some address →
    HostEntry.startsWith "http".toList address.toList = true →
    logRequestAt c address = .error f → questions = [] ∧ log = some (failedLog f)
  /-- There is one question at most. -/
  asked : ∀ address q, r.errorUrl = some address →
    HostEntry.startsWith "http".toList address.toList = true →
    logRequestAt c address = .ok q →
    ∃ reply, questions = [(q, reply)] ∧ LogFrom q reply log

namespace Diagnosed

theorem of_none (h : r.errorUrl = none) : Diagnosed c r [] none :=
  ⟨fun _ => ⟨rfl, rfl⟩, fun _ _ haddress => (nomatch h.symm.trans haddress),
    fun _ _ haddress => (nomatch h.symm.trans haddress)⟩

/-- An address that does not begin like one of the web is not asked, and no log is kept. There is no
failure in this either. -/
theorem of_not_web (h : r.errorUrl = some address)
    (hweb : ¬ HostEntry.startsWith "http".toList address.toList = true) :
    Diagnosed c r [] none := by
  refine ⟨fun _ => ⟨rfl, rfl⟩, fun address' f haddress hweb' => ?_,
    fun address' q haddress hweb' => ?_⟩
  all_goals
    cases h.symm.trans haddress
    exact absurd hweb' hweb

theorem of_unasked {f : Http.Fault} (h : r.errorUrl = some address)
    (hweb : HostEntry.startsWith "http".toList address.toList = true)
    (hq : logRequestAt c address = .error f) : Diagnosed c r [] (some (failedLog f)) := by
  refine ⟨fun hnone => ?_, fun address' f' haddress _ hq' => ?_,
    fun address' q haddress _ hq' => ?_⟩
  · exact nomatch hweb.symm.trans (hnone address h)
  · cases h.symm.trans haddress
    cases hq.symm.trans hq'
    exact ⟨rfl, rfl⟩
  · cases h.symm.trans haddress
    exact nomatch hq.symm.trans hq'

/-- A log is asked for once, and whatever comes of it is kept as the log: its text, or the reason
why there is none. -/
theorem of_asked (h : r.errorUrl = some address)
    (hweb : HostEntry.startsWith "http".toList address.toList = true)
    (hq : logRequestAt c address = .ok q) (hlog : LogFrom q reply log) :
    Diagnosed c r [(q, reply)] log := by
  refine ⟨fun hnone => ?_, fun address' f haddress _ hq' => ?_,
    fun address' q' haddress _ hq' => ?_⟩
  · exact nomatch hweb.symm.trans (hnone address h)
  · cases h.symm.trans haddress
    exact nomatch hq.symm.trans hq'
  · cases h.symm.trans haddress
    cases hq.symm.trans hq'
    exact ⟨reply, rfl, hlog⟩

end Diagnosed

/-- **Fetching a log diagnoses**, and it cannot fail. The four ways in which it goes are those of
`Diagnosed`, in the order in which the fetching finds out about them. -/
theorem diagnosed_of_fetchLog (haddress : r.errorUrl = some address)
    (h : (fetchLog c address).Held t log) : Diagnosed c r (sent t) log := by
  unfold fetchLog at h
  by_cases hweb : HostEntry.startsWith "http".toList address.toList = true
  · rw [if_pos hweb] at h
    obtain ⟨t₁, e, t₂, rfl, h₁, h₂⟩ := Dialogue.held_bind.1 h
    rcases held_exchange.1 h₁ with ⟨f, hf, rfl, rfl⟩ | ⟨q, reply, hq, rfl, rfl⟩
    · obtain ⟨rfl, rfl⟩ := Dialogue.held_done.1 h₂
      exact .of_unasked haddress hweb hf
    · cases reply with
      | none =>
        obtain ⟨rfl, rfl⟩ := Dialogue.held_done.1 h₂
        exact .of_asked haddress hweb hq ⟨fun _ => rfl, fun _ hr => (nomatch hr)⟩
      | some r =>
        obtain ⟨rfl, rfl⟩ := Dialogue.held_done.1 h₂
        refine .of_asked haddress hweb hq ⟨fun hr => (nomatch hr), ?_⟩
        rintro _ ⟨⟩
        exact logIn_logOf r
  · rw [if_neg hweb] at h
    obtain ⟨rfl, rfl⟩ := Dialogue.held_done.1 h
    exact .of_not_web haddress hweb

/-! ## The response -/

/-- A response is read from a success with a body that does not break off. Bytes that are no text
are replaced before it is read. -/
theorem responseOf_eq_ok {reply : Reply} (h : responseOf reply = .ok r) :
    ∃ bs, reply.body = some bs ∧ reply.status = 200 ∧
      Response.read (Utf8.decodeLossy bs) = .ok r := by
  unfold responseOf content at h
  cases hbody : reply.body with
  | none =>
    simp only [hbody, reduceCtorEq] at h
  | some bs =>
    refine ⟨bs, rfl, ?_⟩
    by_cases hok : reply.status = 200
    · by_cases htext : Utf8.decodeLossy bs = ""
      · simp only [hbody, hok, htext, ne_eq, not_true_eq_false, if_false, if_true,
          reduceCtorEq] at h
      · simp only [hbody, hok, htext, ne_eq, not_true_eq_false, if_false] at h
        exact ⟨hok, h⟩
    · simp only [hbody, hok, ne_eq, not_false_eq_true, if_true, reduceCtorEq] at h

/-- **The response that is decided on** is all of the object in the last reply to a payload. A field
that has the wrong type is kept as it came, so the text can be written again. -/
theorem response_of_decided {l : List Sending} (h : decided l = some r) :
    ∃ reply bs m, lastReply (puts l) = some reply ∧ reply.status = 200 ∧ reply.body = some bs ∧
      Json.ofText? (Utf8.decodeLossy bs) = some (.obj m) ∧ r.Lossless m := by
  obtain ⟨reply, hreply, hr⟩ := Option.bind_eq_some_iff.1 h
  obtain ⟨bs, hbody, hok, hread⟩ := responseOf_eq_ok (toOption_eq_some_iff.1 hr)
  obtain ⟨m, hm, hobject⟩ := Response.ofText_eq_ok_iff.1 (Response.read_eq_ok_iff.1 hread)
  exact ⟨reply, bs, m, hreply, hok, hbody, hm,
    Response.lossless_of_ofObject (Json.sorted_of_ofText? hm) hobject⟩

end Ingest.Load

namespace Ingest.Loader

open Load (decided lastReply Diagnosed)
open Talk (Record Sending sent reached puts gets)

variable {l : Loader} {b : Batch} {host : String} {r : Response} {t : Record}
  {result : Except Failure Outcome}

/-- A rejected load fails with its response, and with a log of the kind the address in it allows.
The requests behind the payload are those for the log. -/
theorem diagnosed_of_conclude (hfail : r.status = .fail)
    (h : (l.conclude host b r).Held t result) :
    ∃ log, result = .error (.rejected b.label r log) ∧ Diagnosed l.client r (sent t) log := by
  simp only [conclude, hfail] at h
  cases haddress : r.errorUrl with
  | none =>
    simp only [haddress] at h
    obtain ⟨rfl, rfl⟩ := Dialogue.held_done.1 h
    exact ⟨none, rfl, .of_none haddress⟩
  | some address =>
    simp only [haddress] at h
    obtain ⟨t₁, log, t₂, rfl, h₁, h₂⟩ := Dialogue.held_bind.1 h
    obtain ⟨rfl, rfl⟩ := Dialogue.held_done.1 h₂
    rw [List.append_nil]
    exact ⟨log, rfl, Load.diagnosed_of_fetchLog haddress h₁⟩

/-- A load that came to the response of a failure fails so, with that response and with the log that
its diagnosis left. -/
theorem diagnosed_of_load (h : (l.load b).Held t result) (hr : decided (sent t) = some r)
    (hfail : r.status = .fail) : ∃ log, result = .error (.rejected b.label r log) ∧
      Diagnosed l.client r (gets (sent t)) log := by
  unfold load at h
  obtain ⟨t₁, found, t', rfl, h₁, h'⟩ := Dialogue.held_bind.1 h
  obtain ⟨hsearch, -, -⟩ := Rotation.held_next h₁
  cases found with
  | none =>
    obtain ⟨rfl, rfl⟩ := Dialogue.held_done.1 h'
    rw [List.append_nil, hsearch] at hr
    exact nomatch hr
  | some host =>
    obtain ⟨t₂, e, t₃, rfl, h₂, h₃⟩ := Dialogue.held_bind.1 h'
    rw [Talk.sent_append, hsearch, List.nil_append, Talk.sent_append] at hr ⊢
    cases e with
    | error f =>
      obtain ⟨rfl, rfl⟩ := Dialogue.held_done.1 h₃
      have hnone : decided (sent t₂ ++ sent []) = none :=
        decided_of_submit h₂ fun x hx => (nomatch hx)
      exact nomatch hnone.symm.trans hr
    | ok r' =>
      obtain ⟨-, hget, -⟩ := held_conclude h₃
      obtain ⟨-, hput, -⟩ := Load.held_submit h₂
      obtain rfl : r' = r := Option.some.inj ((decided_of_submit h₂ hget).symm.trans hr)
      rw [(Talk.puts_append_gets hput hget).2]
      exact diagnosed_of_conclude hfail h₃

/-- **A rejected load is never masked by its diagnosis.** Whoever answers, and whatever the answers
are: as long as nothing is cancelled, a load whose last payload was answered with a failure fails
with its label and all of that response. The log that goes with it is the one that the diagnosis
left, and nothing that goes wrong with the log takes the place of the failure. -/
theorem runLoad_of_fail {σ : Type} {outside : Outside σ} (hout : outside.Undisturbed) (l : Loader)
    (start : σ) (b : Batch)
    (hr : decided (sent ((l.load b).transcript outside.partner start)) = some r)
    (hfail : r.status = .fail) :
    let requests := sent ((l.load b).transcript outside.partner start)
    (∃ reply bs m, lastReply (puts requests) = some reply ∧ reply.status = 200 ∧
      reply.body = some bs ∧ Json.ofText? (Utf8.decodeLossy bs) = some (.obj m) ∧ r.Lossless m) ∧
    ∃ log, (l.runLoad outside start b).result = .error (.rejected b.label r log) ∧
      Diagnosed l.client r (gets requests) log := by
  intro requests
  obtain ⟨result, hresult, hheld, -⟩ := Dialogue.held_transcript hout.answers start (l.load b)
  obtain ⟨log, rfl, hlog⟩ := diagnosed_of_load hheld hr hfail
  refine ⟨Load.response_of_decided hr, log, ?_, hlog⟩
  unfold runLoad
  rw [hout.not_cancelled start, if_neg Bool.false_ne_true]
  exact congrArg (·.getD (.error .cancelled)) hresult

theorem runLoad_of_fail_of_log :
    ∃ l, ofSettings (Settings.ofHosts ["fe:8030"]) = .ok l ∧
      let outside := Outside.scripted fun address => address = "http://fe:8030"
      let reply (body : String) : Option Http.Reply := some ⟨200, [], some (Bytes.ofText body)⟩
      let start : UInt64 × List (Option Http.Reply) := (0, [
        reply ("\x7b\"Status\":\"Fail\",\"NumberLoadedRows\":-1," ++
          "\"ErrorURL\":\"http://be:8040/log\"\x7d"),
        reply "row 1: no number"])
      let b := Batch.ofRows "d" "t" "L1" [Bytes.ofText "1,a"]
      let requests := sent ((l.load b).transcript outside.partner start)
      let result := (l.runLoad outside start b).result
      ∃ r, decided requests = some r ∧ r.status = .fail ∧
        r.errorUrl = some "http://be:8040/log" ∧ r.loadedRows = none ∧
        result = .error (.rejected "L1" r (some "row 1: no number")) ∧
        Diagnosed l.client r (gets requests) (some "row 1: no number") := by
  have hl : ofSettings (Settings.ofHosts ["fe:8030"]) = .ok _ := rfl
  have hout := Outside.scripted_undisturbed fun address => address = "http://fe:8030"
  refine ⟨_, hl, ?_⟩
  intro outside reply start b requests result
  have hresponse : (decided requests).map (fun r => (r.status, r.errorUrl, r.loadedRows))
      = some (.fail, some "http://be:8040/log", none) := by decide +kernel
  obtain ⟨r, hr, hparts⟩ := Option.map_eq_some_iff.1 hresponse
  simp only [Prod.mk.injEq] at hparts
  obtain ⟨hfail, haddress, hrows⟩ := hparts
  obtain ⟨-, log, hresult, hlog⟩ := runLoad_of_fail hout _ start b hr hfail
  have htext : ((result.map fun _ => none).tryCatch fun f => .ok f.errorLog).toOption
      = some (some "row 1: no number") := by decide +kernel
  rw [show result = _ from hresult] at htext
  obtain rfl : log = some "row 1: no number" := Option.some.inj htext
  exact ⟨r, hr, hfail, haddress, hrows, hresult, hlog⟩

end Ingest.Loader
