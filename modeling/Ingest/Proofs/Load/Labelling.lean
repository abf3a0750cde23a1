import Ingest.Proofs.Load.Addressing
import Ingest.Proofs.Load.Interruption

/-!
# The label that is asked about

The label of a batch goes out in two ways: as the value of a header with the payload, and as a field
of an address when the store is asked what became of the load. The two have nothing in common but
the text they are made from, and if one of them lost anything of it a load would be judged by what
happened to another one.

Neither does. A header holds the bytes of the label or the payload is not sent at all. In the query
of an address the label is the last pair, whatever stands in front of it (`lastPair?_appendPair`),
and since no sign stands inside a field it can be cut off again (`label_of_requestText`). The
requests of a load are classified along its course (`decided_of_asks_get`): questions are asked only
when there is a response, and it says what about.
-/

namespace Ingest

namespace Url

open Form (encode pairs)

/-- **The last pair of an address**, if its query has pairs at all. It is read as any receiver of a
form reads it, and does not depend on how the query was written. -/
def lastPair? (u : Url) : Option (String × String) := (u.query.map pairs).bind List.getLast?

@[simp] theorem lastPair?_appendPair (u : Url) (name value : String) :
    (u.appendPair name value).lastPair? = some (name, value) := by
  rw [lastPair?, Form.pairs_appendPair, Option.bind_some, List.getLast?_concat]

/-- What is sent of an address ends with the value that was appended last. -/
theorem toList_requestText_of_query {u : Url} {cs : List Char} {value : String}
    (h : u.query = some (String.ofList (cs ++ '=' :: encode value))) :
    ∃ ds, u.requestText.toList = ds ++ '=' :: encode value := by
  refine ⟨u.scheme.toList ++ ':' :: u.authorityChars ++ u.pathGuard ++ u.path.chars ++ '?' :: cs,
    ?_⟩
  rw [requestText, String.toList_ofList, charsBeforeFragment, h, partChars, String.toList_ofList,
    ← List.cons_append, ← List.append_assoc]

/-- **A value behind the last sign is cut off again.** No sign stands in a field that was
written, so the two texts end alike from their last signs on, and fields that are written alike
are the same. -/
theorem value_of_append {cs ds : List Char} {v w : String}
    (h : cs ++ '=' :: encode v = ds ++ '=' :: encode w) : v = w := by
  have hcut : ∀ (cs : List Char) (v : String),
      (cs ++ '=' :: encode v).reverse.takeWhile (· ≠ '=') = (encode v).reverse := by
    intro cs v
    have hpos : ∀ c ∈ (encode v).reverse, decide (c ≠ '=') = true :=
      fun c hc => decide_eq_true (Form.ne_sign_of_mem_encode (List.mem_reverse.1 hc)).2
    rw [List.reverse_append, List.reverse_cons, List.append_assoc,
      List.takeWhile_append_of_pos hpos, List.singleton_append,
      List.takeWhile_cons_of_neg (by decide), List.append_nil]
  have hencoded : encode v = encode w := by
    rw [← List.reverse_inj, ← hcut cs, h, hcut]
  rw [← Form.decode_encode v, hencoded, Form.decode_encode]

end Url

namespace Load

open Http (Headers Request)
open Talk (Record Sending sent puts gets)

variable {c c' : Client} {host host' database database' label label' : String} {payload : Bytes}
  {url : Url} {q q' : Request} {t : Record}

/-! ## Headers and queries -/

/-- **A payload goes out under its label**: it is the last value in the headers of that name. Others
may stand in front of it, from the properties. -/
theorem last_label_of_putRequest (put : putRequest c url label payload = .ok q) :
    (q.headers.all "label").getLast? = some (Bytes.ofText label) := by
  obtain ⟨-, -, value, hvalue, rfl⟩ := putRequest_eq_ok.1 put
  have hne : "label" ≠ Http.authorization := by decide
  rw [fieldValue?_eq hvalue]
  show ((Headers.append _ _ (Headers.append _ _ _)).all "label").getLast? = _
  rw [Headers.all_append_of_ne hne, Headers.all_append_self, List.getLast?_concat]

theorem AsksState.lastPair? (h : AsksState c host database label q) :
    q.url.lastPair? = some ("label", label) := by
  obtain ⟨url, -, hq⟩ := h
  obtain ⟨-, -, rfl⟩ := stateRequest_eq_ok.1 hq
  rw [Url.lastPair?, (takeCredentials_names _).2]
  exact Url.lastPair?_appendPair url "label" label

/-- **What is sent of a question tells the label**, whichever store it goes to. -/
theorem label_of_requestText (h : AsksState c host database label q)
    (h' : AsksState c' host' database' label' q')
    (hsame : q.url.requestText = q'.url.requestText) : label = label' := by
  have hends : ∀ {c host database label q}, AsksState c host database label q →
      ∃ cs, q.url.requestText.toList = cs ++ '=' :: Url.Form.encode label := by
    rintro c host database label q ⟨url, -, hq⟩
    obtain ⟨cs, hcs⟩ := Url.Form.query_appendPair url "label" label
    obtain ⟨-, -, rfl⟩ := stateRequest_eq_ok.1 hq
    exact Url.toList_requestText_of_query ((takeCredentials_names _).2.trans hcs)
  obtain ⟨cs, hcs⟩ := hends h
  obtain ⟨ds, hds⟩ := hends h'
  exact Url.value_of_append (hcs.symm.trans ((congrArg String.toList hsame).trans hds))

theorem asksState_of_asks (h : (queryState c host database label).Asks t (.send q)) :
    AsksState c host database label q := by
  obtain ⟨next, hreach⟩ := h
  obtain ⟨t', e, hend⟩ := Dialogue.exists_held Move.nonempty_answer (next none)
  have hheld := hreach.append (Dialogue.held_ask.2 ⟨none, t', rfl, hend⟩)
  obtain ⟨-, hasks, -⟩ := held_queryState hheld
  refine hasks (q, none) ?_
  rw [Talk.sent_append, Talk.sent_send]
  exact List.mem_append_right _ List.mem_cons_self

end Load

/-! ## The questions of a load -/

namespace Loader

open Load (AsksState decided)
open Talk (Record Sending sent puts gets reached)

variable {l : Loader} {b : Batch} {t : Record} {q : Http.Request}

/-- With a question in the middle of the requests, all payloads are in front of it. -/
theorem puts_append_question {l₁ l₂ : List Sending} {x : Sending} (hx : x.1.method = .get)
    (h : l₁ ++ x :: l₂ = puts (l₁ ++ x :: l₂) ++ gets (l₁ ++ x :: l₂)) :
    puts (l₁ ++ x :: l₂) = puts l₁ := by
  have hput : ∀ y ∈ puts (l₁ ++ x :: l₂), y.1.method = .put :=
    fun y hy => of_decide_eq_true (List.mem_filter.1 hy).2
  have hget : ∀ y ∈ gets (l₁ ++ x :: l₂), y.1.method = .get :=
    fun y hy => of_decide_eq_true (List.mem_filter.1 hy).2
  rcases List.append_eq_append_iff.1 h with ⟨l, hputs, hl⟩ | ⟨l, hputs, hl⟩
  · -- the payloads reach as far as the question, and they do not include it
    cases l with
    | nil =>
      rw [List.append_nil] at hputs
      rw [hputs] at hput ⊢
      exact (List.filter_eq_self.2 fun y hy => decide_eq_true (hput y hy)).symm
    | cons y l =>
      obtain ⟨rfl, -⟩ := List.cons.inj hl
      have hx' := hput x (hputs ▸ List.mem_append_right l₁ List.mem_cons_self)
      exact nomatch hx.symm.trans hx'
  · have hfront := (Talk.puts_append_gets hput fun y hy =>
      hget y (hl ▸ List.mem_append_left _ hy)).1
    exact ((congrArg puts hputs).trans hfront).symm

/-- **The response that a load has got** when it asks about something says what it asks about. -/
theorem decided_of_asks_get (h : (l.load b).Asks t (.send q)) (hget : q.method = .get) :
    ∃ r, decided (sent t) = some r ∧
      ((r.status = .fail ∧ ∃ address, Load.logRequestAt l.client address = .ok q) ∨
        (r.status = .labelAlreadyExists ∧
          ∃ host, AsksState l.client host b.database b.label q)) := by
  obtain ⟨next, hreach⟩ := h
  obtain ⟨host, -, later, result, hcourse⟩ := exists_course hreach
  have hquestion : (q, none) ∈ gets (sent t ++ (q, none) :: later) :=
    List.mem_filter.2 ⟨List.mem_append_right _ List.mem_cons_self, decide_eq_true hget⟩
  obtain ⟨r, hr, hwhy⟩ := hcourse.question hquestion
  have hfront := puts_append_question hget hcourse.puts_first
  refine ⟨r, ?_, hwhy.imp_right (And.imp_right fun hasks => ⟨host, hasks⟩)⟩
  rw [← hr, decided, decided, hfront]

/-- **The label that is asked about is the one that was put.** Every payload of a load carries the
label of the batch, and every question of a load whose label was used before ends with it. This is
so for every address that the state can be asked for at, and for every label; so no two labels are
asked about in the same way, at any store. -/
theorem label_asked_is_put :
    (∀ (l : Loader) (b : Batch) (t : Record) (q : Http.Request), (l.load b).Asks t (.send q) →
      (q.method = .put → (q.headers.all "label").getLast? = some (Bytes.ofText b.label)) ∧
      (q.method = .get → ∃ r, decided (sent t) = some r ∧
        (r.status = .fail ∨ r.status = .labelAlreadyExists) ∧
        (r.status = .labelAlreadyExists → q.url.lastPair? = some ("label", b.label)))) ∧
    (∀ host database url, Url.parse (Load.stateAddress host database) = .ok url →
      ∀ label, (url.appendPair "label" label).lastPair? = some ("label", label)) ∧
    ∀ (c c' : Load.Client) (host host' database database' label label' : String) (t t' : Record)
      (q q' : Http.Request), (Load.queryState c host database label).Asks t (.send q) →
      (Load.queryState c' host' database' label').Asks t' (.send q') →
      q.url.lastPair? = some ("label", label) ∧
        (q.url.requestText = q'.url.requestText → label = label') := by
  refine ⟨fun l b t q h => ⟨fun hput => ?_, fun hget => ?_⟩, fun host database url _ label => ?_,
    ?_⟩
  · obtain ⟨next, hreach⟩ := h
    cases inFlight_of_reaches hreach with
    | payload _ _ chain =>
      obtain ⟨url, -, put⟩ := chain.exists_put _ List.mem_concat_self
      exact Load.last_label_of_putRequest put
    | question _ asks => exact nomatch hput.symm.trans asks.method
    | log asks => exact nomatch hput.symm.trans (method_logRequestAt asks)
  · obtain ⟨r, hr, hwhy⟩ := decided_of_asks_get h hget
    refine ⟨r, hr, hwhy.imp And.left And.left, fun hused => ?_⟩
    rcases hwhy with ⟨hfail, -⟩ | ⟨-, host, hasks⟩
    · exact nomatch hused.symm.trans hfail
    · exact hasks.lastPair?
  · exact Url.lastPair?_appendPair url "label" label
  · intro c c' host host' database database' label label' t t' q q' h h'
    have hasks := Load.asksState_of_asks h
    exact ⟨hasks.lastPair?, Load.label_of_requestText hasks (Load.asksState_of_asks h')⟩

theorem asks_of_request? {result : Except Failure Outcome} (h : (l.load b).Held t result) {k : Nat}
    (hk : t[k]?.bind (·.1.request?) = some q) : (l.load b).Asks (t.take k) (.send q) := by
  obtain ⟨⟨m, r⟩, he, hq⟩ := Option.bind_eq_some_iff.1 hk
  have hm : m = .send q := by
    cases m with
    | send q' => exact congrArg Move.send (Option.some.inj hq)
    | claim => exact nomatch hq
    | probe address wait => exact nomatch hq
    | pause d => exact nomatch hq
  subst hm
  obtain ⟨hlt, hget⟩ := List.getElem?_eq_some_iff.1 he
  have hsplit : t = t.take k ++ ⟨.send q, r⟩ :: t.drop (k + 1) := by
    rw [← hget, ← List.drop_eq_getElem_cons, List.take_append_drop]
  exact Dialogue.Reaches.asks (hsplit ▸ h)

/-- A label with all signs of a query in it, a blank, and a character of two bytes. -/
theorem label_asked_is_put_of_signs :
    let reply (body : String) : Option Http.Reply := some ⟨200, [], some (Bytes.ofText body)⟩
    let start : UInt64 × List (Option Http.Reply) := (0, [
      reply "\x7b\"Status\":\"Label Already Exists\"\x7d", reply "\x7b\"state\":\"VISIBLE\"\x7d"])
    let label := "a +&=%\"ü"
    let b := Batch.ofRows "d" "t" label [Bytes.ofText "1,a"]
    ∃ l, ofSettings (Settings.ofHosts ["fe:8030"]) = .ok l ∧
      let t := (l.load b).transcript (Outside.scripted fun _ => true).partner start
      ∃ put question, (l.load b).Asks (t.take 2) (.send put) ∧
        (l.load b).Asks (t.take 4) (.send question) ∧
        question.url.text = "http://fe:8030/api/d/get_load_state?label=a+%2B%26%3D%25%22%C3%BC" ∧
        (put.headers.all "label").getLast? = some (Bytes.ofText label) ∧
        question.url.lastPair? = some ("label", label) := by
  intro reply start label b
  obtain ⟨l, hl, hstands⟩ := @exists_loader (Settings.ofHosts ["fe:8030"]) (fun l =>
    let t := (l.load b).transcript (Outside.scripted fun _ => true).partner start
    let request (k : Nat) := t[k]?.bind (·.1.request?)
    decide ((request 2).map (·.method) = some .put ∧
      (request 4).map (fun q => (q.method, q.url.text)) = some
        (.get, "http://fe:8030/api/d/get_load_state?label=a+%2B%26%3D%25%22%C3%BC") ∧
      (decided (sent (t.take 4))).map (·.status) = some .labelAlreadyExists)) (by decide +kernel)
  obtain ⟨hput, hquestion, hstatus⟩ := of_decide_eq_true hstands
  obtain ⟨put, hput, hmethod⟩ := Option.map_eq_some_iff.1 hput
  obtain ⟨question, hquestion, hlike⟩ := Option.map_eq_some_iff.1 hquestion
  obtain ⟨hget, htext⟩ := Prod.mk.inj hlike
  obtain ⟨r, hr, hused⟩ := Option.map_eq_some_iff.1 hstatus
  obtain ⟨result, -, hheld, -⟩ := Dialogue.held_transcript
    (Outside.scripted_undisturbed fun _ => true).answers start (l.load b)
  have hasks := asks_of_request? hheld hput
  have hasks' := asks_of_request? hheld hquestion
  obtain ⟨hloads, -, -⟩ := label_asked_is_put
  refine ⟨l, hl, put, question, hasks, hasks', htext, (hloads l b _ put hasks).1 hmethod, ?_⟩
  obtain ⟨r', hr', -, hlast⟩ := (hloads l b _ question hasks').2 hget
  obtain rfl := Option.some.inj (hr'.symm.trans hr)
  exact hlast hused

end Loader

end Ingest
