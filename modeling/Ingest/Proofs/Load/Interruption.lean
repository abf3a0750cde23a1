import Ingest.Proofs.Load.Identity

/-!
# Loads that are cut off

A loader is cancelled once and for all. If that happens while a request is in flight, the load ends
there: whatever it was waiting for, it asks nothing more. The loads behind it do not begin, they
take no slot and probe no host.

Where a load stands is told by its exchanges so far (`Dialogue.Reaches`), and whether those outside
have led it there by `Partner.Gives`; so the request in flight can be any one that a load makes at
all. `InFlight` says which there are: a payload, behind the payloads that were sent on before it, a
question about the label, or the request for a log.
-/

namespace Ingest

open Talk (Record Sending sent reached puts gets)

/-! ## The request in flight -/

/-- A chain that was cut off behind one of its requests is a chain, too: its last request is the one
that got no reply. -/
theorem Load.chain_cut {c : Load.Client} {label : String} {payload : Bytes} {url : Url}
    {l l' : List Sending} {q : Http.Request} {r : Option Http.Reply}
    (h : Load.Chain c label payload url (l ++ (q, r) :: l')) :
    Load.Chain c label payload url (l ++ [(q, none)]) := by
  induction l generalizing url with
  | nil =>
    cases h with
    | last r put => exact .last none put
    | onward put moved target rest => exact .last none put
  | cons x l ih =>
    rw [List.cons_append] at h ⊢
    generalize hl : l ++ (q, r) :: l' = l'' at h
    cases h with
    | last r put => exact absurd hl (List.append_ne_nil_of_right_ne_nil l (List.cons_ne_nil _ _))
    | onward put moved target rest => exact .onward put moved target (ih (hl ▸ rest))

namespace Loader

open Load (Chain AsksState decided)

variable {l : Loader} {b : Batch} {σ : Type}

/-- **A request of a load in flight**, behind those that were replied to. There is one case for each
phase of a load, and each says how the earlier requests led there. -/
inductive InFlight (l : Loader) (b : Batch) (earlier : List Sending) (q : Http.Request) : Prop where
  /-- A payload: the load was put to its table and sent on from reply to reply. -/
  | payload {host : String} {url : Url} (host_mem : host ∈ l.rotation.hosts.map HostEntry.normalize)
      (parsed : Url.parse (Load.submitAddress host b.database b.table) = .ok url)
      (chain : Chain l.client b.label (l.payload b) url (earlier ++ [(q, none)]))
  /-- A question about the label. -/
  | question {host : String} (host_mem : host ∈ l.rotation.hosts.map HostEntry.normalize)
      (asks : AsksState l.client host b.database b.label q)
  /-- The request for the log of rejected rows. -/
  | log {address : String} (asks : Load.logRequestAt l.client address = .ok q)

/-- The requests of a load that put come first. So what was sent before one of them is put as well,
and is where the requests that put begin. -/
theorem exists_puts_append {requests l₁ l₂ : List Sending} {x : Sending}
    (h : requests = puts requests ++ gets requests) (hx : x.1.method = .put)
    (hmid : requests = l₁ ++ x :: l₂) : ∃ l₃, puts requests = l₁ ++ x :: l₃ := by
  have hget : x ∉ gets requests := fun hmem => by
    have hmethod := of_decide_eq_true (List.mem_filter.1 hmem).2
    rw [hx] at hmethod
    exact nomatch hmethod
  rcases List.append_eq_append_iff.1 (h.symm.trans hmid) with ⟨l, -, hl⟩ | ⟨l, hl, hl'⟩
  · exact absurd (hl ▸ List.mem_append_right l (List.mem_cons_self)) hget
  · cases l with
    | nil =>
      rw [List.nil_append] at hl'
      exact absurd (hl' ▸ List.mem_cons_self) hget
    | cons y l₃ =>
      obtain ⟨rfl, -⟩ := List.cons.inj hl'
      exact ⟨l₃, hl⟩

/-- **A load that waits for a reply** has gone through a host, and its course goes on without the
reply. -/
theorem exists_course {t : Record} {q : Http.Request}
    {next : Option Http.Reply → Talk (Except Failure Outcome)}
    (h : (l.load b).Reaches t (.ask (.send q) next)) :
    ∃ host ∈ l.rotation.hosts.map HostEntry.normalize, ∃ later result,
      l.Course b host (sent t ++ (q, none) :: later) result := by
  obtain ⟨t', result, hend⟩ := Dialogue.exists_held Move.nonempty_answer (next none)
  have hask : (Dialogue.ask (.send q) next).Held (⟨.send q, none⟩ :: t') result :=
    Dialogue.held_ask.2 ⟨none, t', rfl, hend⟩
  have hheld : (l.load b).Held (t ++ ⟨.send q, none⟩ :: t') result := h.append hask
  obtain ⟨hnone, hsome⟩ := held_load hheld
  rw [Talk.sent_append, Talk.sent_send] at hnone hsome
  cases hreached : reached (t ++ ⟨.send q, none⟩ :: t') with
  | none =>
    have hne := List.append_ne_nil_of_right_ne_nil (sent t) (List.cons_ne_nil (q, none) (sent t'))
    exact absurd (hnone hreached).1 hne
  | some host =>
    obtain ⟨hhost, hcourse⟩ := hsome host hreached
    exact ⟨host, hhost, sent t', result, hcourse⟩

/-- **What a load asks about** is said by the response that it has got: a rejected load asks for its
log, a label that was used before is asked about, and no other response leads to a question. -/
theorem Course.question {host : String} {requests : List Sending}
    {result : Except Failure Outcome} {x : Sending} (h : l.Course b host requests result)
    (hx : x ∈ gets requests) : ∃ r, decided requests = some r ∧
      ((r.status = .fail ∧ ∃ address, Load.logRequestAt l.client address = .ok x.1) ∨
        (r.status = .labelAlreadyExists ∧
          AsksState l.client host b.database b.label x.1)) := by
  have hne := List.ne_nil_of_mem hx
  obtain ⟨r, hr⟩ := Option.ne_none_iff_exists'.1 fun hnone => hne (h.undecided hnone).1
  have hconclusion := h.follows r hr
  refine ⟨r, hr, (hconclusion.asks hne).imp (fun hfail => ⟨hfail, ?_⟩) fun hused => ⟨hused, ?_⟩⟩
  · obtain hnil | ⟨address, q, reply, -, -, hlog, heq⟩ := hconclusion.asks_log hfail
    · exact absurd hnil hne
    · obtain rfl := List.mem_singleton.1 (heq ▸ hx)
      exact ⟨address, hlog⟩
  · exact hconclusion.asks_state hused x hx

/-- **There are no other requests** that a load can be waiting for. So a cancellation that comes
while a request is in flight comes in one of these phases. -/
theorem inFlight_of_reaches {t : Record} {q : Http.Request}
    {next : Option Http.Reply → Talk (Except Failure Outcome)}
    (h : (l.load b).Reaches t (.ask (.send q) next)) : InFlight l b (sent t) q := by
  obtain ⟨host, hhost, later, result, hcourse⟩ := exists_course h
  cases hmethod : q.method with
  | put =>
    obtain ⟨l₃, hputs⟩ := exists_puts_append hcourse.puts_first hmethod rfl
    have hne : puts (sent t ++ (q, none) :: later) ≠ [] := by
      rw [hputs]
      exact List.append_ne_nil_of_right_ne_nil _ (List.cons_ne_nil _ _)
    obtain ⟨url, hurl, -⟩ := Classical.not_not.1 fun h => hne (hcourse.none_put.2 h)
    have hchain := hcourse.chain url hurl
    rw [hputs] at hchain
    exact .payload hhost hurl (Load.chain_cut hchain)
  | get =>
    have hget : (q, none) ∈ gets (sent t ++ (q, none) :: later) :=
      List.mem_filter.2 ⟨List.mem_append_right _ List.mem_cons_self, decide_eq_true hmethod⟩
    obtain ⟨r, -, ⟨-, address, hlog⟩ | ⟨-, hasks⟩⟩ := hcourse.question hget
    · exact .log hlog
    · exact .question hhost hasks

/-! ## Loads one after another -/

/-- **Runs loads one after another.** Those outside keep their state from one load to the next, so
what cancels one load is still there when the next begins. -/
def runLoads (l : Loader) (outside : Outside σ) : σ → List Batch → List (Report σ)
  | _, [] => []
  | s, b :: bs =>
    let r := l.runLoad outside s b
    r :: l.runLoads outside r.state bs

def stateAfter (l : Loader) (outside : Outside σ) : σ → List Batch → σ
  | s, [] => s
  | s, b :: bs => l.stateAfter outside (l.runLoad outside s b).state bs

variable {outside : Outside σ} {s s' : σ}

/-- Loads in a row are run one after the other by one partner, and the later ones begin with the
partner as the earlier ones have left it. -/
theorem runLoads_append (before after : List Batch) :
    l.runLoads outside s (before ++ after) = l.runLoads outside s before ++
      l.runLoads outside (l.stateAfter outside s before) after := by
  induction before generalizing s with
  | nil => rfl
  | cons b before ih => exact congrArg _ ih

/-- **A loader that is cancelled makes no move.** It takes no slot and probes no host, and those
outside are left as they were. -/
theorem runLoad_of_isCancelled (h : outside.isCancelled s = true) (b : Batch) :
    l.runLoad outside s b = ⟨.error .cancelled, [], s⟩ := by
  rw [runLoad, if_pos h]

/-- Once the partner is cancelled, every load is cancelled before its first move: no slot is taken,
no host is tried and nothing is sent. -/
theorem runLoads_of_isCancelled (h : outside.isCancelled s = true) (batches : List Batch) :
    l.runLoads outside s batches = batches.map fun _ => ⟨.error .cancelled, [], s⟩ := by
  induction batches with
  | nil => rfl
  | cons b batches ih => rw [runLoads, runLoad_of_isCancelled h b, ih, List.map_cons]

/-- **A load is cut off at a request**: it was begun, the answers of those outside have led it to
the request, and the loader is cancelled before there is a reply. Being cancelled is a state those
outside stay in, which is what the loads behind this one find. -/
structure CutOff (l : Loader) (outside : Outside σ) (s : σ) (b : Batch) (t : Record)
    (q : Http.Request) (s' : σ) : Prop where
  begun : outside.isCancelled s = false
  inFlight : ∃ next s₁, (l.load b).Reaches t (.ask (.send q) next) ∧
    outside.partner.Gives s t s₁ ∧ outside.partner.answer s₁ (.send q) = (none, s')
  cancelled : outside.isCancelled s' = true

/-- A load that is cut off ends at the request, without waiting for a reply and without another
move. -/
theorem runLoad_of_cutOff {t : Record} {q : Http.Request} (h : CutOff l outside s b t q s') :
    l.runLoad outside s b = ⟨.error .cancelled, t.map Sigma.fst ++ [.send q], s'⟩ := by
  obtain ⟨next, s₁, hreach, hgives, hnone⟩ := h.inFlight
  rw [runLoad, if_neg (Bool.eq_false_iff.1 h.begun), hreach.run hgives,
    Dialogue.run_ask_of_none hnone]
  rfl

/-- **Cancellation is prompt and permanent.** Of loads one after another, those before the one that
is cut off are as they were; that one ends at its request, which is one of those that can be in
flight at all; and each of those behind it is cancelled without a move. -/
theorem runLoads_of_cutOff {start : σ} {before after : List Batch} {t : Record} {q : Http.Request}
    (h : CutOff l outside (l.stateAfter outside start before) b t q s') :
    InFlight l b (sent t) q ∧
      l.runLoads outside start (before ++ b :: after)
        = l.runLoads outside start before ++
          ⟨.error .cancelled, t.map Sigma.fst ++ [.send q], s'⟩ ::
          after.map (fun _ => ⟨.error .cancelled, [], s'⟩) ∧
      ∀ {σ' : Type} (outside' : Outside σ') (s : σ'), outside'.isCancelled s = true →
        ∀ batches, l.runLoads outside' s batches
          = batches.map fun _ => ⟨.error .cancelled, [], s⟩ := by
  obtain ⟨next, s₁, hreach, -, -⟩ := h.inFlight
  refine ⟨inFlight_of_reaches hreach, ?_, fun outside' s hs => runLoads_of_isCancelled hs⟩
  rw [runLoads_append, runLoads, runLoad_of_cutOff h, runLoads_of_isCancelled h.cancelled]

/-! ## A script with a cancellation -/

/-- What those outside have in store for a request: a reply, or none, or that the loader is
cancelled first. -/
inductive Turn where
  | reply (r : Option Http.Reply)
  | cancel

structure Scene where
  cursor : UInt64
  turns : List Turn
  cancelled : Bool

/-- **Those outside of a scene**: every host can be connected to, and requests find what is in
store for them. -/
def Outside.scene : Outside Scene where
  partner := ⟨fun s q =>
    match q with
    | .claim => (some s.cursor, { s with cursor := s.cursor + 1 })
    | .probe _ _ => (some true, s)
    | .send _ =>
      match s.turns with
      | [] => (some none, s)
      | .reply r :: turns => (some r, { s with turns := turns })
      | .cancel :: turns => (none, { s with turns := turns, cancelled := true })
    | .pause _ => (some (), s)⟩
  isCancelled := Scene.cancelled

/-- Only requests are left unanswered in a scene, and then because the loader is cancelled. So a
load without a result in a scene was cut off at some request, and need not be followed to find out
which. -/
theorem exists_cutOff_of_scene {s : Scene} (hs : s.cancelled = false)
    (h : ((l.load b).run Outside.scene.partner s).result.isNone = true) :
    ∃ t q s', CutOff l Outside.scene s b t q s' := by
  obtain ⟨t, m, next, s₁, hreach, hgives, hnone⟩ :=
    Dialogue.exists_unanswered (Option.isNone_iff_eq_none.1 h)
  cases m with
  | claim => exact nomatch congrArg Prod.fst hnone
  | probe address wait => exact nomatch congrArg Prod.fst hnone
  | pause d => exact nomatch congrArg Prod.fst hnone
  | send q =>
    refine ⟨t, q, _, hs, ⟨next, s₁, hreach, hgives, hnone⟩, ?_⟩
    obtain ⟨cursor, turns, cancelled⟩ := s₁
    match turns with
    | [] => exact nomatch congrArg Prod.fst hnone
    | .reply r :: turns => exact nomatch congrArg Prod.fst hnone
    | .cancel :: turns => exact (congrArg (Scene.cancelled ∘ Prod.snd) hnone).symm

/-- Three loaders that are cancelled in their second load: after it was sent on, while its label is
asked about for the second time, and while its log is fetched. -/
theorem runLoads_of_cutOff_in_each_phase :
    let reply (status : Nat) (headers : Http.Headers) (body : String) : Turn :=
      .reply (some ⟨status, headers, some (Bytes.ofText body)⟩)
    let done := reply 200 [] "\x7b\"Status\":\"Success\"\x7d"
    let moved := reply 307 [("location", Bytes.ofText "http://be:8040/load")] ""
    let used := reply 200 [] "\x7b\"Status\":\"Label Already Exists\"\x7d"
    let prepared := reply 200 [] "\x7b\"state\":\"PREPARE\"\x7d"
    let failed := reply 200 [] "\x7b\"Status\":\"Fail\",\"ErrorURL\":\"http://be:8040/log\"\x7d"
    let b := Batch.ofRows "d" "t" "L1" [Bytes.ofText "1,a"]
    let phases : List (List Turn × List Http.Method) := [
      ([done, moved, .cancel, done], [.put, .put]),
      ([done, used, prepared, .cancel, done], [.put, .get, .get]),
      ([done, failed, .cancel, done], [.put, .get])]
    ∃ l, ofSettings (Settings.ofHosts ["fe:8030"]) = .ok l ∧
      let second (turns : List Turn) := l.stateAfter Outside.scene ⟨0, turns, false⟩ [b]
      (∀ x ∈ phases, (second x.1).cancelled = false ∧
        ((l.load b).run Outside.scene.partner (second x.1)).result.isNone = true ∧
        (l.runLoads Outside.scene ⟨0, x.1, false⟩ [b, b, b]).map (fun r =>
          r.moves.filterMap (·.request?.map (·.method))) = [[.put], x.2, []]) ∧
      ∀ x ∈ phases, ∃ t q s', CutOff l Outside.scene (second x.1) b t q s' ∧
        InFlight l b (sent t) q ∧
        l.runLoads Outside.scene ⟨0, x.1, false⟩ [b, b, b]
          = l.runLoads Outside.scene ⟨0, x.1, false⟩ [b] ++
            [⟨.error .cancelled, t.map Sigma.fst ++ [.send q], s'⟩,
              ⟨.error .cancelled, [], s'⟩] := by
  intro reply done moved used prepared failed b phases
  have hl : ofSettings (Settings.ofHosts ["fe:8030"]) = .ok _ := rfl
  refine ⟨_, hl, (fun hstands => ⟨hstands, fun x hx => ?_⟩) (by decide +kernel)⟩
  obtain ⟨hbegun, hnone, -⟩ := hstands x hx
  obtain ⟨t, q, s', hcut⟩ := exists_cutOff_of_scene hbegun hnone
  obtain ⟨hflight, hruns, -⟩ := @runLoads_of_cutOff _ b _ _ s' _ [b] [b] t q hcut
  exact ⟨t, q, s', hcut, hflight, hruns⟩

end Loader

end Ingest
