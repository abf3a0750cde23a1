import Ingest.Command.Program
import Ingest.Proofs.Load.Interruption

/-!
# A payload that is shown is the one that is sent

The program comes to the same payload on two ways. To show it, settings are read, a framing is made
of them, and the rows are framed. To send it, the settings are checked as a whole, a loader is
built, the rows become a batch under a label, and the loader frames the batch for each request that
puts it. The program asks the same of the files on both ways, so what was read on the way to a
request says what would have been shown: exactly the body of the request, whichever of the redirects
it follows and whether or not the load came to its end (`held_frame_of_asks_put`).

A format on the command line takes the place of the one in the settings before anything is made of
them. What is done then depends on what the settings say of the framing, and on nothing else.
-/

namespace Ingest

/-! ## Settings with another format -/

namespace Settings

variable {s s' : Settings} {f : String}

/-- **Settings that name a format** in the place of the one of other settings, and that are no
different in anything else that payloads depend on. -/
structure SetsFormat (s : Settings) (f : String) (s' : Settings) : Prop where
  named : s'.property? formatKey = some f
  others : ∀ k, k ≠ formatKey → s'.property? k = s.property? k
  wrapped : s'.wrappedRows = s.wrappedRows

theorem setsFormat_withProperty (s : Settings) (f : String) :
    SetsFormat s f (s.withProperty formatKey f) :=
  ⟨Keyed.find?_insert_self .., fun _ hk => Keyed.find?_insert_of_ne hk .., rfl⟩

/-- **What a framing depends on**: two properties and whether the rows are wrapped. Settings that
agree in these frame every list of rows alike. -/
theorem framing_congr (hformat : s'.property? formatKey = s.property? formatKey)
    (hdelimiter : s'.property? delimiterKey = s.property? delimiterKey)
    (hwrapped : s'.wrappedRows = s.wrappedRows) : s'.framing = s.framing := by
  unfold framing format delimiter
  rw [hformat, hdelimiter, hwrapped]

/-- All settings in which a format is named in the place of another frame alike, however they came
to name it: on the command line, in a file, or by a setter. -/
theorem SetsFormat.framing_eq (h : SetsFormat s f s') :
    s'.framing = (s.withProperty formatKey f).framing := by
  have hset := setsFormat_withProperty s f
  have hkey : delimiterKey ≠ formatKey := by decide
  exact framing_congr (h.named.trans hset.named.symm)
    ((h.others _ hkey).trans (hset.others _ hkey).symm) (h.wrapped.trans hset.wrapped.symm)

end Settings

/-! ## The body of a payload -/

namespace Loader

variable {l : Loader} {b : Batch} {t : Talk.Record} {q : Http.Request}

theorem settingsFailure_eq_ok {α : Type} {x : Except Settings.Fault α} {a : α} :
    settingsFailure x = .ok a ↔ x = .ok a := by
  cases x with
  | error f => simp only [settingsFailure, reduceCtorEq]
  | ok a' => simp only [settingsFailure, Except.ok.injEq]

/-- The framing of a loader is the one its settings have on their own. A check and a client stand
between the two when a loader is built, and neither changes what the rows become. -/
theorem framing_ofSettings {s : Settings} (h : ofSettings s = .ok l) :
    s.framing = .ok l.framing := by
  obtain ⟨-, _, _, _, -, -, hframing, rfl⟩ := ofSettings_eq_ok.1 h
  exact settingsFailure_eq_ok.1 hframing

/-- **Every request that puts a payload puts the whole of it**, the first one and each that it is
sent on with. Whether the load comes to an end does not matter: it is enough that it asks. -/
theorem body_of_asks_put (h : (l.load b).Asks t (.send q)) (hput : q.method = .put) :
    q.body = l.payload b := by
  obtain ⟨next, hreach⟩ := h
  cases inFlight_of_reaches hreach with
  | payload _ _ chain =>
    obtain ⟨url, -, put⟩ := chain.exists_put _ List.mem_concat_self
    obtain ⟨-, -, value, -, rfl⟩ := Load.putRequest_eq_ok.1 put
    rfl
  | question _ asks => exact nomatch hput.symm.trans asks.method
  | log asks => exact nomatch hput.symm.trans (method_logRequestAt asks)

end Loader

namespace Command

open Dialogue (AsksOnly)

/-- The exchanges of a run of the program. -/
abbrev Record := List (Sigma Ask.Answer)

/-- A question for what there is to read. -/
def Ask.IsReading : Ask → Prop
  | .file _ => True
  | .input => True
  | .freshName => False
  | .load _ => False

instance : DecidablePred Ask.IsReading
  | .file _ => .isTrue trivial
  | .input => .isTrue trivial
  | .freshName => .isFalse id
  | .load _ => .isFalse id

/-- **What a run has read**: its exchanges with files and with what is piped in. The two commands
ask for other things besides, but of these they ask the same. -/
def readings (t : Record) : Record := t.filter fun e => e.1.IsReading

variable {t t' : Record}

theorem readings_append : readings (t ++ t') = readings t ++ readings t' := List.filter_append ..

theorem readings_eq_self (h : ∀ e ∈ t, e.1.IsReading) : readings t = t :=
  List.filter_eq_self.2 fun e he => decide_eq_true (h e he)

theorem readings_eq_nil (h : ∀ e ∈ t, ¬ e.1.IsReading) : readings t = [] :=
  List.filter_eq_nil_iff.2 fun e he => by simpa using h e he

/-! ## The questions of each step -/

theorem asksOnly_readSettings (path : Option String) :
    AsksOnly Ask.IsReading (readSettings path) := by
  cases path with
  | none => trivial
  | some path =>
    refine AsksOnly.bind ⟨trivial, fun _ => trivial⟩ fun contents => ?_
    split <;> trivial

theorem asksOnly_readRows (path : String) : AsksOnly Ask.IsReading (readRows path) := by
  unfold readRows
  split
  · exact AsksOnly.bind ⟨trivial, fun _ => trivial⟩ fun _ => trivial
  · refine AsksOnly.bind ⟨trivial, fun _ => trivial⟩ fun contents => ?_
    split <;> trivial

theorem asksOnly_labelOf (given : Option String) : AsksOnly (· = .freshName) (labelOf given) := by
  cases given with
  | none => exact AsksOnly.bind ⟨rfl, fun _ => trivial⟩ fun _ => trivial
  | some label => trivial

/-- A file that reads as settings is asked for once and nothing else is, so that what a run has read
begins with its contents. -/
theorem held_readSettings {path : String} {contents : FileContents} {s : ProgramSettings}
    (h : ProgramSettings.ofFile path contents = .ok s) :
    (readSettings (some path)).Held [⟨.file path, contents⟩] (.ok s) := by
  refine Dialogue.held_ask.2 ⟨contents, [], rfl, ?_⟩
  rw [Dialogue.done_bind, h]
  exact .here _

/-! ## A run behind its settings -/

/-- The filter that is used with given settings. -/
def filterOf (level logDefault : Option String) (s : ProgramSettings) : String :=
  LogFilter.choose [level, s.logLevel, logDefault]

/-- Goes on if a filter is one, and gives up before anything is done otherwise. -/
def guarded (filter : String) (d : Step Bytes) : Step Bytes :=
  if LogFilter.isValid filter then d
  else .done (.error (.plain ("invalid log filter " ++ Settings.backquoted filter)))

/-- A run in three parts: the settings are read, the filter that follows from them is tried, and
only then is anything done. A load can thus never begin under a filter that is none. -/
theorem follow_eq (a : Arguments) (logDefault : Option String) :
    follow a logDefault = (readSettings a.config).andThen fun s =>
      guarded (filterOf a.logLevel logDefault s) (perform s.load a.task) := rfl

variable {words : List String} {config level logDefault : Option String} {task : Task}
  {s : ProgramSettings} {a : Arguments}

/-- Behind its settings a run does what is asked for. -/
theorem held_follow_append {r : Except Report Bytes} (h : (readSettings config).Held t (.ok s))
    (rest : Record) :
    (follow ⟨config, level, task⟩ logDefault).Held (t ++ rest) r ↔
      (guarded (filterOf level logDefault s) (perform s.load task)).Held rest r :=
  (h.reaches_bind _).held_iff

/-- The program ends with what its command line comes to. -/
def Ending.ofResult : Except Report Bytes → Ending
  | .ok output => .success output
  | .error r => .failure r

theorem run_eq (h : Arguments.read words = .ok a) :
    run words logDefault = (follow a logDefault).bind fun r => .done (.ofResult r) := by
  unfold run
  rw [h]
  refine congrArg (Dialogue.bind _) (funext fun r => ?_)
  cases r with
  | ok output => rfl
  | error r => rfl

/-- A run whose words could be read comes to what is done behind them. Its ending says no more than
the result does, and adds no exchange. -/
theorem held_run {t : Record} {e : Ending} (h : Arguments.read words = .ok a) :
    (run words logDefault).Held t e ↔
      ∃ r, (follow a logDefault).Held t r ∧ e = .ofResult r := by
  rw [run_eq h, Dialogue.held_bind]
  constructor
  · rintro ⟨t₁, r, t₂, rfl, h₁, h₂⟩
    obtain ⟨rfl, rfl⟩ := Dialogue.held_done.1 h₂
    rw [List.append_nil]
    exact ⟨r, h₁, rfl⟩
  · rintro ⟨r, hr, rfl⟩
    exact ⟨t, r, [], (List.append_nil t).symm, hr, .here _⟩

/-- What is asked in a run is asked in the part behind the command line, since the ending asks
nothing. -/
theorem asks_run {t : Record} {q : Ask} (h : Arguments.read words = .ok a) :
    (run words logDefault).Asks t q ↔ (follow a logDefault).Asks t q := by
  rw [run_eq h, Dialogue.asks_bind]
  refine or_iff_left ?_
  rintro ⟨t₁, r, t₂, -, -, hdone⟩
  exact Dialogue.not_asks_done hdone

/-- **A run that makes a move** has read its settings, and its filter is one. -/
theorem exists_asks_perform {m : Move}
    (h : (follow ⟨config, level, task⟩ logDefault).Asks t (.load m)) :
    ∃ t₁ s t₂, t = t₁ ++ t₂ ∧ (readSettings config).Held t₁ (.ok s) ∧
      LogFilter.isValid (filterOf level logDefault s) = true ∧
      (perform s.load task).Asks t₂ (.load m) := by
  rw [follow_eq, Dialogue.asks_andThen] at h
  obtain hread | ⟨t₁, s, t₂, rfl, hread, hasks⟩ := h
  · exact absurd ((asksOnly_readSettings config).asks hread).2 id
  · unfold guarded at hasks
    split at hasks
    · next hvalid => exact ⟨t₁, s, t₂, rfl, hread, hvalid, hasks⟩
    · exact absurd hasks Dialogue.not_asks_done

/-! ## The two ways to a payload -/

section Load

variable {s : Settings} {rows table : String} {database label : Option String} {compact : Bool}

/-- **A load that makes a move** has read its rows and built its loader, and the move is the
loader's. -/
theorem exists_asks_loader {m : Move}
    (h : (load s rows table database label compact).Asks t (.load m)) :
    ∃ l b t', Loader.ofSettings s = .ok l ∧ (readRows rows).Held (readings t) (.ok b.rows) ∧
      (l.load b).Asks t' m := by
  unfold load at h
  split at h
  · exact absurd h Dialogue.not_asks_done
  obtain hlabel | ⟨t₁, label, _, rfl, hlabel, h⟩ := Dialogue.asks_bind.1 h
  · exact nomatch ((asksOnly_labelOf label).asks hlabel).2
  obtain hrows | ⟨t₂, data, t₃, rfl, hrows, h⟩ := Dialogue.asks_andThen.1 h
  · exact absurd ((asksOnly_readRows rows).asks hrows).2 id
  unfold deliver at h
  split at h
  · exact absurd h Dialogue.not_asks_done
  next l hl =>
  obtain hload | ⟨_, r, _, -, -, hdone⟩ := Dialogue.asks_bind.1 h
  · obtain ⟨t', m', heq, hasks⟩ := Dialogue.asks_of_rephrase hload
    obtain rfl := Ask.load.inj heq
    refine ⟨l, _, t', hl, ?_, hasks⟩
    -- neither the label nor the moves of the loader are readings
    have hlabel' : readings t₁ = [] := readings_eq_nil fun e he => by
      rw [((asksOnly_labelOf _).reaches hlabel).1 e he]
      exact id
    have hmoves : readings t₃ = [] := readings_eq_nil fun e he => by
      obtain ⟨m, hm⟩ := ((Dialogue.asksOnly_rephrase _ _ _).asks hload).1 e he
      rw [hm]
      exact id
    have hrows' : readings t₂ = t₂ := readings_eq_self ((asksOnly_readRows rows).reaches hrows).1
    rw [readings_append, readings_append, hlabel', hmoves, hrows', List.nil_append,
      List.append_nil]
    exact hrows
  · cases r with
    | error f => exact absurd hdone Dialogue.not_asks_done
    | ok o => exact absurd hdone Dialogue.not_asks_done

/-- What is read on the way to a payload makes the payload when it is to be shown. -/
theorem held_frame_of_asks_put {q : Http.Request}
    (h : (load s rows table database label compact).Asks t (.load (.send q)))
    (hput : q.method = .put) : (frame s rows none).Held (readings t) (.ok q.body) := by
  obtain ⟨l, b, t', hl, hrows, hasks⟩ := exists_asks_loader h
  unfold frame withFormat
  rw [Loader.framing_ofSettings hl, Loader.body_of_asks_put hasks hput]
  exact Dialogue.held_andThen.2 ⟨readings t, b.rows, [], (List.append_nil _).symm, hrows, .here _⟩

end Load

/-- **The format on the command line** does what the format in the settings does. -/
theorem frame_eq_of_setsFormat {s s' : Settings} {f : String} (h : s.SetsFormat f s')
    (rows : String) : frame s rows (some f) = frame s' rows none := by
  unfold frame withFormat
  rw [h.framing_eq]

/-- **The dry run shows what a load sends.** Let two command lines name the same settings and the
same rows, one to load them, the other to frame them. Whenever the load puts a payload, first or
sent on, the other one, told the same by the same files, prints the body of that request and
succeeds.

And a format on the command line does what it does in the settings: behind the reading of settings
that name it, and are otherwise the same, every course of the run is a course with the format on the
command line, with the same end. -/
theorem run_frame_prints_puts (logDefault : Option String) :
    (∀ words words' config level rows table database label compact,
      Arguments.read words = .ok ⟨config, level, .load rows table database label compact⟩ →
      Arguments.read words' = .ok ⟨config, level, .frame rows none⟩ →
      ∀ t q, (run words logDefault).Asks t (.load (.send q)) → q.method = .put →
        (run words' logDefault).Held (readings t) (.success q.body)) ∧
    (∀ words words' config config' level rows f,
      Arguments.read words = .ok ⟨config, level, .frame rows (some f)⟩ →
      Arguments.read words' = .ok ⟨config', level, .frame rows none⟩ →
      ∀ t t' s s', (readSettings config).Held t (.ok s) → (readSettings config').Held t' (.ok s') →
        s'.logLevel = s.logLevel → s.load.SetsFormat f s'.load →
        ∀ rest e, (run words logDefault).Held (t ++ rest) e ↔
          (run words' logDefault).Held (t' ++ rest) e) := by
  constructor
  · intro words words' config level rows table database label compact hload hframe t q hasks hput
    obtain ⟨t₁, s, t₂, rfl, hread, hvalid, hasks⟩ :=
      exists_asks_perform ((asks_run hload).1 hasks)
    have hread' : readings t₁ = t₁ :=
      readings_eq_self ((asksOnly_readSettings config).reaches hread).1
    refine (held_run hframe).2 ⟨.ok q.body, ?_, rfl⟩
    rw [readings_append, hread', held_follow_append hread, guarded, if_pos hvalid]
    exact held_frame_of_asks_put hasks hput
  · intro words words' config config' level rows f hwords hwords' t t' s s' hread hread' hlevel hset
      rest e
    have hfilter : filterOf level logDefault s' = filterOf level logDefault s := by
      rw [filterOf, filterOf, hlevel]
    simp only [held_run hwords, held_run hwords', held_follow_append hread,
      held_follow_append hread', perform, hfilter, frame_eq_of_setsFormat hset]

/-- Those outside, when the host of a load sends the payload on and is not heard of again: files
have what is given for them, and the second payload is not replied to. -/
def silent (files : String → FileContents) (next : Bytes) : Dialogue.Partner Ask.Answer Nat :=
  ⟨fun n q =>
    match q with
    | .file path => (some (files path), n)
    | .input => (some [], n)
    | .freshName => (some "", n)
    | .load .claim => (some 0, n)
    | .load (.probe _ _) => (some true, n)
    | .load (.pause _) => (some (), n)
    | .load (.send q) =>
      if q.method = .put ∧ 0 < n then (none, n)
      else (some (some ⟨307, [("location", next)], some []⟩), n + 1)⟩

/-- A silent partner leaves nothing unanswered but the second request that puts a payload. A run
with it that comes to no end has therefore asked for a put, and it is exhibited without spelling the
run out. -/
theorem exists_put_of_silent {files : String → FileContents} {next : Bytes} {d : Session Ending}
    (h : (d.run (silent files next) 0).result.isNone = true) :
    ∃ t q, d.Asks t (.load (.send q)) ∧ q.method = .put := by
  obtain ⟨t, q, next, n, hreach, -, hnone⟩ :=
    Dialogue.exists_unanswered (Option.isNone_iff_eq_none.1 h)
  match q with
  | .file _ => exact nomatch congrArg Prod.fst hnone
  | .input => exact nomatch congrArg Prod.fst hnone
  | .freshName => exact nomatch congrArg Prod.fst hnone
  | .load .claim => exact nomatch congrArg Prod.fst hnone
  | .load (.probe _ _) => exact nomatch congrArg Prod.fst hnone
  | .load (.pause _) => exact nomatch congrArg Prod.fst hnone
  | .load (.send q) =>
    refine ⟨t, q, ⟨next, hreach⟩, ?_⟩
    by_cases hput : q.method = .put ∧ 0 < n
    · exact hput.1
    · have hreply := congrArg Prod.fst hnone
      simp only [silent, if_neg hput, reduceCtorEq] at hreply

/-- A load that is sent on and broken off, and a format in the settings and on the command line. The
payload that was put is printed with each of them. -/
theorem run_frame_prints_puts_of_sent_on :
    let hosts := "[stream_load]\nload_urls = [\"fe:8030\"]\ndatabase = \"d\"\n"
    let plain := Bytes.ofText hosts
    let named := Bytes.ofText (hosts ++ "[stream_load.properties]\nformat = \"JSON\"\n")
    let load := ["-c", "named", "load", "-t", "t", "rows"]
    let frame := ["-c", "named", "frame", "rows"]
    let frameAs := ["-c", "plain", "frame", "--format", "JSON", "rows"]
    (∃ t q, (run load none).Asks t (.load (.send q)) ∧ q.method = .put ∧
      (run frame none).Held (readings t) (.success q.body)) ∧
    ∀ rest e, (run frameAs none).Held (⟨.file "plain", .ok plain⟩ :: rest) e ↔
      (run frame none).Held (⟨.file "named", .ok named⟩ :: rest) e := by
  intro hosts plain named load frame frameAs
  obtain ⟨hputs, hformats⟩ := run_frame_prints_puts none
  have hframe : Arguments.read frame = .ok ⟨some "named", none, .frame "rows" none⟩ :=
    toOption_eq_some_iff.1 (by decide +kernel)
  constructor
  · have hload : Arguments.read load = .ok ⟨some "named", none, .load "rows" "t" none none false⟩ :=
      toOption_eq_some_iff.1 (by decide +kernel)
    let files (path : String) : FileContents :=
      .ok (if path = "rows" then Bytes.ofText "1\r\n[2]" else named)
    let next := Bytes.ofText "http://be:8040/"
    have hsilent : ((run load none).run (silent files next) 0).result.isNone = true := by
      decide +kernel
    obtain ⟨t, q, hasks, hput⟩ := exists_put_of_silent hsilent
    exact ⟨t, q, hasks, hput, hputs _ _ _ _ _ _ _ _ _ hload hframe t q hasks hput⟩
  · have hframeAs : Arguments.read frameAs
        = .ok ⟨some "plain", none, .frame "rows" (some "JSON")⟩ :=
      toOption_eq_some_iff.1 (by decide +kernel)
    let s : ProgramSettings :=
      ⟨none, { Settings.ofHosts ["fe:8030"] with database := some "d" }⟩
    let s' : ProgramSettings := ⟨none, s.load.withProperty Settings.formatKey "JSON"⟩
    have hs : ProgramSettings.ofFile "plain" (.ok plain) = .ok s :=
      toOption_eq_some_iff.1 (by decide +kernel)
    have hs' : ProgramSettings.ofFile "named" (.ok named) = .ok s' :=
      toOption_eq_some_iff.1 (by decide +kernel)
    exact hformats _ _ _ _ _ _ _ hframeAs hframe _ _ s s' (held_readSettings hs)
      (held_readSettings hs') rfl (Settings.setsFormat_withProperty _ _)

end Command

end Ingest
