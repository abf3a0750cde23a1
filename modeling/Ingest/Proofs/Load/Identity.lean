import Ingest.Proofs.Load.Course
import Ingest.Proofs.Load.Redirects
import Mathlib.Logic.Relation

/-!
# Under which label and which account a load is put

Label and account are added behind the headers of the load, they do not take the place of what is
there. So a payload goes out with one label and one account only if the properties name no header
of these names, in any letters, and if the address has no user information of its own. `Identified`
says what there is in every case, and `identified_of_runLoad` that it is so for every payload of
every load: for any hosts and redirects, and also if the load is broken off.
-/

namespace Ingest

theorem Move.nonempty_answer (q : Move) : Nonempty q.Answer := by
  cases q with
  | claim => exact ⟨0⟩
  | probe address wait => exact ⟨false⟩
  | send request => exact ⟨none⟩
  | pause d => exact ⟨()⟩

theorem Talk.mem_sent {q : Http.Request} {r : Option Http.Reply} {t : Record}
    (h : ⟨.send q, r⟩ ∈ t) : (q, r) ∈ sent t :=
  List.mem_filterMap.2 ⟨_, h, rfl⟩

namespace Load

open Http (Request Reply)

variable {c : Client} {s : Settings} {label : String} {payload : Bytes} {url : Url}

/-- **An address that a load can be sent on to** from another, in any number of steps. It depends on
the replies alone which of them a load comes to. -/
def Reachable : Url → Url → Prop := Relation.ReflTransGen fun url next => ∃ r, SendsOn r url next

/-- Every payload of a chain is put to an address that the load was sent on to. -/
theorem Chain.exists_put {l : List Talk.Sending} (h : Chain c label payload url l) :
    ∀ e ∈ l, ∃ last, Reachable url last ∧ putRequest c last label payload = .ok e.1 := by
  induction h with
  | none url => exact fun e he => nomatch he
  | @last url q r put =>
    intro e he
    rw [List.mem_singleton.1 he]
    exact ⟨url, .refl, put⟩
  | @onward url next q r l put moved target rest ih =>
    intro e he
    rcases List.mem_cons.1 he with rfl | he
    · exact ⟨url, .refl, put⟩
    · obtain ⟨last, hlast, hput⟩ := ih e he
      exact ⟨last, .head ⟨r, sendsOn_iff.2 ⟨moved, target⟩⟩ hlast, hput⟩

/-- What a client holds under a name that nothing is added under is what the properties spell. The
label and the account are such names, so a property can bring a second one of either. -/
theorem all_headers_of_ofSettings (h : Client.ofSettings s = .ok c) {name : String}
    (hname : name ∉ addedKeys) :
    c.headers.all name = ((Keyed.spelled? name s.properties).map Bytes.ofText).toList := by
  rw [(single_of_ofSettings h).all_eq name]
  obtain ⟨hs, hheaders, rfl⟩ := Client.ofSettings_eq_ok.1 h
  rw [first?_of_headers hheaders hname]

theorem credentials_of_ofSettings (h : Client.ofSettings s = .ok c) :
    c.credentials
      = Http.basicCredentials (Bytes.ofText s.username) (Bytes.ofText s.password) := by
  obtain ⟨hs, -, rfl⟩ := Client.ofSettings_eq_ok.1 h
  rfl

/-- **The label and the account of a payload** that is put to an address. It says what there is, and
exactly when there is one of each: no property and no user information may bring another. -/
structure Identified (s : Settings) (label : String) (url : Url) (q : Request) : Prop where
  /-- The label comes behind the one that the properties spell. -/
  labels : q.headers.all "label"
    = ((Keyed.spelled? "label" s.properties).map Bytes.ofText).toList ++ [Bytes.ofText label]
  /-- It is the only one exactly if no property is called so, in any letters. -/
  one_label : q.headers.all "label" = [Bytes.ofText label] ↔
    ∀ k ∈ Keyed.keys s.properties, lowerText k ≠ "label"
  /-- The account comes behind the one that the properties spell, or that the address shows. -/
  accounts : q.headers.all Http.authorization
    = (((Keyed.spelled? Http.authorization s.properties).map Bytes.ofText).or
        (Http.takeCredentials url).2).toList ++
      [Http.basicCredentials (Bytes.ofText s.username) (Bytes.ofText s.password)]
  /-- It is the only one exactly if no property is called so and the address shows none. -/
  one_account : q.headers.all Http.authorization
      = [Http.basicCredentials (Bytes.ofText s.username) (Bytes.ofText s.password)] ↔
    (∀ k ∈ Keyed.keys s.properties, lowerText k ≠ Http.authorization) ∧
      (Http.takeCredentials url).2 = none

theorem toList_append_eq_singleton {α : Type} {o : Option α} {a : α} :
    o.toList ++ [a] = [a] ↔ o = none := by
  cases o <;> simp

/-- A request that puts a payload shows whose it is. This is about one request; that every payload
of a load is such a request is a matter of the chain it stands in. -/
theorem identified_of_putRequest {q : Request} (h : Client.ofSettings s = .ok c)
    (put : putRequest c url label payload = .ok q) : Identified s label url q := by
  have hcarries := carries_of_putRequest (single_of_ofSettings h) put
  have hlabels : q.headers.all "label"
      = ((Keyed.spelled? "label" s.properties).map Bytes.ofText).toList
        ++ [Bytes.ofText label] := by
    rw [hcarries.labelled, all_headers_of_ofSettings h (by decide)]
  have haccounts : q.headers.all Http.authorization
      = (((Keyed.spelled? Http.authorization s.properties).map Bytes.ofText).or
          (Http.takeCredentials url).2).toList ++
        [Http.basicCredentials (Bytes.ofText s.username) (Bytes.ofText s.password)] := by
    rw [hcarries.account, all_headers_of_ofSettings h (by decide), credentials_of_ofSettings h]
    cases Keyed.spelled? Http.authorization s.properties <;> rfl
  refine ⟨hlabels, ?_, haccounts, ?_⟩
  · rw [hlabels, toList_append_eq_singleton, Option.map_eq_none_iff, Keyed.spelled?_eq_none_iff]
  · rw [haccounts, toList_append_eq_singleton, Option.or_eq_none_iff, Option.map_eq_none_iff,
      Keyed.spelled?_eq_none_iff]

end Load

namespace Loader

open Load (Identified Reachable)

variable {l : Loader} {s : Settings} {q : Http.Request}

theorem client_ofSettings (h : ofSettings s = .ok l) : Load.Client.ofSettings s = .ok l.client := by
  obtain ⟨-, _, _, _, -, hclient, -, rfl⟩ := ofSettings_eq_ok.1 h
  exact hclient

/-- A request of a load belongs to one that comes to an end, whether this one did or not. What holds
of the requests of whole loads therefore holds of those of a load that is cancelled. -/
theorem exists_held_of_runLoad {σ : Type} {outside : Outside σ} {start : σ} {b : Batch}
    (h : .send q ∈ (l.runLoad outside start b).moves) :
    ∃ t result, (l.load b).Held t result ∧ ∃ r, (q, r) ∈ Talk.sent t := by
  unfold runLoad at h
  split at h
  · exact nomatch h
  · obtain ⟨t, result, hheld, r, hr⟩ := Dialogue.exists_held_of_asked Move.nonempty_answer h
    exact ⟨t, result, hheld, r, Talk.mem_sent hr⟩

/-- **The label and the account of every payload** of a load. It is put to the address of the table
at one of the hosts, or to one that the load was sent on to from there.

Nothing is assumed of those outside: they may answer as they like, leave requests unanswered, and
cancel the load at any moment. -/
theorem identified_of_runLoad {σ : Type} (hl : ofSettings s = .ok l) (outside : Outside σ)
    (start : σ) (b : Batch) (hq : .send q ∈ (l.runLoad outside start b).moves)
    (hput : q.method = .put) :
    ∃ host ∈ s.hosts.map HostEntry.normalize, ∃ first last,
      Url.parse (Load.submitAddress host b.database b.table) = .ok first ∧ Reachable first last ∧
        q.url = (Http.takeCredentials last).1 ∧ Identified s b.label last q := by
  obtain ⟨t, result, hheld, r, hr⟩ := exists_held_of_runLoad hq
  obtain ⟨hnone, hsome⟩ := held_load hheld
  cases hreached : Talk.reached t with
  | none =>
    rw [(hnone hreached).1] at hr
    exact nomatch hr
  | some host =>
    obtain ⟨hhost, hcourse⟩ := hsome host hreached
    have hmem : (q, r) ∈ Talk.puts (Talk.sent t) :=
      List.mem_filter.2 ⟨hr, decide_eq_true hput⟩
    have hne : Talk.puts (Talk.sent t) ≠ [] := List.ne_nil_of_mem hmem
    obtain ⟨first, hfirst, -⟩ := Classical.not_not.1 fun h => hne (hcourse.none_put.2 h)
    obtain ⟨last, hlast, put⟩ := (hcourse.chain first hfirst).exists_put _ hmem
    have hclient := client_ofSettings hl
    refine ⟨host, hosts_ofSettings hl ▸ hhost, first, last, hfirst, hlast, ?_,
      Load.identified_of_putRequest hclient put⟩
    exact (Load.carries_of_putRequest (Load.single_of_ofSettings hclient) put).goes

theorem exists_send {moves : Loader → List Move} {P : Http.Request → Bool}
    (h : ((ofSettings s).toOption.map fun l => (moves l).any fun
      | .send q => P q
      | _ => false) = some true) :
    ∃ l, ofSettings s = .ok l ∧ ∃ q, .send q ∈ moves l ∧ P q = true := by
  obtain ⟨l, hl, hany⟩ := exists_loader h
  obtain ⟨m, hm, hP⟩ := List.any_eq_true.1 hany
  cases m with
  | send q => exact ⟨l, hl, q, hm, hP⟩
  | claim => exact nomatch hP
  | probe address wait => exact nomatch hP
  | pause d => exact nomatch hP

/-- A payload that is sent on keeps its label and its account. The settings bring no second one of
either, so each of the two requests has one label and one account. -/
theorem identified_of_runLoad_of_moved :
    let s := Settings.ofHosts ["fe:8030"]
    let outside := Outside.scripted fun _ => true
    let start : UInt64 × List (Option Http.Reply) :=
      (0, [some ⟨307, [("location", Bytes.ofText "http://be:8040/load")], some []⟩, none])
    let b := Batch.ofRows "d" "t" "L1" [Bytes.ofText "1,a"]
    ∃ l, ofSettings s = .ok l ∧ ∃ q, .send q ∈ (l.runLoad outside start b).moves ∧
      q.method = .put ∧ q.url.text = "http://be:8040/load" ∧
        ∃ last, q.url = (Http.takeCredentials last).1 ∧ Identified s "L1" last q := by
  intro s outside start b
  have hany : ((ofSettings s).toOption.map fun l => (l.runLoad outside start b).moves.any fun
      | .send q => decide (q.method = .put ∧ q.url.text = "http://be:8040/load")
      | _ => false) = some true := by decide +kernel
  obtain ⟨l, hl, q, hq, hlike⟩ := exists_send hany
  obtain ⟨hput, hmoved⟩ := of_decide_eq_true hlike
  obtain ⟨-, -, -, last, -, -, hurl, hidentified⟩ := identified_of_runLoad hl outside start b hq hput
  exact ⟨l, hl, q, hq, hput, hmoved, last, hurl, hidentified⟩

/-- A property and the user information of an address: the payload goes out under two labels and
two accounts. -/
theorem runLoad_two_labels :
    let s := (Settings.ofHosts ["http://u:p@a"]).withProperty "label" "x"
    let b := Batch.ofRows "d" "t" "L1" [Bytes.ofText "1,a"]
    ∃ l, ofSettings s = .ok l ∧
      ∃ q, .send q ∈ (l.runLoad (Outside.scripted fun _ => true) (0, []) b).moves ∧
        q.method = .put ∧
        q.headers.all "label" = [Bytes.ofText "x", Bytes.ofText "L1"] ∧
        q.headers.all Http.authorization
          = [Http.basicCredentials (Bytes.ofText "u") (Bytes.ofText "p"),
            Http.basicCredentials (Bytes.ofText s.username) (Bytes.ofText s.password)] := by
  intro s b
  have hany : ((ofSettings s).toOption.map fun l =>
      (l.runLoad (Outside.scripted fun _ => true) (0, []) b).moves.any fun
        | .send q => decide (q.method = .put ∧
          q.headers.all "label" = [Bytes.ofText "x", Bytes.ofText "L1"] ∧
          q.headers.all Http.authorization
            = [Http.basicCredentials (Bytes.ofText "u") (Bytes.ofText "p"),
              Http.basicCredentials (Bytes.ofText s.username) (Bytes.ofText s.password)])
        | _ => false) = some true := by decide +kernel
  obtain ⟨l, hl, q, hq, hlike⟩ := exists_send hany
  exact ⟨l, hl, q, hq, of_decide_eq_true hlike⟩

end Loader

end Ingest
