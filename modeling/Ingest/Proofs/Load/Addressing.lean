import Ingest.Proofs.Host.Place
import Ingest.Proofs.Load.Identity
import Ingest.Proofs.Url.Form
import Ingest.Proofs.Url.Segments

/-!
# What requests name

The address of a request is put together as a text: the address of its host, and behind it a path
into which the names of a database and a table are spliced just as they are. That text is read
again, and what the request names is what is read. `names_iff_isSegment` says when this is what was
meant: the names have to be segments of a path, and any other name leads elsewhere. A label is
different. It is appended to the query as a field, and a field holds every text.

The hosts are those whose address is a name and a port. Behind such an address a path begins right
behind the port (`parse_placeAddress_append`), and so what is read of the path does not depend on
the host.
-/

namespace Ingest

namespace Url

/-! ## Behind a name and a port -/

/-- **The address of a name and a port**, which is what an entry of that form is turned into. -/
def placeAddress (name port : String) : String := "http://" ++ name ++ ":" ++ port

/-- A name, which ends where its port begins, and a port. The name need not be one that a host can
have; whether it is, is asked of the address as a whole. -/
def isPlace (name port : String) : Bool :=
  name.toList.all (!endsAuthority true ·) && port ≠ "" && port.toList.all Char.isDigit

variable {name port : String} {cs : List Char}

theorem isPlace_iff : isPlace name port = true ↔
    (∀ c ∈ name.toList, endsAuthority true c = false) ∧ port ≠ "" ∧
      ∀ c ∈ port.toList, c.isDigit = true := by
  simp only [isPlace, Bool.and_eq_true, List.all_eq_true, Bool.not_eq_true', decide_eq_true_eq,
    and_assoc]

theorem of_isDigit {c : Char} (hc : c.isDigit = true) :
    isOuter c = false ∧ endsAuthority true c = false := by
  have hall : ∀ n < 0x3A, (Char.ofNat n).isDigit = true →
      isOuter (Char.ofNat n) = false ∧ endsAuthority true (Char.ofNat n) = false := by
    decide +kernel
  have hsmall : c.toNat < 0x3A := by
    obtain ⟨-, hle⟩ := Bool.and_eq_true_iff.1 hc
    exact Nat.lt_succ_of_le (UInt32.le_iff_toNat_le.1 (of_decide_eq_true hle))
  rw [← Char.ofNat_toNat c] at hc ⊢
  exact hall _ hsmall hc

/-- The text of a port stands in the part that names the host. -/
theorem mem_of_mem_place {c : Char} (hc : c ∈ (place cs).2.getD []) : c ∈ cs := by
  have hport : ∀ (inside : Bool) (ds : List Char), c ∈ (cutPort inside ds).2.getD [] → c ∈ ds := by
    intro inside ds
    induction ds generalizing inside with
    | nil => exact fun h => h
    | cons d ds ih =>
      rw [cutPort]
      split
      · exact List.mem_cons_of_mem d
      · exact fun h => List.mem_cons_of_mem d (ih _ h)
  have haccount : c ∈ (account cs).2.2 → c ∈ cs := by
    unfold account cutUserInfo
    split
    · exact fun h => h
    · next info rest hcut =>
      split at hcut
      · obtain ⟨-, rfl⟩ := Prod.mk.inj (Option.some.inj hcut)
        exact fun h => List.mem_reverse.1 (List.takeWhile_subset _ (List.mem_reverse.1 h))
      · exact absurd hcut.symm (Option.some_ne_none _)
  exact haccount (hport _ _ hc)

section Place

variable (h : isPlace name port = true)

include h

/-- **Where the name stands** in the address of a name and a port: behind the slashes, and nothing
comes behind its port. So whatever is written behind the address begins a path. -/
theorem site?_placeAddress : looseEnd (placeAddress name port) = [] ∧
    ∃ cs, cs = (name.toList ++ ':' :: port.toList).filter isKept ∧
      site? (clean (placeAddress name port)) = some ("http", cs) ∧ cs ≠ [] ∧
      cs.any (endsAuthority true) = false := by
  obtain ⟨hname, hne, hport⟩ := isPlace_iff.1 h
  have hsplit : placeAddress name port = "http:" ++ ("//" ++ name ++ ":" ++ port) := by
    unfold placeAddress
    rw [show "http://" = "http:" ++ "//" from rfl, String.append_assoc, String.append_assoc,
      String.append_assoc, String.append_assoc, String.append_assoc]
  obtain ⟨init, d, hd⟩ : ∃ init d, port.toList = init ++ [d] :=
    ⟨_, _, (List.dropLast_concat_getLast (mt String.toList_eq_nil_iff.1 hne)).symm⟩
  have htext : ("//" ++ name ++ ":" ++ port).toList
      = '/' :: '/' :: (name.toList ++ ':' :: port.toList) := by
    simp only [String.toList_append, List.append_assoc]
    rfl
  have htext' : ("//" ++ name ++ ":" ++ port).toList
      = ('/' :: '/' :: (name.toList ++ ':' :: init)) ++ [d] := by
    rw [htext, hd]
    simp only [List.cons_append, List.append_assoc]
  have hd' : isOuter d = false := (of_isDigit (hport d (hd ▸ List.mem_concat_self))).1
  have hlast : ∃ c, ("//" ++ name ++ ":" ++ port).toList.getLast? = some c ∧ isOuter c = false :=
    ⟨d, by rw [htext', List.getLast?_concat], hd'⟩
  have hloose : looseEnd (placeAddress name port) = [] := by
    rw [hsplit, looseEnd, String.toList_append, htext', ← List.append_assoc, List.reverse_append,
      List.reverse_singleton, List.singleton_append, List.takeWhile_cons_of_neg]
    · rfl
    · rw [hd']
      exact Bool.false_ne_true
  have hclean : clean (placeAddress name port)
      = "http:".toList ++ '/' :: '/' :: (name.toList ++ ':' :: port.toList).filter isKept := by
    have hscheme : clean "http:" ≠ [] := by decide +kernel
    rw [hsplit, clean_append hscheme hlast, htext]
    rfl
  -- no sign in the name or the port ends them
  have hnone : ∀ c ∈ (name.toList ++ ':' :: port.toList).filter isKept,
      endsAuthority true c = false := by
    intro c hc
    rcases List.mem_append.1 (List.mem_of_mem_filter hc) with hc | hc
    · exact hname c hc
    rcases List.mem_cons.1 hc with rfl | hc
    · rfl
    · exact (of_isDigit (hport c hc)).2
  have hcolon : ':' ∈ (name.toList ++ ':' :: port.toList).filter isKept :=
    List.mem_filter.2 ⟨List.mem_append_right _ List.mem_cons_self, rfl⟩
  refine ⟨hloose, _, rfl, ?_, List.ne_nil_of_mem hcolon,
    List.any_eq_false.2 fun c hc => Bool.eq_false_iff.1 (hnone c hc)⟩
  have hscheme : scheme? "http:".toList = some ("http", []) := by decide +kernel
  have hdrop : ((name.toList ++ ':' :: port.toList).filter isKept).dropWhile (isSlash true)
      = (name.toList ++ ':' :: port.toList).filter isKept := by
    refine List.dropWhile_eq_self_iff.2 fun hpos => Bool.eq_false_iff.1 ?_
    have hfirst := hnone _ (List.getElem_mem hpos)
    rw [endsAuthority, Bool.or_eq_false_iff, Bool.or_eq_false_iff] at hfirst
    exact hfirst.1.1
  rw [hclean, site?, scheme?_append hscheme, Option.bind_some]
  show (if "http" = "file" then _ else _) = _
  rw [if_neg (by decide), if_pos (by decide), List.nil_append,
    List.dropWhile_cons_of_pos (by decide), List.dropWhile_cons_of_pos (by decide), hdrop]

/-- **A path behind the address of a name and a port** is read as a path, with nothing in front of
it. -/
theorem parse_placeAddress_append {u : Url} (hu : parse (placeAddress name port) = .ok u)
    (hhost : u.host?.isSome = true) {t : String} {ps : List String} (hps : ps ≠ [])
    (ht : t.toList = spliced ps) (hlast : ∃ c, t.toList.getLast? = some c ∧ isOuter c = false) :
    ∃ v, parse (placeAddress name port ++ t) = .ok v ∧ SamePlace u v ∧
      v.path = rootPath true (pathText ps) ∧
      v.query = (tail true (fromTail ((spliced ps).filter isKept))).1 := by
  obtain ⟨hloose, cs, -, hsite, hne, hsign⟩ := site?_placeAddress h
  have hclean : clean (placeAddress name port) ≠ [] := by
    intro hnil
    rw [hnil] at hsite
    exact nomatch hsite
  have hsite' : site? (clean (placeAddress name port ++ t))
      = some ("http", cs ++ (spliced ps).filter isKept) := by
    rw [clean_append hclean hlast, hloose, List.nil_append, ht, site?_append hsite hne]
  obtain ⟨rest, hrest⟩ : ∃ rest, (spliced ps).filter isKept = '/' :: rest := by
    cases ps with
    | nil => exact absurd rfl hps
    | cons p ps => exact ⟨_, rfl⟩
  rw [parse_of_site? hsite] at hu
  obtain ⟨a, ha, rfl⟩ := afterSlashes_eq_ok.1 hu
  have hempty := ne_empty_of_host? hhost
  rw [hostPart_eq_self hsign] at ha
  have hnone : ∀ c ∈ cs, endsAuthority true c = false :=
    fun c hc => Bool.eq_false_iff.2 (List.any_eq_false.1 hsign c hc)
  -- the text of the port holds no sign behind which a path could begin
  have harest : a.rest = [] := by
    obtain ⟨-, -, -, -, harest⟩ := (authority_eq_ok hempty).1 ha
    rw [harest, List.dropWhile_eq_nil_iff]
    intro c hc
    refine decide_eq_true fun hback => ?_
    have hc' := hnone c (mem_of_mem_place hc)
    rw [hback] at hc'
    exact nomatch hc'
  have hpos : ∀ c ∈ cs, (!endsAuthority (isWeb "http") c) = true := by
    intro c hc
    rw [show isWeb "http" = true from by decide, hnone c hc]
    rfl
  have hbehind : behindHost "http" (cs ++ (spliced ps).filter isKept)
      = (spliced ps).filter isKept := by
    rw [behindHost, List.dropWhile_append_of_pos hpos, hrest,
      List.dropWhile_cons_of_neg (by decide)]
  have hpart : hostPart "http" (cs ++ (spliced ps).filter isKept) = cs := by
    rw [hostPart, List.takeWhile_append_of_pos hpos, hrest,
      List.takeWhile_cons_of_neg (by decide), List.append_nil]
  have hread : authority "http" (hostPart "http" (cs ++ (spliced ps).filter isKept))
      (!(behindHost "http" (cs ++ (spliced ps).filter isKept)).isEmpty) = .ok a := by
    have hread := authority_append ha hempty (fun _ hc => absurd hc List.not_mem_nil) (.inl rfl)
      (!(behindHost "http" (cs ++ (spliced ps).filter isKept)).isEmpty)
    rw [hpart]
    rwa [List.append_nil, List.append_nil] at hread
  refine ⟨_, (parse_of_site? hsite').trans (afterSlashes_eq_ok.2 ⟨_, hread, rfl⟩),
    ⟨rfl, rfl, rfl, rfl, rfl⟩, ?_, ?_⟩
  · show rootPath true (a.rest ++ beforeTail (behindHost "http" _)) = _
    rw [harest, hbehind]
    rfl
  · show (tail true (fromTail (behindHost "http" _))).1 = _
    rw [hbehind]

end Place

end Url

namespace Load

open Url (placeAddress isPlace isSegment spliced isOuter pathText)
open Talk (Record sent reached puts gets)

/-! ## What an address names -/

/-- **An address that names a table**: the parts of its path say so, and it has no query. -/
def NamesTable (u : Url) (database table : String) : Prop :=
  u.path.parts = ["api", database, table, "_stream_load"].map Bytes.ofText ∧ u.query = none

/-- **An address that names a label** in a database: the parts of its path name the database, and
the one pair of its query the label. -/
def NamesLabel (u : Url) (database label : String) : Prop :=
  u.path.parts = ["api", database, "get_load_state"].map Bytes.ofText ∧
    u.query.map Url.Form.pairs = some [("label", label)]

instance (u : Url) (database table : String) : Decidable (NamesTable u database table) :=
  inferInstanceAs (Decidable (_ ∧ _))

instance (u : Url) (database label : String) : Decidable (NamesLabel u database label) :=
  inferInstanceAs (Decidable (_ ∧ _))

section Place

variable {name port database table label : String} (hplace : isPlace name port = true)
  (htarget : (HostEntry.target? (placeAddress name port)).isSome = true)

include hplace htarget

/-- A path behind a place that was probed is read back if it is made of segments, and only then. -/
theorem parts_of_place {ps : List String} {last : String} {d : Char}
    (hlast : last.toList.getLast? = some d) (hd : isOuter d = false) :
    ∃ u, Url.parse (placeAddress name port ++ String.ofList (spliced (ps ++ [last]))) = .ok u ∧
      (u.path.parts = (ps ++ [last]).map Bytes.ofText ↔
        ∀ p ∈ ps ++ [last], isSegment p = true) ∧
      ((∀ p ∈ ps ++ [last], isSegment p = true) → u.query = none) := by
  obtain ⟨target, htarget⟩ := Option.isSome_iff_exists.1 htarget
  obtain ⟨u, host, p, hu, hhost, -, -⟩ := HostEntry.target?_eq_some.1 htarget
  have hne : ps ++ [last] ≠ [] := List.append_ne_nil_of_right_ne_nil ps (List.cons_ne_nil _ _)
  have hend : ∃ c, (String.ofList (spliced (ps ++ [last]))).toList.getLast? = some c
      ∧ isOuter c = false := by
    refine ⟨d, ?_, hd⟩
    rw [String.toList_ofList, spliced, List.flatMap_append, List.flatMap_singleton,
      List.getLast?_append, List.getLast?_cons, hlast]
    rfl
  obtain ⟨v, hv, -, hpath, hquery⟩ := Url.parse_placeAddress_append hplace hu
    (Option.isSome_of_eq_some hhost) hne String.toList_ofList hend
  refine ⟨v, hv, ?_, fun h => ?_⟩
  · rw [hpath]
    exact Url.parts_spliced_iff hne
  · rw [hquery, (Url.parts_of_isSegment hne h).2]
    rfl

/-- **When the address of a load names the table**: if its database and its name are segments.
Otherwise the address is still one, and names something else. -/
theorem namesTable_iff : ∃ u,
    Url.parse (submitAddress (placeAddress name port) database table) = .ok u ∧
      (NamesTable u database table ↔ isSegment database = true ∧ isSegment table = true) := by
  have haddress : submitAddress (placeAddress name port) database table
      = placeAddress name port
        ++ String.ofList (spliced (["api", database, table] ++ ["_stream_load"])) := by
    refine String.toList_inj.1 ?_
    simp [submitAddress, spliced]
  have hall : (∀ p ∈ ["api", database, table] ++ ["_stream_load"], isSegment p = true) ↔
      isSegment database = true ∧ isSegment table = true := by
    have hfirst : isSegment "api" = true := by decide +kernel
    have hlast : isSegment "_stream_load" = true := by decide +kernel
    simp [hfirst, hlast]
  obtain ⟨u, hu, hparts, hquery⟩ := @parts_of_place _ _ hplace htarget ["api", database, table]
    "_stream_load" 'd' rfl rfl
  rw [hall] at hparts hquery
  exact ⟨u, haddress ▸ hu, fun h => hparts.1 h.1, fun h => ⟨hparts.2 h, hquery h⟩⟩

/-- **When the address that tells of a label names it**: if its database is a segment. The label
may be any text. -/
theorem namesLabel_iff : ∃ u,
    Url.parse (stateAddress (placeAddress name port) database) = .ok u ∧
      ∀ label, NamesLabel (u.appendPair "label" label) database label ↔
        isSegment database = true := by
  have haddress : stateAddress (placeAddress name port) database
      = placeAddress name port
        ++ String.ofList (spliced (["api", database] ++ ["get_load_state"])) := by
    refine String.toList_inj.1 ?_
    simp [stateAddress, spliced]
  have hall : (∀ p ∈ ["api", database] ++ ["get_load_state"], isSegment p = true) ↔
      isSegment database = true := by
    have hfirst : isSegment "api" = true := by decide +kernel
    have hlast : isSegment "get_load_state" = true := by decide +kernel
    simp [hfirst, hlast]
  obtain ⟨u, hu, hparts, hquery⟩ := @parts_of_place _ _ hplace htarget ["api", database]
    "get_load_state" 'e' rfl rfl
  rw [hall] at hparts hquery
  refine ⟨u, haddress ▸ hu, fun label => ⟨fun h => hparts.1 h.1, fun h => ⟨hparts.2 h, ?_⟩⟩⟩
  have hpair : (u.appendPair "label" label).query
      = some (String.ofList (Url.Form.encodePair "label" label)) := by
    rw [Url.appendPair, hquery h]
  rw [hpair, Option.map_some, Url.Form.pairs_encodePair]

end Place

/-! ## What the requests of a load name -/

theorem takeCredentials_names (u : Url) :
    (Http.takeCredentials u).1.path = u.path ∧ (Http.takeCredentials u).1.query = u.query := by
  unfold Http.takeCredentials
  split
  · exact ⟨rfl, rfl⟩
  · split
    · split <;> exact ⟨rfl, rfl⟩
    · exact ⟨rfl, rfl⟩

/-- The first payload of a chain is put to the address that the chain starts from. -/
theorem Chain.put_of_head? {c : Client} {label : String} {payload : Bytes} {url : Url}
    {l : List Talk.Sending} {x : Talk.Sending} (h : Chain c label payload url l)
    (hx : l.head? = some x) : putRequest c url label payload = .ok x.1 := by
  cases h with
  | none url => exact nomatch hx
  | last r put =>
    obtain rfl := Option.some.inj hx
    exact put
  | onward put moved target rest =>
    obtain rfl := Option.some.inj hx
    exact put

end Load

namespace Loader

open Load (NamesTable NamesLabel AsksState Chain)
open Url (placeAddress isPlace isSegment)
open Talk (Record sent reached puts gets)

variable {l : Loader} {b : Batch} {t : Record} {result : Except Failure Outcome}
  {name port : String}

/-- **What the requests of a load name.** The host that was chosen is a name and a port, and the
rest of the load is arbitrary. Its first payload goes to an address that names the table exactly if
the database and the table are segments of a path as they are, and every question about its label to
one that names the label exactly if the database is. -/
theorem names_iff_isSegment (hplace : isPlace name port = true)
    (htarget : (HostEntry.target? (placeAddress name port)).isSome = true)
    (h : (l.load b).Held t result) (hreached : reached t = some (placeAddress name port)) :
    (∀ x, (puts (sent t)).head? = some x →
      (NamesTable x.1.url b.database b.table ↔
        isSegment b.database = true ∧ isSegment b.table = true)) ∧
    ∀ x ∈ sent t, AsksState l.client (placeAddress name port) b.database b.label x.1 →
      (NamesLabel x.1.url b.database b.label ↔ isSegment b.database = true) := by
  obtain ⟨-, hcourse⟩ := (held_load h).2 _ hreached
  refine ⟨fun x hx => ?_, fun x _ hasks => ?_⟩
  · obtain ⟨u, hu, hiff⟩ := @Load.namesTable_iff _ _ b.database b.table hplace htarget
    have hput := (hcourse.chain u hu).put_of_head? hx
    obtain ⟨-, -, value, -, hq⟩ := Load.putRequest_eq_ok.1 hput
    obtain ⟨hpath, hquery⟩ := Load.takeCredentials_names u
    rw [← hiff, hq, NamesTable, NamesTable, hpath, hquery]
  · obtain ⟨v, hv, hiff⟩ := @Load.namesLabel_iff _ _ b.database hplace htarget
    obtain ⟨u, hu, hask⟩ := hasks
    obtain rfl := Except.ok.inj (hu.symm.trans hv)
    obtain ⟨-, -, hq⟩ := Load.stateRequest_eq_ok.1 hask
    obtain ⟨hpath, hquery⟩ := Load.takeCredentials_names (u.appendPair "label" b.label)
    rw [← hiff b.label, hq, NamesLabel, NamesLabel, hpath, hquery]

/-- A table and a database with common names, and a label that needs escapes. -/
theorem names_iff_isSegment_of_common :
    let reply (body : String) : Option Http.Reply := some ⟨200, [], some (Bytes.ofText body)⟩
    let start : UInt64 × List (Option Http.Reply) := (0, [
      reply "\x7b\"Status\":\"Label Already Exists\"\x7d", reply "\x7b\"state\":\"VISIBLE\"\x7d"])
    let b := Batch.ofRows "d" "t" "a & b" [Bytes.ofText "1,a"]
    ∃ l, ofSettings (Settings.ofHosts ["fe:8030"]) = .ok l ∧
      let t := (l.load b).transcript (Outside.scripted fun _ => true).partner start
      reached t = some (placeAddress "fe" "8030") ∧
        (∃ x, (puts (sent t)).head? = some x ∧ NamesTable x.1.url "d" "t") ∧
        (gets (sent t)).length = 1 ∧ ∀ x ∈ gets (sent t), NamesLabel x.1.url "d" "a & b" := by
  intro reply start b
  obtain ⟨l, hl, hstands⟩ := exists_loader (s := Settings.ofHosts ["fe:8030"]) (P := fun l =>
    let t := (l.load b).transcript (Outside.scripted fun _ => true).partner start
    decide (reached t = some (placeAddress "fe" "8030") ∧ (puts (sent t)).length = 1 ∧
      (gets (sent t)).length = 1 ∧
      (Load.decided (sent t)).map (·.status) = some .labelAlreadyExists)) (by decide +kernel)
  obtain ⟨hreached, hput, hget, hstatus⟩ := of_decide_eq_true hstands
  obtain ⟨result, -, hheld, -⟩ := Dialogue.held_transcript
    (Outside.scripted_undisturbed fun _ => true).answers start (l.load b)
  obtain ⟨hload, hstate⟩ :=
    names_iff_isSegment (by decide +kernel) (by decide +kernel) hheld hreached
  obtain ⟨r, hr, hused⟩ := Option.map_eq_some_iff.1 hstatus
  have hasks := (((held_load hheld).2 _ hreached).2.follows r hr).asks_state hused
  obtain ⟨x, hx⟩ := List.length_eq_one_iff.1 hput
  refine ⟨l, hl, hreached, ⟨x, by rw [hx]; rfl, ?_⟩, hget, fun y hy => ?_⟩
  · exact (hload x (by rw [hx]; rfl)).2 (by decide +kernel)
  · exact (hstate y (List.mem_of_mem_filter hy) (hasks y hy)).2 (by decide +kernel)

/-- **A database with a slash in its name**: the payload goes to another table. The parts of the
path are one more than there should be, and nothing refuses the load on the way. -/
theorem runLoad_of_slash :
    let b := Batch.ofRows "a/b" "t" "L1" [Bytes.ofText "1,a"]
    ∃ l, ofSettings (Settings.ofHosts ["fe:8030"]) = .ok l ∧
      ∃ q, .send q ∈ (l.runLoad (Outside.scripted fun _ => true) (0, []) b).moves ∧
        q.method = .put ∧
        q.url.path.parts = ["api", "a", "b", "t", "_stream_load"].map Bytes.ofText ∧
        ¬ NamesTable q.url "a/b" "t" := by
  intro b
  have hsent : ∃ l, ofSettings (Settings.ofHosts ["fe:8030"]) = .ok l ∧
      ∃ q, .send q ∈ (l.runLoad (Outside.scripted fun _ => true) (0, []) b).moves ∧
        decide (q.method = .put ∧
          q.url.path.parts = ["api", "a", "b", "t", "_stream_load"].map Bytes.ofText ∧
          ¬ NamesTable q.url "a/b" "t") = true :=
    exists_send (by decide +kernel)
  obtain ⟨l, hl, q, hq, hlike⟩ := hsent
  exact ⟨l, hl, q, hq, of_decide_eq_true hlike⟩

end Loader

end Ingest
