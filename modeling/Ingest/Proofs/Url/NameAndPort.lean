import Ingest.Proofs.Load.Addressing

/-!
# A name and a port

A name, a colon and a port name a host, but they are no address yet. Behind the scheme of the web
and its slashes they are read as they are written (`target?_placeAddress`). Without these the colon
ends a scheme, and the name stands in the place of it. An address of any other scheme has no host
behind the colon alone, and that of a scheme of the web has one even without the slashes: the host
is then what was meant to be the port (`target?_of_http`).
-/

namespace Ingest

namespace Url

variable {name port scheme : String} {ds : List Char} {u : Url} {p : Nat}

/-- **The name of a host as it can stand in front of a port**: nothing in it is dropped or ends it,
and it has no sign of an account, of a port or of brackets. -/
def isName (name : String) : Bool :=
  name.toList.all fun c => isKept c && !endsAuthority true c && !":@[".toList.contains c

theorem isName_iff : isName name = true ↔ ∀ c ∈ name.toList,
    isKept c = true ∧ endsAuthority true c = false ∧ c ∉ ":@[".toList := by
  simp only [isName, List.all_eq_true, Bool.and_eq_true, Bool.not_eq_true', and_assoc,
    List.contains_eq_mem, decide_eq_false_iff_not]

/-- What is not dropped at the ends is not dropped inside. -/
theorem isKept_of_isOuter {c : Char} (h : isOuter c = false) : isKept c = true := by
  have hne : ∀ d : Char, isOuter d = true → c ≠ d := by
    rintro d hd rfl
    exact Bool.false_ne_true (h.symm.trans hd)
  simp only [isKept, Bool.and_eq_true, decide_eq_true_eq]
  exact ⟨⟨hne '\t' rfl, hne '\n' rfl⟩, hne '\r' rfl⟩

theorem clean_eq_self {s : String} (hkept : ∀ c ∈ s.toList, isKept c = true)
    (hhead : ∃ c, s.toList.head? = some c ∧ isOuter c = false)
    (hlast : ∃ c, s.toList.getLast? = some c ∧ isOuter c = false) : clean s = s.toList := by
  obtain ⟨c, hc, hcouter⟩ := hhead
  obtain ⟨d, hd, hdouter⟩ := hlast
  obtain ⟨cs, hcs⟩ := List.head?_eq_some_iff.1 hc
  obtain ⟨init, hinit⟩ := List.getLast?_eq_some_iff.1 hd
  have hfront : front s = s.toList := by
    rw [front, hcs, List.dropWhile_cons_of_neg (by rw [hcouter]; exact Bool.false_ne_true)]
  rw [clean_eq, hfront, hinit, List.reverse_append, List.reverse_singleton, List.singleton_append,
    List.dropWhile_cons_of_neg (by rw [hdouter]; exact Bool.false_ne_true), List.reverse_cons,
    List.reverse_reverse, ← hinit]
  exact List.filter_eq_self.2 hkept

/-- A text in front of its first colon is a scheme if all of its characters can be in one. -/
theorem scheme?_of_not_mem {c : Char} {cs : List Char} (hc : c.isAlpha = true)
    (hcolon : ':' ∉ c :: cs) (rest : List Char) :
    scheme? (c :: cs ++ ':' :: rest) = if (c :: cs).all isSchemeChar
      then some (String.ofList ((c :: cs).map Char.toLower), rest) else none := by
  have hsign : isSchemeChar ':' = false := by decide
  show (if c.isAlpha then _ else none) = _
  rw [if_pos hc]
  by_cases hall : (c :: cs).all isSchemeChar = true
  · have hpos := List.all_eq_true.1 hall
    rw [if_pos hall, List.dropWhile_append_of_pos hpos, List.takeWhile_append_of_pos hpos,
      List.dropWhile_cons_of_neg (by rw [hsign]; exact Bool.false_ne_true),
      List.takeWhile_cons_of_neg (by rw [hsign]; exact Bool.false_ne_true), List.append_nil]
    rfl
  · have hstop : (c :: cs).dropWhile isSchemeChar ≠ [] := fun hnil =>
      hall (List.all_eq_true.2 (List.dropWhile_eq_nil_iff.1 hnil))
    rw [if_neg hall, dropWhile_append_of_stop hstop]
    split
    · next behind hbehind =>
      -- the run stops inside the text, and not at its colon
      exfalso
      obtain ⟨d, ds, hds⟩ := List.exists_cons_of_ne_nil hstop
      rw [hds, List.cons_append] at hbehind
      obtain rfl : d = ':' := (List.cons.inj hbehind).1
      have hmem : ':' ∈ (c :: cs).dropWhile isSchemeChar := by
        rw [hds]
        exact List.mem_cons_self
      exact hcolon (List.dropWhile_subset _ hmem)
    · rfl

theorem Host.ne_empty_of_parse {cs : List Char} {h : Host} (hread : Host.parse cs = .ok h) :
    h ≠ .empty := by
  rintro rfl
  have hbracketed : ∀ cs, bracketed cs ≠ .ok .empty := by
    intro cs hcs
    unfold bracketed at hcs
    simp only at hcs
    split at hcs
    · split at hcs
      · exact nomatch Except.ok.inj hcs
      · exact nomatch hcs
    · exact nomatch hcs
  unfold Host.parse at hread
  split at hread
  · exact hbracketed _ hread
  · split at hread
    · exact nomatch hread
    · exact nomatch hread
    · simp only at hread
      split at hread
      · split at hread
        · exact nomatch Except.ok.inj hread
        · exact nomatch hread
      · exact nomatch Except.ok.inj hread

theorem readHost_web {cs : List Char} {h : Host} {hasPort : Bool} :
    readHost true cs hasPort = .ok h ↔ Host.parse cs = .ok h := by
  cases cs with
  | nil => exact iff_of_false (fun h => nomatch h) (fun h => nomatch h)
  | cons c cs => rfl

theorem account_of_not_mem {cs : List Char} (h : '@' ∉ cs) : account cs = ("", none, cs) := by
  rw [account, cutUserInfo, if_neg (mt List.contains_iff_mem.1 h)]

/-- The digits of a port in the place of a host are the host, and there is no port. -/
theorem afterSlashes_digits (hweb : isWeb scheme = true) (hds : ∀ c ∈ ds, c.isDigit = true)
    (h : afterSlashes scheme ds = .ok u) (hhost : u.host?.isSome = true) :
    ∃ host, Host.parse ds = .ok host ∧ u.scheme = scheme ∧ u.host = some host ∧ u.port = none := by
  have hsign : ds.any (endsAuthority (isWeb scheme)) = false := by
    rw [hweb]
    exact List.any_eq_false.2 fun c hc => Bool.eq_false_iff.1 (of_isDigit (hds c hc)).2
  have hmiss : ∀ c : Char, c.isDigit = false → c ∉ ds := fun c hc hmem =>
    Bool.false_ne_true (hc.symm.trans (hds c hmem))
  have hplace : place ds = (ds, none) := by
    rw [place, account_of_not_mem (hmiss '@' rfl)]
    exact cutPort_of_not_mem (hmiss ':' rfl) false
  obtain ⟨a, ha, rfl⟩ := afterSlashes_eq_ok.1 h
  rw [hostPart_eq_self hsign] at ha
  obtain ⟨hread, hport, -⟩ := (authority_eq_ok (ne_empty_of_host? hhost)).1 ha
  rw [hplace, hweb, readHost_web] at hread
  rw [hplace] at hport
  exact ⟨a.host, hread, rfl, rfl, (Except.ok.inj hport).symm⟩

/-- The first colon is the sign of the port, unless it stands in brackets. The text in front of this
one holds neither. -/
theorem cutPort_of_name {cs : List Char} (hcs : ∀ c ∈ cs, c ≠ ':' ∧ c ≠ '[') (ds : List Char) :
    cutPort false (cs ++ ':' :: ds) = (cs, some ds) := by
  induction cs with
  | nil => rfl
  | cons c cs ih =>
    obtain ⟨hcolon, hbracket⟩ := hcs c List.mem_cons_self
    have hinside : (if c = '[' then true else if c = ']' then false else false) = false := by
      rw [if_neg hbracket, ite_self]
    rw [List.cons_append, cutPort, decide_eq_false hcolon, Bool.false_and,
      if_neg Bool.false_ne_true, hinside, ih fun d hd => hcs d (List.mem_cons_of_mem c hd)]

theorem digits_of_isDigit (hds : ∀ c ∈ ds, c.isDigit = true) : digits (some ds) = ds := by
  refine List.takeWhile_eq_self_iff.2 fun c hc => decide_eq_true ?_
  rintro rfl
  exact absurd (hds _ hc) (by decide)

/-- A port that is read is the port of the address, be it the scheme's own or not. -/
theorem exists_readPort (scheme : String) (hread : portDigits 0 ds = some p) (hne : ds ≠ []) :
    ∃ port?, readPort scheme ds = .ok port? ∧ port?.or (defaultPort? scheme) = some p := by
  have hnone : ds.isEmpty = true ↔ False := iff_false_intro (mt List.isEmpty_iff.1 hne)
  unfold readPort
  rw [hread]
  refine ⟨_, rfl, ?_⟩
  by_cases hown : defaultPort? scheme = some p
  · rw [if_pos (.inr hown), Option.none_or, hown]
  · rw [if_neg (not_or.2 ⟨hnone.1, hown⟩)]
    rfl

theorem dropWhile_isSlash_of_isDigit (hds : ∀ c ∈ ds, c.isDigit = true) :
    ds.dropWhile (isSlash true) = ds := by
  refine List.dropWhile_eq_self_iff.2 fun hpos => Bool.eq_false_iff.1 ?_
  have hends := (of_isDigit (hds _ (List.getElem_mem hpos))).2
  rw [endsAuthority, Bool.or_eq_false_iff, Bool.or_eq_false_iff] at hends
  exact hends.1.1

theorem afterTwo_of_isDigit (hds : ∀ c ∈ ds, c.isDigit = true) : afterTwo ds = none := by
  unfold afterTwo
  split
  · exact absurd (hds '/' List.mem_cons_self) (by decide)
  · rfl

/-- The schemes of the web that begin with the letter of the first, and their ports. The other three
begin with another letter. -/
theorem eq_http_of_isWeb (hweb : isWeb scheme = true) (hfirst : scheme.toList.head? = some 'h') :
    scheme = "http" ∧ defaultPort? scheme = some 80 ∨
      scheme = "https" ∧ defaultPort? scheme = some 443 := by
  have hmem : scheme ∈ ["http", "https", "ws", "wss", "ftp"] := List.contains_iff_mem.1 hweb
  simp only [List.mem_cons, List.not_mem_nil, or_false] at hmem
  rcases hmem with rfl | rfl | rfl | rfl | rfl
  · exact .inl ⟨rfl, rfl⟩
  · exact .inr ⟨rfl, rfl⟩
  · exact absurd hfirst (by decide)
  · exact absurd hfirst (by decide)
  · exact absurd hfirst (by decide)

theorem toList_place (name port : String) :
    (name ++ ":" ++ port).toList = name.toList ++ ':' :: port.toList := by
  rw [String.toList_append, String.toList_append, List.append_assoc]
  rfl

/-- A name that begins like the web begins with a letter. -/
theorem exists_cons_of_http (hhttp : HostEntry.startsWith "http".toList name.toList = true) :
    ∃ cs, name.toList = 'h' :: cs := by
  cases hcs : name.toList with
  | nil =>
    rw [hcs] at hhttp
    exact nomatch hhttp
  | cons c cs =>
    rw [hcs] at hhttp
    have hc : 'h' = c := of_decide_eq_true (Bool.and_eq_true_iff.1 hhttp).1
    exact ⟨cs, by rw [hc]⟩

/-- **A name and a port are the host and the port of an address.** There is no account in front of
them, and the colon between them is the one that the port is cut off at. -/
theorem place_of_isName (hname : isName name = true) (hds : ∀ c ∈ ds, c.isDigit = true) :
    account (name.toList ++ ':' :: ds) = ("", none, name.toList ++ ':' :: ds) ∧
      place (name.toList ++ ':' :: ds) = (name.toList, some ds) := by
  have hmiss : ∀ c ∈ name.toList, c ≠ ':' ∧ c ≠ '@' ∧ c ≠ '[' := fun c hc => by
    have hsigns := (isName_iff.1 hname c hc).2.2
    refine ⟨?_, ?_, ?_⟩ <;> rintro rfl <;> exact hsigns (by decide)
  have hsign : '@' ∉ name.toList ++ ':' :: ds := fun hc => by
    rcases List.mem_append.1 hc with hc | hc
    · exact (hmiss _ hc).2.1 rfl
    rcases List.mem_cons.1 hc with hc | hc
    · exact absurd hc (by decide)
    · exact absurd (hds _ hc) (by decide)
  have haccount := account_of_not_mem hsign
  refine ⟨haccount, ?_⟩
  rw [place, haccount]
  exact cutPort_of_name (fun c hc => ⟨(hmiss c hc).1, (hmiss c hc).2.2⟩) ds

section Name

variable (hname : isName name = true) (hplace : isPlace name port = true)

include hname hplace

theorem isKept_of_mem_place {c : Char} (hc : c ∈ name.toList ++ ':' :: port.toList) :
    isKept c = true := by
  obtain ⟨-, -, hdigits⟩ := isPlace_iff.1 hplace
  rcases List.mem_append.1 hc with hc | hc
  · exact (isName_iff.1 hname c hc).1
  rcases List.mem_cons.1 hc with rfl | hc
  · rfl
  · exact isKept_of_isOuter (of_isDigit (hdigits c hc)).1

/-- **A host with a port is read as it is written.** What is connected to is the name that the host
is read as, which may be in other letters, and the number that the port is. -/
theorem target?_placeAddress {h : Host} (hhost : Host.parse name.toList = .ok h)
    (hport : portDigits 0 port.toList = some p) :
    HostEntry.target? (placeAddress name port) = some (h.bare, p) := by
  obtain ⟨-, hne, hdigits⟩ := isPlace_iff.1 hplace
  obtain ⟨-, cs, hcs, hsite, -, hsign⟩ := site?_placeAddress hplace
  rw [List.filter_eq_self.2 fun c => isKept_of_mem_place hname hplace] at hcs
  obtain ⟨haccount, hparts⟩ := place_of_isName hname hdigits
  rw [← hcs] at haccount hparts
  obtain ⟨port?, hread, hport?⟩ :=
    exists_readPort "http" hport (mt String.toList_eq_nil_iff.1 hne)
  have hauthority : authority "http" (hostPart "http" cs) (!(behindHost "http" cs).isEmpty)
      = .ok ⟨"", none, h, port?, port.toList.dropWhile (· ≠ '\\')⟩ := by
    rw [hostPart_eq_self hsign]
    refine (authority_eq_ok (Host.ne_empty_of_parse hhost)).2 ?_
    rw [haccount, hparts, digits_of_isDigit hdigits]
    exact ⟨readHost_web.2 hhost, hread, rfl, rfl, rfl⟩
  have hparse := (parse_of_site? hsite).trans (afterSlashes_eq_ok.2 ⟨_, hauthority, rfl⟩)
  refine HostEntry.target?_eq_some.2 ⟨_, h, p, hparse, ?_, hport?, rfl⟩
  exact Option.filter_some_pos (decide_eq_true (Host.ne_empty_of_parse hhost))

section Http

variable (hhttp : HostEntry.startsWith "http".toList name.toList = true)

include hhttp

/-- Such a name and its port are read as they are. -/
theorem clean_place : clean (name ++ ":" ++ port) = name.toList ++ ':' :: port.toList := by
  obtain ⟨-, hne, hdigits⟩ := isPlace_iff.1 hplace
  obtain ⟨cs, hcs⟩ := exists_cons_of_http hhttp
  obtain ⟨init, d, hd⟩ : ∃ init d, port.toList = init ++ [d] :=
    ⟨_, _, (List.dropLast_concat_getLast (mt String.toList_eq_nil_iff.1 hne)).symm⟩
  have hlast : isOuter d = false := (of_isDigit (hdigits d (hd ▸ List.mem_concat_self))).1
  rw [← toList_place]
  refine clean_eq_self (fun c hc => ?_) ⟨'h', ?_, rfl⟩ ⟨d, ?_, hlast⟩
  · rw [toList_place] at hc
    exact isKept_of_mem_place hname hplace hc
  · rw [toList_place, hcs]
    rfl
  · rw [toList_place, hd, ← List.cons_append, ← List.append_assoc, List.getLast?_concat]

/-- **The name stands in the place of a scheme**, and only a scheme of the web has a host behind its
colon alone. -/
theorem site?_of_http {rest : List Char}
    (h : site? (clean (name ++ ":" ++ port)) = some (scheme, rest)) :
    isWeb (lowerText name) = true ∧ scheme = lowerText name ∧ rest = port.toList := by
  obtain ⟨-, -, hdigits⟩ := isPlace_iff.1 hplace
  obtain ⟨cs, hcs⟩ := exists_cons_of_http hhttp
  have hcolon : ':' ∉ name.toList := fun hc => (isName_iff.1 hname _ hc).2.2 (by decide)
  have hscheme : scheme? (clean (name ++ ":" ++ port)) = if name.toList.all isSchemeChar
      then some (lowerText name, port.toList) else none := by
    rw [clean_place hname hplace hhttp, lowerText, hcs]
    exact scheme?_of_not_mem rfl (hcs ▸ hcolon) port.toList
  rw [site?, hscheme] at h
  split at h
  · rw [Option.bind_some] at h
    simp only [dropWhile_isSlash_of_isDigit hdigits, afterTwo_of_isDigit hdigits] at h
    split at h
    · exact absurd h.symm (Option.some_ne_none _)
    · split at h
      · next hweb =>
        obtain ⟨rfl, rfl⟩ := Prod.mk.inj (Option.some.inj h)
        exact ⟨hweb, rfl, rfl⟩
      · exact absurd h.symm (Option.some_ne_none _)
  · exact absurd h.symm (Option.some_ne_none _)

/-- **A name that begins like the web is read as a scheme.** There is nothing to connect to then,
unless the whole name is a scheme of the web; and if it is, the digits of the port are the host, and
the port is the one of the scheme. -/
theorem target?_of_http {target : String × ℕ}
    (h : HostEntry.target? (name ++ ":" ++ port) = some target) :
    ∃ host, Host.parse port.toList = .ok host ∧
      (lowerText name = "http" ∧ target = (host.bare, 80) ∨
        lowerText name = "https" ∧ target = (host.bare, 443)) := by
  obtain ⟨u, host, p, hu, hhost, hp, rfl⟩ := HostEntry.target?_eq_some.1 h
  have hhost? : u.host?.isSome = true := Option.isSome_of_eq_some hhost
  obtain ⟨scheme, rest, hsite, -⟩ := site?_of_parse hu hhost? (Option.isSome_of_eq_some hp)
  obtain ⟨hweb, rfl, rfl⟩ := site?_of_http hname hplace hhttp hsite
  rw [parse_of_site? hsite] at hu
  obtain ⟨host', hread, hscheme, hhost', hport⟩ :=
    afterSlashes_digits hweb (isPlace_iff.1 hplace).2.2 hu hhost?
  rw [Url.host?, hhost'] at hhost
  obtain rfl : host' = host := Option.some.inj (Option.filter_eq_some_iff.1 hhost).1
  rw [Url.port?, hport, Option.none_or, hscheme] at hp
  have hfirst : (lowerText name).toList.head? = some 'h' := by
    obtain ⟨cs, hcs⟩ := exists_cons_of_http hhttp
    rw [lowerText, hcs, String.toList_ofList]
    rfl
  refine ⟨host', hread, ?_⟩
  rcases eq_http_of_isWeb hweb hfirst with ⟨heq, hown⟩ | ⟨heq, hown⟩
  · exact .inl ⟨heq, by rw [← Option.some.inj (hown.symm.trans hp)]⟩
  · exact .inr ⟨heq, by rw [← Option.some.inj (hown.symm.trans hp)]⟩

end Http

end Name

end Url

end Ingest
