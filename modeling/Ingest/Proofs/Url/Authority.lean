import Ingest.Proofs.Steps
import Ingest.Proofs.Url.Domain
import Ingest.Url.Parser
import Mathlib.Data.List.TakeWhile

/-!
# Addresses that are written on

A path is put behind an address, and the whole is read again. Whether it still leads to the same
place is decided at the end of the address: blanks and controls that were dropped there are dropped
no longer, and unless something stands between them and the host they now belong to it, or to its
port, and spoil either.

The text that is read again is split into what the address said and what was loose behind it
(`clean_append`). Each part of the reader then gets a lemma about a text with more behind it: the
scheme, the account, the port, the part that names the host (`authority_append`,
`authority_append_loose`), and last the whole address (`parse_append`, `parse_append_looseEnd`).
Schemes whose addresses are not built like those of the web are covered as well; there a backslash
does not end the host but ends the digits of a port.
-/

namespace Ingest.Url

/-- Two addresses that lead to the same place: by the same scheme, to the same host and port, for
the same account. -/
structure SamePlace (u v : Url) : Prop where
  scheme : v.scheme = u.scheme
  username : v.username = u.username
  password : v.password = u.password
  host : v.host = u.host
  port : v.port = u.port

/-! ## The end of a text -/

section Stop

variable {α : Type} {p : α → Bool} {l : List α}

/-- A run that stops inside a text is the same run when more is written behind the text. -/
theorem takeWhile_append_of_stop (h : l.dropWhile p ≠ []) (t : List α) :
    (l ++ t).takeWhile p = l.takeWhile p := by
  rw [List.takeWhile_append, if_neg]
  intro hlen
  have hsum := congrArg List.length (List.takeWhile_append_dropWhile (p := p) (l := l))
  rw [List.length_append] at hsum
  exact h (List.eq_nil_of_length_eq_zero (by omega))

theorem dropWhile_append_of_stop (h : l.dropWhile p ≠ []) (t : List α) :
    (l ++ t).dropWhile p = l.dropWhile p ++ t := by
  rw [List.dropWhile_append, if_neg (by rwa [List.isEmpty_iff])]

end Stop

/-- Whether a character is dropped at both ends of an address: a blank or a control. -/
def isOuter (c : Char) : Bool := c.toNat ≤ 0x20

/-- Whether a character stays inside. The others are dropped wherever they stand. -/
def isKept (c : Char) : Bool := c ≠ '\t' && c ≠ '\n' && c ≠ '\r'

/-- What is dropped at the end of a text, but is not dropped when more is written behind it. -/
def looseEnd (s : String) : List Char :=
  ((s.toList.reverse.takeWhile isOuter).reverse).filter isKept

theorem not_mem_of_outer {cs : List Char} (h : ∀ c ∈ cs, isOuter c = true) {sign : Char}
    (hsign : isOuter sign = false) : sign ∉ cs := by
  intro hmem
  exact Bool.false_ne_true (hsign.symm.trans (h sign hmem))

theorem isOuter_of_mem_looseEnd {s : String} {c : Char} (h : c ∈ looseEnd s) :
    isOuter c = true := by
  have hrun := List.mem_reverse.1 (List.mem_filter.1 h).1
  exact (List.all_eq_true.1 List.all_takeWhile) c hrun

def front (s : String) : List Char := s.toList.dropWhile isOuter

theorem clean_eq (s : String) :
    clean s = (((front s).reverse.dropWhile isOuter).reverse).filter isKept := rfl

theorem reverse_front_ne_nil {s : String} (hs : clean s ≠ []) :
    (front s).reverse.dropWhile isOuter ≠ [] := by
  rintro h
  rw [clean_eq, h] at hs
  exact hs rfl

theorem filter_front {s : String} (hs : clean s ≠ []) :
    (front s).filter isKept = clean s ++ looseEnd s := by
  have hsplit : s.toList = s.toList.takeWhile isOuter ++ front s := by
    rw [front, List.takeWhile_append_dropWhile]
  have hend : looseEnd s = (((front s).reverse.takeWhile isOuter).reverse).filter isKept := by
    rw [looseEnd, hsplit, List.reverse_append, takeWhile_append_of_stop (reverse_front_ne_nil hs)]
  rw [clean_eq, hend, ← List.filter_append, ← List.reverse_append,
    List.takeWhile_append_dropWhile, List.reverse_reverse]

/-- **The loose end comes back when more is written behind a text.** What was dropped there is now
in the middle, and only the characters that are dropped everywhere stay away. -/
theorem clean_append {s t : String} (hs : clean s ≠ [])
    (ht : ∃ c, t.toList.getLast? = some c ∧ isOuter c = false) :
    clean (s ++ t) = clean s ++ (looseEnd s ++ t.toList.filter isKept) := by
  obtain ⟨c, hlast, hc⟩ := ht
  obtain ⟨init, hinit⟩ := List.getLast?_eq_some_iff.1 hlast
  have hne : s.toList.dropWhile isOuter ≠ [] := by
    intro h
    refine reverse_front_ne_nil hs ?_
    rw [front, h]
    rfl
  have hfront : front (s ++ t) = front s ++ t.toList := by
    rw [front, String.toList_append, dropWhile_append_of_stop hne, front]
  have hkept : ((front s ++ t.toList).reverse.dropWhile isOuter).reverse = front s ++ t.toList := by
    rw [hinit, ← List.append_assoc, List.reverse_append, List.reverse_singleton,
      List.singleton_append, List.dropWhile_cons_of_neg (by rw [hc]; exact Bool.false_ne_true),
      List.reverse_cons, List.reverse_reverse]
  rw [clean_eq, hfront, hkept, List.filter_append, filter_front hs, List.append_assoc]

/-! ## The scheme -/

variable {scheme : String} {cs t loose : List Char}

/-- The scheme ends at the first colon. More text behind does not move it. -/
theorem scheme?_append {rest : List Char} (h : scheme? cs = some (scheme, rest)) (t : List Char) :
    scheme? (cs ++ t) = some (scheme, rest ++ t) := by
  match cs, h with
  | c :: cs, h =>
    unfold scheme? at h ⊢
    simp only [List.cons_append] at h ⊢
    split at h
    · next halpha =>
      rw [if_pos halpha]
      split at h
      · next r hr =>
        obtain ⟨rfl, rfl⟩ := Prod.mk.inj (Option.some.inj h)
        have hne : (c :: cs).dropWhile isSchemeChar ≠ [] := by
          rw [hr]
          exact List.cons_ne_nil _ _
        rw [← List.cons_append, dropWhile_append_of_stop hne, takeWhile_append_of_stop hne, hr]
        rfl
      · exact nomatch h
    · exact nomatch h

/-- The scheme of an address and the text behind its slashes, where a host may stand. -/
def site? (cs : List Char) : Option (String × List Char) :=
  (scheme? cs).bind fun (scheme, rest) =>
    if scheme = "file" then none
    else if isWeb scheme then some (scheme, rest.dropWhile (isSlash true))
    else (afterTwo rest).map fun cs => (scheme, cs)

/-- An address that has a place for a host is read from there on. -/
theorem parse_of_site? {s : String} (h : site? (clean s) = some (scheme, cs)) :
    parse s = afterSlashes scheme cs := by
  unfold site? at h
  obtain ⟨⟨name, rest⟩, hscheme, h⟩ := Option.bind_eq_some_iff.1 h
  unfold parse
  simp only [hscheme] at h ⊢
  unfold withScheme
  split at h
  · exact nomatch h
  next hfile =>
  rw [if_neg hfile]
  split at h
  · next hweb =>
    obtain ⟨rfl, rfl⟩ := Prod.mk.inj (Option.some.inj h)
    rw [if_pos hweb]
  · next hweb =>
    obtain ⟨behind, hbehind, h⟩ := Option.map_eq_some_iff.1 h
    obtain ⟨rfl, rfl⟩ := Prod.mk.inj h
    rw [if_neg hweb]
    unfold other
    rw [hbehind]

/-- Something stands behind the slashes, so that what is written on is not taken for more of
them. -/
theorem site?_append (h : site? cs = some (scheme, t)) (hne : t ≠ []) (more : List Char) :
    site? (cs ++ more) = some (scheme, t ++ more) := by
  unfold site? at h ⊢
  obtain ⟨⟨name, rest⟩, hscheme, h⟩ := Option.bind_eq_some_iff.1 h
  rw [scheme?_append hscheme, Option.bind_some]
  simp only at h ⊢
  split at h
  · exact nomatch h
  next hfile =>
  rw [if_neg hfile]
  split at h
  · next hweb =>
    obtain ⟨rfl, rfl⟩ := Prod.mk.inj (Option.some.inj h)
    rw [if_pos hweb, dropWhile_append_of_stop hne]
  · next hweb =>
    obtain ⟨behind, hbehind, h⟩ := Option.map_eq_some_iff.1 h
    obtain ⟨rfl, rfl⟩ := Prod.mk.inj h
    have htwo : afterTwo (rest ++ more) = some (behind ++ more) := by
      unfold afterTwo at hbehind
      split at hbehind
      · rw [← Option.some.inj hbehind]
        rfl
      · exact nomatch hbehind
    rw [if_neg hweb, htwo, Option.map_some]

/-! ## User information and port -/

/-- The account in front of a host, and the text behind its sign. -/
def account (cs : List Char) : String × Option String × List Char :=
  match cutUserInfo cs with
  | none => ("", none, cs)
  | some (info, rest) => ((userInfo info).1, (userInfo info).2, rest)

/-- The texts of host and port, behind the account if there is one. -/
def place (cs : List Char) : List Char × Option (List Char) := cutPort false (account cs).2.2

def digits (port : Option (List Char)) : List Char :=
  (port.map fun ds => ds.takeWhile (· ≠ '\\')).getD []

/-- The part that names the host, read in steps: the host, the port, and whether an account stands
in front of no host. -/
theorem authority_eq (scheme : String) (cs : List Char) (goesOn : Bool) :
    authority scheme cs goesOn =
      (readHost (isWeb scheme) (place cs).1 (place cs).2.isSome).bind fun h =>
        (readPort scheme (digits (place cs).2)).bind fun p =>
          if isVainSign cs goesOn ||
              (h = .empty && ((account cs).1 ≠ "" || (account cs).2.1.isSome)) then
            .error .emptyHost
          else .ok ⟨(account cs).1, (account cs).2.1, h, p,
            ((place cs).2.getD []).dropWhile (· ≠ '\\')⟩ := by
  unfold authority place account
  cases cutUserInfo cs <;> rfl

/-- A sign of user information that stands in vain has no host behind it. -/
theorem isVainSign_of_readHost {web : Bool} {h : Host} (hhost : h ≠ .empty)
    (hread : readHost web (place cs).1 (place cs).2.isSome = .ok h) (goesOn : Bool) :
    isVainSign cs goesOn = false := by
  unfold isVainSign
  rw [Bool.and_eq_false_iff, decide_eq_false_iff_not]
  refine .inr ?_
  rintro rfl
  cases web with
  | true => exact nomatch hread
  | false => exact hhost (Except.ok.inj hread).symm

/-- **What it takes to read the part that names the host**, if it names one. -/
theorem authority_eq_ok {goesOn : Bool} {a : Authority} (hhost : a.host ≠ .empty) :
    authority scheme cs goesOn = .ok a ↔
      readHost (isWeb scheme) (place cs).1 (place cs).2.isSome = .ok a.host ∧
        readPort scheme (digits (place cs).2) = .ok a.port ∧
        a.username = (account cs).1 ∧ a.password = (account cs).2.1 ∧
        a.rest = ((place cs).2.getD []).dropWhile (· ≠ '\\') := by
  obtain ⟨name, password, host, port, rest⟩ := a
  rw [authority_eq]
  cases hread : readHost (isWeb scheme) (place cs).1 (place cs).2.isSome with
  | error f => simp [Except.bind]
  | ok h =>
    cases readPort scheme (digits (place cs).2) with
    | error f => simp [Except.bind]
    | ok p =>
      simp only [Except.bind, Except.ok.injEq]
      constructor
      · intro hok
        split at hok
        · exact nomatch hok
        · simp only [Except.ok.injEq, Authority.mk.injEq] at hok
          obtain ⟨rfl, rfl, rfl, rfl, rfl⟩ := hok
          exact ⟨rfl, rfl, rfl, rfl, rfl⟩
      · rintro ⟨rfl, rfl, rfl, rfl, rfl⟩
        rw [isVainSign_of_readHost hhost hread, decide_eq_false hhost]
        rfl

theorem cutUserInfo_append (h : '@' ∉ loose) (cs : List Char) :
    cutUserInfo (cs ++ loose) = (cutUserInfo cs).map fun (info, rest) => (info, rest ++ loose) := by
  unfold cutUserInfo
  by_cases hsign : '@' ∈ cs
  · have hstop : (cs ++ loose).reverse.takeWhile (· ≠ '@')
        = loose.reverse ++ cs.reverse.takeWhile (· ≠ '@') := by
      rw [List.reverse_append, List.takeWhile_append_of_pos]
      intro c hc
      refine decide_eq_true ?_
      rintro rfl
      exact h (List.mem_reverse.1 hc)
    have hboth : (cs ++ loose).contains '@' = true :=
      List.contains_iff_mem.2 (List.mem_append_left loose hsign)
    have hle : (cs.reverse.takeWhile (· ≠ '@')).length ≤ cs.reverse.length :=
      (List.takeWhile_sublist _).length_le
    rw [if_pos hboth, if_pos (List.contains_iff_mem.2 hsign), hstop]
    simp only [Option.map_some, Option.some.injEq, Prod.mk.injEq, List.reverse_append,
      List.reverse_reverse, List.length_append, and_true]
    rw [List.take_append_of_le_length]
    · congr 1
      omega
    · rw [List.length_reverse] at hle ⊢
      omega
  · have hboth : ¬ (cs ++ loose).contains '@' = true := by
      rw [List.contains_iff_mem, List.mem_append]
      exact fun hc => hc.elim hsign h
    rw [if_neg hboth, if_neg (mt List.contains_iff_mem.1 hsign)]
    rfl

/-- The account ends at the last at sign before the host. There is none among blanks, so what is
loose goes to the host. -/
theorem account_append (h : '@' ∉ loose) (cs : List Char) :
    account (cs ++ loose) = ((account cs).1, (account cs).2.1, (account cs).2.2 ++ loose) := by
  unfold account
  rw [cutUserInfo_append h]
  cases cutUserInfo cs <;> rfl

theorem cutPort_of_not_mem (h : ':' ∉ loose) (inside : Bool) :
    cutPort inside loose = (loose, none) := by
  induction loose generalizing inside with
  | nil => rfl
  | cons c cs ih =>
    obtain ⟨hc, hcs⟩ := not_or.1 (mt List.mem_cons.2 h)
    rw [cutPort, decide_eq_false (Ne.symm hc), Bool.false_and, if_neg Bool.false_ne_true]
    simp only [ih hcs]

/-- What holds no colon goes to the port if there is one, and to the host otherwise. -/
theorem cutPort_append (h : ':' ∉ loose) (inside : Bool) (cs : List Char) :
    cutPort inside (cs ++ loose) =
      match cutPort inside cs with
      | (host, none) => (host ++ loose, none)
      | (host, some port) => (host, some (port ++ loose)) := by
  induction cs generalizing inside with
  | nil => exact cutPort_of_not_mem h inside
  | cons c cs ih =>
    rw [List.cons_append, cutPort, cutPort]
    split
    · rfl
    · rw [ih]
      split
      · next host hcut => rw [hcut]; rfl
      · next host port hcut => rw [hcut]

theorem place_append (h : ∀ c ∈ loose, isOuter c = true) (cs : List Char) :
    place (cs ++ loose) =
      match place cs with
      | (host, none) => (host ++ loose, none)
      | (host, some port) => (host, some (port ++ loose)) := by
  unfold place
  rw [account_append (not_mem_of_outer h rfl), cutPort_append (not_mem_of_outer h rfl)]

/-- A port with a blank behind its digits is no port, so such an address is refused once it is
written on. -/
theorem portDigits_append_loose (hne : loose ≠ []) (h : ∀ c ∈ loose, isOuter c = true) (n : Nat)
    (cs : List Char) : portDigits n (cs ++ loose) = none := by
  induction cs generalizing n with
  | nil =>
    cases loose with
    | nil => exact absurd rfl hne
    | cons c rest =>
      have hc : c.toNat ≤ 0x20 := of_decide_eq_true (h c List.mem_cons_self)
      rw [List.nil_append, portDigits, if_neg]
      rintro ⟨hzero, -⟩
      have hle : '0'.toNat ≤ c.toNat := hzero
      exact absurd (Nat.le_trans hle hc) (by decide)
  | cons c cs ih =>
    rw [List.cons_append, portDigits]
    split
    · simp only [ih]
      split <;> rfl
    · rfl

theorem defaultPort?_of_isWeb (h : isWeb scheme = false) : defaultPort? scheme = none := by
  unfold defaultPort?
  split
  all_goals first
    | exact absurd h (by decide)
    | rfl

/-- Whether the text of a port holds the sign that ends its digits before the text ends. -/
def endsInside (port : Option (List Char)) : Bool := port.any (·.contains '\\')

/-! ## The part that names the host, and more -/

variable {goesOn : Bool} {a : Authority}

/-- What stands behind the digits of a port does not matter to them. Neither does what is loose, if
it stands behind such an end. -/
theorem authority_append (h : authority scheme cs goesOn = .ok a) (hhost : a.host ≠ .empty)
    (hloose : ∀ c ∈ loose, isOuter c = true) (hend : loose = [] ∨ endsInside (place cs).2 = true)
    (goesOn' : Bool) :
    authority scheme (cs ++ loose) goesOn' = .ok { a with rest := a.rest ++ loose } := by
  obtain ⟨hread, hport, hname, hpassword, hrest⟩ := (authority_eq_ok hhost).1 h
  refine (authority_eq_ok (a := { a with rest := a.rest ++ loose }) hhost).2 ?_
  rcases hend with rfl | hend
  · simp only [List.append_nil]
    exact ⟨hread, hport, hname, hpassword, hrest⟩
  · rw [place_append hloose, account_append (not_mem_of_outer hloose rfl)]
    rcases hplace : place cs with ⟨host, portText⟩
    rw [hplace] at hread hport hrest hend
    cases portText with
    | none => exact nomatch hend
    | some port =>
      have hstop : port.dropWhile (· ≠ '\\') ≠ [] := by
        intro hall
        have hsign := List.dropWhile_eq_nil_iff.1 hall '\\' (List.contains_iff_mem.1 hend)
        exact absurd hsign (by decide)
      refine ⟨hread, ?_, hname, hpassword, ?_⟩
      · rw [← hport]
        exact congrArg (readPort scheme) (takeWhile_append_of_stop hstop loose)
      · rw [hrest]
        exact (dropWhile_append_of_stop hstop loose).symm

/-- **Blanks and controls that follow host or port at once spoil them.** A port is then no number,
and a name holds a character that no name may hold. -/
theorem authority_append_loose (h : authority scheme cs goesOn = .ok a) (hhost : a.host ≠ .empty)
    (hport? : (a.port.or (defaultPort? scheme)).isSome = true) (hne : loose ≠ [])
    (hloose : ∀ c ∈ loose, isOuter c = true) (hend : endsInside (place cs).2 = false)
    (goesOn' : Bool) : ∃ f, authority scheme (cs ++ loose) goesOn' = .error f := by
  obtain ⟨hread, hport, -⟩ := (authority_eq_ok hhost).1 h
  rw [authority_eq, place_append hloose]
  rcases hplace : place cs with ⟨host, portText⟩
  rw [hplace] at hread hport hend
  cases portText with
  | some port =>
    -- the digits of the port go on into what is no digit
    have hall : (port ++ loose).takeWhile (· ≠ '\\') = port ++ loose := by
      refine List.takeWhile_eq_self_iff.2 fun c hc => decide_eq_true ?_
      rintro rfl
      rcases List.mem_append.1 hc with hc | hc
      · exact Bool.false_ne_true (hend.symm.trans (List.contains_iff_mem.2 hc))
      · exact not_mem_of_outer hloose rfl hc
    have hdigits : digits (some (port ++ loose)) = port ++ loose := hall
    refine ⟨.port, ?_⟩
    rw [Option.isSome_some] at hread
    simp only [Option.isSome_some, hread, Except.bind, hdigits, readPort,
      portDigits_append_loose hne hloose]
  | none =>
    cases hweb : isWeb scheme with
    | true =>
      obtain ⟨f, hf⟩ := @Host.parse_append_loose host loose hne
        fun c hc => of_decide_eq_true (hloose c hc)
      refine ⟨f, ?_⟩
      have hempty : (host ++ loose).isEmpty = false :=
        List.isEmpty_eq_false_iff.2 (List.append_ne_nil_of_right_ne_nil host hne)
      simp only [readHost, hempty, hf, Option.isSome_none, Bool.false_and, Except.bind,
        Bool.false_eq_true, if_false, if_true]
    | false =>
      -- without a port there would be none to connect to
      have hnone : a.port = none := by
        simp only [digits, readPort, portDigits, Option.map_none, Option.getD_none,
          List.isEmpty_nil, true_or, if_true, Except.ok.injEq] at hport
        exact hport.symm
      rw [hnone, defaultPort?_of_isWeb hweb] at hport?
      exact nomatch hport?

/-! ## Addresses -/

/-- An address from the part that names the host and the text behind it. -/
def ofAuthority (scheme : String) (rest : List Char) (a : Authority) : Url :=
  ⟨scheme, a.username, a.password, some a.host, a.port,
    rootPath (isWeb scheme) (a.rest ++ beforeTail rest),
    (tail (isWeb scheme) (fromTail rest)).1, (tail (isWeb scheme) (fromTail rest)).2⟩

/-- The part of a text that names the host, up to the first sign that ends it. -/
def hostPart (scheme : String) (cs : List Char) : List Char :=
  cs.takeWhile (!endsAuthority (isWeb scheme) ·)

def behindHost (scheme : String) (cs : List Char) : List Char :=
  cs.dropWhile (!endsAuthority (isWeb scheme) ·)

theorem afterSlashes_eq (scheme : String) (cs : List Char) :
    afterSlashes scheme cs =
      (authority scheme (hostPart scheme cs) (!(behindHost scheme cs).isEmpty)).map
        (ofAuthority scheme (behindHost scheme cs)) := by
  unfold afterSlashes hostPart behindHost
  simp only
  cases authority scheme _ _ <;> rfl

/-- An address is the part of its host, which may fail to be one, and everything else, which may
not. Only the first has to be followed when a text is written on. -/
theorem afterSlashes_eq_ok {u : Url} : afterSlashes scheme cs = .ok u ↔
    ∃ a, authority scheme (hostPart scheme cs) (!(behindHost scheme cs).isEmpty) = .ok a ∧
      ofAuthority scheme (behindHost scheme cs) a = u := by
  rw [afterSlashes_eq]
  cases authority scheme _ _ <;> simp [Except.map]

theorem ne_empty_of_host? {rest : List Char} (h : (ofAuthority scheme rest a).host?.isSome = true) :
    a.host ≠ .empty := by
  intro hempty
  unfold ofAuthority host? at h
  rw [hempty] at h
  exact nomatch h

section HostPart

variable (hsign : cs.any (endsAuthority (isWeb scheme)) = true)

include hsign

theorem behindHost_ne_nil : behindHost scheme cs ≠ [] := by
  intro hnil
  obtain ⟨c, hc, hend⟩ := List.any_eq_true.1 hsign
  have hno := List.dropWhile_eq_nil_iff.1 hnil c hc
  rw [hend] at hno
  exact nomatch hno

/-- What is put behind an address whose host has ended does not reach it. -/
theorem hostPart_append (t : List Char) : hostPart scheme (cs ++ t) = hostPart scheme cs :=
  takeWhile_append_of_stop (behindHost_ne_nil hsign) t

end HostPart

section WithoutSign

variable (hsign : cs.any (endsAuthority (isWeb scheme)) = false)
  (hloose : ∀ c ∈ loose, isOuter c = true)

include hsign

theorem not_endsAuthority_of_mem {c : Char} (hc : c ∈ cs) :
    (!endsAuthority (isWeb scheme) c) = true := by
  cases hend : endsAuthority (isWeb scheme) c with
  | false => rfl
  | true => exact nomatch hsign.symm.trans (List.any_eq_true.2 ⟨c, hc, hend⟩)

theorem hostPart_eq_self : hostPart scheme cs = cs :=
  List.takeWhile_eq_self_iff.2 fun _ hc => not_endsAuthority_of_mem hsign hc

include hloose

/-- Otherwise the host goes on through what was loose, up to the slash of the path that is put
behind. -/
theorem hostPart_append_loose (path : List Char) :
    hostPart scheme (cs ++ (loose ++ '/' :: path)) = cs ++ loose := by
  have hall : ∀ c ∈ cs ++ loose, (!endsAuthority (isWeb scheme) c) = true := by
    intro c hc
    refine (List.mem_append.1 hc).elim (not_endsAuthority_of_mem hsign) fun hc => ?_
    have hne : ∀ sign : Char, isOuter sign = false → c ≠ sign :=
      fun sign hs heq => not_mem_of_outer hloose hs (heq ▸ hc)
    rw [endsAuthority, isSlash, decide_eq_false (hne '/' rfl), decide_eq_false (hne '\\' rfl),
      decide_eq_false (hne '?' rfl), decide_eq_false (hne '#' rfl), Bool.and_false]
    rfl
  have hstop : ¬ (!endsAuthority (isWeb scheme) '/') = true := by
    rw [endsAuthority, isSlash, decide_eq_true rfl, Bool.true_or, Bool.true_or, Bool.true_or]
    exact Bool.false_ne_true
  unfold hostPart
  rw [← List.append_assoc, List.takeWhile_append_of_pos hall, List.takeWhile_cons, if_neg hstop,
    List.append_nil]

end WithoutSign

/-- Whether host and port end before a text does: at a sign that ends the part that names them, or
at one that ends the digits of a port. -/
def endsBefore (scheme : String) (cs : List Char) : Bool :=
  cs.any (endsAuthority (isWeb scheme)) || endsInside (place cs).2

variable {u : Url}

/-- **A path behind an address leads to the same place**, if nothing is lost at its end or what is
lost there belongs neither to the host nor to the port. -/
theorem afterSlashes_append (h : afterSlashes scheme cs = .ok u) (hhost : u.host?.isSome = true)
    (hloose : ∀ c ∈ loose, isOuter c = true) (hend : loose = [] ∨ endsBefore scheme cs = true)
    (path : List Char) :
    ∃ v, afterSlashes scheme (cs ++ (loose ++ '/' :: path)) = .ok v ∧ SamePlace u v := by
  obtain ⟨a, ha, rfl⟩ := afterSlashes_eq_ok.1 h
  have hne := ne_empty_of_host? hhost
  obtain ⟨rest, hread⟩ : ∃ rest,
      authority scheme (hostPart scheme (cs ++ (loose ++ '/' :: path)))
        (!(behindHost scheme (cs ++ (loose ++ '/' :: path))).isEmpty)
          = .ok { a with rest := a.rest ++ rest } := by
    cases hsign : cs.any (endsAuthority (isWeb scheme)) with
    | true =>
      rw [hostPart_append hsign, ← List.append_nil (hostPart scheme cs)]
      exact ⟨[], authority_append ha hne (fun _ hc => absurd hc List.not_mem_nil) (.inl rfl) _⟩
    | false =>
      rw [hostPart_eq_self hsign] at ha
      rw [endsBefore, hsign, Bool.false_or] at hend
      rw [hostPart_append_loose hsign hloose]
      exact ⟨loose, authority_append ha hne hloose hend _⟩
  exact ⟨_, afterSlashes_eq_ok.2 ⟨_, hread, rfl⟩, rfl, rfl, rfl, rfl, rfl⟩

/-- **Blanks and controls at the end of an address spoil it** when a path is written behind them
and the host or its port is the last the address says. -/
theorem afterSlashes_append_loose (h : afterSlashes scheme cs = .ok u)
    (hhost : u.host?.isSome = true) (hport : u.port?.isSome = true) (hne : loose ≠ [])
    (hloose : ∀ c ∈ loose, isOuter c = true) (hend : endsBefore scheme cs = false)
    (path : List Char) : ∃ f, afterSlashes scheme (cs ++ (loose ++ '/' :: path)) = .error f := by
  obtain ⟨a, ha, rfl⟩ := afterSlashes_eq_ok.1 h
  obtain ⟨hsign, hinside⟩ := Bool.or_eq_false_iff.1 hend
  rw [hostPart_eq_self hsign] at ha
  obtain ⟨f, hf⟩ := authority_append_loose ha (ne_empty_of_host? hhost) hport hne hloose hinside
    (!(behindHost scheme (cs ++ (loose ++ '/' :: path))).isEmpty)
  refine ⟨f, ?_⟩
  rw [afterSlashes_eq, hostPart_append_loose hsign hloose, hf]
  rfl

/-! ## Texts -/

/-- Whether the host and the port of an address end before its text does. -/
def endsEarly (s : String) : Bool := (site? (clean s)).any fun (scheme, cs) => endsBefore scheme cs

theorem port?_of_file (h : file cs = .ok u) : u.port? = none := by
  unfold file at h
  simp only at h
  split at h
  · split at h
    · split at h
      · rw [← Except.ok.inj h]
        rfl
      · obtain ⟨host, -, h⟩ := bind_eq_ok.1 h
        rw [← Except.ok.inj h]
        rfl
    · rw [← Except.ok.inj h]
      rfl
  · rw [← Except.ok.inj h]
    rfl

theorem ne_nil_of_afterSlashes (h : afterSlashes scheme cs = .ok u)
    (hhost : u.host?.isSome = true) : cs ≠ [] := by
  rintro rfl
  obtain ⟨a, ha, rfl⟩ := afterSlashes_eq_ok.1 h
  have hne := ne_empty_of_host? hhost
  obtain ⟨hread, -⟩ := (authority_eq_ok hne).1 ha
  cases hweb : isWeb scheme with
  | true => exact nomatch hweb ▸ hread
  | false =>
    rw [hweb] at hread
    exact hne (Except.ok.inj hread).symm

/-- An address with a host and a port has a place for them in its text. -/
theorem site?_of_parse {s : String} (h : parse s = .ok u) (hhost : u.host?.isSome = true)
    (hport : u.port?.isSome = true) :
    ∃ scheme cs, site? (clean s) = some (scheme, cs) ∧ cs ≠ [] := by
  cases hsite : site? (clean s) with
  | some site =>
    refine ⟨site.1, site.2, rfl, ?_⟩
    rw [parse_of_site? hsite] at h
    exact ne_nil_of_afterSlashes h hhost
  | none =>
    exfalso
    unfold parse at h
    unfold site? at hsite
    cases hscheme : scheme? (clean s) with
    | none =>
      simp only [hscheme] at h
      exact nomatch h
    | some read =>
      obtain ⟨scheme, rest⟩ := read
      rw [hscheme, Option.bind_some] at hsite
      simp only [hscheme] at h hsite
      unfold withScheme at h
      split at hsite
      · next hfile =>
        rw [if_pos hfile] at h
        rw [port?_of_file h] at hport
        exact nomatch hport
      · next hfile =>
        split at hsite
        · exact nomatch hsite
        · next hweb =>
          rw [Option.map_eq_none_iff] at hsite
          rw [if_neg hfile, if_neg hweb, other, hsite] at h
          rw [← Except.ok.inj h] at hhost
          exact nomatch hhost

section Append

variable {s t : String} (h : parse s = .ok u) (hhost : u.host?.isSome = true)
  (hport : u.port?.isSome = true) (ht : t.toList.head? = some '/')
  (hlast : ∃ c, t.toList.getLast? = some c ∧ isOuter c = false)

include h hhost hport ht hlast

/-- **What an address with more behind it is**, from the part behind its slashes. Both addresses are
brought to this form, and then they differ in their loose end alone. -/
theorem parse_append_eq : ∃ scheme cs path, site? (clean s) = some (scheme, cs) ∧
    afterSlashes scheme cs = .ok u ∧
    parse (s ++ t) = afterSlashes scheme (cs ++ (looseEnd s ++ '/' :: path)) := by
  obtain ⟨scheme, cs, hsite, hne⟩ := site?_of_parse h hhost hport
  have hclean : clean s ≠ [] := by
    intro hnil
    rw [hnil] at hsite
    exact nomatch hsite
  obtain ⟨path, hpath⟩ := List.head?_eq_some_iff.1 ht
  refine ⟨scheme, cs, path.filter isKept, hsite, ?_, ?_⟩
  · rw [← parse_of_site? hsite, h]
  · refine parse_of_site? ?_
    rw [clean_append hclean hlast, hpath]
    exact site?_append hsite hne _

/-- **More may be written behind an address** that has no loose end, or whose host and port end
before it. -/
theorem parse_append (hend : looseEnd s = [] ∨ endsEarly s = true) :
    ∃ v, parse (s ++ t) = .ok v ∧ SamePlace u v := by
  obtain ⟨scheme, cs, path, hsite, hu, hparse⟩ := parse_append_eq h hhost hport ht hlast
  rw [endsEarly, hsite, Option.any_some] at hend
  rw [hparse]
  exact afterSlashes_append hu hhost (fun _ => isOuter_of_mem_looseEnd) hend path

/-- **Behind any other address nothing can be written.** What was loose at its end now stands before
the path, in the name of the host or behind the digits of the port, and there a blank is refused. -/
theorem parse_append_looseEnd (hne : looseEnd s ≠ []) (hend : endsEarly s = false) :
    ∃ f, parse (s ++ t) = .error f := by
  obtain ⟨scheme, cs, path, hsite, hu, hparse⟩ := parse_append_eq h hhost hport ht hlast
  rw [endsEarly, hsite, Option.any_some] at hend
  rw [hparse]
  exact afterSlashes_append_loose hu hhost hport hne (fun _ => isOuter_of_mem_looseEnd) hend path

end Append

end Ingest.Url
