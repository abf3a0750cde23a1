import Ingest.Proofs.Settings.Spelling
import Ingest.Proofs.Url.NameAndPort

/-!
# Entries with and without a scheme

A host is entered as a name and a port, or as an address with its scheme, and an entry of the first
kind is given a scheme. Which kind it is of is decided by its first four letters. That is a test for
the name as well as for the scheme: a name may begin like the scheme of the web, and a scheme may be
written in capitals. So the test is right exactly where the four letters and a scheme stand together
or are both missing (`normalize_eq_iff`).

An entry that is taken for the wrong kind is lost. A name and a port that get no scheme have nothing
to connect to, or the port is taken for the host.
-/

namespace Ingest

namespace HostEntry

open Load (submitAddress stateAddress)
open Url (isName isPlace placeAddress)

variable {entry name port : String} {cs ds : List Char}

/-- The text of an entry: without blanks around it and slashes behind it. Everything that is decided
about an entry is decided about this text. -/
def core (entry : String) : List Char := dropEndWhile (· = '/') (trimBlanks entry.toList)

/-- **Whether a text carries a scheme of the web**, in small letters or in capitals. -/
def carriesScheme (cs : List Char) : Bool :=
  startsWith "http://".toList (cs.map Char.toLower) ||
    startsWith "https://".toList (cs.map Char.toLower)

/-- **The address that an entry stands for**: with a scheme in front of it exactly if it carries
none. -/
def completed (entry : String) : String :=
  if carriesScheme (core entry) then String.ofList (core entry)
  else String.ofList ("http://".toList ++ core entry)

/-! ## Beginnings -/

theorem startsWith_iff : startsWith cs ds = true ↔ cs <+: ds := by
  induction cs generalizing ds with
  | nil => exact iff_of_true rfl List.nil_prefix
  | cons c cs ih =>
    cases ds with
    | nil => exact iff_of_false Bool.false_ne_true (mt List.prefix_nil.1 (List.cons_ne_nil c cs))
    | cons d ds =>
      show (decide (c = d) && startsWith cs ds) = true ↔ _
      rw [Bool.and_eq_true, decide_eq_true_eq, ih, List.cons_prefix_cons]

/-- Whether a text starts with a word does not depend on what stands behind a sign that the word
does not contain. The sign is a colon or a slash here, the word a scheme. -/
theorem startsWith_append_cons {sign : Char} (h : sign ∉ cs) (ds rest : List Char) :
    startsWith cs (ds ++ sign :: rest) = startsWith cs ds := by
  induction cs generalizing ds with
  | nil => rfl
  | cons c cs ih =>
    obtain ⟨hc, hcs⟩ := not_or.1 (mt List.mem_cons.2 h)
    cases ds with
    | nil =>
      show (decide (c = sign) && startsWith cs rest) = false
      rw [decide_eq_false (Ne.symm hc), Bool.false_and]
    | cons d ds =>
      show (decide (c = d) && startsWith cs (ds ++ sign :: rest))
        = (decide (c = d) && startsWith cs ds)
      rw [ih hcs]

theorem eq_slash_of_toLower {c : Char} (h : c.toLower = '/') : c = '/' := by
  have hchar : c ≤ '/' := h ▸ le_toLower c
  have hle : c.toNat ≤ 0x2F := UInt32.le_iff_toNat_le.1 hchar
  exact (Url.Domain.toLower_of_lt (by omega)).symm.trans h

/-- A text without a slash carries no scheme, even if it starts with the letters of one. The normal
form looks at the letters alone, and so takes a name like this for an address. -/
theorem carriesScheme_of_not_mem (h : '/' ∉ cs) : carriesScheme cs = false := by
  have hlower : '/' ∉ cs.map Char.toLower := fun hmem => by
    obtain ⟨c, hc, heq⟩ := List.mem_map.1 hmem
    exact h (eq_slash_of_toLower heq ▸ hc)
  have hnone : ∀ scheme : List Char, '/' ∈ scheme →
      startsWith scheme (cs.map Char.toLower) = false := fun scheme hmem =>
    Bool.eq_false_iff.2 fun hstarts => hlower ((startsWith_iff.1 hstarts).subset hmem)
  rw [carriesScheme, hnone _ (by decide), hnone _ (by decide), Bool.or_false]

/-! ## The test of the first letters -/

/-- The normal form looks at the first four letters of an entry only. A name that begins with them
is taken for an address and kept as it is. -/
theorem normalize_eq (entry : String) : normalize entry =
    if startsWith "http".toList (core entry) then String.ofList (core entry)
    else String.ofList ("http://".toList ++ core entry) := rfl

theorem ofList_ne (cs : List Char) : String.ofList cs ≠ String.ofList ("http://".toList ++ cs) := by
  intro h
  have hlen := congrArg (fun s => s.toList.length) h
  simp only [String.toList_ofList, List.length_append] at hlen
  have hseven : "http://".toList.length = 7 := rfl
  omega

/-- **Where the test of the first letters is right**: where they stand in front of a scheme, and
where there are neither. Both tests make one of the same two texts of an entry, so they agree
exactly if they come to the same. -/
theorem normalize_eq_iff (entry : String) : normalize entry = completed entry ↔
    (startsWith "http".toList (core entry) = true ↔ carriesScheme (core entry) = true) := by
  rw [normalize_eq, completed]
  cases startsWith "http".toList (core entry) <;> cases carriesScheme (core entry)
  · exact iff_of_true rfl Iff.rfl
  · exact iff_of_false (ofList_ne _).symm (by decide)
  · exact iff_of_false (ofList_ne _) (by decide)
  · exact iff_of_true rfl Iff.rfl

/-! ## A name and a port -/

/-- **An address that takes a path is connected to alike by all requests**: by the probe, by every
load and by every question about a label. -/
theorem target?_of_takesPath {address : String} {target : String × ℕ}
    (h : target? address = some target) (htakes : takesPath address = true)
    (database table : String) :
    target? (submitAddress address database table) = some target ∧
      target? (stateAddress address database) = some target := by
  obtain ⟨u, host, p, hu, hhost, hport, -⟩ := target?_eq_some.1 h
  have hcontinues : ∀ other, Continues address other → target? other = some target :=
    fun other hother => by
      obtain ⟨v, hv, hplace⟩ := parse_of_continues hu (Option.isSome_of_eq_some hhost)
        (Option.isSome_of_eq_some hport) hother htakes
      rw [target?_of_samePlace hu hv hplace, h]
  exact ⟨hcontinues _ (continues_submitAddress address database table),
    hcontinues _ (continues_stateAddress address database)⟩

section Place

variable (hcore : core entry = (name ++ ":" ++ port).toList)

include hcore

theorem startsWith_of_place :
    startsWith "http".toList (core entry) = startsWith "http".toList name.toList := by
  rw [hcore, Url.toList_place]
  exact startsWith_append_cons (by decide) _ _

variable (hplace : isPlace name port = true)

include hplace

theorem carriesScheme_of_place : carriesScheme (core entry) = false := by
  obtain ⟨hname, -, hdigits⟩ := Url.isPlace_iff.1 hplace
  refine carriesScheme_of_not_mem ?_
  rw [hcore, Url.toList_place, List.mem_append, List.mem_cons]
  rintro (hc | hc | hc)
  · exact absurd (hname _ hc) (by decide)
  · exact absurd hc (by decide)
  · exact absurd (hdigits _ hc) (by decide)

/-- An entry that is a name and a port stands for one address, with the scheme in front of it. -/
theorem completed_of_place : completed entry = placeAddress name port := by
  rw [completed, carriesScheme_of_place hcore hplace, if_neg Bool.false_ne_true, hcore]
  refine String.toList_inj.1 ?_
  simp only [placeAddress, String.toList_ofList, String.toList_append, List.append_assoc]

/-- **A name that does not begin like the web is given a scheme**, and with it the address is the
one that was meant. -/
theorem normalize_of_place (hhttp : startsWith "http".toList name.toList = false) :
    normalize entry = placeAddress name port := by
  rw [← completed_of_place hcore hplace, normalize_eq_iff, startsWith_of_place hcore, hhttp,
    carriesScheme_of_place hcore hplace]

/-- A name that does not begin like a scheme is found again in every request that is made for it:
the probe and the load go to the same port. -/
theorem target?_of_place (hhttp : startsWith "http".toList name.toList = false)
    {target : String × ℕ} (h : target? (normalize entry) = some target) (database table : String) :
    target? (submitAddress (normalize entry) database table) = some target ∧
      target? (stateAddress (normalize entry) database) = some target := by
  refine target?_of_takesPath h ?_ database table
  rw [normalize_of_place hcore hplace hhttp, takesPath, (Url.site?_placeAddress hplace).1]
  rfl

/-- **One that does is left as it is**, and so it is another address: its name stands where a scheme
stands, and its port where a host does. -/
theorem normalize_of_http (hhttp : startsWith "http".toList name.toList = true) :
    normalize entry = name ++ ":" ++ port ∧ normalize entry ≠ completed entry := by
  have hstarts : startsWith "http".toList (core entry) = true :=
    (startsWith_of_place hcore).trans hhttp
  refine ⟨?_, fun h => ?_⟩
  · rw [normalize_eq, if_pos hstarts, hcore, String.ofList_toList]
  · have hcarries := ((normalize_eq_iff entry).1 h).1 hstarts
    rw [carriesScheme_of_place hcore hplace] at hcarries
    exact nomatch hcarries

end Place

/-- **What becomes of an entry**, by its first four letters, and when that is what was meant: if
they stand in front of a scheme, or neither is there.

A name and a port carry no scheme. If the name does not begin with the four letters, its address is
the name and the port behind the scheme of the web, and probes and requests go there: to the host
that the name is read as, at the port. If it does begin with them, the entry stays as it is. Then
the name is taken for a scheme, and it is never connected to: either there is nothing to connect to,
or the name is a scheme of the web and the host is what the digits of the port are read as. -/
theorem normalize_eq_completed_iff (entry : String) :
    (startsWith "http".toList (core entry) = true → normalize entry = String.ofList (core entry)) ∧
    (startsWith "http".toList (core entry) = false →
      normalize entry = String.ofList ("http://".toList ++ core entry)) ∧
    (normalize entry = completed entry ↔
      (startsWith "http".toList (core entry) = true ↔ carriesScheme (core entry) = true)) ∧
    ∀ name port : String, isPlace name port = true →
      core entry = (name ++ ":" ++ port).toList →
      completed entry = placeAddress name port ∧
      (startsWith "http".toList name.toList = false →
        normalize entry = placeAddress name port ∧
        (∀ target, target? (normalize entry) = some target → ∀ database table,
          target? (submitAddress (normalize entry) database table) = some target ∧
            target? (stateAddress (normalize entry) database) = some target) ∧
        ∀ host p, isName name = true → Url.Host.parse name.toList = .ok host →
          Url.portDigits 0 port.toList = some p →
          target? (normalize entry) = some (host.bare, p)) ∧
      (startsWith "http".toList name.toList = true →
        normalize entry = name ++ ":" ++ port ∧ normalize entry ≠ completed entry ∧
        ∀ target, isName name = true → target? (normalize entry) = some target →
          ∃ host, Url.Host.parse port.toList = .ok host ∧
            (lowerText name = "http" ∧ target = (host.bare, 80) ∨
              lowerText name = "https" ∧ target = (host.bare, 443))) := by
  refine ⟨fun h => ?_, fun h => ?_, normalize_eq_iff entry, fun name port hplace hcore =>
    ⟨completed_of_place hcore hplace, fun hhttp => ?_, fun hhttp => ?_⟩⟩
  · rw [normalize_eq, if_pos h]
  · rw [normalize_eq, h, if_neg Bool.false_ne_true]
  · have hnormalize := normalize_of_place hcore hplace hhttp
    refine ⟨hnormalize, fun target h => target?_of_place hcore hplace hhttp h,
      fun host p hname hhost hport => ?_⟩
    rw [hnormalize]
    exact Url.target?_placeAddress hname hplace hhost hport
  · obtain ⟨hnormalize, hne⟩ := normalize_of_http hcore hplace hhttp
    refine ⟨hnormalize, hne, fun target hname h => ?_⟩
    rw [hnormalize] at h
    exact Url.target?_of_http hname hplace hhttp h

/-- An entry with a blank in front and a slash behind, whose name does not begin like the web. -/
theorem normalize_eq_completed_iff_of_slash :
    let entry := " fe:8030/ "
    normalize entry = placeAddress "fe" "8030" ∧ normalize entry = completed entry ∧
      target? (normalize entry) = some ("fe", 8030) ∧
      target? (submitAddress (normalize entry) "d" "t") = some ("fe", 8030) := by
  intro entry
  have hcore : core entry = ("fe" ++ ":" ++ "8030").toList := by decide +kernel
  have hplace : isPlace "fe" "8030" = true := by decide +kernel
  have hhttp : startsWith "http".toList "fe".toList = false := by decide +kernel
  obtain ⟨-, -, -, hall⟩ := normalize_eq_completed_iff entry
  obtain ⟨hcompleted, hother, -⟩ := hall "fe" "8030" hplace hcore
  obtain ⟨hnormalize, hrequests, hread⟩ := hother hhttp
  have htarget := hread (.domain "fe") 8030 (by decide +kernel) (by decide +kernel)
    (by decide +kernel)
  exact ⟨hnormalize, hnormalize.trans hcompleted.symm, htarget, (hrequests _ htarget "d" "t").1⟩

/-- **A name that begins like the web, and a scheme in capitals**: the first gets no scheme and is
not connected to, the second gets another one. -/
theorem normalize_ne_of_web :
    normalize "httpd1:8030" = "httpd1:8030" ∧ completed "httpd1:8030" = "http://httpd1:8030" ∧
      target? (normalize "httpd1:8030") = none ∧
      target? (completed "httpd1:8030") = some ("httpd1", 8030) ∧
      normalize "HTTP://fe1:8030" = "http://HTTP://fe1:8030" ∧
      completed "HTTP://fe1:8030" = "HTTP://fe1:8030" ∧
      ¬ ∀ entry, normalize entry = completed entry := by
  have hkept : normalize "httpd1:8030" = "httpd1:8030" := by decide +kernel
  have hcompleted : completed "httpd1:8030" = "http://httpd1:8030" := by decide +kernel
  refine ⟨hkept, hcompleted, by decide +kernel, by decide +kernel, by decide +kernel,
    by decide +kernel, fun hall => ?_⟩
  have h := (hkept.symm.trans (hall "httpd1:8030")).trans hcompleted
  exact absurd h (by decide)

end HostEntry

end Ingest
