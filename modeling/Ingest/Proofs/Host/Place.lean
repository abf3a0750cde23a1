import Ingest.Host.Rotation
import Ingest.Load.Requests
import Ingest.Proofs.Url.Authority

/-!
# The host that is probed and the host that is loaded

A host is probed by the address of its entry alone, and what is sent to it goes to longer addresses
that begin with that one. They lead to the place that was probed unless the address ends in blanks
or controls, right behind its host or port. An entry is freed of blanks first and of slashes then,
so a blank in front of the last slash is such an end; and of a control it is never freed.
-/

namespace Ingest.HostEntry

open Load (submitAddress stateAddress)
open Url (SamePlace looseEnd endsEarly isOuter)

/-- Whether an address leads to the same place when a path is written behind it: nothing is dropped
at its end, or its host and port end before. -/
def takesPath (address : String) : Bool := (looseEnd address).isEmpty || endsEarly address

/-- What is sent to a host goes to the place that was probed, for every table, every database and
every label. A place is a scheme, an account, a host and a port. -/
structure Reached (probed : Url) (address : String) : Prop where
  load : ∀ database table, ∃ u,
    Url.parse (submitAddress address database table) = .ok u ∧ SamePlace probed u
  state : ∀ database, ∃ u, Url.parse (stateAddress address database) = .ok u ∧
    ∀ label, SamePlace probed (u.appendPair "label" label)

/-- Nothing is sent to a host, since its address is not read. The load and the question about its
label fail with a fault that shows the address, before a request is made of it. -/
structure Refused (address : String) : Prop where
  load : ∀ c database table label payload, ∃ f,
    Load.submit c address database table label payload
      = .done (.error (.settings (.invalid .hosts
          (.address (submitAddress address database table) f))))
  state : ∀ c database label, ∃ f,
    Load.queryState c address database label
      = .done (.error (.settings (.invalid .hosts (.address address f))))

/-! ## The addresses of requests -/

variable {address other : String} {u v : Url} {target : String × Nat}

/-- An address that goes on with a path where another one ends. What is written behind begins with a
slash and ends with something that is not dropped. -/
def Continues (address other : String) : Prop :=
  ∃ t : String, t.toList.head? = some '/' ∧
    (∃ c, t.toList.getLast? = some c ∧ isOuter c = false) ∧ other = address ++ t

/-- Whatever is put behind an address here begins with a slash and ends in a letter. Nothing at its
end is trimmed, and nothing of it runs together with the address. -/
theorem continues_api (address middle last : String) {c : Char}
    (hlast : last.toList.getLast? = some c) (hc : isOuter c = false) :
    Continues address (address ++ ("/api/" ++ (middle ++ last))) := by
  refine ⟨_, ?_, ⟨c, ?_, hc⟩, rfl⟩
  · rw [String.toList_append]
    rfl
  · rw [String.toList_append, String.toList_append, List.getLast?_append, List.getLast?_append,
      hlast]
    rfl

theorem continues_submitAddress (address database table : String) :
    Continues address (submitAddress address database table) := by
  have h := continues_api address (database ++ "/" ++ table) "/_stream_load" (c := 'd') rfl rfl
  simpa only [submitAddress, String.append_assoc] using h

theorem continues_stateAddress (address database : String) :
    Continues address (stateAddress address database) := by
  rw [stateAddress, String.append_assoc, String.append_assoc]
  exact continues_api address database "/get_load_state" (c := 'e') rfl rfl

/-! ## Probing and loading -/

/-- A target is a name and a port. An address without a host has none, and neither has one whose
scheme has no port of its own and which does not say one. -/
theorem target?_eq_some : target? address = some target ↔
    ∃ u h p, Url.parse address = .ok u ∧ u.host? = some h ∧ u.port? = some p ∧
      target = (h.bare, p) := by
  unfold target?
  cases Url.parse address with
  | error f => simp
  | ok u =>
    cases hhost : u.host? with
    | none => simp [hhost]
    | some h =>
      cases hport : u.port? with
      | none => simp [hhost, hport]
      | some p => simp [hhost, hport, eq_comm]

theorem samePlace_appendPair {name value : String} :
    SamePlace u (v.appendPair name value) ↔ SamePlace u v :=
  ⟨fun h => ⟨h.scheme, h.username, h.password, h.host, h.port⟩,
    fun h => ⟨h.scheme, h.username, h.password, h.host, h.port⟩⟩

/-- The target is read from the place alone. Two addresses at one place are therefore probed alike,
whatever path and query they have. -/
theorem target?_of_samePlace (hu : Url.parse address = .ok u) (hv : Url.parse other = .ok v)
    (h : SamePlace u v) : target? other = target? address := by
  unfold target?
  rw [hu, hv]
  simp only [Url.host?, Url.port?, h.host, h.port, h.scheme]

section Continued

variable (hu : Url.parse address = .ok u) (hhost : u.host?.isSome = true)
  (hport : u.port?.isSome = true)

include hu hhost hport

/-- **An address that takes a path goes on to the same place.** Its own end is then the end of its
host and port, with or without a path behind it. -/
theorem parse_of_continues (h : Continues address other) (htakes : takesPath address = true) :
    ∃ v, Url.parse other = .ok v ∧ SamePlace u v := by
  obtain ⟨t, hhead, hlast, rfl⟩ := h
  exact Url.parse_append hu hhost hport hhead hlast
    ((Bool.or_eq_true_iff.1 htakes).imp List.isEmpty_iff.1 id)

/-- **One that does not take a path cannot go on.** What was dropped at its end alone stands in
the middle now, inside the name of the host or behind the digits of the port, and there it is
refused. -/
theorem not_parse_of_continues (h : Continues address other) (htakes : takesPath address = false) :
    ∃ f, Url.parse other = .error f := by
  obtain ⟨t, hhead, hlast, rfl⟩ := h
  obtain ⟨hloose, hend⟩ := Bool.or_eq_false_iff.1 htakes
  exact Url.parse_append_looseEnd hu hhost hport hhead hlast
    (List.isEmpty_eq_false_iff.1 hloose) hend

/-- An address that takes a path is the beginning of every request to its host. So the account, the
host and the port that were probed are those the request is sent to. -/
theorem reached_of_takesPath (htakes : takesPath address = true) : Reached u address := by
  constructor
  · intro database table
    exact parse_of_continues hu hhost hport (continues_submitAddress ..) htakes
  · intro database
    obtain ⟨v, hv, hplace⟩ :=
      parse_of_continues hu hhost hport (continues_stateAddress address database) htakes
    exact ⟨v, hv, fun label => samePlace_appendPair.2 hplace⟩

/-- An address that takes no path is refused with any path behind it, and thus before anything is
sent. A probe needs no path, so the host may well have been found reachable. -/
theorem refused_of_takesPath (htakes : takesPath address = false) : Refused address := by
  constructor
  · intro c database table label payload
    obtain ⟨f, hf⟩ := not_parse_of_continues hu hhost hport
      (continues_submitAddress address database table) htakes
    refine ⟨f, ?_⟩
    simp only [Load.submit, Load.storeUrl, hf]
  · intro c database label
    obtain ⟨f, hf⟩ := not_parse_of_continues hu hhost hport
      (continues_stateAddress address database) htakes
    refine ⟨f, ?_⟩
    simp only [Load.queryState, Load.storeUrl, hf]

end Continued

/-- **A host that was probed is loaded or refused, and never another host is loaded in its place.**
Every load and every question about a label goes to the place that the address of its entry names,
with the same scheme, account, host and port, if that address takes a path. If it does not, every
one of them is refused before anything is sent. -/
theorem reached_or_refused {entry : String} (h : target? (normalize entry) = some target) :
    ∃ probed, Url.parse (normalize entry) = .ok probed ∧
      (takesPath (normalize entry) = true → Reached probed (normalize entry) ∧
        ∀ database table, target? (submitAddress (normalize entry) database table) = some target ∧
          target? (stateAddress (normalize entry) database) = some target) ∧
      (takesPath (normalize entry) = false → Refused (normalize entry)) := by
  obtain ⟨u, host, port, hu, hhost, hport, -⟩ := target?_eq_some.1 h
  have hhost? : u.host?.isSome = true := Option.isSome_of_eq_some hhost
  have hport? : u.port?.isSome = true := Option.isSome_of_eq_some hport
  refine ⟨u, hu, fun htakes => ?_, refused_of_takesPath hu hhost? hport?⟩
  have hreached := reached_of_takesPath hu hhost? hport? htakes
  refine ⟨hreached, fun database table => ⟨?_, ?_⟩⟩
  · obtain ⟨v, hv, hplace⟩ := hreached.load database table
    rw [target?_of_samePlace hu hv hplace, h]
  · obtain ⟨v, hv, hplace⟩ := hreached.state database
    rw [target?_of_samePlace hu hv (samePlace_appendPair.1 (hplace "")), h]

theorem reached_or_refused_of_port :
    target? (normalize "fe:8030") = some ("fe", 8030) ∧ ∃ probed,
      Url.parse (normalize "fe:8030") = .ok probed ∧ Reached probed (normalize "fe:8030") := by
  have h : target? (normalize "fe:8030") = some ("fe", 8030) := by decide +kernel
  obtain ⟨probed, hprobed, hreached, -⟩ := reached_or_refused h
  exact ⟨h, probed, hprobed, (hreached (by decide +kernel)).1⟩

/-- **A blank in front of the last slash** of an entry: the host is probed, and no load can be put
to it. -/
theorem refused_blank_before_slash :
    target? (normalize "a /") = some ("a", 80) ∧
      (Url.parse (submitAddress (normalize "a /") "d" "t")).isOk = false ∧
      (Url.parse (stateAddress (normalize "a /") "d")).isOk = false := by
  decide +kernel

end Ingest.HostEntry
