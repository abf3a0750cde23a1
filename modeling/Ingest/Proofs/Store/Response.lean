import Ingest.Failure
import Ingest.Proofs.Json.Extent
import Ingest.Proofs.Keyed

/-!
# Nothing of a response is lost

A response is read by taking the known members out of an object, one after another, and keeping what
is left. A member whose value has another type than it should have is not taken, so it is kept with
the rest. `Taken` says this of one member, and `Lossless` of all of them: what is taken is gone from
the rest and nothing else is, so that the members which are written are those that were read.

The takings do not get in each other's way, because each of them touches its own key only. Nothing
but a missing status keeps an object from being a response, and a text that is none is kept whole in
the failure (`read_lossless`).
-/

namespace Ingest

namespace Json

theorem Numeral.value?_ne_obj (n : Numeral) (m : Keyed Json) : n.value? ≠ some (.obj m) := by
  unfold Numeral.value?
  split
  · simp only [ne_eq, Option.some.injEq, reduceCtorEq, not_false_eq_true]
  · simp only [ne_eq, Option.map_eq_some_iff, reduceCtorEq, and_false, exists_false,
      not_false_eq_true]

/-- An object at the front of a text is sorted by key, whatever order its members stand in. -/
theorem sorted_of_value {fuel depth : Nat} {cs rest : List Char} {m : Keyed Json}
    (h : value fuel depth cs = some (.obj m, rest)) : Keyed.Sorted m := by
  cases fuel with
  | zero => cases h
  | succ fuel =>
    -- what is read of the text is an object
    generalize hv : Json.obj m = v at h
    cases value_iff.1 h with
    | noMembers =>
      cases hv
      exact List.Pairwise.nil
    | @members _ _ ms =>
      cases hv
      exact Keyed.sorted_ofEntries ms
    | word hw =>
      subst hv
      simp only [wordValues, List.mem_cons, List.not_mem_nil, or_false, Prod.mk.injEq,
        reduceCtorEq, and_false] at hw
    | @number _ _ n _ _ hn => exact absurd (hv ▸ hn) (n.value?_ne_obj m)
    | string | noItems | items => cases hv

/-- **Objects that are read are sorted by key**, as the law of a taking asks for. It is shown of
every value at the front of a text first, since a document is one. -/
theorem sorted_of_ofText? {body : String} {m : Keyed Json}
    (h : ofText? body = some (.obj m)) : Keyed.Sorted m := by
  unfold ofText? ofChars? at h
  split at h
  · next hvalue =>
    split at h
    · cases h
      exact sorted_of_value hvalue
    · exact nomatch h
  · exact nomatch h

end Json

namespace Response

variable {α : Type} {reading : Json → Option α} {toJson : α → Json} {key k : String}
  {m extra : Keyed Json} {v : Option α} {r : Response}

/-! ## Types of members -/

/-- A signed number is read exactly where one is written. -/
theorem asInt64_eq_some {j : Json} {n : Int64} : asInt64 j = some n ↔ j = ofInt64 n := by
  unfold ofInt64
  cases j with
  | int i =>
    rw [asInt64, Json.int.injEq]
    constructor
    · intro h
      split at h
      · next hbounds =>
        obtain ⟨hleast, hgreatest⟩ := hbounds
        rw [Int64.toInt_minValue] at hleast
        rw [Int64.toInt_maxValue] at hgreatest
        rw [← Option.some.inj h, Int64.toInt_ofInt_of_le hleast (by omega)]
      · exact nomatch h
    · rintro rfl
      rw [if_pos ⟨Int64.minValue_le_toInt n, n.toInt_le⟩, Int64.ofInt_toInt]
  | null | bool b | float x | str s | arr xs | obj ms => simp only [asInt64, reduceCtorEq]

/-- A count is read exactly where one is written. -/
theorem asCount_eq_some {j : Json} {n : UInt64} : asCount j = some n ↔ j = ofCount n := by
  unfold ofCount
  cases j with
  | int i =>
    rw [asCount, Json.int.injEq]
    constructor
    · intro h
      split at h
      · next hbounds =>
        have hlt : i.toNat < UInt64.size := by omega
        rw [← Option.some.inj h, UInt64.toNat_ofNat_of_lt' hlt, Int.toNat_of_nonneg hbounds.1]
      · exact nomatch h
    · rintro rfl
      have hlt : n.toNat < UInt64.size := n.toNat_lt
      rw [if_pos ⟨by omega, by omega⟩, Int.toNat_natCast, UInt64.ofNat_toNat]
  | null | bool b | float x | str s | arr xs | obj ms => simp only [asCount, reduceCtorEq]

theorem text?_eq_some {j : Json} {s : String} : j.text? = some s ↔ j = .str s := by
  cases j with
  | str t => simp only [Json.text?, Option.some.injEq, Json.str.injEq]
  | null | bool b | int n | float x | arr xs | obj ms => simp only [Json.text?, reduceCtorEq]

/-! ## Taking members out -/

theorem fst_take : (take reading key m).1 = (Keyed.find? key m).bind reading := by
  unfold take
  cases (Keyed.find? key m).bind reading <;> rfl

theorem sorted_take (hm : Keyed.Sorted m) : Keyed.Sorted (take reading key m).2 := by
  unfold take
  cases (Keyed.find? key m).bind reading with
  | none => exact hm
  | some v => exact Keyed.sorted_erase hm

/-- A taking leaves the other keys alone. With the two lemmas about its own key this is all that is
used of it when the takings follow one another. -/
theorem find?_take_of_ne (h : k ≠ key) :
    Keyed.find? k (take reading key m).2 = Keyed.find? k m := by
  unfold take
  cases (Keyed.find? key m).bind reading with
  | none => rfl
  | some v => exact Keyed.find?_erase_of_ne h m

theorem find?_take_self (hm : Keyed.Sorted m) :
    Keyed.find? key (take reading key m).2
      = if ((Keyed.find? key m).bind reading).isSome then none else Keyed.find? key m := by
  unfold take
  cases (Keyed.find? key m).bind reading with
  | none => rfl
  | some v => exact Keyed.find?_erase_self hm

/-- **A member that was taken out of an object if it could be**: it holds the value under its key
exactly if that has the type of the member, and only then is the value gone from what is left. -/
structure Taken (toJson : α → Json) (key : String) (m : Keyed Json) (v : Option α)
    (extra : Keyed Json) : Prop where
  eq_some_iff : ∀ a, v = some a ↔ Keyed.find? key m = some (toJson a)
  left : Keyed.find? key extra = if v.isSome then none else Keyed.find? key m

/-- A member is taken without a loss if its reading can be undone: the value that was read makes the
value that was written. -/
theorem Taken.of_reading (hreading : ∀ {j a}, reading j = some a ↔ j = toJson a)
    (hv : v = (Keyed.find? key m).bind reading)
    (hextra : Keyed.find? key extra
      = if ((Keyed.find? key m).bind reading).isSome then none else Keyed.find? key m) :
    Taken toJson key m v extra := by
  refine ⟨fun a => ?_, hv ▸ hextra⟩
  rw [hv, Option.bind_eq_some_iff]
  simp only [hreading, exists_eq_right]

/-! ## Responses -/

/-- The keys that are known by name. They are different from one another, so no member is taken
twice. -/
def knownKeys : List String :=
  ["Status", "TxnId", "Label", "Message", "NumberTotalRows", "NumberLoadedRows",
    "NumberFilteredRows", "NumberUnselectedRows", "LoadBytes", "LoadTimeMs", "ErrorURL",
    "ExistingJobStatus"]

/-- **A response that holds all that an object holds**: each known member is taken if it has the
type it should have, and what was not taken is still there, under its own key and unchanged. -/
structure Lossless (m : Keyed Json) (r : Response) : Prop where
  status : Keyed.find? "Status" m = some (.str r.status.name)
  status_left : Keyed.find? "Status" r.extra = none
  txnId : Taken ofInt64 "TxnId" m r.txnId r.extra
  label : Taken .str "Label" m r.label r.extra
  message : Taken .str "Message" m r.message r.extra
  totalRows : Taken ofCount "NumberTotalRows" m r.totalRows r.extra
  loadedRows : Taken ofCount "NumberLoadedRows" m r.loadedRows r.extra
  filteredRows : Taken ofCount "NumberFilteredRows" m r.filteredRows r.extra
  unselectedRows : Taken ofCount "NumberUnselectedRows" m r.unselectedRows r.extra
  loadBytes : Taken ofCount "LoadBytes" m r.loadBytes r.extra
  loadTimeMs : Taken ofCount "LoadTimeMs" m r.loadTimeMs r.extra
  errorUrl : Taken .str "ErrorURL" m r.errorUrl r.extra
  existingJob : Taken .str "ExistingJobStatus" m r.existingJob r.extra
  /-- All else is left as it was. -/
  others : ∀ key ∉ knownKeys, Keyed.find? key r.extra = Keyed.find? key m
  sorted : Keyed.Sorted r.extra

/-- **The known members are taken out of an object**, each by itself: taking one does not change
what stands under the key of another, so the order in which they are taken does not matter. -/
theorem lossless_ofRest (hm : Keyed.Sorted m) {s : String}
    (hstatus : Keyed.find? "Status" m = some (.str s)) :
    Lossless m (ofRest (LoadStatus.ofName s) (Keyed.erase "Status" m)) := by
  have hrest := Keyed.sorted_erase (k := "Status") hm
  have hself := Keyed.find?_erase_self (k := "Status") hm
  have hother : ∀ {k}, k ≠ "Status" → Keyed.find? k (Keyed.erase "Status" m) = Keyed.find? k m :=
    fun h => Keyed.find?_erase_of_ne h m
  have h₁ := @sorted_take _ asInt64 "TxnId" _ hrest
  have h₂ := @sorted_take _ Json.text? "Label" _ h₁
  have h₃ := @sorted_take _ Json.text? "Message" _ h₂
  have h₄ := @sorted_take _ asCount "NumberTotalRows" _ h₃
  have h₅ := @sorted_take _ asCount "NumberLoadedRows" _ h₄
  have h₆ := @sorted_take _ asCount "NumberFilteredRows" _ h₅
  have h₇ := @sorted_take _ asCount "NumberUnselectedRows" _ h₆
  have h₈ := @sorted_take _ asCount "LoadBytes" _ h₇
  have h₉ := @sorted_take _ asCount "LoadTimeMs" _ h₈
  have h₁₀ := @sorted_take _ Json.text? "ErrorURL" _ h₉
  have h₁₁ := @sorted_take _ Json.text? "ExistingJobStatus" _ h₁₀
  constructor
  case status => simpa [ofRest] using hstatus
  case status_left => simp [ofRest, find?_take_of_ne, hself]
  case txnId =>
    exact .of_reading asInt64_eq_some (by simp [ofRest, fst_take, hother])
      (by simp [ofRest, find?_take_self, find?_take_of_ne, hrest, hother])
  case label | message | errorUrl | existingJob =>
    exact .of_reading text?_eq_some (by simp [ofRest, fst_take, find?_take_of_ne, hother])
      (by simp [ofRest, find?_take_self, find?_take_of_ne, hother, h₁, h₂, h₉, h₁₀])
  case totalRows | loadedRows | filteredRows | unselectedRows | loadBytes | loadTimeMs =>
    exact .of_reading asCount_eq_some (by simp [ofRest, fst_take, find?_take_of_ne, hother])
      (by simp [ofRest, find?_take_self, find?_take_of_ne, hother, h₃, h₄, h₅, h₆, h₇, h₈])
  case others =>
    intro key hkey
    simp only [knownKeys, List.mem_cons, List.not_mem_nil, or_false, not_or] at hkey
    simp [ofRest, find?_take_of_ne, hother, hkey]
  case sorted => simpa only [ofRest] using h₁₁

theorem status_ofRest (status : LoadStatus) (m : Keyed Json) :
    (ofRest status m).status = status := by
  simp only [ofRest]

/-! ## Writing -/

/-- The known members of a response, and the values that stand under their keys. -/
def known (r : Response) : List (String × Option Json) :=
  [("Status", some (.str r.status.name)), ("TxnId", r.txnId.map ofInt64),
    ("Label", r.label.map .str), ("Message", r.message.map .str),
    ("NumberTotalRows", r.totalRows.map ofCount), ("NumberLoadedRows", r.loadedRows.map ofCount),
    ("NumberFilteredRows", r.filteredRows.map ofCount),
    ("NumberUnselectedRows", r.unselectedRows.map ofCount), ("LoadBytes", r.loadBytes.map ofCount),
    ("LoadTimeMs", r.loadTimeMs.map ofCount), ("ErrorURL", r.errorUrl.map .str),
    ("ExistingJobStatus", r.existingJob.map .str)]

def written (e : String × Option Json) : List (String × Json) := (e.2.map (e.1, ·)).toList

/-- The known members are written under the keys that are read, and in one order. -/
theorem keys_known (r : Response) : Keyed.keys (known r) = knownKeys := rfl

theorem nodup_known (r : Response) : (Keyed.keys (known r)).Nodup := by
  rw [keys_known]
  decide

/-- **What is written** are the known members that are there, and then what was left. -/
theorem members_eq (r : Response) : r.members = (known r).flatMap written ++ r.extra := by
  have hmember : ∀ {α : Type} (key : String) (toJson : α → Json) (v : Option α),
      member key toJson v = written (key, v.map toJson) := by
    intro α key toJson v
    cases v <;> rfl
  simp only [members, known, hmember, List.flatMap_cons, List.flatMap_nil, List.append_assoc,
    List.nil_append]
  rfl

theorem mem_written {es : List (String × Option Json)} {j : Json} :
    (k, j) ∈ es.flatMap written ↔ (k, some j) ∈ es := by
  simp only [List.mem_flatMap, written, Option.mem_toList, Option.map_eq_some_iff, Prod.mk.injEq]
  constructor
  · rintro ⟨e, he, _, hj, rfl, rfl⟩
    rwa [← hj]
  · exact fun h => ⟨_, h, j, rfl, rfl, rfl⟩

theorem keys_written_sublist (es : List (String × Option Json)) :
    (Keyed.keys (es.flatMap written)).Sublist (Keyed.keys es) := by
  induction es with
  | nil => exact .refl _
  | cons e rest ih =>
    obtain ⟨key, _ | j⟩ := e
    · exact .cons _ ih
    · exact .cons_cons _ ih

/-- A member that is written stands under its key and is gone from what is left, or the value under
its key was left. -/
theorem Taken.known (h : Taken toJson key m v extra) :
    (∀ j, v.map toJson = some j → Keyed.find? key m = some j ∧ Keyed.find? key extra = none) ∧
      (v.map toJson = none → Keyed.find? key extra = Keyed.find? key m) := by
  rw [h.left]
  cases hv : v with
  | none => exact ⟨fun j hj => (nomatch hj), fun _ => rfl⟩
  | some a =>
    refine ⟨?_, fun hj => (nomatch hj)⟩
    rintro j ⟨⟩
    exact ⟨(h.eq_some_iff a).1 hv, rfl⟩

/-- What holds of each known member of a response that holds an object. -/
theorem Lossless.of_mem_known (h : Lossless m r) : ∀ e ∈ known r,
    (∀ j, e.2 = some j → Keyed.find? e.1 m = some j ∧ Keyed.find? e.1 r.extra = none) ∧
      (e.2 = none → Keyed.find? e.1 r.extra = Keyed.find? e.1 m) := by
  have hstatus : (∀ j, some (Json.str r.status.name) = some j →
      Keyed.find? "Status" m = some j ∧ Keyed.find? "Status" r.extra = none) := by
    rintro j ⟨⟩
    exact ⟨h.status, h.status_left⟩
  simp only [known, List.forall_mem_cons]
  exact ⟨⟨hstatus, fun hnone => (nomatch hnone)⟩, h.txnId.known, h.label.known, h.message.known,
    h.totalRows.known, h.loadedRows.known, h.filteredRows.known, h.unselectedRows.known,
    h.loadBytes.known, h.loadTimeMs.known, h.errorUrl.known, h.existingJob.known,
    fun _ he => (nomatch he)⟩

/-- **No key is written twice.** A known key is either taken, and gone from what is left, or left
and not written by itself. -/
theorem Lossless.nodup_members (h : Lossless m r) : (Keyed.keys r.members).Nodup := by
  rw [members_eq, Keyed.keys, List.map_append]
  refine List.nodup_append.2 ⟨(nodup_known r).sublist (keys_written_sublist _),
    Keyed.nodup_of_sorted h.sorted, ?_⟩
  rintro key hknown _ hextra rfl
  obtain ⟨⟨_, j⟩, hj, rfl⟩ := List.mem_map.1 hknown
  have hgone := ((h.of_mem_known _ (mem_written.1 hj)).1 j rfl).2
  exact Keyed.find?_eq_none_iff.1 hgone hextra

/-- **Every member is written as it was read**, the known ones by name and the others as they
are. -/
theorem Lossless.find?_members (h : Lossless m r) (key : String) :
    Keyed.find? key r.members = Keyed.find? key m := by
  have hsome : ∀ j, Keyed.find? key r.members = some j ↔ Keyed.find? key m = some j := by
    intro j
    rw [Keyed.find?_eq_some_iff h.nodup_members, members_eq, List.mem_append, mem_written,
      ← Keyed.find?_eq_some_iff (Keyed.nodup_of_sorted h.sorted)]
    by_cases hkey : key ∈ Keyed.keys (known r)
    · obtain ⟨⟨_, v⟩, hv, rfl⟩ := List.mem_map.1 hkey
      obtain ⟨hthere, hnot⟩ := h.of_mem_known _ hv
      rw [← Keyed.find?_eq_some_iff (nodup_known r), (Keyed.find?_eq_some_iff (nodup_known r)).2 hv]
      cases v with
      | none => simp only [hnot rfl, Option.some.injEq, reduceCtorEq, false_or]
      | some j' =>
        obtain ⟨hm, hgone⟩ := hthere j' rfl
        simp only [hm, hgone, Option.some.injEq, reduceCtorEq, or_false]
    · rw [h.others key hkey]
      refine ⟨fun hor => hor.resolve_left fun hmem => ?_, .inr⟩
      exact hkey (List.mem_map_of_mem (f := Prod.fst) hmem)
  exact Option.ext hsome

/-- **The object is written as it was read.** The members come in another order, and an object does
not tell them apart by it. -/
theorem Lossless.ofMembers_members (h : Lossless m r) (hm : Keyed.Sorted m) :
    Json.ofMembers r.members = .obj m :=
  congrArg Json.obj (Keyed.ofEntries_eq_of_find? h.nodup_members hm h.find?_members)

/-! ## Reading -/

/-- An object with a status that is a string is a response, whatever else it holds. No other member
can keep it from being one. -/
theorem ofObject_of_status {s : String} (h : Keyed.find? "Status" m = some (.str s)) :
    ofObject m = .ok (ofRest (LoadStatus.ofName s) (Keyed.erase "Status" m)) := by
  rw [ofObject, h]

theorem status_of_ofObject (h : ofObject m = .ok r) :
    ∃ s, Keyed.find? "Status" m = some (.str s) := by
  unfold ofObject at h
  split at h
  · next s hs => exact ⟨s, hs⟩
  · exact nomatch h
  · exact nomatch h

/-- **A response holds all of its object**, whatever else the object has: members that nobody knows,
and known ones with a value of another type. -/
theorem lossless_of_ofObject (hm : Keyed.Sorted m) (h : ofObject m = .ok r) : Lossless m r := by
  obtain ⟨s, hs⟩ := status_of_ofObject h
  rw [ofObject_of_status hs] at h
  rw [← Except.ok.inj h]
  exact lossless_ofRest hm hs

theorem ofText_eq_ok_iff {body : String} : ofText body = .ok r ↔
    ∃ m, Json.ofText? body = some (.obj m) ∧ ofObject m = .ok r := by
  unfold ofText
  cases Json.ofText? body with
  | none => simp only [reduceCtorEq, false_and, exists_false]
  | some j =>
    cases j with
    | obj m => simp only [ofJson, Option.some.injEq, Json.obj.injEq, exists_eq_left']
    | null | bool b | int n | float x | str s | arr xs =>
      simp only [ofJson, Option.some.injEq, reduceCtorEq, false_and, exists_false]

theorem read_eq_ok_iff {body : String} : read body = .ok r ↔ ofText body = .ok r := by
  unfold read
  cases ofText body <;> simp only [reduceCtorEq, Except.ok.injEq]

/-- A text that is no response is kept whole, in a failure of its own kind. So what the store has
sent can be looked at afterwards. -/
theorem kind_of_read {body : String} {f : Failure} (h : read body = .error f) :
    f.kind = .protocol ∧ f.rawBody = some body := by
  unfold read at h
  split at h
  · exact nomatch h
  · cases h
    exact ⟨rfl, rfl⟩

/-- **Reading a response loses nothing.** An object with a text for its status is always a response,
which has each known member exactly if it has the type it should have and keeps all else as it was,
so that writing it gives the object again, with no key twice. Only what is no JSON, no object or has
no text for its status is no response, and then the failure keeps the whole text. -/
theorem read_lossless :
    (∀ m s, Keyed.Sorted m → Keyed.find? "Status" m = some (.str s) →
      ∃ r, ofObject m = .ok r ∧ r.status = LoadStatus.ofName s ∧ Lossless m r ∧
        (Keyed.keys r.members).Nodup ∧ Json.ofMembers r.members = .obj m) ∧
    (∀ body, ((∃ f, read body = .error f) ↔
        ¬ ∃ m s, Json.ofText? body = some (.obj m) ∧ Keyed.find? "Status" m = some (.str s)) ∧
      (∀ f, read body = .error f → f.kind = .protocol ∧ f.rawBody = some body) ∧
      ∀ r, read body = .ok r →
        ∃ m, Json.ofText? body = some (.obj m) ∧ Keyed.Sorted m ∧ ofObject m = .ok r) := by
  refine ⟨fun m s hm hstatus => ?_, fun body => ⟨?_, fun f => kind_of_read, fun r hr => ?_⟩⟩
  · have h := lossless_ofRest hm hstatus
    exact ⟨_, ofObject_of_status hstatus, status_ofRest _ _, h, h.nodup_members,
      h.ofMembers_members hm⟩
  · constructor
    · rintro ⟨f, hf⟩ ⟨m, s, hm, hs⟩
      have hok := read_eq_ok_iff.2 (ofText_eq_ok_iff.2 ⟨m, hm, ofObject_of_status hs⟩)
      exact nomatch hok.symm.trans hf
    · intro hnone
      cases hread : read body with
      | error f => exact ⟨f, rfl⟩
      | ok r =>
        obtain ⟨m, hm, hr⟩ := ofText_eq_ok_iff.1 (read_eq_ok_iff.1 hread)
        obtain ⟨s, hs⟩ := status_of_ofObject hr
        exact absurd ⟨m, s, hm, hs⟩ hnone
  · obtain ⟨m, hm, hr⟩ := ofText_eq_ok_iff.1 (read_eq_ok_iff.1 hr)
    exact ⟨m, hm, Json.sorted_of_ofText? hm, hr⟩

/-- An object whose members all have the wrong type, or one that no response knows, is written as it
was read. -/
theorem read_lossless_of_mistyped :
    ∃ r, ofObject [("Label", .null), ("NumberLoadedRows", .int (-1)), ("Status", .str "Fail"),
        ("TwoPhaseCommit", .arr []), ("TxnId", .str "7")] = .ok r ∧
      r.status = .fail ∧ r.txnId = none ∧
      Json.ofMembers r.members = .obj [("Label", .null), ("NumberLoadedRows", .int (-1)),
        ("Status", .str "Fail"), ("TwoPhaseCommit", .arr []), ("TxnId", .str "7")] := by
  obtain ⟨r, hr, hstatus, hlossless, -, hwritten⟩ := read_lossless.1 _ "Fail"
    (show Keyed.Sorted [("Label", .null), ("NumberLoadedRows", .int (-1)), ("Status", .str "Fail"),
      ("TwoPhaseCommit", .arr []), ("TxnId", .str "7")] by unfold Keyed.Sorted; decide) rfl
  refine ⟨r, hr, hstatus, ?_, hwritten⟩
  refine Option.eq_none_iff_forall_not_mem.2 fun n hn => ?_
  have htxnId := (hlossless.txnId.eq_some_iff n).1 hn
  simp [Keyed.find?, ofInt64] at htxnId

end Response

end Ingest
