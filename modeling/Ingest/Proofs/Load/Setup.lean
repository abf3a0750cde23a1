import Ingest.Proofs.Load.Course
import Ingest.Proofs.Load.Headers

/-!
# Setting up a loader

Settings are checked before a loader is built from them, and the check looks at everything that is
fixed when it is used: the framing, the time for labels and the pauses. What it does not look at are
the headers of a load. These are built from the properties and the columns, whose texts may hold
what no header can, so settings that pass the check may still be refused
(`ofSettings_refuses_header`).

`Sendable` says which texts can be sent, character by character. Settings that pass the check have a
loader exactly if theirs can, and if they have none a header is to blame (`ofSettings_after_check`).
-/

namespace Ingest

namespace Http

/-- A character that may stand in a field's value: a tab, or none that controls. Whatever lies
beyond ASCII may, since its bytes control nothing. -/
def isFieldChar (c : Char) : Bool := c = '\t' || (' ' ≤ c && c ≠ '\x7F')

/-- A value is checked byte by byte. Only controls are refused, and a character outside of ASCII has
no byte that is one, so the check may be stated of characters. -/
theorem all_isFieldByte_utf8EncodeChar (c : Char) :
    (String.utf8EncodeChar c).all isFieldByte = isFieldChar c := by
  by_cases h : c.toNat < 0x80
  · -- there are few such characters
    rw [Utf8.utf8EncodeChar_of_lt h, List.all_cons, List.all_nil, Bool.and_true]
    have hfew : ∀ n < 0x80, isFieldByte (UInt8.ofNat n) = isFieldChar (Char.ofNat n) := by decide
    rw [hfew _ h, Char.ofNat_toNat]
  · have hbytes : (String.utf8EncodeChar c).all isFieldByte = true := by
      refine List.all_eq_true.2 fun b hb => ?_
      have hb : 0x80 ≤ b.toNat := Utf8.le_of_mem_utf8EncodeChar (by omega) hb
      unfold isFieldByte
      simp only [Bool.or_eq_true, Bool.and_eq_true, decide_eq_true_eq, ne_eq,
        UInt8.le_iff_toNat_le, ← UInt8.toNat_inj, UInt8.reduceToNat]
      omega
    have hspace : ' ' ≤ c := UInt32.le_iff_toNat_le.2 (show 0x20 ≤ c.toNat by omega)
    have hdelete : c ≠ '\x7F' := by
      rintro rfl
      exact h (by decide)
    rw [hbytes, isFieldChar, decide_eq_true hspace, decide_eq_true hdelete, Bool.true_and,
      Bool.or_true]

/-- **A text may be a field's value exactly if all its characters may stand there.** A character
beyond ASCII has bytes of 128 and more only, so the test of the bytes is a test of the
characters. -/
theorem isSome_fieldValue?_iff {s : String} :
    (fieldValue? s).isSome = true ↔ ∀ c ∈ s.toList, isFieldChar c = true := by
  have hall : (Bytes.ofText s).all isFieldByte = s.toList.all isFieldChar := by
    unfold Bytes.ofText
    rw [List.all_flatMap]
    simp only [all_isFieldByte_utf8EncodeChar]
  rw [← List.all_eq_true, ← hall]
  unfold fieldValue?
  simp only
  split
  · next h => simp only [h, Option.isSome_some]
  · next h => simp only [h, Option.isSome_none]

end Http

/-! ## The list of columns -/

namespace Columns

theorem forall_mem_withCommas {p : Char → Prop} (hp : p ',') (ts : List (List Char)) :
    (∀ c ∈ withCommas ts, p c) ↔ ∀ t ∈ ts, ∀ c ∈ t, p c := by
  induction ts with
  | nil => simp only [withCommas, List.not_mem_nil, false_imp_iff, implies_true]
  | cons t ts ih =>
    cases ts with
    | nil => simp only [withCommas, List.mem_singleton, forall_eq]
    | cons t' ts =>
      have hcons : withCommas (t :: t' :: ts) = t ++ ',' :: withCommas (t' :: ts) := rfl
      rw [hcons, List.forall_mem_append, List.forall_mem_cons, ih, and_iff_right hp,
        List.forall_mem_cons (l := t' :: ts)]

/-- **The list of columns can be sent exactly if every name in it can**, each as it is cleaned. What
the list adds of its own, backquotes and commas, can always be sent. -/
theorem isSome_fieldValue?_header {names : List String} {operations : Bool} :
    (Http.fieldValue? (header names operations)).isSome = true ↔
      ∀ name ∈ names, ∀ c ∈ clean name, Http.isFieldChar c = true := by
  have hlist : (∀ c ∈ withCommas (names.map quoted), Http.isFieldChar c = true) ↔
      ∀ name ∈ names, ∀ c ∈ clean name, Http.isFieldChar c = true := by
    rw [forall_mem_withCommas (by decide)]
    rw [List.forall_mem_map]
    refine forall_congr' fun name => forall_congr' fun _ => ?_
    rw [quoted, List.cons_append, List.forall_mem_cons, List.forall_mem_append,
      List.forall_mem_singleton]
    exact ⟨fun h => h.2.1, fun h => ⟨by decide, h, by decide⟩⟩
  have hoperation : ∀ c ∈ ',' :: operation.toList, Http.isFieldChar c = true :=
    List.all_eq_true.1 (by decide)
  rw [Http.isSome_fieldValue?_iff, header, String.toList_ofList]
  split
  · rw [List.forall_mem_append, hlist]
    exact and_iff_left hoperation
  · exact hlist

end Columns

namespace Load

open Http (Headers)

variable {s : Settings} {hs hs' : Headers} {key value : String} {f : Settings.Fault}

/-! ## Headers that can be set -/

/-- A property can be a header if its key is a name of one and its value may stand in a field.
Headers that are there already do not matter. -/
theorem exists_setHeader_iff : (∃ hs', setHeader hs key value = .ok hs') ↔
    (Http.fieldName? key).isSome = true ∧ (Http.fieldValue? value).isSome = true := by
  unfold setHeader
  cases Http.fieldName? key with
  | none => simp only [reduceCtorEq, exists_false, Option.isSome_none, Bool.false_eq_true,
      false_and]
  | some name =>
    cases Http.fieldValue? value with
    | none => simp only [reduceCtorEq, exists_false, Option.isSome_none, Bool.false_eq_true,
        and_false]
    | some v => simp only [Except.ok.injEq, exists_eq', Option.isSome_some, and_self]

/-- **A fault of a header**: its name or its value cannot be sent. It names the property that
the header was to be made of, and it is the only kind of fault that settings have which pass the
check. -/
def IsHeaderFault (f : Settings.Fault) : Prop :=
  ∃ key, f = .invalid .properties (.headerName key) ∨ f = .invalid .properties (.headerValue key)

theorem isHeaderFault_of_setHeader (h : setHeader hs key value = .error f) : IsHeaderFault f := by
  unfold setHeader at h
  split at h
  · exact ⟨key, .inl (Except.error.inj h).symm⟩
  · split at h
    · exact ⟨key, .inr (Except.error.inj h).symm⟩
    · exact nomatch h

theorem exists_foldlM_iff {properties : Keyed String} :
    (∃ hs', properties.foldlM (fun hs p => setHeader hs p.1 p.2) hs = .ok hs') ↔
      ∀ p ∈ properties,
        (Http.fieldName? p.1).isSome = true ∧ (Http.fieldValue? p.2).isSome = true := by
  induction properties generalizing hs with
  | nil => exact ⟨fun _ p hp => (nomatch hp), fun _ => ⟨hs, rfl⟩⟩
  | cons p rest ih =>
    rw [List.forall_mem_cons, List.foldlM_cons]
    constructor
    · rintro ⟨hs', h⟩
      obtain ⟨hs₁, hset, hrest⟩ := bind_eq_ok.1 h
      exact ⟨exists_setHeader_iff.1 ⟨hs₁, hset⟩, ih.1 ⟨hs', hrest⟩⟩
    · rintro ⟨hp, hrest⟩
      obtain ⟨hs₁, hset⟩ := exists_setHeader_iff.2 hp
      obtain ⟨hs', h⟩ := ih.2 hrest
      exact ⟨hs', bind_eq_ok.2 ⟨hs₁, hset, h⟩⟩

theorem isHeaderFault_of_foldlM {properties : Keyed String}
    (h : properties.foldlM (fun hs p => setHeader hs p.1 p.2) hs = .error f) :
    IsHeaderFault f := by
  induction properties generalizing hs with
  | nil => exact nomatch h
  | cons p rest ih =>
    rw [List.foldlM_cons] at h
    cases hset : setHeader hs p.1 p.2 with
    | error f' =>
      rw [hset] at h
      rw [← Except.error.inj h]
      exact isHeaderFault_of_setHeader hset
    | ok hs₁ =>
      rw [hset] at h
      exact ih h

/-! ## The headers of a load -/

/-- **Settings whose headers can be sent.** The list of columns matters where the store has to be
told it and no property does. -/
structure Sendable (s : Settings) : Prop where
  names : ∀ p ∈ s.properties, (Http.fieldName? p.1).isSome = true
  values : ∀ p ∈ s.properties, ∀ c ∈ p.2.toList, Http.isFieldChar c = true
  columns : ∀ format, s.format = .ok format → needsColumns s format = true →
    (∀ p ∈ s.properties, lowerText p.1 ≠ Settings.columnsKey) →
    ∀ name ∈ s.columns, ∀ c ∈ Columns.clean name, Http.isFieldChar c = true

/-- Whether columns are told by a property is seen from its key in lower case, as the header is. -/
theorem has_columns_of_propertyHeaders (h : propertyHeaders s.properties = .ok hs) :
    hs.has Settings.columnsKey = false ↔
      ∀ p ∈ s.properties, lowerText p.1 ≠ Settings.columnsKey := by
  have hfirst : hs.first? Settings.columnsKey
      = (Keyed.spelled? Settings.columnsKey s.properties).map Bytes.ofText := by
    rw [first?_of_foldlM h]
    exact Option.or_none
  rw [Headers.has_eq_isSome, hfirst, Option.isSome_map, Option.isSome_eq_false_iff,
    Option.isNone_iff_eq_none, Keyed.spelled?_eq_none_iff, Keyed.keys, List.forall_mem_map]

/-- The columns can be added if they can be sent, where they have to be. -/
theorem exists_addColumns_iff {format : Format} : (∃ hs', addColumns s format hs = .ok hs') ↔
    (needsColumns s format = true → hs.has Settings.columnsKey = false →
      ∀ name ∈ s.columns, ∀ c ∈ Columns.clean name, Http.isFieldChar c = true) := by
  have hkey : (Http.fieldName? Settings.columnsKey).isSome = true := by decide
  have hset : (∃ hs', setHeader hs Settings.columnsKey
      (Columns.header s.columns s.upsertDelete) = .ok hs') ↔
      ∀ name ∈ s.columns, ∀ c ∈ Columns.clean name, Http.isFieldChar c = true := by
    rw [exists_setHeader_iff, and_iff_right hkey, Columns.isSome_fieldValue?_header]
  unfold addColumns
  split
  · next hadd =>
    obtain ⟨hhas, hneeds⟩ := Bool.and_eq_true_iff.1 hadd
    rw [Bool.not_eq_true'] at hhas
    simp only
    split
    · next hempty =>
      -- there are no columns to be sent
      have hlegal : (Http.fieldValue? (Columns.header s.columns s.upsertDelete)).isSome = true := by
        rw [hempty]
        rfl
      exact ⟨fun _ _ _ => Columns.isSome_fieldValue?_header.1 hlegal, fun _ => ⟨hs, rfl⟩⟩
    · rw [hset]
      exact ⟨fun h _ _ => h, fun h => h hneeds hhas⟩
  · next hadd =>
    refine ⟨fun _ hneeds hhas => absurd ?_ hadd, fun _ => ⟨hs, rfl⟩⟩
    rw [hneeds, hhas]
    rfl

/-- **The headers of a load exist exactly if they can be sent.** The three steps that may fail are
taken one after another, and each of them looks at texts that the others do not change. -/
theorem exists_headers_iff {format : Format} (hformat : s.format = .ok format) :
    (∃ hs, headers s = .ok hs) ↔ Sendable s := by
  have hproperties : (∃ hs, propertyHeaders s.properties = .ok hs) ↔ ∀ p ∈ s.properties,
      (Http.fieldName? p.1).isSome = true ∧ (Http.fieldValue? p.2).isSome = true :=
    exists_foldlM_iff
  unfold headers
  simp only [bind_eq_ok]
  constructor
  · rintro ⟨_, hs₁, h₁, format', hformat', hs₂, h₂, -⟩
    have hboth := hproperties.1 ⟨hs₁, h₁⟩
    refine ⟨fun p hp => (hboth p hp).1,
      fun p hp => Http.isSome_fieldValue?_iff.1 (hboth p hp).2,
      fun format'' hformat'' hneeds hno => ?_⟩
    cases hformat'.symm.trans hformat''
    exact exists_addColumns_iff.1 ⟨hs₂, h₂⟩ hneeds ((has_columns_of_propertyHeaders h₁).2 hno)
  · intro hsend
    obtain ⟨hs₁, h₁⟩ := hproperties.2 fun p hp =>
      ⟨hsend.names p hp, Http.isSome_fieldValue?_iff.2 (hsend.values p hp)⟩
    obtain ⟨hs₂, h₂⟩ : ∃ hs₂, addColumns s format hs₁ = .ok hs₂ :=
      exists_addColumns_iff.2 fun hneeds hhas =>
        hsend.columns format hformat hneeds ((has_columns_of_propertyHeaders h₁).1 hhas)
    exact ⟨_, hs₁, h₁, format, hformat, hs₂, h₂, rfl⟩

/-- Once the format is known, the headers fail for a header only, and the failure names the property
it was to be made of. -/
theorem isHeaderFault_of_headers {format : Format} (hformat : s.format = .ok format)
    (h : headers s = .error f) : IsHeaderFault f := by
  unfold headers at h
  cases h₁ : propertyHeaders s.properties with
  | error f' =>
    rw [h₁] at h
    rw [← Except.error.inj h]
    exact isHeaderFault_of_foldlM h₁
  | ok hs₁ =>
    rw [h₁, hformat] at h
    cases h₂ : addColumns s format hs₁ with
    | error f' =>
      have hf : f' = f := by
        simp only [bind, Except.bind, h₂] at h
        exact Except.error.inj h
      subst hf
      unfold addColumns at h₂
      split at h₂
      · simp only at h₂
        split at h₂
        · exact nomatch h₂
        · exact isHeaderFault_of_setHeader h₂
      · exact nomatch h₂
    | ok hs₂ =>
      simp only [bind, Except.bind, h₂] at h
      exact nomatch h

end Load

namespace Loader

variable {s : Settings}

/-- Settings that pass the check say how long to wait for a label. The time may come from a
property, and the check has read it. -/
theorem exists_waitingOf (h : s.check = .ok ()) : ∃ waiting, waitingOf s = .ok waiting ∧
    s.labelTimeout = .ok waiting.deadline ∧ waiting.unit = s.pollUnit := by
  obtain ⟨-, ⟨deadline, hdeadline⟩, hunit⟩ := Settings.parts_of_check h
  have hpos : 0 < s.pollUnit.nanos := by
    rw [Settings.pollUnit, Duration.nanos_ofMillis]
    refine Nat.mul_pos (Nat.pos_of_ne_zero fun hzero => hunit ?_) (by decide)
    exact UInt64.toNat_inj.1 hzero
  refine ⟨⟨deadline, s.pollUnit, hpos⟩, ?_, hdeadline, rfl⟩
  unfold waitingOf
  exact bind_eq_ok.2 ⟨deadline, hdeadline, dif_pos hpos⟩

/-- Settings that pass the check have all parts of a loader but the client. -/
theorem ofSettings_of_check (h : s.check = .ok ()) : ∃ waiting framing,
    ofSettings s = (Load.Client.ofSettings s).map fun client =>
      ⟨⟨s.hosts, s.connectTimeout⟩, client, framing, waiting⟩ := by
  obtain ⟨framing, hframing⟩ := Settings.framing_of_check h
  obtain ⟨waiting, hwaiting, -, -⟩ := exists_waitingOf h
  refine ⟨waiting, framing, ?_⟩
  unfold ofSettings
  rw [h, hwaiting, hframing]
  cases Load.Client.ofSettings s <;> rfl

/-- **What the check decides about a loader.** Settings that do not pass it have none, and the fault
is the one that the check has found. Settings that pass it have a framing, a format and a time for
labels, and they have a loader exactly if their headers can be sent; otherwise a header is to
blame. -/
theorem ofSettings_after_check (s : Settings) :
    (∀ f, s.check = .error f → ofSettings s = .error (.settings f)) ∧
    (s.check = .ok () →
      (∃ d, s.labelTimeout = .ok d) ∧ (∃ framing, s.framing = .ok framing) ∧
      (∃ format, s.format = .ok format) ∧
      ((∃ l, ofSettings s = .ok l) ↔ Load.Sendable s) ∧
      ∀ e, ofSettings s = .error e → ∃ f, e = .settings f ∧ Load.IsHeaderFault f) := by
  refine ⟨fun f hf => ?_, fun hcheck => ?_⟩
  · unfold ofSettings
    rw [hf]
    rfl
  · obtain ⟨⟨framing, hframing⟩, hdeadline, -⟩ := Settings.parts_of_check hcheck
    obtain ⟨format, hformat⟩ : ∃ format, s.format = .ok format := by
      rcases Settings.framing_eq_ok.1 hframing with ⟨hformat, -⟩ | ⟨hformat, -⟩
      · exact ⟨_, hformat⟩
      · exact ⟨_, hformat⟩
    obtain ⟨waiting, framing', hloader⟩ := ofSettings_of_check hcheck
    refine ⟨hdeadline, ⟨framing, hframing⟩, ⟨format, hformat⟩, ?_, fun e he => ?_⟩
    · rw [← Load.exists_headers_iff hformat, hloader, Load.Client.ofSettings]
      cases Load.headers s with
      | error f => simp only [Except.map, reduceCtorEq, exists_false]
      | ok hs => simp only [Except.map, Except.ok.injEq, exists_eq']
    · rw [hloader, Load.Client.ofSettings] at he
      cases hheaders : Load.headers s with
      | error f =>
        rw [hheaders] at he
        exact ⟨f, (Except.error.inj he).symm, Load.isHeaderFault_of_headers hformat hheaders⟩
      | ok hs =>
        rw [hheaders] at he
        exact nomatch he

theorem ofSettings_after_check_of_columns :
    let s := ((Settings.ofHosts ["fe:8030"]).withColumns ["a\x01b"]).withProperty "Columns" "a,b"
    s.check = .ok () ∧ ∃ l, ofSettings s = .ok l := by
  intro s
  have hcheck : s.check = .ok () := rfl
  refine ⟨hcheck, ((ofSettings_after_check s).2 hcheck).2.2.2.1.2 ⟨?_, ?_, ?_⟩⟩
  · decide
  · intro p hp
    rw [List.mem_singleton.1 hp]
    exact List.all_eq_true.1 (by decide)
  · intro format _ _ hno
    exact absurd rfl (hno ("Columns", "a,b") (List.mem_singleton.2 rfl))

/-- **The check does not look at headers**: settings with a property that no header can be named by
pass it, and there is no loader for them. -/
theorem ofSettings_refuses_header :
    let s := (Settings.ofHosts ["fe:8030"]).withProperty "a b" "c"
    s.check = .ok () ∧
      ofSettings s = .error (.settings (.invalid .properties (.headerName "a b"))) ∧
      ¬ ∀ s : Settings, s.check = .ok () → ∃ l, ofSettings s = .ok l := by
  intro s
  have hcheck : s.check = .ok () := rfl
  have hrefused : ofSettings s = .error (.settings (.invalid .properties (.headerName "a b"))) :=
    rfl
  refine ⟨hcheck, hrefused, fun hall => ?_⟩
  obtain ⟨l, hl⟩ := hall s hcheck
  exact nomatch hrefused.symm.trans hl

end Loader

end Ingest
