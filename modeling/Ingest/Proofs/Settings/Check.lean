import Ingest.Proofs.Steps
import Ingest.Settings.Basic

/-!
# What checked settings say

Settings that pass the check have a framing, and it is the one that their format and their delimiter
call for. The format is separated values unless a property names another, and the delimiter matters
for those only.
-/

namespace Ingest

namespace Settings

variable {s : Settings}

theorem checkPositive_eq_ok {field : Field} {n : UInt64} {u : Unit} :
    checkPositive field n = .ok u ↔ n ≠ 0 := by
  unfold checkPositive
  split
  · next h => exact ⟨fun h' => (nomatch h'), fun h' => absurd h h'⟩
  · next h => exact ⟨fun _ => h, fun _ => rfl⟩

/-- **What the check looks at**: the hosts, three amounts of time, the framing and the time for
labels. All other laws about checked settings are read off this one. -/
theorem check_eq_ok : s.check = .ok () ↔
    s.checkHosts = .ok () ∧ s.connectTimeoutMs ≠ 0 ∧ s.socketTimeoutMs ≠ some 0 ∧
      s.pollUnitMs ≠ 0 ∧ (∃ f, s.framing = .ok f) ∧ ∃ d, s.labelTimeout = .ok d := by
  unfold check
  cases s.socketTimeoutMs with
  | none =>
    simp only [bind_eq_ok, checkPositive_eq_ok]
    constructor
    · rintro ⟨_, hhosts, _, hconnect, _, -, _, hunit, f, hf, d, hd, -⟩
      exact ⟨hhosts, hconnect, (Option.some_ne_none _).symm, hunit, ⟨f, hf⟩, d, hd⟩
    · rintro ⟨hhosts, hconnect, -, hunit, ⟨f, hf⟩, d, hd⟩
      exact ⟨(), hhosts, (), hconnect, (), trivial, (), hunit, f, hf, d, hd, trivial⟩
  | some n =>
    simp only [bind_eq_ok, checkPositive_eq_ok, ne_eq, Option.some.injEq]
    constructor
    · rintro ⟨_, hhosts, _, hconnect, _, hsocket, _, hunit, f, hf, d, hd, -⟩
      exact ⟨hhosts, hconnect, hsocket, hunit, ⟨f, hf⟩, d, hd⟩
    · rintro ⟨hhosts, hconnect, hsocket, hunit, ⟨f, hf⟩, d, hd⟩
      exact ⟨(), hhosts, (), hconnect, (), hsocket, (), hunit, f, hf, d, hd, trivial⟩

/-- **What a passed check has looked at**: there is a framing, there is a time for labels, and the
unit of the pauses is positive. -/
theorem parts_of_check (h : s.check = .ok ()) :
    (∃ f, s.framing = .ok f) ∧ (∃ d, s.labelTimeout = .ok d) ∧ s.pollUnitMs ≠ 0 := by
  obtain ⟨-, -, -, hunit, hframing, hlabel⟩ := check_eq_ok.1 h
  exact ⟨hframing, hlabel, hunit⟩

/-- Checked settings have a framing: it is made in the check, although it is not kept there. -/
theorem framing_of_check (h : s.check = .ok ()) : ∃ f, s.framing = .ok f := (parts_of_check h).1

/-- **The framing of payloads** is that of their format, with the delimiter if there is need of one.
Rows that are wrapped make a difference for JSON only. -/
theorem framing_eq_ok {f : Framing} :
    s.framing = .ok f ↔
      (s.format = .ok .csv ∧ ∃ d, s.delimiter = .ok d ∧ f = .csv d) ∨
        (s.format = .ok .json ∧ f = .json s.wrappedRows) := by
  unfold framing
  rw [bind_eq_ok]
  constructor
  · rintro ⟨format, hformat, h⟩
    cases format with
    | csv =>
      obtain ⟨d, hd, h⟩ := bind_eq_ok.1 h
      exact .inl ⟨hformat, d, hd, (Except.ok.inj h).symm⟩
    | json => exact .inr ⟨hformat, (Except.ok.inj h).symm⟩
  · rintro (⟨hformat, d, hd, rfl⟩ | ⟨hformat, rfl⟩)
    · exact ⟨.csv, hformat, bind_eq_ok.2 ⟨d, hd, rfl⟩⟩
    · exact ⟨.json, hformat, rfl⟩

theorem delimiter_eq_ok {d : Bytes} :
    s.delimiter = .ok d ↔
      Delimiter.read (s.property? delimiterKey) Framing.defaultDelimiter = .ok d := by
  unfold delimiter
  cases Delimiter.read (s.property? delimiterKey) Framing.defaultDelimiter with
  | error f => simp only [reduceCtorEq]
  | ok d' => simp only [Except.ok.injEq]

/-- The format is separated values, or the one that its property names. -/
theorem format_eq_ok {f : Format} :
    s.format = .ok f ↔ (s.property? formatKey = none ∧ f = .csv) ∨
      ∃ text, s.property? formatKey = some text ∧ Format.ofName? text = some f := by
  unfold format readFormat
  cases s.property? formatKey with
  | none =>
    constructor
    · exact fun h => .inl ⟨rfl, (Except.ok.inj h).symm⟩
    · rintro (⟨-, rfl⟩ | ⟨text, htext, -⟩)
      · rfl
      · exact nomatch htext
  | some text =>
    constructor
    · intro h
      cases hname : Format.ofName? text with
      | none =>
        simp only [hname] at h
        exact nomatch h
      | some f' =>
        simp only [hname] at h
        exact .inr ⟨text, rfl, hname.trans (congrArg some (Except.ok.inj h))⟩
    · rintro (⟨hnone, -⟩ | ⟨text', htext, hname⟩)
      · exact nomatch hnone
      · cases htext
        simp only [hname]

end Settings

end Ingest
