import Ingest.Load.Headers
import Ingest.Proofs.Http.Header
import Ingest.Proofs.Settings.Check
import Ingest.Proofs.Settings.Spelling
import Ingest.Proofs.Text.Utf8

/-!
# What the headers of a load tell

The headers are made from the properties one after another, each under its key in small letters, and
what is added afterwards has names of its own. So under any other name the store is told what the
properties spell (`text?_of_headers`).

The framing of the payload reads the same properties by their exact keys. `Agrees` says that the
store is told the format and the delimiter that the rows were framed with, and `framing_agrees_iff`
when this is so: a format or a delimiter that is spelled only in other letters is told to the store
and not looked at here, which does no harm only if it says what is assumed without it.
-/

namespace Ingest.Load

open Http (Headers)

variable {s : Settings} {hs hs' : Headers} {name : String}

/-! ## The headers of properties -/

theorem fieldName?_eq {key : String} (h : Http.fieldName? key = some name) :
    name = lowerText key := by
  unfold Http.fieldName? at h
  split at h
  · exact (Option.some.inj h).symm
  · exact nomatch h

theorem fieldValue?_eq {value : String} {bs : Bytes} (h : Http.fieldValue? value = some bs) :
    bs = Bytes.ofText value := by
  unfold Http.fieldValue? at h
  simp only at h
  split at h
  · exact (Option.some.inj h).symm
  · exact nomatch h

/-- A header that can be set is set under its name in lower case, over one of that name that was
there. Properties that differ only in case thus leave one header. -/
theorem eq_set_of_setHeader {key value : String} (h : setHeader hs key value = .ok hs') :
    hs' = hs.set (lowerText key) (Bytes.ofText value) := by
  unfold setHeader at h
  cases hname : Http.fieldName? key with
  | none =>
    rw [hname] at h
    exact nomatch h
  | some n =>
    cases hvalue : Http.fieldValue? value with
    | none =>
      rw [hname] at h
      simp only [hvalue] at h
      exact nomatch h
    | some bs =>
      rw [hname] at h
      simp only [hvalue] at h
      rw [← fieldName?_eq hname, ← fieldValue?_eq hvalue]
      exact (Except.ok.inj h).symm

/-- Setting headers one after another: the last one of a name counts, and a name that none of them
has keeps what stood under it before. -/
theorem first?_of_foldlM {properties : Keyed String}
    (h : properties.foldlM (fun hs p => setHeader hs p.1 p.2) hs = .ok hs') :
    hs'.first? name
      = ((Keyed.spelled? name properties).map Bytes.ofText).or (hs.first? name) := by
  induction properties generalizing hs with
  | nil =>
    cases h
    rfl
  | cons p rest ih =>
    rw [List.foldlM_cons] at h
    obtain ⟨hs₁, hset, hrest⟩ := bind_eq_ok.1 h
    rw [ih hrest, eq_set_of_setHeader hset, Keyed.spelled?_cons]
    -- a later spelling takes the place of this one
    cases hspelled : Keyed.spelled? name rest with
    | some value => rfl
    | none =>
      by_cases hp : lowerText p.1 = name
      · rw [if_pos hp, hp, Headers.first?_set_self]
        rfl
      · rw [if_neg hp, Headers.first?_set_of_ne (Ne.symm hp)]
        rfl

/-! ## The headers that are added -/

/-- The names under which something is added. Of these a property is not always the last word. -/
def addedKeys : List String := [Settings.columnsKey, stripKey, Settings.timeoutKey, "expect"]

/-- **What the store is told under a name** that nothing is added under is what the properties
spell. The spelling is that of the last key that is the name in any mixture of letters. -/
theorem first?_of_headers (h : headers s = .ok hs) (hname : name ∉ addedKeys) :
    hs.first? name = (Keyed.spelled? name s.properties).map Bytes.ofText := by
  simp only [addedKeys, List.mem_cons, List.not_mem_nil, or_false, not_or] at hname
  obtain ⟨hcolumns, hstrip, htimeout, hexpect⟩ := hname
  unfold headers at h
  obtain ⟨hs₁, h₁, h⟩ := bind_eq_ok.1 h
  obtain ⟨format, -, h⟩ := bind_eq_ok.1 h
  obtain ⟨hs₂, h₂, h⟩ := bind_eq_ok.1 h
  have hbase : hs₁.first? name = (Keyed.spelled? name s.properties).map Bytes.ofText := by
    rw [first?_of_foldlM h₁]
    exact Option.or_none
  have hadd : hs₂.first? name = hs₁.first? name := by
    unfold addColumns at h₂
    split at h₂
    · simp only at h₂
      split at h₂
      · rw [Except.ok.inj h₂]
      · have hlower : lowerText Settings.columnsKey = Settings.columnsKey := by decide
        rw [eq_set_of_setHeader h₂, hlower, Headers.first?_set_of_ne hcolumns]
    · rw [Except.ok.inj h₂]
  have hstripped : (addStrip format hs₂).first? name = hs₂.first? name := by
    unfold addStrip
    split
    · exact Headers.first?_set_of_ne hstrip _ _
    · rfl
  have hlimited : ∀ hs : Headers, (addTimeLimit hs).first? name = hs.first? name := by
    intro hs
    unfold addTimeLimit
    split
    · rfl
    · exact Headers.first?_set_of_ne htimeout _ _
  rw [← Except.ok.inj h, Headers.first?_set_of_ne hexpect, hlimited, hstripped, hadd, hbase]

theorem single_of_setHeader {key value : String} (hs₀ : hs.Single)
    (h : setHeader hs key value = .ok hs') : hs'.Single := by
  rw [eq_set_of_setHeader h]
  exact hs₀.set _ _

theorem single_of_foldlM {properties : Keyed String} (hs₀ : hs.Single)
    (h : properties.foldlM (fun hs p => setHeader hs p.1 p.2) hs = .ok hs') : hs'.Single := by
  induction properties generalizing hs with
  | nil =>
    cases h
    exact hs₀
  | cons p rest ih =>
    rw [List.foldlM_cons] at h
    obtain ⟨hs₁, hset, hrest⟩ := bind_eq_ok.1 h
    exact ih (single_of_setHeader hs₀ hset) hrest

/-- **The headers of a load have no name in common**: every one of them was set, and setting a
header takes the place of any other of its name. -/
theorem single_of_headers (h : headers s = .ok hs) : hs.Single := by
  unfold headers at h
  obtain ⟨hs₁, h₁, h⟩ := bind_eq_ok.1 h
  obtain ⟨format, -, h⟩ := bind_eq_ok.1 h
  obtain ⟨hs₂, h₂, h⟩ := bind_eq_ok.1 h
  have hbase : hs₁.Single := single_of_foldlM Headers.single_nil h₁
  have hadd : hs₂.Single := by
    unfold addColumns at h₂
    split at h₂
    · simp only at h₂
      split at h₂
      · rwa [← Except.ok.inj h₂]
      · exact single_of_setHeader hbase h₂
    · rwa [← Except.ok.inj h₂]
  have hstripped : (addStrip format hs₂).Single := by
    unfold addStrip
    split
    · exact hadd.set _ _
    · exact hadd
  have hlimited : (addTimeLimit (addStrip format hs₂)).Single := by
    unfold addTimeLimit
    split
    · exact hstripped
    · exact hstripped.set _ _
  rw [← Except.ok.inj h]
  exact hlimited.set _ _

/-- The text that the store is told under a name. -/
def text? (name : String) (hs : Headers) : Option String :=
  (hs.first? name).bind Utf8.decode?

/-- A header that the load does not make itself has the text of the property that spells it. Where
several do, the last of them in order counts. -/
theorem text?_of_headers (h : headers s = .ok hs) (hname : name ∉ addedKeys) :
    text? name hs = Keyed.spelled? name s.properties := by
  unfold text?
  rw [first?_of_headers h hname]
  cases Keyed.spelled? name s.properties with
  | none => rfl
  | some value => exact Utf8.decode?_ofText value

/-! ## The framing of the payload -/

/-- The format that the store is told: separated values when nothing is said. -/
def toldFormat? (hs : Headers) : Option Format :=
  match text? Settings.formatKey hs with
  | none => some .csv
  | some text => Format.ofName? text

/-- The delimiter that the store is told: a line feed when nothing is said. -/
def toldDelimiter (hs : Headers) : Except Delimiter.Fault Bytes :=
  Delimiter.read (text? Settings.delimiterKey hs) Framing.defaultDelimiter

/-- **The store is told how the payload was framed.** It reads the headers alone, so this compares
what it makes of them with what the rows were framed with. -/
structure Agrees (framing : Framing) (hs : Headers) : Prop where
  /-- Rows are framed as JSON exactly if the store is told so. -/
  json : (∃ wrapped, framing = .json wrapped) ↔ toldFormat? hs = some .json
  /-- Separated values are followed by the delimiter that the store is told. -/
  csv : toldFormat? hs = some .csv → ∃ d, framing = .csv d ∧ toldDelimiter hs = .ok d

/-- Rows with delimiters agree with headers that do not say JSON and, if they say CSV, name the
delimiter that was used. -/
theorem agrees_csv_iff {d : Bytes} :
    Agrees (.csv d) hs ↔
      toldFormat? hs ≠ some .json ∧ (toldFormat? hs = some .csv → toldDelimiter hs = .ok d) := by
  constructor
  · intro h
    refine ⟨fun htold => ?_, fun htold => ?_⟩
    · obtain ⟨wrapped, hwrapped⟩ := h.json.2 htold
      exact nomatch hwrapped
    · obtain ⟨d', hd', hread⟩ := h.csv htold
      cases hd'
      exact hread
  · rintro ⟨hjson, hcsv⟩
    refine ⟨⟨fun ⟨wrapped, hwrapped⟩ => (nomatch hwrapped), fun htold => absurd htold hjson⟩, ?_⟩
    exact fun htold => ⟨d, rfl, hcsv htold⟩

theorem agrees_json_iff {wrapped : Bool} :
    Agrees (.json wrapped) hs ↔ toldFormat? hs = some .json := by
  constructor
  · exact fun h => h.json.1 ⟨wrapped, rfl⟩
  · intro htold
    refine ⟨⟨fun _ => htold, fun _ => ⟨wrapped, rfl⟩⟩, fun hcsv => ?_⟩
    exact nomatch htold.symm.trans hcsv

/-! ## What the properties spell -/

theorem toldFormat?_eq_csv_iff (h : headers s = .ok hs) :
    toldFormat? hs = some .csv ↔
      ∀ text, Keyed.spelled? Settings.formatKey s.properties = some text →
        Format.ofName? text = some .csv := by
  rw [toldFormat?, text?_of_headers h (by decide)]
  cases Keyed.spelled? Settings.formatKey s.properties <;> simp

/-- The headers say JSON if some property that spells the key of the format has a value which names
JSON, in any case of letters. -/
theorem toldFormat?_eq_json_iff (h : headers s = .ok hs) :
    toldFormat? hs = some .json ↔
      ∃ text, Keyed.spelled? Settings.formatKey s.properties = some text ∧
        Format.ofName? text = some .json := by
  rw [toldFormat?, text?_of_headers h (by decide)]
  cases Keyed.spelled? Settings.formatKey s.properties <;> simp

/-- The delimiter that a reader of the headers uses comes from the property that spells its key, by
the same rules as the one of a loader. -/
theorem toldDelimiter_eq (h : headers s = .ok hs) :
    toldDelimiter hs =
      Delimiter.read (Keyed.spelled? Settings.delimiterKey s.properties)
        Framing.defaultDelimiter := by
  rw [toldDelimiter, text?_of_headers h (by decide)]

/-- Rows of separated values are not told to be JSON exactly if no other spelling of the format
says so. -/
theorem toldFormat?_ne_json_iff (hsorted : Keyed.Sorted s.properties) (h : headers s = .ok hs)
    (hformat : s.format = .ok .csv) :
    toldFormat? hs ≠ some .json ↔
      (s.property? Settings.formatKey = none →
        ∀ text, Keyed.spelled? Settings.formatKey s.properties = some text →
          Format.ofName? text ≠ some .json) := by
  rw [ne_eq, toldFormat?_eq_json_iff h]
  constructor
  · exact fun hno _ text htext hname => hno ⟨text, htext, hname⟩
  · rintro hother ⟨text, htext, hname⟩
    rcases Settings.format_eq_ok.1 hformat with ⟨hnone, -⟩ | ⟨text', hfind, hname'⟩
    · exact hother hnone text htext hname
    · -- the key in small letters is there, and it says what the rows were framed as
      have hspelled := Keyed.spelled?_of_find? hsorted (by decide) hfind
      rw [htext] at hspelled
      cases hspelled
      exact nomatch hname.symm.trans hname'

/-- The store is told the delimiter of the rows exactly if no other spelling of it says anything
else. -/
theorem toldDelimiter_eq_ok_iff (hsorted : Keyed.Sorted s.properties) (h : headers s = .ok hs)
    {d : Bytes} (hd : s.delimiter = .ok d) :
    toldDelimiter hs = .ok d ↔
      (s.property? Settings.delimiterKey = none →
        Delimiter.read (Keyed.spelled? Settings.delimiterKey s.properties)
          Framing.defaultDelimiter = .ok Framing.defaultDelimiter) := by
  rw [toldDelimiter_eq h]
  rw [Settings.delimiter_eq_ok] at hd
  cases hfind : s.property? Settings.delimiterKey with
  | none =>
    rw [hfind] at hd
    cases hd
    exact ⟨fun hread _ => hread, fun hread => hread rfl⟩
  | some text =>
    rw [hfind] at hd
    rw [Keyed.spelled?_of_find? hsorted (by decide) hfind]
    exact ⟨fun _ hnone => (nomatch hnone), fun _ => hd⟩

/-- **When the store is told how the payload was framed**: a format that is spelled in other letters
only must not be JSON, and a delimiter that is spelled in other letters only, where the store looks
for one, must be the one that is used without it. -/
theorem framing_agrees_iff (hsorted : Keyed.Sorted s.properties) (hcheck : s.check = .ok ())
    (h : headers s = .ok hs) :
    (∃ framing, s.framing = .ok framing ∧ Agrees framing hs) ↔
      (s.property? Settings.formatKey = none →
        ∀ text, Keyed.spelled? Settings.formatKey s.properties = some text →
          Format.ofName? text ≠ some .json) ∧
      ((∀ text, Keyed.spelled? Settings.formatKey s.properties = some text →
          Format.ofName? text = some .csv) →
        s.property? Settings.delimiterKey = none →
        Delimiter.read (Keyed.spelled? Settings.delimiterKey s.properties)
          Framing.defaultDelimiter = .ok Framing.defaultDelimiter) := by
  obtain ⟨f, hf⟩ := Settings.framing_of_check hcheck
  have hframing : (∃ framing, s.framing = .ok framing ∧ Agrees framing hs) ↔ Agrees f hs := by
    rw [hf]
    simp only [Except.ok.injEq, exists_eq_left']
  rw [hframing, ← toldFormat?_eq_csv_iff h]
  rcases Settings.framing_eq_ok.1 hf with ⟨hformat, d, hd, rfl⟩ | ⟨hformat, rfl⟩
  · rw [agrees_csv_iff, toldFormat?_ne_json_iff hsorted h hformat,
      toldDelimiter_eq_ok_iff hsorted h hd]
  · -- the format is in small letters, and so it is what the store is told
    rcases Settings.format_eq_ok.1 hformat with ⟨-, hcsv⟩ | ⟨text, hfind, hname⟩
    · exact nomatch hcsv
    have hspelled := Keyed.spelled?_of_find? hsorted (by decide) hfind
    have htold : toldFormat? hs = some .json :=
      (toldFormat?_eq_json_iff h).2 ⟨text, hspelled, hname⟩
    rw [agrees_json_iff]
    refine ⟨fun _ => ⟨fun hnone => ?_, fun hcsv => ?_⟩, fun _ => htold⟩
    · exact nomatch hnone.symm.trans hfind
    · exact nomatch htold.symm.trans hcsv

/-- A line feed that is spelled out under a key in other letters is what is used anyway. So a
delimiter under such a key is no harm by itself. -/
theorem framing_agrees_of_lineFeed :
    ∃ hs framing,
      headers ((Settings.ofHosts ["a"]).withProperty "Row_Delimiter" "\\x0A") = .ok hs ∧
        ((Settings.ofHosts ["a"]).withProperty "Row_Delimiter" "\\x0A").framing = .ok framing ∧
        Agrees framing hs := by
  let s : Settings := (Settings.ofHosts ["a"]).withProperty "Row_Delimiter" "\\x0A"
  have hok : (headers s).isOk = true := by decide +kernel
  cases h : headers s with
  | error f =>
    rw [h] at hok
    exact nomatch hok
  | ok hs =>
    have hsorted : Keyed.Sorted s.properties := Keyed.sorted_insert List.Pairwise.nil
    have hcheck : s.check = .ok () := rfl
    have hformat : Keyed.spelled? Settings.formatKey s.properties = none := by decide +kernel
    have hdelimiter : Delimiter.read (Keyed.spelled? Settings.delimiterKey s.properties)
        Framing.defaultDelimiter = .ok Framing.defaultDelimiter := by rfl
    obtain ⟨framing, hframing, hagrees⟩ := (framing_agrees_iff hsorted hcheck h).2
      ⟨fun _ text htext => (nomatch hformat.symm.trans htext), fun _ _ => hdelimiter⟩
    exact ⟨hs, framing, rfl, hframing, hagrees⟩

/-- A format in other letters: the store is told that rows of separated values are JSON. The
settings pass the check, and nothing is said about it anywhere. -/
theorem framing_disagrees_of_capital :
    let s := (Settings.ofHosts ["a"]).withProperty "Format" "json"
    Keyed.Sorted s.properties ∧ s.check = .ok () ∧ ∃ hs, headers s = .ok hs ∧
      toldFormat? hs = some .json ∧ s.framing = .ok (.csv Framing.defaultDelimiter) ∧
      ¬ ∃ framing, s.framing = .ok framing ∧ Agrees framing hs := by
  intro s
  refine ⟨Keyed.sorted_insert List.Pairwise.nil, rfl, ?_⟩
  have htold : ((headers s).toOption.bind toldFormat?) = some .json := by decide +kernel
  cases h : headers s with
  | error f =>
    rw [h] at htold
    exact nomatch htold
  | ok hs =>
    rw [h] at htold
    refine ⟨hs, rfl, htold, rfl, ?_⟩
    rintro ⟨framing, hframing, hagrees⟩
    cases hframing
    obtain ⟨wrapped, hwrapped⟩ := hagrees.json.2 htold
    exact nomatch hwrapped

end Ingest.Load
