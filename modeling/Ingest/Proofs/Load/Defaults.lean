import Ingest.Proofs.Load.Setup
import Mathlib.Data.List.Nodup

/-!
# All headers of a load

Properties go to the store under their keys in small letters, and what they leave unsaid is added.
`Tells` puts down name by name what that comes to: the wish to be asked before the payload is sent
stands in every load, the last spelling of a name among the keys counts for it, and only a name that
no key spells can have a value added. `headers_exact` says that the headers of a load are these and
no others, and for which settings there are any.

It goes through because whatever is added is set only where it is missing (`first?_of_filled`): the
additions do not see one another, so each name can be looked at by itself. The properties come in
the order of their bytes, and the last of them to be set under a name is the greatest
(`spelled?_eq_some_iff`). Keys that can be sent are tokens, and their characters are single bytes.
-/

namespace Ingest

namespace Http

/-- **A token**, which is what a field can be named by: some characters, all of them letters, digits
or one of a few signs of ASCII. -/
structure IsToken (s : String) : Prop where
  ne_empty : s ≠ ""
  chars : ∀ c ∈ s.toList, isTokenChar c = true

variable {s s' : String}

theorem isSome_fieldName?_iff (hsize : s.utf8ByteSize ≤ nameBound) :
    (fieldName? s).isSome = true ↔ IsToken s := by
  unfold fieldName?
  split
  · next h =>
    exact ⟨fun _ => ⟨h.1, List.all_eq_true.1 h.2.2⟩, fun _ => rfl⟩
  · next h =>
    refine ⟨fun hsome => (nomatch hsome), fun htoken => absurd ?_ h⟩
    exact ⟨htoken.ne_empty, hsize, List.all_eq_true.2 htoken.chars⟩

theorem toNat_lt_of_isTokenChar {c : Char} (h : isTokenChar c = true) : c.toNat < 0x80 := by
  have hmarks : "!#$%&'*+-.^_\x60|~".toList.all (·.toNat < 0x80) = true := by decide
  have hupto : ∀ {c d : Char}, d.toNat < 0x80 → c ≤ d → c.toNat < 0x80 :=
    fun hd hc => Nat.lt_of_le_of_lt (UInt32.le_iff_toNat_le.1 hc) hd
  simp only [isTokenChar, Bool.or_eq_true, Bool.and_eq_true, decide_eq_true_eq,
    List.contains_iff_mem] at h
  rcases h with ((⟨-, hdigit⟩ | ⟨-, hsmall⟩) | ⟨-, hcapital⟩) | hmark
  · exact hupto (by decide) hdigit
  · exact hupto (by decide) hsmall
  · exact hupto (by decide) hcapital
  · exact of_decide_eq_true (List.all_eq_true.1 hmarks c hmark)

theorem IsToken.map_ofText (h : IsToken s) :
    (Bytes.ofText s).map (fun b => Char.ofNat b.toNat) = s.toList := by
  have hchars := h.chars
  unfold Bytes.ofText
  generalize s.toList = cs at hchars
  induction cs with
  | nil => rfl
  | cons c cs ih =>
    obtain ⟨hc, hcs⟩ := List.forall_mem_cons.1 hchars
    have hlt := toNat_lt_of_isTokenChar hc
    have hbyte : (UInt8.ofNat c.toNat).toNat = c.toNat := Nat.mod_eq_of_lt (by omega)
    rw [List.flatMap_cons, Utf8.utf8EncodeChar_of_lt hlt, List.map_append, ih hcs, List.map_cons,
      hbyte, Char.ofNat_toNat]
    rfl

/-- **Tokens are ordered by their bytes.** The keys of properties are sorted as texts, so the last
key of some letters is the one whose bytes are the greatest. -/
theorem IsToken.lt_of_ofText_lt (h : IsToken s) (h' : IsToken s')
    (hlt : Bytes.ofText s < Bytes.ofText s') : s < s' := by
  have hnat : ∀ n < 256, (Char.ofNat n).toNat = n := fun n hn => by
    rw [Char.ofNat, dif_pos (.inl (by omega))]
    rfl
  have hmono : ∀ b b' : UInt8, b < b' → Char.ofNat b.toNat < Char.ofNat b'.toNat := by
    intro b b' hb
    refine UInt32.lt_iff_toNat_lt.2 ?_
    show (Char.ofNat b.toNat).toNat < (Char.ofNat b'.toNat).toNat
    rw [hnat _ b.toNat_lt, hnat _ b'.toNat_lt]
    exact UInt8.lt_iff_toNat_lt.1 hb
  rw [String.lt_iff, ← h.map_ofText, ← h'.map_ofText]
  exact List.map_lt hmono hlt

end Http

namespace Http.Headers

variable {hs : Headers}

theorem mem_all {name : String} {value : Bytes} : value ∈ all name hs ↔ (name, value) ∈ hs := by
  unfold all
  rw [List.mem_map]
  constructor
  · rintro ⟨⟨name', value'⟩, hmem, rfl⟩
    obtain ⟨hmem, hname⟩ := List.mem_filter.1 hmem
    exact beq_iff_eq.1 hname ▸ hmem
  · intro hmem
    exact ⟨(name, value), List.mem_filter.2 ⟨hmem, beq_self_eq_true name⟩, rfl⟩

theorem Single.mem_iff (h : Single hs) {name : String} {value : Bytes} :
    (name, value) ∈ hs ↔ first? name hs = some value := by
  rw [← mem_all, h.all_eq, Option.mem_toList]

theorem Single.nodup (h : Single hs) : (hs.map Prod.fst).Nodup := by
  refine List.nodup_iff_count_le_one.2 fun name => ?_
  have hcount : (hs.map Prod.fst).count name = (all name hs).length := by
    rw [all, List.length_map, List.count, List.countP_map, List.countP_eq_length_filter]
    rfl
  rw [hcount]
  exact h name

end Http.Headers

/-! ## The last spelling of a name -/

namespace Keyed

/-- **The last spelling of a name** among the keys of entries: of those that are the name in any
mixture of letters, the one whose bytes come last. -/
structure LastSpelling (m : Keyed String) (name key value : String) : Prop where
  mem : (key, value) ∈ m
  spells : lowerText key = name
  last : ∀ key' ∈ keys m, lowerText key' = name → Bytes.ofText key' ≤ Bytes.ofText key

variable {name value key : String} {e : String × String} {m : Keyed String}

/-- An entry in front of all others is the last spelling of a name only if no other is one. -/
theorem lastSpelling_cons_iff (hm : Sorted (e :: m))
    (htoken : ∀ key ∈ keys (e :: m), Http.IsToken key) :
    LastSpelling (e :: m) name key value ↔
      LastSpelling m name key value ∨
        (∀ key' ∈ keys m, lowerText key' ≠ name) ∧ lowerText e.1 = name ∧ e = (key, value) := by
  obtain ⟨hfront, -⟩ := List.pairwise_cons.1 hm
  obtain ⟨he, hm'⟩ := List.forall_mem_cons.1 htoken
  -- the bytes of the first key come before those of all others
  have hle : ∀ key ∈ keys m, Bytes.ofText e.1 ≤ Bytes.ofText key := fun key hkey =>
    List.not_lt.1 fun hlt =>
      String.lt_irrefl _ (String.lt_trans (hfront key hkey) ((hm' key hkey).lt_of_ofText_lt he hlt))
  constructor
  · rintro ⟨hmem, hspells, hlast⟩
    obtain ⟨hlast_e, hlast_m⟩ := List.forall_mem_cons.1 hlast
    rcases List.mem_cons.1 hmem with rfl | hmem
    · refine .inr ⟨fun key' hkey' hspells' => ?_, hspells, rfl⟩
      have hsame := List.le_antisymm (hlast_m key' hkey' hspells') (hle key' hkey')
      have hkey : key' = key := Option.some.inj <| by
        rw [← Utf8.decode?_ofText key', hsame, Utf8.decode?_ofText]
      exact String.lt_irrefl key (hkey ▸ hfront key' hkey')
    · exact .inl ⟨hmem, hspells, hlast_m⟩
  · rintro (⟨hmem, hspells, hlast⟩ | ⟨hnone, hspells, rfl⟩)
    · refine ⟨.tail _ hmem, hspells, List.forall_mem_cons.2 ⟨fun _ => ?_, hlast⟩⟩
      exact hle key (List.mem_map_of_mem hmem)
    · refine ⟨.head _, hspells, List.forall_mem_cons.2 ⟨fun _ => List.le_refl _, ?_⟩⟩
      exact fun key' hkey' hspells' => absurd hspells' (hnone key' hkey')

/-- **What is sent under a name is the value of its last spelling.** The entries are set in their
order, and of two keys with the same letters the one that is set later counts. -/
theorem spelled?_eq_some_iff (hm : Sorted m) (htoken : ∀ key ∈ keys m, Http.IsToken key) :
    spelled? name m = some value ↔ ∃ key, LastSpelling m name key value := by
  induction m with
  | nil => exact ⟨fun h => (nomatch h), fun ⟨key, h⟩ => (nomatch h.mem)⟩
  | cons e m ih =>
    obtain ⟨-, hrest⟩ := List.pairwise_cons.1 hm
    obtain ⟨-, hm'⟩ := List.forall_mem_cons.1 htoken
    have hfront : (if lowerText e.1 = name then some e.2 else none) = some value ↔
        lowerText e.1 = name ∧ ∃ key, e = (key, value) := by
      rw [Option.ite_none_right_eq_some, Option.some.injEq]
      refine and_congr_right fun _ => ⟨?_, ?_⟩
      · rintro rfl
        exact ⟨e.1, rfl⟩
      · rintro ⟨key, rfl⟩
        rfl
    rw [spelled?_cons, Option.or_eq_some_iff, hfront]
    simp only [lastSpelling_cons_iff hm htoken, exists_or, ← ih hrest hm', ← spelled?_eq_none_iff,
      exists_and_left]

end Keyed

/-! ## What is added -/

namespace Columns

theorem header_eq_empty_iff {names : List String} {operations : Bool} :
    header names operations = "" ↔ names = [] := by
  have hfront : ∀ name rest, ∃ cs, withCommas (quoted name :: rest) = quote :: cs := by
    intro name rest
    cases rest with
    | nil => exact ⟨clean name ++ [quote], rfl⟩
    | cons t ts => exact ⟨clean name ++ [quote] ++ ',' :: withCommas (t :: ts), rfl⟩
  rw [← String.toList_inj, header, String.toList_ofList]
  cases names with
  | nil => exact ⟨fun _ => rfl, fun _ => rfl⟩
  | cons name names =>
    obtain ⟨cs, hcs⟩ := hfront name (names.map quoted)
    rw [List.map_cons, hcs]
    cases operations <;> exact iff_of_false (List.cons_ne_nil _ _) (List.cons_ne_nil _ _)

end Columns

namespace Load

open Http (Headers)

variable {s : Settings} {format : Format} {hs hs' : Headers} {name key text : String}

/-- **What is added where nothing is said**: the columns, if there are any and the store has to be
told, the wish that the array around JSON rows be stripped, and a limit of time. -/
inductive Added (s : Settings) (format : Format) : String → String → Prop where
  | columns (needed : format = .csv ∨ s.upsertDelete = true ∧ s.storeFindsOperation = false)
      (given : s.columns ≠ []) :
      Added s format "columns" (Columns.header s.columns s.upsertDelete)
  | strip (json : format = .json) : Added s format "strip_outer_array" "true"
  | timeLimit : Added s format "timeout" "60"

/-- **What a load tells under a name.** The cases exclude one another, since something is added only
under a name that no key spells; so a name has one value at most. -/
inductive Tells (s : Settings) (format : Format) : String → String → Prop where
  /-- Every load asks before it sends its payload. -/
  | expect : Tells s format "expect" "100-continue"
  /-- A property is told under its last spelling. -/
  | spelled {name key value : String} (hname : name ≠ "expect")
      (h : Keyed.LastSpelling s.properties name key value) : Tells s format name value
  /-- What is added is told only under names that no property spells. -/
  | added {name value : String} (unsaid : ∀ key ∈ Keyed.keys s.properties, lowerText key ≠ name)
      (h : Added s format name value) : Tells s format name value

/-- The columns that are added when no property lists any. With no columns to tell, none are. -/
def addedColumns? (s : Settings) (format : Format) : Option String :=
  if needsColumns s format = true ∧ s.columns ≠ [] then
    some (Columns.header s.columns s.upsertDelete)
  else none

/-- The wish that the array be stripped, if it is added. -/
def addedStrip? (format : Format) : Option String := if format = .json then some "true" else none

/-- The value that is added under a name. -/
def added? (s : Settings) (format : Format) (name : String) : Option String :=
  if name = Settings.columnsKey then addedColumns? s format
  else if name = stripKey then addedStrip? format
  else if name = Settings.timeoutKey then some defaultTimeLimit
  else none

/-- Columns are told for rows with delimiters, which do not name them, and for objects when an
operation is one of the columns that the store cannot find by itself. -/
theorem needsColumns_iff : needsColumns s format = true ↔
    format = .csv ∨ s.upsertDelete = true ∧ s.storeFindsOperation = false := by
  simp only [needsColumns, Bool.or_eq_true, Bool.and_eq_true, Bool.not_eq_true', decide_eq_true_eq]
  exact or_comm

/-- Nothing else is added. -/
theorem added?_eq_some_iff : added? s format name = some text ↔ Added s format name text := by
  have hcolumns : addedColumns? s format = some text ↔
      (needsColumns s format = true ∧ s.columns ≠ []) ∧
        Columns.header s.columns s.upsertDelete = text := by
    rw [addedColumns?, Option.ite_none_right_eq_some, Option.some.injEq]
  have hstrip : addedStrip? format = some text ↔ format = .json ∧ "true" = text := by
    rw [addedStrip?, Option.ite_none_right_eq_some, Option.some.injEq]
  constructor
  · intro h
    unfold added? at h
    split at h
    · next hname =>
      obtain ⟨⟨hneeds, hgiven⟩, rfl⟩ := hcolumns.1 h
      exact hname ▸ .columns (needsColumns_iff.1 hneeds) hgiven
    split at h
    · next hname =>
      obtain ⟨hjson, rfl⟩ := hstrip.1 h
      exact hname ▸ .strip hjson
    split at h
    · next hname =>
      obtain rfl := Option.some.inj h
      exact hname ▸ .timeLimit
    · exact nomatch h
  · intro h
    unfold added?
    cases h with
    | columns needed given =>
      rw [if_pos (by rfl)]
      exact hcolumns.2 ⟨⟨needsColumns_iff.2 needed, given⟩, rfl⟩
    | strip json =>
      rw [if_neg (by decide), if_pos (by rfl)]
      exact hstrip.2 ⟨json, rfl⟩
    | timeLimit =>
      rw [if_neg (by decide), if_neg (by decide), if_pos (by rfl)]
      rfl

/-! ## Fields that are set where they are missing -/

/-- A field that is set only where it is missing gives way to what is there. -/
theorem first?_of_filled {value? : Option Bytes} (hnone : value? = none → hs' = hs)
    (hsome : ∀ v, value? = some v → hs' = if hs.has key then hs else hs.set key v)
    (name : String) :
    hs'.first? name = (hs.first? name).or (if name = key then value? else none) := by
  cases value? with
  | none => rw [hnone rfl, ite_self, Option.or_none]
  | some v =>
    rw [hsome v rfl]
    split
    · next hhas =>
      -- the field is there, so nothing comes of the value
      rw [Headers.has_eq_isSome] at hhas
      by_cases hname : name = key
      · rw [hname, Option.or_of_isSome hhas]
      · rw [if_neg hname, Option.or_none]
    · next hhas =>
      rw [Headers.has_eq_isSome, Bool.not_eq_true, Option.isSome_eq_false_iff,
        Option.isNone_iff_eq_none] at hhas
      by_cases hname : name = key
      · rw [hname, hhas, if_pos rfl, Option.none_or, Headers.first?_set_self]
      · rw [if_neg hname, Option.or_none, Headers.first?_set_of_ne hname]

/-- A list of columns is added where there is none, and changes no other header. The time limit and
the stripping of an array are added by the same rule. -/
theorem first?_addColumns (h : addColumns s format hs = .ok hs') (name : String) :
    hs'.first? name = (hs.first? name).or
      (if name = Settings.columnsKey then (addedColumns? s format).map Bytes.ofText else none) := by
  have hlower : lowerText Settings.columnsKey = Settings.columnsKey := by decide
  unfold addColumns at h
  refine first?_of_filled (fun hnone => ?_) (fun v hv => ?_) name
  · rw [Option.map_eq_none_iff, addedColumns?, ite_eq_right_iff] at hnone
    split at h
    · next hadd =>
      -- there are no columns
      have hneeds := (Bool.and_eq_true_iff.1 hadd).2
      have hempty : Columns.header s.columns s.upsertDelete = "" :=
        Columns.header_eq_empty_iff.2 <| Classical.not_not.1 fun hgiven =>
          nomatch hnone ⟨hneeds, hgiven⟩
      simp only [hempty, if_true] at h
      exact (Except.ok.inj h).symm
    · exact (Except.ok.inj h).symm
  · obtain ⟨text, htext, rfl⟩ := Option.map_eq_some_iff.1 hv
    rw [addedColumns?, Option.ite_none_right_eq_some, Option.some.injEq] at htext
    obtain ⟨⟨hneeds, hgiven⟩, rfl⟩ := htext
    simp only [hneeds, Bool.and_true, if_neg (mt Columns.header_eq_empty_iff.1 hgiven)] at h
    cases hhas : hs.has Settings.columnsKey with
    | true =>
      simp only [hhas, Bool.not_true, Bool.false_eq_true, if_false] at h
      exact (Except.ok.inj h).symm
    | false =>
      simp only [hhas, Bool.not_false, if_true] at h
      rw [eq_set_of_setHeader h, hlower]
      rfl

theorem first?_addStrip (name : String) : (addStrip format hs).first? name = (hs.first? name).or
    (if name = stripKey then (addedStrip? format).map Bytes.ofText else none) := by
  refine first?_of_filled (fun hnone => ?_) (fun v hv => ?_) name
  · rw [Option.map_eq_none_iff, addedStrip?, ite_eq_right_iff] at hnone
    exact if_neg fun hadd => nomatch hnone hadd.1
  · obtain ⟨text, htext, rfl⟩ := Option.map_eq_some_iff.1 hv
    rw [addedStrip?, Option.ite_none_right_eq_some, Option.some.injEq] at htext
    obtain ⟨hjson, rfl⟩ := htext
    unfold addStrip
    rw [hjson]
    cases hs.has stripKey <;> rfl

theorem first?_addTimeLimit (name : String) : (addTimeLimit hs).first? name = (hs.first? name).or
    (if name = Settings.timeoutKey then some (Bytes.ofText defaultTimeLimit) else none) := by
  refine first?_of_filled (fun hnone => ?_) (fun v hv => ?_) name
  · exact nomatch hnone
  · rw [← Option.some.inj hv]
    rfl

/-! ## The headers -/

/-- **The headers of a load name by name**: what is told in every load, what the properties spell,
and what is added where they spell nothing. The two additions behind the columns never fail, so the
columns are the only one that has to exist. -/
theorem first?_headers (h : headers s = .ok hs) (hformat : s.format = .ok format)
    (name : String) : hs.first? name =
      if name = "expect" then some (Bytes.ofText "100-continue")
      else ((Keyed.spelled? name s.properties).or (added? s format name)).map Bytes.ofText := by
  unfold headers at h
  obtain ⟨hs₁, h₁, h⟩ := bind_eq_ok.1 h
  obtain ⟨format', hformat', h⟩ := bind_eq_ok.1 h
  obtain rfl := Except.ok.inj (hformat.symm.trans hformat')
  obtain ⟨hs₂, h₂, h⟩ := bind_eq_ok.1 h
  rw [← Except.ok.inj h]
  split
  · next hname => rw [hname, Headers.first?_set_self]
  next hname =>
  have hproperties : hs₁.first? name = (Keyed.spelled? name s.properties).map Bytes.ofText := by
    rw [first?_of_foldlM h₁]
    exact Option.or_none
  have hadded : (added? s format name).map Bytes.ofText
      = ((if name = Settings.columnsKey then (addedColumns? s format).map Bytes.ofText
          else none).or
        (if name = stripKey then (addedStrip? format).map Bytes.ofText else none)).or
        (if name = Settings.timeoutKey then some (Bytes.ofText defaultTimeLimit) else none) := by
    unfold added?
    split
    · next hcolumns =>
      rw [if_neg (by rw [hcolumns]; decide), if_neg (by rw [hcolumns]; decide), Option.or_none,
        Option.or_none]
    split
    · next hstrip =>
      rw [if_neg (by rw [hstrip]; decide), Option.none_or, Option.or_none]
    · split <;> rfl
  rw [Headers.first?_set_of_ne hname, first?_addTimeLimit, first?_addStrip, first?_addColumns h₂,
    hproperties, Option.map_or, hadded, Option.or_assoc, Option.or_assoc, Option.or_assoc]

theorem first?_eq_some_iff (hsorted : Keyed.Sorted s.properties)
    (htoken : ∀ key ∈ Keyed.keys s.properties, Http.IsToken key) (h : headers s = .ok hs)
    (hformat : s.format = .ok format) {value : Bytes} :
    hs.first? name = some value ↔ ∃ text, Tells s format name text ∧ value = Bytes.ofText text := by
  rw [first?_headers h hformat]
  split
  · next hname =>
    subst hname
    rw [Option.some.injEq]
    constructor
    · rintro rfl
      exact ⟨_, .expect, rfl⟩
    · rintro ⟨text, htext, rfl⟩
      cases htext with
      | expect => rfl
      | spelled hname h => exact absurd rfl hname
      | added unsaid h => exact nomatch added?_eq_some_iff.2 h
  next hname =>
  rw [Option.map_eq_some_iff]
  refine exists_congr fun text => and_congr ?_ eq_comm
  rw [Option.or_eq_some_iff, Keyed.spelled?_eq_some_iff hsorted htoken, added?_eq_some_iff,
    Keyed.spelled?_eq_none_iff]
  constructor
  · rintro (⟨key, hlast⟩ | ⟨hunsaid, hadded⟩)
    · exact .spelled hname hlast
    · exact .added hunsaid hadded
  · intro h
    cases h with
    | expect => exact absurd rfl hname
    | spelled _ hlast => exact .inl ⟨_, hlast⟩
    | added hunsaid hadded => exact .inr ⟨hunsaid, hadded⟩

theorem forall_added_columns_iff :
    (∀ columns, Added s format "columns" columns →
        ∀ c ∈ columns.toList, Http.isFieldChar c = true) ↔
      (needsColumns s format = true →
        ∀ name ∈ s.columns, ∀ c ∈ Columns.clean name, Http.isFieldChar c = true) := by
  have hadded : ∀ columns, Added s format "columns" columns ↔
      (needsColumns s format = true ∧ s.columns ≠ []) ∧
        Columns.header s.columns s.upsertDelete = columns := fun columns => by
    rw [← added?_eq_some_iff, added?, if_pos (by rfl), addedColumns?,
      Option.ite_none_right_eq_some, Option.some.injEq]
  have hlist : (∀ c ∈ (Columns.header s.columns s.upsertDelete).toList,
      Http.isFieldChar c = true) ↔
      ∀ name ∈ s.columns, ∀ c ∈ Columns.clean name, Http.isFieldChar c = true := by
    rw [← Http.isSome_fieldValue?_iff, Columns.isSome_fieldValue?_header]
  constructor
  · intro h hneeds name hname
    have hgiven : s.columns ≠ [] := List.ne_nil_of_mem hname
    exact hlist.1 (h _ ((hadded _).2 ⟨⟨hneeds, hgiven⟩, rfl⟩)) name hname
  · intro h columns hcolumns
    obtain ⟨⟨hneeds, -⟩, rfl⟩ := (hadded _).1 hcolumns
    exact hlist.2 (h hneeds)

/-- **Which headers can be sent**, when no key is too long for one. This puts `Sendable` in terms of
the keys and texts of settings alone, without a builder of headers in it. -/
theorem sendable_iff (hsize : ∀ key ∈ Keyed.keys s.properties, key.utf8ByteSize ≤ Http.nameBound)
    (hformat : s.format = .ok format) :
    Sendable s ↔ (∀ key ∈ Keyed.keys s.properties, Http.IsToken key) ∧
      (∀ p ∈ s.properties, ∀ c ∈ p.2.toList, Http.isFieldChar c = true) ∧
      ((∀ key ∈ Keyed.keys s.properties, lowerText key ≠ "columns") →
        ∀ columns, Added s format "columns" columns →
          ∀ c ∈ columns.toList, Http.isFieldChar c = true) := by
  have htokens : (∀ p ∈ s.properties, (Http.fieldName? p.1).isSome = true) ↔
      ∀ key ∈ Keyed.keys s.properties, Http.IsToken key := by
    rw [Keyed.keys, List.forall_mem_map]
    refine forall₂_congr fun p hp => ?_
    exact Http.isSome_fieldName?_iff (hsize p.1 (List.mem_map_of_mem hp))
  have hunsaid : (∀ key ∈ Keyed.keys s.properties, lowerText key ≠ "columns") ↔
      ∀ p ∈ s.properties, lowerText p.1 ≠ Settings.columnsKey := by
    rw [Keyed.keys, List.forall_mem_map]
    rfl
  rw [← htokens, hunsaid, forall_added_columns_iff]
  constructor
  · intro h
    exact ⟨h.names, h.values, fun hno hneeds => h.columns format hformat hneeds hno⟩
  · rintro ⟨hnames, hvalues, hcolumns⟩
    refine ⟨hnames, hvalues, fun format' hformat' hneeds hno => ?_⟩
    obtain rfl := Except.ok.inj (hformat.symm.trans hformat')
    exact hcolumns hno hneeds

/-- **All headers of a load.** Let no key be too long for a header. Then there are headers exactly
if every key is a token and every value can be sent, the format is known, and so can the columns be
where they are added. They stand under different names, and they are what the load tells, name by
name; a property whose key is in small letters is always among them. -/
theorem headers_exact (hsorted : Keyed.Sorted s.properties)
    (hsize : ∀ key ∈ Keyed.keys s.properties, key.utf8ByteSize ≤ Http.nameBound) :
    ((∃ hs, headers s = .ok hs) ↔
      (∀ key ∈ Keyed.keys s.properties, Http.IsToken key) ∧
      (∀ p ∈ s.properties, ∀ c ∈ p.2.toList, Http.isFieldChar c = true) ∧
      ∃ format, s.format = .ok format ∧
        ((∀ key ∈ Keyed.keys s.properties, lowerText key ≠ "columns") →
          ∀ columns, Added s format "columns" columns →
            ∀ c ∈ columns.toList, Http.isFieldChar c = true)) ∧
    ∀ hs, headers s = .ok hs → ∃ format, s.format = .ok format ∧ (hs.map Prod.fst).Nodup ∧
      (∀ name value, (name, value) ∈ hs ↔
        ∃ text, Tells s format name text ∧ value = Bytes.ofText text) ∧
      (∀ key ∈ Keyed.keys s.properties, ∃ value, (lowerText key, value) ∈ hs) ∧
      ∀ key value, s.property? key = some value → lowerText key = key → key ≠ "expect" →
        (key, Bytes.ofText value) ∈ hs := by
  have hformat : ∀ hs, headers s = .ok hs → ∃ format, s.format = .ok format := by
    intro hs h
    obtain ⟨_, -, h⟩ := bind_eq_ok.1 h
    obtain ⟨format, hf, -⟩ := bind_eq_ok.1 h
    exact ⟨format, hf⟩
  refine ⟨⟨?_, ?_⟩, fun hs h => ?_⟩
  · rintro ⟨hs, h⟩
    obtain ⟨format, hf⟩ := hformat hs h
    obtain ⟨htokens, hvalues, hcolumns⟩ :=
      (sendable_iff hsize hf).1 ((exists_headers_iff hf).1 ⟨hs, h⟩)
    exact ⟨htokens, hvalues, format, hf, hcolumns⟩
  · rintro ⟨htokens, hvalues, format, hf, hcolumns⟩
    exact (exists_headers_iff hf).2 ((sendable_iff hsize hf).2 ⟨htokens, hvalues, hcolumns⟩)
  · obtain ⟨format, hf⟩ := hformat hs h
    obtain ⟨htokens, -, -⟩ := (sendable_iff hsize hf).1 ((exists_headers_iff hf).1 ⟨hs, h⟩)
    have hsingle := single_of_headers h
    refine ⟨format, hf, hsingle.nodup, fun name value => ?_, fun key hkey => ?_,
      fun key value hvalue hlower hkey => ?_⟩
    · rw [hsingle.mem_iff, first?_eq_some_iff hsorted htokens h hf]
    · have hspelled : Keyed.spelled? (lowerText key) s.properties ≠ none := fun hnone =>
        Keyed.spelled?_eq_none_iff.1 hnone key hkey rfl
      obtain ⟨text, htext⟩ := Option.ne_none_iff_exists'.1 hspelled
      simp only [hsingle.mem_iff, first?_headers h hf, htext, Option.some_or, Option.map_some]
      split <;> exact ⟨_, rfl⟩
    · rw [hsingle.mem_iff, first?_headers h hf, if_neg hkey,
        Keyed.spelled?_of_find? hsorted hlower hvalue]
      rfl

/-- Two spellings of the limit of time, of which the greater one counts, a wish that is not granted,
and columns that no key spells. -/
theorem headers_exact_of_spellings :
    let s := (((Settings.ofHosts ["a"]).withColumns ["b"]).withProperty "Timeout" "5")
      |>.withProperty "TIMEOUT" "6" |>.withProperty "Expect" "x"
    Keyed.Sorted s.properties ∧
      (∀ key ∈ Keyed.keys s.properties, key.utf8ByteSize ≤ Http.nameBound) ∧
      ∃ hs, headers s = .ok hs ∧ (hs.map Prod.fst).Nodup ∧ ("timeout", Bytes.ofText "5") ∈ hs ∧
        ("expect", Bytes.ofText "100-continue") ∈ hs ∧
        ("columns", Bytes.ofText "\x60b\x60") ∈ hs := by
  intro s
  have hsorted : Keyed.Sorted s.properties :=
    Keyed.sorted_insert (Keyed.sorted_insert (Keyed.sorted_insert List.Pairwise.nil))
  have hsize : ∀ key ∈ Keyed.keys s.properties, key.utf8ByteSize ≤ Http.nameBound := by decide
  have htokens : ∀ key ∈ Keyed.keys s.properties, Http.IsToken key := by
    have hall : (Keyed.keys s.properties).all
        (fun key => key ≠ "" && key.toList.all Http.isTokenChar) = true := by decide
    intro key hkey
    obtain ⟨hne, hchars⟩ := Bool.and_eq_true_iff.1 (List.all_eq_true.1 hall key hkey)
    exact ⟨of_decide_eq_true hne, List.all_eq_true.1 hchars⟩
  have hvalues : ∀ p ∈ s.properties, ∀ c ∈ p.2.toList, Http.isFieldChar c = true := by
    have hall : s.properties.all (fun p => p.2.toList.all Http.isFieldChar) = true := by decide
    exact fun p hp => List.all_eq_true.1 (List.all_eq_true.1 hall p hp)
  have hcolumns : ∀ columns, Added s .csv "columns" columns → columns = "\x60b\x60" := by
    intro columns hadded
    exact (Option.some.inj (added?_eq_some_iff.2 hadded)).symm
  obtain ⟨hexists, hall⟩ := headers_exact hsorted hsize
  obtain ⟨hs, h⟩ := hexists.2 ⟨htokens, hvalues, .csv, rfl, fun _ columns hadded => by
    rw [hcolumns columns hadded]
    exact List.all_eq_true.1 (by decide)⟩
  obtain ⟨format, hformat, hnodup, hmem, -⟩ := hall hs h
  obtain rfl : Format.csv = format := Except.ok.inj hformat
  have hlast : Keyed.LastSpelling s.properties "timeout" "Timeout" "5" :=
    ⟨by decide, by decide, by decide⟩
  refine ⟨hsorted, hsize, hs, h, hnodup, ?_, (hmem _ _).2 ⟨_, .expect, rfl⟩, ?_⟩
  · exact (hmem _ _).2 ⟨_, .spelled (by decide) hlast, rfl⟩
  · exact (hmem _ _).2 ⟨_, .added (by decide) (added?_eq_some_iff.1 rfl), rfl⟩

end Load

end Ingest
