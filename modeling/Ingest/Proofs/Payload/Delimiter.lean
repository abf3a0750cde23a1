import Ingest.Proofs.Settings.Check
import Ingest.Proofs.Settings.Spelling

/-!
# What a delimiter is read as

Behind `\x` or `\X` a delimiter is given by hexadecimal digits, and every other text stands for its
own bytes. `hexChars` writes bytes with two digits each. The texts that are read as given bytes are
exactly those that differ from what it writes in the case of letters only (`ofHex_eq_ok_iff`), and
so reading gives back what was written however its digits are spelled, while a text that writes
nothing at all, breaks off in the middle of a byte or holds anything but digits is refused.

The settings take a delimiter as it is read; what is wrong with it is wrong with the field for it.
-/

namespace Ingest

namespace Digit

theorem hex?_of_le {c : Char} (h : 0x80 ≤ c.toNat) : hex? c = none := by
  have hbehind : ∀ b : Char, b.toNat < 0x80 → ¬ c ≤ b := fun b hb hc =>
    Nat.not_lt_of_le (Nat.le_trans h (UInt32.le_iff_toNat_le.1 hc)) hb
  rw [hex?, if_neg fun hc => hbehind '9' (by decide) hc.2,
    if_neg fun hc => hbehind 'f' (by decide) hc.2, if_neg fun hc => hbehind 'F' (by decide) hc.2]

/-- **A digit is read as its small letter says**, and nothing else is a digit. Writing uses small
letters only, so this is where the two cases meet. -/
theorem hex?_eq_some_iff {c : Char} {n : Nat} : hex? c = some n ↔ n < 16 ∧ c.toLower = lower n := by
  by_cases hc : c.toNat < 0x80
  · have hbound : ∀ k < 0x80, ∀ n ∈ hex? (Char.ofNat k), n < 16 := by decide +kernel
    have hdigit : ∀ k < 0x80, ∀ n < 16,
        (hex? (Char.ofNat k) = some n ↔ (Char.ofNat k).toLower = lower n) := by decide +kernel
    have hlt := hbound c.toNat hc n
    have hiff := hdigit c.toNat hc n
    rw [Char.ofNat_toNat] at hlt hiff
    exact ⟨fun h => ⟨hlt h, (hiff (hlt h)).1 h⟩, fun ⟨hn, h⟩ => (hiff hn).2 h⟩
  · -- no capital letter is there, and no digit has such a small letter
    rw [hex?_of_le (Nat.le_of_not_lt hc)]
    refine ⟨fun h => (nomatch h), fun ⟨hn, hlower⟩ => absurd ?_ hc⟩
    have hsmall : ∀ n < 16, (lower n).toNat < 0x80 := by decide
    calc c.toNat ≤ c.toLower.toNat := UInt32.le_iff_toNat_le.1 (le_toLower c)
      _ < 0x80 := hlower ▸ hsmall n hn

/-- **A hexadecimal digit** in either case. -/
def IsHex (c : Char) : Prop := c ∈ "0123456789abcdefABCDEF".toList

instance (c : Char) : Decidable (IsHex c) := inferInstanceAs (Decidable (_ ∈ _))

theorem isSome_hex?_iff {c : Char} : (hex? c).isSome = true ↔ IsHex c := by
  constructor
  · intro h
    have hc : c.toNat < 0x80 := by
      refine Nat.lt_of_not_le fun hle => ?_
      rw [hex?_of_le hle] at h
      exact nomatch h
    have hfew : ∀ k < 0x80, (hex? (Char.ofNat k)).isSome = true → IsHex (Char.ofNat k) := by
      decide +kernel
    have hdigit := hfew c.toNat hc
    rw [Char.ofNat_toNat] at hdigit
    exact hdigit h
  · intro h
    have hall : "0123456789abcdefABCDEF".toList.all fun c => (hex? c).isSome := by decide +kernel
    exact List.all_eq_true.1 hall c h

end Digit

namespace Delimiter

variable {cs : List Char} {ds : List Nat} {b : Bytes}

/-- The digits of bytes, two for each. -/
def digitsOf (bs : Bytes) : List Nat := bs.flatMap fun b => [b.toNat / 16, b.toNat % 16]

/-- **Bytes written as hexadecimal digits**, two for each and with small letters. Reading is
described as what inverts this. -/
def hexChars (bs : Bytes) : List Char :=
  bs.flatMap fun b => [Digit.lower (b.toNat / 16), Digit.lower (b.toNat % 16)]

/-- Bytes are written as twice as many digits, the high one first, in lower case. -/
theorem hexChars_eq (bs : Bytes) : hexChars bs = (digitsOf bs).map Digit.lower := by
  rw [digitsOf, List.map_flatMap]
  rfl

theorem digitsOf_cons (x : UInt8) (bs : Bytes) :
    digitsOf (x :: bs) = x.toNat / 16 :: x.toNat % 16 :: digitsOf bs := rfl

theorem lt_of_mem_digitsOf {d : Nat} (h : d ∈ digitsOf b) : d < 16 := by
  obtain ⟨x, -, hd⟩ := List.mem_flatMap.1 h
  have hx := x.toNat_lt
  simp only [List.mem_cons, List.not_mem_nil, or_false] at hd
  omega

theorem length_digitsOf (bs : Bytes) : (digitsOf bs).length = 2 * bs.length := by
  induction bs with
  | nil => rfl
  | cons x bs ih =>
    rw [digitsOf_cons, List.length_cons, List.length_cons, ih, List.length_cons]
    omega

/-! ## Digits in pairs -/

theorem pairs_digitsOf (bs : Bytes) : pairs (digitsOf bs) = bs := by
  induction bs with
  | nil => rfl
  | cons x bs ih =>
    rw [digitsOf_cons, pairs, ih, Nat.mul_comm, Nat.div_add_mod, UInt8.ofNat_toNat]

/-- **Digits are those of the bytes that they make**, if there is none too many. -/
theorem digitsOf_pairs (hds : ∀ d ∈ ds, d < 16) (heven : ds.length % 2 = 0) :
    digitsOf (pairs ds) = ds := by
  induction ds using pairs.induct with
  | case1 high low rest ih =>
    obtain ⟨hhigh, hlow, hrest⟩ := (List.forall_mem_cons.1 hds).imp id List.forall_mem_cons.1
    have hbyte : (UInt8.ofNat (high * 16 + low)).toNat = high * 16 + low :=
      Nat.mod_eq_of_lt (show high * 16 + low < 256 by omega)
    have hlength : rest.length % 2 = 0 := by
      rw [List.length_cons, List.length_cons] at heven
      omega
    rw [pairs, digitsOf_cons, hbyte, ih hrest hlength]
    congr
    · omega
    · omega
  | case2 ds hnot =>
    match ds with
    | [] => rfl
    | [_] => exact absurd heven Nat.one_ne_zero
    | high :: low :: rest => exact absurd rfl (hnot high low rest)

/-! ## Reading digits -/

/-- **A text of digits is read by its small letters.** The number of digits it has is the number of
its characters, so none is passed over. -/
theorem mapM_hex?_eq_some_iff :
    cs.mapM Digit.hex? = some ds ↔
      (∀ d ∈ ds, d < 16) ∧ cs.map Char.toLower = ds.map Digit.lower := by
  rw [mapM_eq_some_iff]
  induction cs generalizing ds with
  | nil =>
    cases ds with
    | nil => simp only [List.map_nil, List.not_mem_nil, false_imp_iff, implies_true, and_self]
    | cons d ds => simp only [List.map_nil, List.map_cons, List.nil_eq, reduceCtorEq, and_false]
  | cons c cs ih =>
    cases ds with
    | nil => simp only [List.map_nil, List.map_cons, reduceCtorEq, and_false]
    | cons d ds =>
      simp only [List.map_cons, List.cons.injEq, ih, Digit.hex?_eq_some_iff, List.forall_mem_cons]
      constructor
      · rintro ⟨⟨hd, hc⟩, hds, hcs⟩
        exact ⟨⟨hd, hds⟩, hc, hcs⟩
      · rintro ⟨⟨hd, hds⟩, hc, hcs⟩
        exact ⟨⟨hd, hc⟩, hds, hcs⟩

/-- What is read behind the mark of hexadecimal digits: a positive even number of them, in pairs.
The bytes are determined, and every list of bytes that is not empty is one of these. -/
theorem ofHex_eq_ok_of_digits :
    ofHex cs = .ok b ↔
      cs ≠ [] ∧ ∃ ds, cs.mapM Digit.hex? = some ds ∧ ds.length % 2 = 0 ∧ pairs ds = b := by
  unfold ofHex
  cases cs with
  | nil => simp only [List.isEmpty_nil, if_true, reduceCtorEq, ne_eq, not_true_eq_false, false_and]
  | cons c cs =>
    rw [List.isEmpty_cons, if_neg Bool.false_ne_true, and_iff_right (List.cons_ne_nil c cs)]
    cases (c :: cs).mapM Digit.hex? with
    | none => simp only [reduceCtorEq, false_and, exists_false]
    | some ds =>
      simp only [Option.some.injEq, exists_eq_left']
      split
      · next hodd =>
        simp only [reduceCtorEq, false_iff, not_and]
        exact fun heven => absurd (hodd.symm.trans heven) (by decide)
      · next hodd =>
        rw [Except.ok.injEq]
        exact (and_iff_right (Nat.mod_two_ne_one.1 hodd)).symm

/-- **What is read as given bytes** is what writes them, but for the case of letters. There is no
third way to spell a byte, with a blank or with a single digit. -/
theorem ofHex_eq_ok_iff : ofHex cs = .ok b ↔ b ≠ [] ∧ cs.map Char.toLower = hexChars b := by
  rw [ofHex_eq_ok_of_digits, hexChars_eq]
  constructor
  · rintro ⟨hne, ds, hds, heven, rfl⟩
    obtain ⟨hlt, hlower⟩ := mapM_hex?_eq_some_iff.1 hds
    have hdigits := digitsOf_pairs hlt heven
    rw [hdigits]
    refine ⟨fun hnil => hne ?_, hlower⟩
    rw [hnil] at hdigits
    rw [← hdigits] at hlower
    exact List.map_eq_nil_iff.1 hlower
  · rintro ⟨hne, hlower⟩
    have hlength := length_digitsOf b
    refine ⟨fun hnil => hne ?_, digitsOf b,
      mapM_hex?_eq_some_iff.2 ⟨fun d => lt_of_mem_digitsOf, hlower⟩, by omega, pairs_digitsOf b⟩
    have hempty := congrArg List.length hlower
    rw [hnil, List.length_map, List.length_map, hlength, List.length_nil] at hempty
    exact List.eq_nil_of_length_eq_zero (by omega)

/-- **Which digits are read at all**: some, an even number of them, and nothing else. -/
theorem exists_ofHex_eq_ok_iff :
    (∃ b, ofHex cs = .ok b) ↔ cs ≠ [] ∧ cs.length % 2 = 0 ∧ ∀ c ∈ cs, Digit.IsHex c := by
  have hall : (∃ ds, cs.mapM Digit.hex? = some ds) ↔ ∀ c ∈ cs, Digit.IsHex c := by
    simp only [mapM_eq_some_iff, ← Digit.isSome_hex?_iff]
    constructor
    · rintro ⟨ds, hds⟩ c hc
      obtain ⟨d, -, hd⟩ := List.mem_map.1 (hds ▸ List.mem_map_of_mem hc)
      rw [← hd, Option.isSome_some]
    · intro hcs
      refine ⟨cs.map fun c => (Digit.hex? c).getD 0, ?_⟩
      rw [List.map_map]
      refine List.map_congr_left fun c hc => ?_
      obtain ⟨n, hn⟩ := Option.isSome_iff_exists.1 (hcs c hc)
      rw [hn]
      show some n = some ((Digit.hex? c).getD 0)
      rw [hn, Option.getD_some]
  have hlength : ∀ {ds}, cs.mapM Digit.hex? = some ds → ds.length = cs.length := fun hds => by
    rw [← List.length_map (f := some), ← mapM_eq_some_iff.1 hds, List.length_map]
  simp only [ofHex_eq_ok_of_digits, ← hall]
  constructor
  · rintro ⟨b, hne, ds, hds, heven, -⟩
    exact ⟨hne, hlength hds ▸ heven, ds, hds⟩
  · rintro ⟨hne, heven, ds, hds⟩
    exact ⟨pairs ds, hne, ds, hds, (hlength hds).symm ▸ heven, rfl⟩

/-! ## Texts with and without digits -/

/-- **A text that gives digits**: it begins with a backslash and an `x` in either case. -/
def Marked (v : String) (cs : List Char) : Prop :=
  v.toList = '\\' :: 'x' :: cs ∨ v.toList = '\\' :: 'X' :: cs

instance (v : String) (cs : List Char) : Decidable (Marked v cs) :=
  inferInstanceAs (Decidable (_ ∨ _))

theorem ofText_of_marked {v : String} (h : Marked v cs) : ofText v = ofHex cs := by
  unfold ofText
  rcases h with h | h
  · rw [h]
    rfl
  · rw [h]
    rfl

theorem ofText_of_not_marked {v : String} (h : ∀ cs, ¬ Marked v cs) :
    ofText v = .ok (Bytes.ofText v) := by
  unfold ofText
  split
  · next cs hcs => exact absurd (.inl hcs) (h cs)
  · next cs hcs => exact absurd (.inr hcs) (h cs)
  · rfl

theorem ne_empty_of_marked {v : String} (h : Marked v cs) : v ≠ "" := by
  rintro rfl
  rcases h with h | h <;> exact nomatch h

/-- No delimiter is empty. A text that is not empty has a byte, and digits are refused if there are
none. -/
theorem ofText_ne_nil {v : String} (hv : v ≠ "") (h : ofText v = .ok b) : b ≠ [] := by
  by_cases hmarked : ∃ cs, Marked v cs
  · obtain ⟨cs, hcs⟩ := hmarked
    rw [ofText_of_marked hcs] at h
    exact (ofHex_eq_ok_iff.1 h).1
  · rw [ofText_of_not_marked fun cs hcs => hmarked ⟨cs, hcs⟩] at h
    rw [← Except.ok.inj h, Bytes.ofText]
    cases hcs : v.toList with
    | nil => exact absurd (String.toList_eq_nil_iff.1 hcs) hv
    | cons c cs =>
      rw [List.flatMap_cons]
      exact List.append_ne_nil_of_left_ne_nil (String.utf8EncodeChar_ne_nil) _

end Delimiter

namespace Settings

open Delimiter (Marked)

/-- **The delimiter of an optional text**, as the settings take it: what is wrong with it is wrong
with the field for it. -/
def readDelimiter (value : Option String) (fallback : Bytes) : Except Fault Bytes :=
  (Delimiter.read value fallback).mapError fun f => .invalid .rowDelimiter (.delimiter f)

theorem delimiter_eq (s : Settings) :
    s.delimiter = readDelimiter (s.property? delimiterKey) Framing.defaultDelimiter := by
  unfold delimiter readDelimiter
  cases Delimiter.read (s.property? delimiterKey) Framing.defaultDelimiter <;> rfl

variable {v : String} {fallback b : Bytes}

theorem readDelimiter_eq_ok_iff {value : Option String} :
    readDelimiter value fallback = .ok b ↔ Delimiter.read value fallback = .ok b := by
  unfold readDelimiter
  cases Delimiter.read value fallback with
  | error f => exact ⟨nofun, nofun⟩
  | ok d =>
    show (Except.ok d : Except Fault Bytes) = .ok b ↔ _
    rw [Except.ok.injEq, Except.ok.injEq]

theorem readDelimiter_some (hv : v ≠ "") : readDelimiter (some v) fallback = .ok b ↔
    Delimiter.ofText v = .ok b := by
  rw [readDelimiter_eq_ok_iff, Delimiter.read, if_neg hv]

/-- A delimiter that cannot be read is refused under its own name, with what was wrong in its
text. -/
theorem exists_readDelimiter_eq_error {value : Option String}
    (h : ¬ ∃ b, readDelimiter value fallback = .ok b) :
    ∃ f, readDelimiter value fallback = .error (.invalid .rowDelimiter (.delimiter f)) := by
  simp only [readDelimiter_eq_ok_iff] at h
  unfold readDelimiter
  cases hread : Delimiter.read value fallback with
  | error f => exact ⟨f, rfl⟩
  | ok b => exact absurd ⟨b, hread⟩ h

/-- **What a delimiter is read as.** A missing or empty text stands for the fallback. A text with a
mark is read exactly if an even number of digits stands behind it and nothing else, and otherwise is
at fault in the field for delimiters; the bytes it is read as are those that its digits write, in
whichever case each of them is. Every other text stands for its own bytes. So a delimiter is never
empty unless the fallback is. The settings read theirs in this way. -/
theorem readDelimiter_grammar (fallback : Bytes) :
    readDelimiter none fallback = .ok fallback ∧ readDelimiter (some "") fallback = .ok fallback ∧
      (∀ v cs, Marked v cs →
        ((∃ b, readDelimiter (some v) fallback = .ok b) ↔
          cs ≠ [] ∧ cs.length % 2 = 0 ∧ ∀ c ∈ cs, Digit.IsHex c) ∧
        ((¬ ∃ b, readDelimiter (some v) fallback = .ok b) →
          ∃ f, readDelimiter (some v) fallback = .error (.invalid .rowDelimiter (.delimiter f))) ∧
        ∀ b, readDelimiter (some v) fallback = .ok b ↔
          b ≠ [] ∧ cs.map Char.toLower = Delimiter.hexChars b) ∧
      (∀ v, v ≠ "" → (∀ cs, ¬ Marked v cs) →
        readDelimiter (some v) fallback = .ok (Bytes.ofText v)) ∧
      (fallback ≠ [] → ∀ value b, readDelimiter value fallback = .ok b → b ≠ []) ∧
      ∀ s : Settings, s.delimiter
        = readDelimiter (s.property? delimiterKey) Framing.defaultDelimiter := by
  refine ⟨rfl, rfl, fun v cs hmarked => ?_, fun v hv hnot => ?_, fun hfallback value b h => ?_,
    delimiter_eq⟩
  · have hv := Delimiter.ne_empty_of_marked hmarked
    simp only [readDelimiter_some hv, Delimiter.ofText_of_marked hmarked]
    refine ⟨Delimiter.exists_ofHex_eq_ok_iff, fun hnone => ?_, fun b => Delimiter.ofHex_eq_ok_iff⟩
    refine exists_readDelimiter_eq_error fun ⟨b, hb⟩ => hnone ⟨b, ?_⟩
    rwa [readDelimiter_some hv, Delimiter.ofText_of_marked hmarked] at hb
  · rw [readDelimiter_some hv, Delimiter.ofText_of_not_marked hnot]
  · cases value with
    | none => exact Except.ok.inj h ▸ hfallback
    | some v =>
      by_cases hv : v = ""
      · subst hv
        exact Except.ok.inj h ▸ hfallback
      · exact Delimiter.ofText_ne_nil hv ((readDelimiter_some hv).1 h)

theorem readDelimiter_grammar_of_mixed_case :
    Marked "\\X0aFf" ['0', 'a', 'F', 'f'] ∧ Marked "\\x0" ['0'] ∧
      readDelimiter (some "\\X0aFf") [] = .ok [0x0A, 0xFF] ∧
      (∃ f, readDelimiter (some "\\x0") [] = .error (.invalid .rowDelimiter (.delimiter f))) ∧
      readDelimiter (some "\\é") [] = .ok (Bytes.ofText "\\é") := by
  have hwhole : Marked "\\X0aFf" ['0', 'a', 'F', 'f'] := by decide +kernel
  have hhalf : Marked "\\x0" ['0'] := by decide +kernel
  obtain ⟨-, -, hmarked, hplain, -⟩ := readDelimiter_grammar []
  refine ⟨hwhole, hhalf, ?_, ?_, ?_⟩
  · exact ((hmarked _ _ hwhole).2.2 _).2 ⟨by decide, by decide +kernel⟩
  · obtain ⟨hread, hfault, -⟩ := hmarked _ _ hhalf
    exact hfault fun hok => absurd (hread.1 hok).2.1 (by decide)
  · refine hplain _ (by decide +kernel) fun cs hcs => ?_
    have hsecond : "\\é".toList[1]? = some 'é' := by decide +kernel
    rcases hcs with hcs | hcs
    · rw [hcs] at hsecond
      exact absurd (Option.some.inj hsecond : 'x' = 'é') (by decide)
    · rw [hcs] at hsecond
      exact absurd (Option.some.inj hsecond : 'X' = 'é') (by decide)

end Settings

end Ingest
