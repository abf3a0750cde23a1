import Ingest.Proofs.Steps
import Ingest.Bytes

/-!
# Text that was encoded is read back

The reader of UTF-8 holds the bits of a character while its bytes come in. For the bytes of an
encoded character these bits are the leading digits of its number to the base 64, and the bounds on
the byte behind the lead byte are kept because the encoding is the shortest and no character is a
surrogate. So the reader gives back what was encoded, and nothing in it is replaced.

Where a byte string is a text throughout, the reader holds nothing at its end, and what stands
behind it is read as if it stood alone.
-/

namespace Ingest.Utf8

open String (utf8EncodeChar)

/-! ## Encoded characters -/

theorem utf8EncodeChar_of_lt {c : Char} (h : c.toNat < 0x80) :
    utf8EncodeChar c = [UInt8.ofNat c.toNat] := by
  unfold utf8EncodeChar
  simp only [Char.toNat_val]
  rw [if_pos (by omega)]

theorem le_of_mem_utf8EncodeChar {c : Char} (h : 0x80 ≤ c.toNat) {b : UInt8}
    (hb : b ∈ utf8EncodeChar c) : 0x80 ≤ b.toNat := by
  have hbyte : ∀ n, 0x80 ≤ n → n < 0x100 → 0x80 ≤ (UInt8.ofNat n).toNat := by
    intro n hn hlt
    rwa [show (UInt8.ofNat n).toNat = n from Nat.mod_eq_of_lt hlt]
  unfold utf8EncodeChar at hb
  simp only [Char.toNat_val] at hb
  rw [if_neg (by omega)] at hb
  split at hb
  · simp only [List.mem_cons, List.not_mem_nil, or_false] at hb
    rcases hb with rfl | rfl <;> exact hbyte _ (by omega) (by omega)
  split at hb
  · simp only [List.mem_cons, List.not_mem_nil, or_false] at hb
    rcases hb with rfl | rfl | rfl <;> exact hbyte _ (by omega) (by omega)
  · simp only [List.mem_cons, List.not_mem_nil, or_false] at hb
    rcases hb with rfl | rfl | rfl | rfl <;> exact hbyte _ (by omega) (by omega)

/-! ## Lead bytes -/

theorem lead_one {n : Nat} (h : n < 0x80) : lead (UInt8.ofNat n) = .whole (Char.ofNat n) := by
  have hn : (UInt8.ofNat n).toNat = n := Nat.mod_eq_of_lt (by omega)
  unfold lead
  rw [if_pos (UInt8.lt_iff_toNat_lt.2 (by rw [hn]; exact h)), hn]

/-- The bytes that begin a character of two tell the high bits of it. Two bytes below them are left
out, since they would begin a longer form of an ASCII character. -/
theorem lead_two {n : Nat} (h₁ : 0xC2 ≤ n) (h₂ : n < 0xE0) :
    lead (UInt8.ofNat n) = .begins ⟨n - 0xC0, 1, 0x80, 0xBF⟩ := by
  have hn : (UInt8.ofNat n).toNat = n := Nat.mod_eq_of_lt (by omega)
  simp only [lead, UInt8.lt_iff_toNat_lt, ← UInt8.toNat_inj, hn, UInt8.reduceToNat]
  rw [if_neg (by omega), if_neg (by omega), if_pos (by omega)]

/-- At both ends of this range the second byte is bounded: below for longer forms, above for
surrogates, which are no characters. -/
theorem lead_three {n : Nat} (h₁ : 0xE0 ≤ n) (h₂ : n < 0xF0) :
    lead (UInt8.ofNat n) = .begins ⟨n - 0xE0, 2, if n = 0xE0 then 0xA0 else 0x80,
      if n = 0xED then 0x9F else 0xBF⟩ := by
  have hn : (UInt8.ofNat n).toNat = n := Nat.mod_eq_of_lt (by omega)
  simp only [lead, UInt8.lt_iff_toNat_lt, ← UInt8.toNat_inj, hn, UInt8.reduceToNat]
  grind

/-- The last of these bytes may not lead beyond the last character there is. -/
theorem lead_four {n : Nat} (h₁ : 0xF0 ≤ n) (h₂ : n < 0xF5) :
    lead (UInt8.ofNat n) = .begins ⟨n - 0xF0, 3, if n = 0xF0 then 0x90 else 0x80,
      if n = 0xF4 then 0x8F else 0xBF⟩ := by
  have hn : (UInt8.ofNat n).toNat = n := Nat.mod_eq_of_lt (by omega)
  simp only [lead, UInt8.lt_iff_toNat_lt, ← UInt8.toNat_inj, hn, UInt8.reduceToNat]
  grind

/-! ## The bytes behind them -/

theorem scan_whole {b : UInt8} {c : Char} (h : lead b = .whole c) (bs : Bytes) :
    scan none (b :: bs) = some c :: scan none bs := by
  rw [scan, openAt, h]
  rfl

theorem scan_begins {b : UInt8} {p : Pending} (h : lead b = .begins p) (bs : Bytes) :
    scan none (b :: bs) = scan (some p) bs := by
  rw [scan, openAt, h]
  rfl

/-- A byte within the bounds adds a digit to the bits, and is the last if one was owed. -/
theorem scan_digit {bits owed n : Nat} {least greatest : UInt8} (hl : least.toNat ≤ n + 0x80)
    (hg : n + 0x80 ≤ greatest.toNat) (bs : Bytes) :
    scan (some ⟨bits, owed, least, greatest⟩) (UInt8.ofNat (n + 0x80) :: bs)
      = if owed ≤ 1 then some (Char.ofNat (bits * 64 + n)) :: scan none bs
        else scan (some ⟨bits * 64 + n, owed - 1, 0x80, 0xBF⟩) bs := by
  have hlt : n + 0x80 < 256 := Nat.lt_of_le_of_lt hg greatest.toNat_lt
  have hn : (UInt8.ofNat (n + 0x80)).toNat = n + 0x80 := Nat.mod_eq_of_lt hlt
  have hbounds : least ≤ UInt8.ofNat (n + 0x80) ∧ UInt8.ofNat (n + 0x80) ≤ greatest := by
    rw [UInt8.le_iff_toNat_le, UInt8.le_iff_toNat_le, hn]
    exact ⟨hl, hg⟩
  rw [scan, if_pos hbounds, hn, Nat.add_sub_cancel]

/-! ## Characters -/

/-- **An encoded character is read as itself.** There are four cases, by the number of its bytes,
and the bounds on the second byte are what tells them apart from forms that are too long. -/
theorem scan_utf8EncodeChar (c : Char) (bs : Bytes) :
    scan none (utf8EncodeChar c ++ bs) = some c :: scan none bs := by
  have hvalid : c.toNat < 0xD800 ∨ 0xDFFF < c.toNat ∧ c.toNat < 0x110000 := c.valid
  -- what the reader puts together is the number of the character
  have hread : ∀ n, n = c.toNat → some (Char.ofNat n) :: scan none bs = some c :: scan none bs := by
    rintro n rfl
    rw [Char.ofNat_toNat]
  unfold utf8EncodeChar
  simp only [Char.toNat_val]
  generalize c.toNat = v at hvalid hread ⊢
  by_cases h₁ : v ≤ 0x7f
  · -- one byte
    rw [if_pos h₁]
    exact (scan_whole (lead_one (by omega)) bs).trans (hread v rfl)
  rw [if_neg h₁]
  by_cases h₂ : v ≤ 0x7ff
  · -- two bytes
    rw [if_pos h₂]
    refine (scan_begins (lead_two (by omega) (by omega)) _).trans ?_
    refine (scan_digit (by simp) (by simp; omega) _).trans ?_
    exact hread _ (by omega)
  rw [if_neg h₂]
  by_cases h₃ : v ≤ 0xffff
  · -- three bytes: the bounds of the second one shut out overlong forms and surrogates
    rw [if_pos h₃]
    refine (scan_begins (lead_three (by omega) (by omega)) _).trans ?_
    refine (scan_digit ?_ ?_ _).trans ?_
    · split
      · simp only [UInt8.reduceToNat]
        omega
      · simp
    · split
      · simp only [UInt8.reduceToNat]
        omega
      · simp only [UInt8.reduceToNat]
        omega
    refine (scan_digit (by simp) (by simp; omega) _).trans ?_
    exact hread _ (by omega)
  -- four bytes: the bounds of the second one shut out overlong forms and what is past the last
  -- character
  rw [if_neg h₃]
  refine (scan_begins (lead_four (by omega) (by omega)) _).trans ?_
  refine (scan_digit ?_ ?_ _).trans ?_
  · split
    · simp only [UInt8.reduceToNat]
      omega
    · simp
  · split
    · simp only [UInt8.reduceToNat]
      omega
    · simp only [UInt8.reduceToNat]
      omega
  refine (scan_digit (by simp) (by simp; omega) _).trans ?_
  refine (scan_digit (by simp) (by simp; omega) _).trans ?_
  exact hread _ (by omega)

/-- **The encoding of a text is read as that text**, and the reader holds nothing behind it. -/
theorem scan_ofText (s : String) (bs : Bytes) :
    scan none (Bytes.ofText s ++ bs) = s.toList.map some ++ scan none bs := by
  unfold Bytes.ofText
  induction s.toList with
  | nil => rfl
  | cons c cs ih =>
    rw [List.flatMap_cons, List.append_assoc, scan_utf8EncodeChar, ih]
    rfl

@[simp] theorem decode?_ofText (s : String) : decode? (Bytes.ofText s) = some s := by
  have hscan := scan_ofText s []
  rw [List.append_nil, scan, List.append_nil] at hscan
  rw [decode?, hscan]
  have hall : (s.toList.map some).mapM id = some s.toList := by
    induction s.toList with
    | nil => rfl
    | cons c cs ih => simp [List.mapM_cons, ih]
  rw [hall, Option.map_some, String.ofList_toList]

/-! ## Texts put end to end -/

/-- Bytes are a text if a scan finds no fault in them, and then the text is what it finds. -/
theorem decode?_eq_some_iff {bs : Bytes} {s : String} :
    decode? bs = some s ↔ scan none bs = s.toList.map some := by
  rw [decode?, Option.map_eq_some_iff]
  constructor
  · rintro ⟨cs, hcs, rfl⟩
    rw [String.toList_ofList, ← mapM_eq_some_iff.1 hcs, List.map_id]
  · intro h
    exact ⟨s.toList, mapM_eq_some_iff.2 (by rw [h, List.map_id]), String.ofList_toList⟩

/-- **What is a text is read up to its end**, whatever stands behind it. So texts may be put one
behind another and be read as one. -/
theorem scan_append {p : Option Pending} {bs : Bytes} (h : none ∉ scan p bs) (more : Bytes) :
    scan p (bs ++ more) = scan p bs ++ scan none more := by
  induction bs generalizing p with
  | nil =>
    cases p with
    | none => rfl
    | some p => exact absurd List.mem_cons_self h
  | cons b bs ih =>
    cases p with
    | none =>
      rw [scan, List.mem_append, not_or] at h
      rw [List.cons_append, scan, scan, ih h.2, List.append_assoc]
    | some p =>
      rw [scan] at h
      rw [List.cons_append, scan, scan]
      split at h
      · next hb =>
        rw [if_pos hb, if_pos hb]
        simp only at h ⊢
        split at h
        · next howed =>
          rw [if_pos howed, if_pos howed, ih fun hmem => h (List.mem_cons_of_mem _ hmem),
            List.cons_append]
        · next howed => rw [if_neg howed, if_neg howed, ih h]
      · exact absurd List.mem_cons_self h

/-- A scan of a text ends between characters, so what is behind the text is scanned by itself. -/
theorem scan_append_of_text {bs : Bytes} {cs : List Char} (h : scan none bs = cs.map some)
    (more : Bytes) : scan none (bs ++ more) = cs.map some ++ scan none more := by
  have hwhole : none ∉ scan none bs := by
    rw [h]
    exact fun hmem => nomatch (List.mem_map.1 hmem).choose_spec.2
  rw [scan_append hwhole, h]

/-! ## Lossy text -/

@[simp] theorem decodeLossy_ofText (s : String) : decodeLossy (Bytes.ofText s) = s := by
  have hscan := scan_ofText s []
  rw [List.append_nil, scan, List.append_nil] at hscan
  rw [decodeLossy, hscan, List.map_map]
  show String.ofList (s.toList.map id) = s
  rw [List.map_id, String.ofList_toList]

theorem scan_some_ne_nil (p : Pending) (bs : Bytes) : scan (some p) bs ≠ [] := by
  induction bs generalizing p with
  | nil => exact List.cons_ne_nil _ _
  | cons b bs ih =>
    rw [scan]
    split
    · simp only
      split
      · exact List.cons_ne_nil _ _
      · exact ih _
    · exact List.cons_ne_nil _ _

theorem scan_none_eq_nil_iff {bs : Bytes} : scan none bs = [] ↔ bs = [] := by
  cases bs with
  | nil => exact ⟨fun _ => rfl, fun _ => rfl⟩
  | cons b bs =>
    refine ⟨fun h => ?_, fun h => nomatch h⟩
    rw [scan, openAt] at h
    cases hlead : lead b with
    | begins p =>
      rw [hlead] at h
      exact absurd h (scan_some_ne_nil p bs)
    | whole c =>
      rw [hlead] at h
      exact nomatch h
    | stray =>
      rw [hlead] at h
      exact nomatch h

/-- **Bytes that are no text still leave a trace**: only the empty string is read as the empty
text. -/
theorem decodeLossy_eq_empty_iff {bs : Bytes} : decodeLossy bs = "" ↔ bs = [] := by
  rw [decodeLossy, String.ofList_eq_empty_iff, List.map_eq_nil_iff, scan_none_eq_nil_iff]

end Ingest.Utf8
