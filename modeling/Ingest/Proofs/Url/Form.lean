import Ingest.Proofs.Url.Percent
import Ingest.Url.Basic

/-!
# Pairs that are written are read back

Every byte of a field is written in one of three ways: as itself, as a plus sign, or as an escape.
Each is read as that byte again, whatever stands behind it, so a field holds any text there is
(`decode_encode`). Neither of the signs that set fields apart is written inside one, and so a pair
is read as the pair it was (`pairs_encodePair`).
-/

namespace Ingest.Url.Form

open String (utf8EncodeChar)

/-- **How a byte of a field is read**, with plus signs turned back into blanks. -/
theorem map_blankOfPlus_encodeByte (b : UInt8) :
    ((encodeByte b).flatMap utf8EncodeChar).map blankOfPlus
      = if b = 0x25 ∨ ¬ (isPlain b = true ∨ b = 0x20) then escapeBytes b else [b] := by
  have hall : ∀ n < 256, ((encodeByte (UInt8.ofNat n)).flatMap utf8EncodeChar).map blankOfPlus
      = if UInt8.ofNat n = 0x25 ∨ ¬ (isPlain (UInt8.ofNat n) = true ∨ UInt8.ofNat n = 0x20)
        then escapeBytes (UInt8.ofNat n) else [UInt8.ofNat n] := by decide +kernel
  have h := hall b.toNat b.toNat_lt
  rwa [UInt8.ofNat_toNat] at h

/-- **A byte of a field is read as itself**, whatever stands behind it. Plus signs are turned back
before escapes are read, so an escaped plus sign is not taken for a blank. -/
theorem unescape_encodeByte (b : UInt8) (bs : Bytes) :
    unescape (((encodeByte b).flatMap utf8EncodeChar).map blankOfPlus ++ bs)
      = b :: unescape bs := by
  rw [map_blankOfPlus_encodeByte]
  split
  · exact unescape_escapeBytes b bs
  · next h => exact unescape_cons_of_ne (fun hb => h (.inl hb)) bs

/-- **A field holds every text**: what was written into it is read from it. No two texts are written
in the same way, therefore. -/
@[simp] theorem decode_encode (s : String) : decode (encode s) = s := by
  have hbytes : ∀ bs : Bytes,
      unescape (((bs.flatMap encodeByte).flatMap utf8EncodeChar).map blankOfPlus) = bs := by
    intro bs
    induction bs with
    | nil => rfl
    | cons b bs ih =>
      rw [List.flatMap_cons, List.flatMap_append, List.map_append, unescape_encodeByte, ih]
  rw [decode, encode, hbytes, Utf8.decodeLossy_ofText]

/-! ## Pairs -/

/-- The signs that set fields apart are not written inside one. They are escaped there like most
other signs. -/
theorem ne_sign_of_mem_encode {s : String} {c : Char} (h : c ∈ encode s) : c ≠ '&' ∧ c ≠ '=' := by
  have hall : ∀ n < 256, '&' ∉ encodeByte (UInt8.ofNat n) ∧ '=' ∉ encodeByte (UInt8.ofNat n) := by
    decide +kernel
  obtain ⟨b, -, hc⟩ := List.mem_flatMap.1 h
  have hb := hall b.toNat b.toNat_lt
  rw [UInt8.ofNat_toNat] at hb
  exact ⟨fun h => hb.1 (h ▸ hc), fun h => hb.2 (h ▸ hc)⟩

theorem cutFields_cons (c : Char) (cs : List Char) : cutFields (c :: cs)
    = if c = '&' then [] :: cutFields cs
      else (c :: (cutFields cs).headD []) :: (cutFields cs).tail := by
  rw [cutFields]
  cases cutFields cs <;> rfl

theorem cutFields_ne_nil (cs : List Char) : cutFields cs ≠ [] := by
  cases cs with
  | nil => exact List.cons_ne_nil _ _
  | cons c cs =>
    rw [cutFields_cons]
    split <;> exact List.cons_ne_nil _ _

theorem cutFields_of_not_mem {cs : List Char} (h : '&' ∉ cs) : cutFields cs = [cs] := by
  induction cs with
  | nil => rfl
  | cons c cs ih =>
    obtain ⟨hc, hcs⟩ := not_or.1 (mt List.mem_cons.2 h)
    rw [cutFields, if_neg (Ne.symm hc), ih hcs]

/-- **A pair is read as the pair that was written.** Its name may be any text as well, as the first
equals sign is the one between name and value. -/
theorem decodePair_encodePair (name value : String) :
    decodePair (encodePair name value) = (name, value) := by
  have hname : ∀ c ∈ encode name, decide (c ≠ '=') = true :=
    fun c hc => decide_eq_true (ne_sign_of_mem_encode hc).2
  unfold decodePair encodePair
  rw [List.takeWhile_append_of_pos hname, List.dropWhile_append_of_pos hname,
    List.takeWhile_cons_of_neg (by decide), List.dropWhile_cons_of_neg (by decide),
    List.append_nil, List.drop_one, List.tail_cons, decode_encode, decode_encode]

/-- **A query that is a pair holds that pair and no other**, not even an empty one. -/
theorem pairs_encodePair (name value : String) :
    pairs (String.ofList (encodePair name value)) = [(name, value)] := by
  have hno : '&' ∉ encodePair name value := by
    intro hmem
    rcases List.mem_append.1 hmem with h | h
    · exact (ne_sign_of_mem_encode h).1 rfl
    rcases List.mem_cons.1 h with h | h
    · exact nomatch h
    · exact (ne_sign_of_mem_encode h).1 rfl
  have hne : (encodePair name value).isEmpty = false :=
    List.isEmpty_eq_false_iff.2 (List.append_ne_nil_of_right_ne_nil _ (List.cons_ne_nil _ _))
  unfold pairs
  rw [String.toList_ofList, cutFields_of_not_mem hno, List.filter_cons_of_pos (by rw [hne]; rfl),
    List.filter_nil, List.map_cons, List.map_nil, decodePair_encodePair]

/-! ## Behind other pairs -/

/-- A text is cut at an ampersand into what the two sides of it are cut into. -/
theorem cutFields_append (cs ds : List Char) :
    cutFields (cs ++ '&' :: ds) = cutFields cs ++ cutFields ds := by
  induction cs with
  | nil => rfl
  | cons c cs ih =>
    by_cases hc : c = '&'
    · rw [List.cons_append, cutFields_cons, cutFields_cons, if_pos hc, if_pos hc, ih,
        List.cons_append]
    · obtain ⟨f, fs, hcut⟩ := List.exists_cons_of_ne_nil (cutFields_ne_nil cs)
      rw [List.cons_append, cutFields_cons, cutFields_cons, if_neg hc, if_neg hc, ih, hcut]
      rfl

/-- The pairs of a query with an ampersand are those in front of it and those behind it. -/
theorem pairs_append (q p : String) : pairs (String.ofList (q.toList ++ '&' :: p.toList))
    = pairs q ++ pairs p := by
  unfold pairs
  rw [String.toList_ofList, cutFields_append, List.filter_append, List.map_append]

variable {u : Url} {name value : String}

/-- **An appended pair is the last one**, and the pairs in front of it are those there were. -/
theorem pairs_appendPair (u : Url) (name value : String) :
    (u.appendPair name value).query.map pairs
      = some ((u.query.map pairs).getD [] ++ [(name, value)]) := by
  unfold appendPair
  rw [Option.map_some]
  congr 1
  split
  · next h => rw [h, pairs_encodePair]; rfl
  · next h => rw [h, pairs_encodePair]; rfl
  · next q _ h =>
    have hpair := pairs_append q (String.ofList (encodePair name value))
    rw [String.toList_ofList] at hpair
    rw [h, hpair, pairs_encodePair]
    rfl

/-- A query with an appended pair ends with the value behind a sign. What stands in front of the
sign depends on the query there was. -/
theorem query_appendPair (u : Url) (name value : String) :
    ∃ cs, (u.appendPair name value).query = some (String.ofList (cs ++ '=' :: encode value)) := by
  unfold appendPair
  split
  · exact ⟨encode name, rfl⟩
  · exact ⟨encode name, rfl⟩
  · next q _ _ =>
    refine ⟨q.toList ++ '&' :: encode name, ?_⟩
    rw [List.append_assoc]
    rfl

end Ingest.Url.Form
