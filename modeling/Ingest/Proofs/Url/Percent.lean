import Ingest.Proofs.Url.Domain
import Mathlib.Data.List.Basic

/-!
# What is escaped is read back

An escape is three characters of ASCII that stand for one byte. Behind the escapes of a text its
bytes are found again if the text holds no escapes of its own (`unescape_eq_self_iff`); if it does,
they are taken for what they stand for, and something is lost (`length_unescape`).

Escaping a text for a part of an address changes nothing of this (`unescape_escape`): a percent sign
is not escaped, nor is a digit, so the escapes of the text stay what they were, and no new ones
arise.
-/

namespace Ingest.Url

open String (utf8EncodeChar)

/-! ## A byte at a time -/

/-- A digit as a byte. -/
def digitByte (n : Nat) : UInt8 := UInt8.ofNat (Digit.upper n).toNat

/-- **The bytes of an escape**: the sign and two digits, each of one byte. -/
def escapeBytes (b : UInt8) : Bytes :=
  [0x25, digitByte (b.toNat / 16), digitByte (b.toNat % 16)]

theorem digits_lt (b : UInt8) : b.toNat / 16 < 16 ∧ b.toNat % 16 < 16 :=
  ⟨Nat.div_lt_of_lt_mul b.toNat_lt, Nat.mod_lt _ (by decide)⟩

theorem flatMap_escapeByte (b : UInt8) :
    (escapeByte b).flatMap utf8EncodeChar = escapeBytes b := by
  have hsign : utf8EncodeChar '%' = [0x25] := Utf8.utf8EncodeChar_of_lt (by decide)
  have hascii : ∀ n : Fin 16, (Digit.upper n).toNat < 0x80 := by decide
  obtain ⟨hhigh, hlow⟩ := digits_lt b
  unfold escapeByte
  rw [List.flatMap_cons, List.flatMap_cons, List.flatMap_cons, List.flatMap_nil, hsign,
    Utf8.utf8EncodeChar_of_lt (hascii ⟨_, hhigh⟩), Utf8.utf8EncodeChar_of_lt (hascii ⟨_, hlow⟩)]
  rfl

/-- Two digits are read as the byte they were written for. -/
theorem hexPair?_digitByte (b : UInt8) :
    hexPair? (digitByte (b.toNat / 16)) (digitByte (b.toNat % 16)) = some b := by
  have hread : ∀ n : Fin 16, Digit.hex? (Char.ofNat (digitByte n).toNat) = some n.val := by
    decide +kernel
  obtain ⟨hhigh, hlow⟩ := digits_lt b
  have h₁ := hread ⟨_, hhigh⟩
  have h₂ := hread ⟨_, hlow⟩
  dsimp only at h₁ h₂
  unfold hexPair?
  rw [h₁, h₂]
  show some (UInt8.ofNat (b.toNat / 16 * 16 + b.toNat % 16)) = some b
  rw [Nat.mul_comm, Nat.div_add_mod, UInt8.ofNat_toNat]

/-- **An escape is read as its byte**, and the reader goes on behind it. -/
theorem unescape_escapeBytes (b : UInt8) (bs : Bytes) :
    unescape (escapeBytes b ++ bs) = b :: unescape bs := by
  show unescape (0x25 :: _ :: _ :: bs) = _
  rw [unescape, hexPair?_digitByte]

theorem unescape_cons_of_ne {b : UInt8} (h : b ≠ 0x25) (bs : Bytes) :
    unescape (b :: bs) = b :: unescape bs := by
  rw [unescape]
  exact fun _ _ _ hb _ => h hb

/-- A percent sign without two digits behind it stands for itself: at the end of a text, where there
are less than two characters, and in front of any other two. -/
theorem unescape_percent {bs : Bytes} (h : ∀ a b t, bs = a :: b :: t → hexPair? a b = none) :
    unescape (0x25 :: bs) = 0x25 :: unescape bs := by
  match bs, h with
  | [], h => rfl
  | [a], h => rfl
  | a :: b :: t, h => rw [unescape, h a b t rfl]

/-! ## Escapes in a text -/

/-- **Whether there is an escape in some bytes**: a percent sign with two digits behind it. A
percent sign without them is a sign like any other. -/
def hasEscape : Bytes → Bool
  | [] => false
  | 0x25 :: a :: b :: rest => (hexPair? a b).isSome || hasEscape (a :: b :: rest)
  | _ :: rest => hasEscape rest

/-- **Behind escapes there are not more bytes than in front of them**, and as many only if there
are none. -/
theorem length_unescape (bs : Bytes) :
    (unescape bs).length ≤ bs.length ∧
      (hasEscape bs = true → (unescape bs).length < bs.length) := by
  fun_induction unescape bs with
  | case1 => exact ⟨Nat.le_refl 0, fun h => absurd h Bool.false_ne_true⟩
  | case2 a b rest x hx ih =>
    have hlen : (x :: unescape rest).length < (0x25 :: a :: b :: rest).length := by
      simp only [List.length_cons]
      omega
    exact ⟨Nat.le_of_lt hlen, fun _ => hlen⟩
  | case3 a b rest hx ih =>
    refine ⟨Nat.succ_le_succ ih.1, fun h => Nat.succ_lt_succ (ih.2 ?_)⟩
    rwa [hasEscape, hx, Option.isSome_none, Bool.false_or] at h
  | case4 x rest hne ih =>
    refine ⟨Nat.succ_le_succ ih.1, fun h => Nat.succ_lt_succ (ih.2 ?_)⟩
    rwa [hasEscape] at h
    exact hne

/-- **Bytes stand for themselves exactly if there is no escape in them.** An escape makes them
fewer, so it cannot happen that they come out the same by chance. -/
theorem unescape_eq_self_iff {bs : Bytes} : unescape bs = bs ↔ hasEscape bs = false := by
  constructor
  · intro h
    refine Bool.eq_false_iff.2 fun hesc => ?_
    have hlt := (length_unescape bs).2 hesc
    rw [h] at hlt
    exact Nat.lt_irrefl _ hlt
  · intro h
    fun_induction unescape bs with
    | case1 => rfl
    | case2 a b rest x hx ih =>
      rw [hasEscape, hx, Option.isSome_some, Bool.true_or] at h
      exact absurd h.symm Bool.false_ne_true
    | case3 a b rest hx ih =>
      rw [hasEscape, hx, Option.isSome_none, Bool.false_or] at h
      rw [ih h]
    | case4 x rest hne ih =>
      rw [hasEscape] at h
      · rw [ih h]
      · exact hne

/-! ## Escaping a text -/

/-- A byte of a part of an address. -/
def escapedByte (set : EscapeSet) (b : UInt8) : Bytes :=
  if set (Char.ofNat b.toNat) then escapeBytes b else [b]

/-- What is escaped everywhere: everything beyond ASCII. What is escaped nowhere: the signs that
escapes are made of. -/
structure EscapeSet.Proper (set : EscapeSet) : Prop where
  beyond : ∀ c : Char, 0x80 ≤ c.toNat → set c = true
  sign : set '%' = false
  digit : ∀ c, (Digit.hex? c).isSome = true → set c = false

variable {set : EscapeSet} {b : UInt8}

theorem escapedByte_of_mem (h : set (Char.ofNat b.toNat) = true) :
    escapedByte set b = escapeBytes b := by
  rw [escapedByte, if_pos h]

theorem escapedByte_of_not_mem (h : set (Char.ofNat b.toNat) = false) :
    escapedByte set b = [b] := by
  rw [escapedByte, if_neg (Bool.eq_false_iff.1 h)]

theorem le_toNat_ofNat (h : 0x80 ≤ b.toNat) : 0x80 ≤ (Char.ofNat b.toNat).toNat := by
  have hsmall : b.toNat < 0x100 := b.toNat_lt
  have hvalid : b.toNat.isValidChar := .inl (by omega)
  rw [Char.ofNat, dif_pos hvalid]
  exact h

theorem flatMap_escapeChar (hset : set.Proper) (c : Char) :
    (escapeChar set c).flatMap utf8EncodeChar = (utf8EncodeChar c).flatMap (escapedByte set) := by
  have hescape : ∀ bs : Bytes, (bs.flatMap escapeByte).flatMap utf8EncodeChar
      = bs.flatMap escapeBytes := by
    intro bs
    rw [List.flatMap_assoc]
    exact List.flatMap_congr fun b _ => flatMap_escapeByte b
  unfold escapeChar
  by_cases hc : c.toNat < 0x80
  · have hb : Char.ofNat (UInt8.ofNat c.toNat).toNat = c := by
      rw [UInt8.toNat_ofNat', Nat.mod_eq_of_lt (by omega), Char.ofNat_toNat]
    have hone := Utf8.utf8EncodeChar_of_lt hc
    cases hmem : set c with
    | true =>
      rw [← hb] at hmem
      rw [if_pos rfl, hescape, hone, List.flatMap_singleton, List.flatMap_singleton,
        escapedByte_of_mem hmem]
    | false =>
      rw [← hb] at hmem
      rw [if_neg Bool.false_ne_true, List.flatMap_singleton, hone, List.flatMap_singleton,
        escapedByte_of_not_mem hmem]
  · rw [if_pos (hset.beyond c (by omega)), hescape]
    refine List.flatMap_congr fun b hb => (escapedByte_of_mem (hset.beyond _ ?_)).symm
    exact le_toNat_ofNat (Utf8.le_of_mem_utf8EncodeChar (by omega) hb)

/-- An escaped text in bytes. What is done to characters in the definition is done to single bytes
here, and there escapes are told from the rest one byte at a time. -/
theorem ofText_escape (hset : set.Proper) (cs : List Char) :
    Bytes.ofText (escape set cs) = (cs.flatMap utf8EncodeChar).flatMap (escapedByte set) := by
  unfold escape Bytes.ofText
  rw [String.toList_ofList, List.flatMap_assoc, List.flatMap_assoc]
  exact List.flatMap_congr fun c _ => flatMap_escapeChar hset c

theorem exists_cons_of_flatMap {a : UInt8} {bs t : Bytes}
    (h : bs.flatMap (escapedByte set) = a :: t) (ha : a ≠ 0x25) :
    ∃ rest, bs = a :: rest ∧ rest.flatMap (escapedByte set) = t := by
  cases bs with
  | nil => exact nomatch h
  | cons b rest =>
    rw [List.flatMap_cons] at h
    cases hb : set (Char.ofNat b.toNat) with
    | true =>
      rw [escapedByte_of_mem hb] at h
      exact absurd (List.cons.inj h).1.symm ha
    | false =>
      rw [escapedByte_of_not_mem hb] at h
      obtain ⟨rfl, ht⟩ := List.cons.inj h
      exact ⟨rest, rfl, ht⟩

/-- Two digits in front of escaped bytes are in front of those that were not escaped. -/
theorem hexPair?_eq_none_of_flatMap {bs : Bytes}
    (h : ∀ a b t, bs = a :: b :: t → hexPair? a b = none) (a b : UInt8) (t : Bytes)
    (hbs : bs.flatMap (escapedByte set) = a :: b :: t) : hexPair? a b = none := by
  cases hpair : hexPair? a b with
  | none => rfl
  | some x =>
    obtain ⟨ha, hb⟩ := isSome_hex?_of_hexPair? hpair
    have hsign : ∀ c : UInt8, (Digit.hex? (Char.ofNat c.toNat)).isSome = true → c ≠ 0x25 := by
      rintro c hc rfl
      exact nomatch hc
    obtain ⟨rest, rfl, hrest⟩ := exists_cons_of_flatMap hbs (hsign a ha)
    obtain ⟨rest', rfl, -⟩ := exists_cons_of_flatMap hrest (hsign b hb)
    rw [← hpair, h a b rest' rfl]

/-- **Escaping does not add to the escapes of some bytes**, and takes none away. That is weaker than
that nothing is lost: an escape that was there before is read in the end. -/
theorem unescape_flatMap_escapedByte (hset : set.Proper) (bs : Bytes) :
    unescape (bs.flatMap (escapedByte set)) = unescape bs := by
  have hsign : escapedByte set 0x25 = [0x25] := escapedByte_of_not_mem hset.sign
  fun_induction unescape bs with
  | case1 => rfl
  | case2 a b rest x hx ih =>
    obtain ⟨ha, hb⟩ := isSome_hex?_of_hexPair? hx
    rw [List.flatMap_cons, List.flatMap_cons, List.flatMap_cons, hsign,
      escapedByte_of_not_mem (hset.digit _ ha), escapedByte_of_not_mem (hset.digit _ hb),
      List.singleton_append, List.singleton_append, List.singleton_append, unescape, hx]
    exact congrArg (x :: ·) ih
  | case3 a b rest hx ih =>
    rw [List.flatMap_cons, hsign, List.singleton_append, unescape_percent, ih]
    refine hexPair?_eq_none_of_flatMap fun a' b' t h => ?_
    obtain ⟨rfl, h'⟩ := List.cons.inj h
    obtain ⟨rfl, -⟩ := List.cons.inj h'
    exact hx
  | case4 x rest hne ih =>
    rw [List.flatMap_cons]
    by_cases hx : x = 0x25
    · rw [hx, hsign, List.singleton_append, unescape_percent, ih]
      exact hexPair?_eq_none_of_flatMap fun a b t h => (hne a b t hx h).elim
    · rw [← ih]
      cases hmem : set (Char.ofNat x.toNat) with
      | true =>
        rw [escapedByte_of_mem hmem]
        exact unescape_escapeBytes x _
      | false =>
        rw [escapedByte_of_not_mem hmem]
        exact unescape_cons_of_ne hx _

/-- **A text that was escaped means what it meant**, and if it held no escapes, that is the text
itself. -/
theorem unescape_escape (hset : set.Proper) (cs : List Char) :
    unescape (Bytes.ofText (escape set cs)) = unescape (cs.flatMap utf8EncodeChar) := by
  rw [ofText_escape hset, unescape_flatMap_escapedByte hset]

theorem EscapeSet.proper_path : EscapeSet.path.Proper := by
  refine ⟨fun c hc => ?_, by decide, fun c hc => ?_⟩
  · have hcontrol : controls c = true :=
      Bool.or_eq_true_iff.2 (.inr (decide_eq_true (by omega)))
    rw [path, fragment, hcontrol, Bool.true_or, Bool.true_or]
  · have hdigits : ∀ n < 0x67, (Digit.hex? (Char.ofNat n)).isSome = true →
        path (Char.ofNat n) = false := by decide +kernel
    have hsmall : c.toNat < 0x67 := by
      have hle : ∀ d e : Char, c ≤ d → d.toNat < e.toNat → c.toNat < e.toNat :=
        fun d e hcd hde => Nat.lt_of_le_of_lt (UInt32.le_iff_toNat_le.1 hcd) hde
      unfold Digit.hex? at hc
      split at hc
      · next h => exact hle '9' 'g' h.2 (by decide)
      split at hc
      · next h => exact hle 'f' 'g' h.2 (by decide)
      split at hc
      · next h => exact hle 'F' 'g' h.2 (by decide)
      · exact nomatch hc
    rw [← Char.ofNat_toNat c] at hc ⊢
    exact hdigits _ hsmall hc

end Ingest.Url
