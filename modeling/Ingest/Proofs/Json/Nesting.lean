import Ingest.Proofs.Json.Extent

/-!
# How deep a document nests

The reader counts the arrays and objects that it is inside of, and gives up where there are too
many. How many there are can be told from the text alone: it is the largest number of brackets and
braces that are open at one place, those in strings left out (`nesting`). A document that is read at
all is read with any limit that its text keeps (`value_of_deepest`), because the reader opens a
level where the text does, and what it leaves behind an item or a string is counted as if it had
been counted from there on.
-/

namespace Ingest.Json

/-- Where a count of brackets stands. -/
inductive Mode where
  | plain
  | string
  | escape

/-- **How many brackets are open at once**, counted from a level on. -/
def deepest : Mode → Nat → List Char → Nat
  | _, n, [] => n
  | .plain, n, c :: cs =>
    if c = '"' then deepest .string n cs
    else if c = '[' ∨ c = '\x7b' then deepest .plain (n + 1) cs
    else if c = ']' ∨ c = '\x7d' then max n (deepest .plain (n - 1) cs)
    else deepest .plain n cs
  | .string, n, c :: cs =>
    if c = '"' then deepest .plain n cs
    else if c = '\\' then deepest .escape n cs
    else deepest .string n cs
  | .escape, n, _ :: cs => deepest .string n cs

/-- **How deep a text nests**: the most brackets and braces that are open at one place. The text
need not be a document, and brackets in strings do not count. -/
def nesting (s : String) : Nat := deepest .plain 0 s.toList

variable {cs rest : List Char} {c : Char} {n : Nat}

theorem le_deepest (m : Mode) (n : Nat) (cs : List Char) : n ≤ deepest m n cs := by
  induction cs generalizing m n with
  | nil => cases m <;> exact Nat.le_refl n
  | cons c cs ih =>
    cases m with
    | plain =>
      rw [deepest]
      split
      · exact ih ..
      split
      · exact Nat.le_of_succ_le (ih ..)
      split
      · exact Nat.le_max_left ..
      · exact ih ..
    | string =>
      rw [deepest]
      split
      · exact ih ..
      split <;> exact ih ..
    | escape => exact ih ..

/-! ## What does not count -/

/-- The characters that count, or begin and end what does not: brackets, braces and the quote. -/
def marks : List Char := ['"', '[', '\x7b', ']', '\x7d']

theorem not_mem_marks_of_isSpace (h : isSpace c = true) : c ∉ marks := by
  have hall : marks.all (!isSpace ·) := by decide
  intro hc
  have hnone := List.all_eq_true.1 hall c hc
  rw [h] at hnone
  cases hnone

theorem not_mem_marks_of_decimal? {d : Nat} (h : Digit.decimal? c = some d) : c ∉ marks := by
  have hall : marks.all (Digit.decimal? · = none) := by decide
  intro hc
  have hnone := of_decide_eq_true (List.all_eq_true.1 hall c hc)
  rw [h] at hnone
  cases hnone

theorem deepest_cons_of_not_mem (h : c ∉ marks) :
    deepest .plain n (c :: cs) = deepest .plain n cs := by
  simp only [marks, List.mem_cons, List.not_mem_nil, or_false, not_or] at h
  obtain ⟨hquote, hbracket, hbrace, hbracket', hbrace'⟩ := h
  rw [deepest, if_neg hquote, if_neg (not_or.2 ⟨hbracket, hbrace⟩),
    if_neg (not_or.2 ⟨hbracket', hbrace'⟩)]

/-- Blanks open nothing and close nothing. Neither does anything else that stands outside of strings
and is no bracket. -/
theorem deepest_skip (n : Nat) (cs : List Char) :
    deepest .plain n (skip cs) = deepest .plain n cs := by
  unfold skip
  induction cs with
  | nil => rfl
  | cons c cs ih =>
    rw [List.dropWhile_cons]
    split
    · next hspace =>
      rw [ih, deepest_cons_of_not_mem (not_mem_marks_of_isSpace hspace)]
    · rfl

theorem deepest_word {w : List Char} (hw : w.all (· ∉ marks) = true) (h : word w cs = some rest) :
    deepest .plain n rest = deepest .plain n cs := by
  induction w generalizing cs with
  | nil => rw [Option.some.inj h]
  | cons c w ih =>
    cases cs with
    | nil => cases h
    | cons c' cs =>
      rw [word] at h
      split at h
      · next hc =>
        rw [List.all_cons, Bool.and_eq_true] at hw
        rw [← hc, deepest_cons_of_not_mem (of_decide_eq_true hw.1), ih hw.2 h]
      · cases h

/-! ## Strings -/

theorem deepest_string_cons (hquote : c ≠ '"') (hescape : c ≠ '\\') :
    deepest .string n (c :: cs) = deepest .string n cs := by
  rw [deepest, if_neg hquote, if_neg hescape]

theorem deepest_hex4 {a b c d : Char} {k : Nat} (h : hex4 a b c d = some k) (cs : List Char) :
    deepest .string n (a :: b :: c :: d :: cs) = deepest .string n cs := by
  have hplain := ne_of_hex4 h
  simp only [List.forall_mem_cons] at hplain
  obtain ⟨ha, hb, hc, hd, -⟩ := hplain
  rw [deepest_string_cons ha.1 ha.2, deepest_string_cons hb.1 hb.2, deepest_string_cons hc.1 hc.2,
    deepest_string_cons hd.1 hd.2]

/-- **A string counts nothing**, and the count goes on behind it. A bracket in a string opens
nothing, and neither does one that is written as an escape. -/
theorem deepest_stringTail {s : List Char} (h : stringTail cs = some (s, rest)) :
    deepest .plain n rest = deepest .string n cs := by
  fun_induction stringTail cs generalizing s with
  | case1 => cases h
  | case2 cs =>
    obtain ⟨-, rfl⟩ := Prod.mk.inj (Option.some.inj h)
    rfl
  | case3 => cases h
  | case4 => cases h
  | case5 a b c d k hhex hlow hhigh e f g h' cs m hhex' hlow' ih =>
    obtain ⟨s', hs', rfl⟩ := pushFront_eq_some.1 h
    show _ = deepest .string n (a :: b :: c :: d :: '\\' :: 'u' :: e :: f :: g :: h' :: cs)
    rw [deepest_hex4 hhex]
    show _ = deepest .string n (e :: f :: g :: h' :: cs)
    rw [deepest_hex4 hhex', ih hs']
  | case6 => cases h
  | case7 => cases h
  | case8 => cases h
  | case9 a b c d cs k hhex hlow hhigh ih =>
    obtain ⟨s', hs', rfl⟩ := pushFront_eq_some.1 h
    show _ = deepest .string n (a :: b :: c :: d :: cs)
    rw [deepest_hex4 hhex, ih hs']
  | case10 c cs hplain e he ih =>
    obtain ⟨s', hs', rfl⟩ := pushFront_eq_some.1 h
    exact ih hs'
  | case11 => cases h
  | case12 => cases h
  | case13 c cs hquote _ _ hplain ih =>
    obtain ⟨s', hs', rfl⟩ := pushFront_eq_some.1 h
    rw [deepest_string_cons hquote fun hc => hplain (.inl hc), ih hs']

/-! ## Numbers -/

namespace Numeral

/-- Numbers count nothing either. They are cut off in several parts, and this is said of each of
them until `deepest_unsigned` has the whole. -/
theorem deepest_digits (n : Nat) (cs : List Char) :
    deepest .plain n (digits cs).2 = deepest .plain n cs := by
  induction cs with
  | nil => rfl
  | cons c cs ih =>
    rw [digits]
    cases hc : Digit.decimal? c with
    | none => rfl
    | some d =>
      rw [deepest_cons_of_not_mem (not_mem_marks_of_decimal? hc)]
      exact ih

theorem deepest_digits1 {ds : List Nat} (h : digits1 cs = some (ds, rest)) :
    deepest .plain n rest = deepest .plain n cs := by
  rw [← deepest_digits n cs]
  unfold digits1 at h
  split at h
  · cases h
  · rw [Option.some.inj h]

theorem deepest_wholePart {ds : List Nat} (h : wholePart cs = some (ds, rest)) :
    deepest .plain n rest = deepest .plain n cs := by
  unfold wholePart at h
  split at h
  · cases h
  · exact deepest_digits1 h

theorem deepest_fractionPart {f : Option (List Nat)} (h : fractionPart cs = some (f, rest)) :
    deepest .plain n rest = deepest .plain n cs := by
  unfold fractionPart at h
  split at h
  · obtain ⟨⟨ds, rest'⟩, hds, heq⟩ := Option.map_eq_some_iff.1 h
    cases heq
    rw [deepest_digits1 hds, deepest_cons_of_not_mem (by decide)]
  · cases h
    rfl

theorem deepest_exponentSign (n : Nat) (cs : List Char) :
    deepest .plain n (exponentSign cs).2 = deepest .plain n cs := by
  unfold exponentSign
  split
  · rw [deepest_cons_of_not_mem (by decide)]
  · rw [deepest_cons_of_not_mem (by decide)]
  · rfl

theorem deepest_exponentPart {e : Option Int} (h : exponentPart cs = some (e, rest)) :
    deepest .plain n rest = deepest .plain n cs := by
  unfold exponentPart at h
  split at h
  · next c cs =>
    split at h
    · next hc =>
      obtain ⟨⟨ds, rest'⟩, hds, heq⟩ := Option.map_eq_some_iff.1 h
      cases heq
      have hplain : c ∉ marks := by
        rcases hc with rfl | rfl <;> decide
      rw [deepest_digits1 hds, deepest_exponentSign, deepest_cons_of_not_mem hplain]
    · cases h
      rfl
  · cases h
    rfl

theorem deepest_unsigned {negative : Bool} {num : Numeral}
    (h : unsigned negative cs = some (num, rest)) :
    deepest .plain n rest = deepest .plain n cs := by
  simp only [unsigned, Option.bind_eq_bind, Option.bind_eq_some_iff] at h
  obtain ⟨⟨w, cs₁⟩, hw, ⟨f, cs₂⟩, hf, ⟨e, cs₃⟩, he, hn⟩ := h
  cases hn
  rw [deepest_exponentPart he, deepest_fractionPart hf, deepest_wholePart hw]

theorem deepest_cut {num : Numeral} (h : cut cs = some (num, rest)) :
    deepest .plain n rest = deepest .plain n cs := by
  cases cs with
  | nil => cases h
  | cons c cs =>
    by_cases hminus : c = '-'
    · subst hminus
      rw [deepest_unsigned (show unsigned true cs = some (num, rest) from h),
        deepest_cons_of_not_mem (by decide)]
    · exact deepest_unsigned (cut_of_ne hminus ▸ h)

end Numeral

/-! ## Values, items and members -/

/-- **A reader that counts as its text does.** Inside of so many brackets, what it leaves nests no
deeper than what it was given, and it reads the same with every depth that its text keeps. -/
def Counts {α : Type} (inside : Nat) (read : Nat → Nat → List Char → Option (α × List Char))
    (fuel : Nat) : Prop :=
  ∀ ⦃depth cs a rest⦄, read fuel depth cs = some (a, rest) → ∀ n,
    deepest .plain n rest ≤ deepest .plain (n + inside) cs ∧
      ∀ d, deepest .plain (n + inside) cs ≤ n + inside + d → read fuel d cs = some (a, rest)

variable {fuel : Nat}

/-- Blanks in front count nothing. So it does not matter to the count where a reader skips them. -/
theorem deepest_of_skip (h : skip cs = c :: rest) :
    deepest .plain n cs = deepest .plain n (c :: rest) := by
  rw [← h, deepest_skip]

/-- Behind a bracket one more is open, and a reader is inside of one more there as well. -/
theorem deepest_open (hc : c = '[' ∨ c = '\x7b') (n : Nat) (cs : List Char) :
    deepest .plain n (c :: cs) = deepest .plain (n + 1) (skip cs) := by
  rw [deepest_skip]
  rcases hc with rfl | rfl <;> rfl

/-- Behind a bracket that closes, one less is open. The level inside was reached, though, so it
stays in the maximum. -/
theorem deepest_close (hc : c = ']' ∨ c = '\x7d') (n : Nat) (cs : List Char) :
    deepest .plain (n + 1) (c :: cs) = max (n + 1) (deepest .plain n cs) := by
  rcases hc with rfl | rfl <;> rfl

/-- A limit that a text with a bracket keeps is no zero. This is what a reader asks before it goes
inside a bracket. -/
theorem pos_of_open {d : Nat} (h : deepest .plain (n + 1) cs ≤ n + d) : 0 < d := by
  have hone := le_deepest .plain (n + 1) cs
  omega

/-- One step of the induction, for values. A bracket that is passed adds one to what is open, and
takes one from the depth that the inner reader is given. -/
theorem counts_value (helements : Counts 1 elements fuel) (hmembers : Counts 1 members fuel) :
    Counts 0 value (fuel + 1) := by
  intro depth cs v rest h n
  rw [Nat.add_zero]
  cases value_iff.1 h with
  | string h => exact ⟨Nat.le_of_eq (deepest_stringTail h), fun d _ => value_iff.2 (.string h)⟩
  | noItems _ h =>
    rw [deepest_open (.inl rfl)]
    refine ⟨?_, fun d hd => value_iff.2 (.noItems (pos_of_open hd) h)⟩
    rw [h, deepest_close (.inl rfl)]
    exact Nat.le_max_right ..
  | items _ h =>
    rw [deepest_open (.inl rfl)]
    obtain ⟨hrest, hread⟩ := helements h n
    refine ⟨hrest, fun d hd => ?_⟩
    have hpos := pos_of_open hd
    exact value_iff.2 (.items hpos (hread (d - 1) (by omega)))
  | noMembers _ h =>
    rw [deepest_open (.inr rfl)]
    refine ⟨?_, fun d hd => value_iff.2 (.noMembers (pos_of_open hd) h)⟩
    rw [h, deepest_close (.inr rfl)]
    exact Nat.le_max_right ..
  | members _ h =>
    rw [deepest_open (.inr rfl)]
    obtain ⟨hrest, hread⟩ := hmembers h n
    refine ⟨hrest, fun d hd => ?_⟩
    have hpos := pos_of_open hd
    exact value_iff.2 (.members hpos (hread (d - 1) (by omega)))
  | word hw h =>
    have hall : ∀ e ∈ wordValues, e.1.all (· ∉ marks) = true := by decide
    rw [deepest_word (hall _ hw) h]
    exact ⟨Nat.le_refl _, fun d _ => value_iff.2 (.word hw h)⟩
  | number h hv =>
    exact ⟨Nat.le_of_eq (Numeral.deepest_cut h), fun d _ => value_iff.2 (.number h hv)⟩

/-- The step for items, which are read inside of a bracket. The closing one takes the count back to
where the array began. -/
theorem counts_elements (hvalue : Counts 0 value fuel) (helements : Counts 1 elements fuel) :
    Counts 1 elements (fuel + 1) := by
  intro depth cs vs rest h n
  obtain ⟨v, cs₁, hv, hbehind⟩ := elements_iff.1 h
  obtain ⟨hle, hread⟩ := hvalue hv (n + 1)
  rcases hbehind with ⟨hskip, rfl⟩ | ⟨cs₂, vs', hskip, hvs, rfl⟩
  · refine ⟨Nat.le_trans ?_ hle, fun d hd =>
      elements_iff.2 ⟨v, cs₁, hread d hd, .inl ⟨hskip, rfl⟩⟩⟩
    rw [deepest_of_skip hskip, deepest_close (.inl rfl)]
    exact Nat.le_max_right ..
  · have hcount : deepest .plain (n + 1) cs₁ = deepest .plain (n + 1) (skip cs₂) := by
      rw [deepest_of_skip hskip, deepest_cons_of_not_mem (by decide), deepest_skip]
    rw [Nat.add_zero, hcount] at hle
    obtain ⟨hrest, hreads⟩ := helements hvs n
    exact ⟨Nat.le_trans hrest hle, fun d hd => elements_iff.2
      ⟨v, cs₁, hread d hd, .inr ⟨cs₂, vs', hskip, hreads d (Nat.le_trans hle hd), rfl⟩⟩⟩

theorem counts_members (hvalue : Counts 0 value fuel) (hmembers : Counts 1 members fuel) :
    Counts 1 members (fuel + 1) := by
  intro depth cs ms rest h n
  obtain ⟨cs₀, k, cs₁, cs₂, v, cs₃, rfl, hk, hcolon, hv, hbehind⟩ := members_iff.1 h
  obtain ⟨hle, hread⟩ := hvalue hv (n + 1)
  -- the key and the colon count nothing
  have hkey : deepest .plain (n + 1) ('"' :: cs₀) = deepest .plain (n + 1) (skip cs₂) := by
    show deepest .string (n + 1) cs₀ = _
    rw [← deepest_stringTail hk, deepest_of_skip hcolon, deepest_cons_of_not_mem (by decide),
      deepest_skip]
  rw [Nat.add_zero, ← hkey] at hle hread
  rcases hbehind with ⟨hskip, rfl⟩ | ⟨cs₄, ms', hskip, hms, rfl⟩
  · refine ⟨Nat.le_trans ?_ hle, fun d hd => members_iff.2
      ⟨cs₀, k, cs₁, cs₂, v, cs₃, rfl, hk, hcolon, hread d hd, .inl ⟨hskip, rfl⟩⟩⟩
    rw [deepest_of_skip hskip, deepest_close (.inr rfl)]
    exact Nat.le_max_right ..
  · have hcount : deepest .plain (n + 1) cs₃ = deepest .plain (n + 1) (skip cs₄) := by
      rw [deepest_of_skip hskip, deepest_cons_of_not_mem (by decide), deepest_skip]
    rw [hcount] at hle
    obtain ⟨hrest, hreads⟩ := hmembers hms n
    exact ⟨Nat.le_trans hrest hle, fun d hd => members_iff.2
      ⟨cs₀, k, cs₁, cs₂, v, cs₃, rfl, hk, hcolon, hread d hd,
        .inr ⟨cs₄, ms', hskip, hreads d (Nat.le_trans hle hd), rfl⟩⟩⟩

/-- **All three readers count as their texts do**, for every fuel. Values begin outside of a bracket
and the other two inside of one. -/
theorem counts_all (fuel : Nat) :
    Counts 0 value fuel ∧ Counts 1 elements fuel ∧ Counts 1 members fuel := by
  induction fuel with
  | zero =>
    refine ⟨fun _ _ _ _ h => ?_, fun _ _ _ _ h => ?_, fun _ _ _ _ h => ?_⟩
    · cases h
    · cases h
    · cases h
  | succ fuel ih =>
    obtain ⟨hvalue, helements, hmembers⟩ := ih
    exact ⟨counts_value helements hmembers, counts_elements hvalue helements,
      counts_members hvalue hmembers⟩

/-- **A value is read with every limit that its text keeps.** It was read with some limit, which may
be a greater one; what it is read as does not change. -/
theorem value_of_deepest {depth d : Nat} {v : Json} (h : value fuel depth cs = some (v, rest))
    (hd : deepest .plain 0 cs ≤ d) : value fuel d cs = some (v, rest) :=
  ((counts_all fuel).1 h 0).2 d (by simpa using hd)

end Ingest.Json
