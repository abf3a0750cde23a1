import Ingest.Json.Parser
import Ingest.Proofs.Json.Extent
import Mathlib.Data.List.TakeWhile

/-!
# The parts of JSON texts

Blanks, strings and numbers, said without a reader. `IsString` and `IsNumber` are texts by the
grammar. It asks for less than a reader of values: an escape of half a surrogate pair is one, and a
number may be of any size. What a string holds is another matter, and `Spells` says it for those
that hold something.

The readers are exact. A string is passed over, or read as what it says, up to its closing quote
(`skimString_iff`, `stringTail_iff`). A number has no sign of its end: what is cut off is a number
(`Numeral.isNumber_of_cut`), and it is all of it where nothing goes on with it
(`Numeral.exists_cut`).
-/

namespace Ingest.Json

variable {cs rest t w : List Char} {c : Char}

/-! ## Blanks -/

/-- A text of blanks only. -/
def Blank (w : List Char) : Prop := ∀ c ∈ w, isSpace c = true

theorem eq_of_isSpace (h : isSpace c = true) : c = ' ' ∨ c = '\t' ∨ c = '\n' ∨ c = '\r' := by
  simpa only [isSpace, Bool.or_eq_true, decide_eq_true_eq, or_assoc] using h

theorem skip_blank (hw : Blank w) (cs : List Char) : skip (w ++ cs) = skip cs := by
  unfold skip
  rw [List.dropWhile_append_of_pos hw]

theorem skip_cons (hc : isSpace c = false) (cs : List Char) : skip (c :: cs) = c :: cs := by
  unfold skip
  rw [List.dropWhile_cons_of_neg (Bool.eq_false_iff.1 hc)]

/-- Blanks are dropped in front of what is left, and they are the whole difference between the two
texts. -/
theorem exists_skip (h : skip cs = rest) : ∃ w, Blank w ∧ cs = w ++ rest := by
  refine ⟨cs.takeWhile isSpace, fun _ => List.mem_takeWhile_imp, ?_⟩
  rw [← h]
  exact List.takeWhile_append_dropWhile.symm

/-- **Blanks are all that is skipped**: what is left begins with the first character that is none,
and the text in front of it is known to be blanks. -/
theorem skip_eq_cons_iff (hc : isSpace c = false) :
    skip cs = c :: rest ↔ ∃ w, Blank w ∧ cs = w ++ c :: rest := by
  refine ⟨exists_skip, ?_⟩
  rintro ⟨w, hw, rfl⟩
  rw [skip_blank hw, skip_cons hc]

theorem skip_eq_nil_iff : skip cs = [] ↔ Blank cs :=
  List.dropWhile_eq_nil_iff

/-! ## Strings -/

/-- **The text of a string** without its quotes, by the grammar. -/
inductive IsString : List Char → Prop where
  | nil : IsString []
  | plain {c : Char} {t : List Char} (hquote : c ≠ '"') (hplain : ¬ (c = '\\' ∨ c.toNat < 0x20))
      (rest : IsString t) : IsString (c :: t)
  | letter {c e : Char} {t : List Char} (h : escaped? c = some e) (rest : IsString t) :
      IsString ('\\' :: c :: t)
  | code {a b c d : Char} {n : Nat} {t : List Char} (h : hex4 a b c d = some n)
      (rest : IsString t) : IsString ('\\' :: 'u' :: a :: b :: c :: d :: t)

/-- **What the text of a string says.** A code that is half a surrogate pair says nothing alone, so
not every text of a string says something. -/
inductive Spells : List Char → List Char → Prop where
  | nil : Spells [] []
  | plain {c : Char} {t s : List Char} (hquote : c ≠ '"')
      (hplain : ¬ (c = '\\' ∨ c.toNat < 0x20)) (rest : Spells t s) : Spells (c :: t) (c :: s)
  | letter {c e : Char} {t s : List Char} (h : escaped? c = some e) (rest : Spells t s) :
      Spells ('\\' :: c :: t) (e :: s)
  | code {a b c d : Char} {n : Nat} {t s : List Char} (h : hex4 a b c d = some n)
      (hlow : isLow n = false) (hhigh : isHigh n = false) (rest : Spells t s) :
      Spells ('\\' :: 'u' :: a :: b :: c :: d :: t) (Char.ofNat n :: s)
  | pair {a b c d e f g h : Char} {n m : Nat} {t s : List Char} (hn : hex4 a b c d = some n)
      (hlow : isLow n = false) (hhigh : isHigh n = true) (hm : hex4 e f g h = some m)
      (hlow' : isLow m = true) (rest : Spells t s) :
      Spells ('\\' :: 'u' :: a :: b :: c :: d :: '\\' :: 'u' :: e :: f :: g :: h :: t)
        (pairChar n m :: s)

/-- A text that says something is that of a string. The converse fails for halves of surrogate pairs
only. -/
theorem Spells.isString {s : List Char} (h : Spells t s) : IsString t := by
  induction h with
  | nil => exact .nil
  | plain hquote hplain _ ih => exact .plain hquote hplain ih
  | letter h _ ih => exact .letter h ih
  | code h _ _ _ ih => exact .code h ih
  | pair hn _ _ hm _ _ ih => exact .code hn (.code hm ih)

/-- No letter of an escape begins a code. -/
theorem ne_u_of_escaped? {e : Char} (h : escaped? c = some e) : c ≠ 'u' := by
  rintro rfl
  exact nomatch h

/-- **A string is passed over** up to its closing quote, whatever it may say. -/
theorem skimString_iff : skimString cs = some rest ↔ ∃ t, IsString t ∧ cs = t ++ '"' :: rest := by
  constructor
  · intro h
    fun_induction skimString cs with
    | case1 => exact nomatch h
    | case2 cs => exact ⟨[], .nil, by rw [Option.some.inj h, List.nil_append]⟩
    | case3 a b c d cs n hn ih =>
      obtain ⟨t, ht, rfl⟩ := ih h
      exact ⟨_, .code hn ht, rfl⟩
    | case4 => exact nomatch h
    | case5 c cs _ e he ih =>
      obtain ⟨t, ht, rfl⟩ := ih h
      exact ⟨_, .letter he ht, rfl⟩
    | case6 => exact nomatch h
    | case7 => exact nomatch h
    | case8 c cs hquote _ _ hplain ih =>
      obtain ⟨t, ht, rfl⟩ := ih h
      exact ⟨_, .plain hquote hplain ht, rfl⟩
  · rintro ⟨t, ht, rfl⟩
    induction ht with
    | nil => rfl
    | @plain c t hquote hplain _ ih =>
      rw [List.cons_append, skimString.eq_5 c _ hquote
        (fun _ _ _ _ _ hc _ => hplain (.inl hc)) (fun _ _ hc _ => hplain (.inl hc)),
        if_neg hplain, ih]
    | @letter c e t h _ ih =>
      rw [List.cons_append, List.cons_append,
        skimString.eq_4 c _ fun _ _ _ _ _ hu _ => ne_u_of_escaped? h hu, h]
      exact ih
    | code h _ ih => simp only [List.cons_append, skimString, h, ih]

/-- **A string is read** up to its closing quote, and as what it says. The reader and the grammar
take the same cases, so the induction goes along either of them. -/
theorem stringTail_iff {s : List Char} :
    stringTail cs = some (s, rest) ↔ ∃ t, Spells t s ∧ cs = t ++ '"' :: rest := by
  constructor
  · intro h
    fun_induction stringTail cs generalizing s with
    | case1 => cases h
    | case2 cs =>
      obtain ⟨rfl, rfl⟩ := Prod.mk.inj (Option.some.inj h)
      exact ⟨[], .nil, rfl⟩
    | case3 => cases h
    | case4 => cases h
    | case5 a b c d n hn hlow hhigh e f g h' cs m hm hlow' ih =>
      obtain ⟨s', hs', rfl⟩ := pushFront_eq_some.1 h
      obtain ⟨t, ht, rfl⟩ := ih hs'
      exact ⟨_, .pair hn (Bool.eq_false_iff.2 hlow) hhigh hm hlow' ht, rfl⟩
    | case6 => cases h
    | case7 => cases h
    | case8 => cases h
    | case9 a b c d cs n hn hlow hhigh ih =>
      obtain ⟨s', hs', rfl⟩ := pushFront_eq_some.1 h
      obtain ⟨t, ht, rfl⟩ := ih hs'
      exact ⟨_, .code hn (Bool.eq_false_iff.2 hlow) (Bool.eq_false_iff.2 hhigh) ht, rfl⟩
    | case10 c cs _ e he ih =>
      obtain ⟨s', hs', rfl⟩ := pushFront_eq_some.1 h
      obtain ⟨t, ht, rfl⟩ := ih hs'
      exact ⟨_, .letter he ht, rfl⟩
    | case11 => cases h
    | case12 => cases h
    | case13 c cs hquote _ _ hplain ih =>
      obtain ⟨s', hs', rfl⟩ := pushFront_eq_some.1 h
      obtain ⟨t, ht, rfl⟩ := ih hs'
      exact ⟨_, .plain hquote hplain ht, rfl⟩
  · rintro ⟨t, ht, rfl⟩
    induction ht with
    | nil => rfl
    | @plain c t s hquote hplain _ ih =>
      rw [List.cons_append, stringTail.eq_5 c _ hquote
        (fun _ _ _ _ _ hc _ => hplain (.inl hc)) (fun _ _ hc _ => hplain (.inl hc)),
        if_neg hplain]
      exact pushFront_eq_some.2 ⟨s, ih, rfl⟩
    | @letter c e t s h _ ih =>
      rw [List.cons_append, List.cons_append,
        stringTail.eq_4 c _ fun _ _ _ _ _ hu _ => ne_u_of_escaped? h hu, h]
      exact pushFront_eq_some.2 ⟨s, ih, rfl⟩
    | @code a b c d n t s h hlow hhigh _ ih =>
      simp only [List.cons_append, stringTail, h, hlow, hhigh]
      exact pushFront_eq_some.2 ⟨s, ih, rfl⟩
    | @pair a b c d e f g h n m t s hn hlow hhigh hm hlow' _ ih =>
      simp only [List.cons_append, stringTail, hn, hlow, hhigh, hm, hlow', if_true]
      exact pushFront_eq_some.2 ⟨s, ih, rfl⟩

/-! ## Numbers -/

/-- A digit. -/
def IsDigit (c : Char) : Prop := (Digit.decimal? c).isSome = true

/-- One digit or more. -/
def IsDigits (t : List Char) : Prop := t ≠ [] ∧ ∀ c ∈ t, IsDigit c

/-- The whole part of a number: a zero stands alone. -/
def IsWhole (t : List Char) : Prop := IsDigits t ∧ (t.head? = some '0' → t = ['0'])

/-- The fraction of a number, which may be absent. -/
inductive IsFraction : List Char → Prop where
  | none : IsFraction []
  | point {t : List Char} (h : IsDigits t) : IsFraction ('.' :: t)

/-- The exponent of a number, which may be absent. -/
inductive IsExponent : List Char → Prop where
  | none : IsExponent []
  | plain {c : Char} {t : List Char} (hc : c = 'e' ∨ c = 'E') (h : IsDigits t) :
      IsExponent (c :: t)
  | signed {c d : Char} {t : List Char} (hc : c = 'e' ∨ c = 'E') (hd : d = '-' ∨ d = '+')
      (h : IsDigits t) : IsExponent (c :: d :: t)

/-- A number without its sign. -/
def IsUnsigned (t : List Char) : Prop :=
  ∃ whole fraction exponent, t = whole ++ (fraction ++ exponent) ∧
    IsWhole whole ∧ IsFraction fraction ∧ IsExponent exponent

/-- **The text of a number**, by the grammar. -/
inductive IsNumber : List Char → Prop where
  | positive {t : List Char} (h : IsUnsigned t) : IsNumber t
  | negative {t : List Char} (h : IsUnsigned t) : IsNumber ('-' :: t)

/-- A text that begins with no digit, so that digits in front of it end there. -/
def NoDigit (cs : List Char) : Prop := ∀ c ∈ cs.head?, Digit.decimal? c = none

theorem noDigit_cons : NoDigit (c :: cs) ↔ Digit.decimal? c = none := by
  simp only [NoDigit, List.head?_cons, Option.mem_def, Option.some.injEq, forall_eq']

theorem Stops.noDigit (h : Stops cs) : NoDigit cs := by
  intro c hc
  have hstop := h c hc
  simp only [goesOn, Bool.or_eq_false_iff] at hstop
  exact Option.isNone_iff_eq_none.1 (Option.isSome_eq_false_iff.1 hstop.1.1.1)

theorem decimal?_eq_zero : Digit.decimal? c = some 0 ↔ c = '0' := by
  constructor
  · intro h
    unfold Digit.decimal? at h
    split at h
    · next hc =>
      have hle : '0'.toNat ≤ c.toNat := hc.1
      have hzero : c.toNat - '0'.toNat = 0 := Option.some.inj h
      exact Char.toNat_inj.1 (Nat.le_antisymm (Nat.sub_eq_zero_iff_le.1 hzero) hle)
    · exact nomatch h
  · rintro rfl
    rfl

namespace Numeral

/-- **All digits in front of a text are taken**, and no more. How many there are is decided by the
text alone, which is why a number has no sign of its end. -/
theorem digits_iff {ds : List Nat} : digits cs = (ds, rest) ↔
    ∃ t, cs = t ++ rest ∧ t.map Digit.decimal? = ds.map some ∧ NoDigit rest := by
  induction cs generalizing ds with
  | nil =>
    constructor
    · intro h
      obtain ⟨rfl, rfl⟩ := Prod.mk.inj h
      exact ⟨[], rfl, rfl, fun c hc => absurd hc (Option.not_mem_none c)⟩
    · rintro ⟨t, ht, hds, -⟩
      obtain ⟨rfl, rfl⟩ := List.append_eq_nil_iff.1 ht.symm
      rw [List.map_eq_nil_iff.1 hds.symm]
      rfl
  | cons c cs ih =>
    rw [digits]
    cases hc : Digit.decimal? c with
    | none =>
      constructor
      · intro h
        obtain ⟨rfl, rfl⟩ := Prod.mk.inj h
        exact ⟨[], rfl, rfl, noDigit_cons.2 hc⟩
      · rintro ⟨t, ht, hds, -⟩
        cases t with
        | nil =>
          rw [List.map_eq_nil_iff.1 hds.symm, ht]
          rfl
        | cons c' t =>
          obtain ⟨rfl, -⟩ := List.cons.inj ht
          rw [List.map_cons, hc] at hds
          cases ds <;> cases hds
    | some d =>
      constructor
      · intro h
        obtain ⟨rfl, hrest⟩ := Prod.mk.inj h
        obtain ⟨t, ht, hds, hstop⟩ := ih.1 (Prod.ext rfl hrest)
        exact ⟨c :: t, by rw [ht, List.cons_append], by rw [List.map_cons, List.map_cons, hc, hds],
          hstop⟩
      · rintro ⟨t, ht, hds, hstop⟩
        cases t with
        | nil =>
          obtain rfl : c :: cs = rest := ht
          exact absurd (noDigit_cons.1 hstop) (by rw [hc]; exact Option.some_ne_none d)
        | cons c' t =>
          obtain ⟨rfl, rfl⟩ := List.cons.inj ht
          cases ds with
          | nil => cases hds
          | cons d' ds =>
            rw [List.map_cons, List.map_cons, hc] at hds
            obtain ⟨hd, hds⟩ := List.cons.inj hds
            rw [ih.2 ⟨t, rfl, hds, hstop⟩, Option.some.inj hd]

theorem exists_values (h : ∀ c ∈ t, IsDigit c) :
    ∃ ds : List Nat, t.map Digit.decimal? = ds.map some := by
  induction t with
  | nil => exact ⟨[], rfl⟩
  | cons c t ih =>
    obtain ⟨hc, ht⟩ := List.forall_mem_cons.1 h
    obtain ⟨d, hd⟩ := Option.isSome_iff_exists.1 hc
    obtain ⟨ds, hds⟩ := ih ht
    exact ⟨d :: ds, by rw [List.map_cons, List.map_cons, hd, hds]⟩

theorem isDigit_of_values {ds : List Nat} (h : t.map Digit.decimal? = ds.map some) :
    ∀ c ∈ t, IsDigit c := by
  intro c hc
  have hmem : Digit.decimal? c ∈ ds.map some := h ▸ List.mem_map_of_mem hc
  obtain ⟨d, -, hd⟩ := List.mem_map.1 hmem
  rw [IsDigit, ← hd]
  rfl

/-- **One digit or more**, as many as there are. The fraction and the exponent need one at least. -/
theorem digits1_iff {ds : List Nat} : digits1 cs = some (ds, rest) ↔
    ∃ t, cs = t ++ rest ∧ IsDigits t ∧ t.map Digit.decimal? = ds.map some ∧ NoDigit rest := by
  have hsome : digits1 cs = some (ds, rest) ↔ digits cs = (ds, rest) ∧ ds ≠ [] := by
    unfold digits1
    generalize digits cs = r
    obtain ⟨ds', rest'⟩ := r
    cases ds' with
    | nil => exact ⟨fun h => (nomatch h), fun h => absurd (Prod.mk.inj h.1).1.symm h.2⟩
    | cons d ds' =>
      simp only [Option.some.injEq, Prod.mk.injEq, iff_self_and]
      rintro ⟨rfl, -⟩
      exact List.cons_ne_nil _ _
  rw [hsome, digits_iff]
  constructor
  · rintro ⟨⟨t, ht, hds, hstop⟩, hne⟩
    refine ⟨t, ht, ⟨?_, isDigit_of_values hds⟩, hds, hstop⟩
    rintro rfl
    exact hne (List.map_eq_nil_iff.1 hds.symm)
  · rintro ⟨t, ht, hdigits, hds, hstop⟩
    refine ⟨⟨t, ht, hds, hstop⟩, ?_⟩
    rintro rfl
    exact hdigits.1 (List.map_eq_nil_iff.1 hds)

/-- A whole part is taken with all its digits, and none that begins with a zero and goes on. -/
theorem wholePart_iff {ds : List Nat} : wholePart cs = some (ds, rest) ↔
    ∃ t, cs = t ++ rest ∧ IsWhole t ∧ t.map Digit.decimal? = ds.map some ∧ NoDigit rest := by
  have hsome : wholePart cs = some (ds, rest) ↔
      digits1 cs = some (ds, rest) ∧ (ds.head? = some 0 → ds = [0]) := by
    unfold wholePart
    split
    · next h =>
      rw [h]
      simp only [reduceCtorEq, Option.some.injEq, Prod.mk.injEq, false_iff, not_and]
      rintro ⟨rfl, -⟩ hzero
      exact nomatch hzero rfl
    · next hzero =>
      refine iff_self_and.2 fun h hhead => ?_
      match ds with
      | [] => exact nomatch hhead
      | [d] => rw [Option.some.inj hhead]
      | 0 :: d :: ds => exact absurd h (hzero d ds rest)
      | (d + 1) :: _ :: _ => exact nomatch hhead
  -- the first value is zero exactly if the first digit is
  have hzero : ∀ {t : List Char} {ds : List Nat}, t.map Digit.decimal? = ds.map some →
      ((ds.head? = some 0 → ds = [0]) ↔ (t.head? = some '0' → t = ['0'])) := by
    intro t ds h
    cases t with
    | nil =>
      rw [List.map_eq_nil_iff.1 h.symm]
      exact ⟨fun _ h => (nomatch h), fun _ h => (nomatch h)⟩
    | cons c t =>
      cases ds with
      | nil => exact nomatch h
      | cons d ds =>
        obtain ⟨hd, hds⟩ := List.cons.inj h
        have hc : d = 0 ↔ c = '0' := by rw [← decimal?_eq_zero, hd, Option.some.injEq]
        have hnil : ds = [] ↔ t = [] := by
          rw [← List.map_eq_nil_iff (f := some), ← hds, List.map_eq_nil_iff]
        simp only [List.head?_cons, Option.some.injEq, List.cons.injEq, hc, hnil]
  rw [hsome, digits1_iff]
  constructor
  · rintro ⟨⟨t, ht, hdigits, hds, hstop⟩, halone⟩
    exact ⟨t, ht, ⟨hdigits, (hzero hds).1 halone⟩, hds, hstop⟩
  · rintro ⟨t, ht, ⟨hdigits, halone⟩, hds, hstop⟩
    exact ⟨⟨t, ht, hdigits, hds, hstop⟩, (hzero hds).2 halone⟩

theorem isFraction_of_fractionPart {f : Option (List Nat)}
    (h : fractionPart cs = some (f, rest)) : ∃ t, IsFraction t ∧ cs = t ++ rest := by
  unfold fractionPart at h
  split at h
  · obtain ⟨⟨ds, rest'⟩, hds, heq⟩ := Option.map_eq_some_iff.1 h
    cases heq
    obtain ⟨t, rfl, hdigits, -, -⟩ := digits1_iff.1 hds
    exact ⟨_, .point hdigits, rfl⟩
  · cases h
    exact ⟨[], .none, rfl⟩

theorem exists_fractionPart (ht : IsFraction t) (hdigit : NoDigit rest)
    (hpoint : rest.head? ≠ some '.') : ∃ f, fractionPart (t ++ rest) = some (f, rest) := by
  cases ht with
  | none =>
    refine ⟨none, fractionPart.eq_2 _ ?_⟩
    rintro cs rfl
    exact hpoint rfl
  | @point t h =>
    obtain ⟨ds, hds⟩ := exists_values h.2
    refine ⟨some ds, ?_⟩
    rw [List.cons_append, fractionPart, digits1_iff.2 ⟨t, rfl, h, hds, hdigit⟩]
    rfl

theorem isExponent_of_exponentPart {e : Option Int} (h : exponentPart cs = some (e, rest)) :
    ∃ t, IsExponent t ∧ cs = t ++ rest := by
  cases cs with
  | nil =>
    cases h
    exact ⟨[], .none, rfl⟩
  | cons c cs =>
    rw [exponentPart] at h
    split at h
    · next hc =>
      obtain ⟨⟨ds, rest'⟩, hds, heq⟩ := Option.map_eq_some_iff.1 h
      cases heq
      obtain ⟨t, ht, hdigits, -, -⟩ := digits1_iff.1 hds
      unfold exponentSign at ht
      split at ht
      · obtain rfl : _ = t ++ rest' := ht
        exact ⟨_, .signed hc (.inl rfl) hdigits, rfl⟩
      · obtain rfl : _ = t ++ rest' := ht
        exact ⟨_, .signed hc (.inr rfl) hdigits, rfl⟩
      · obtain rfl : _ = t ++ rest' := ht
        exact ⟨_, .plain hc hdigits, rfl⟩
    · cases h
      exact ⟨[], .none, rfl⟩

theorem exists_exponentPart (ht : IsExponent t) (hstop : Stops rest) :
    ∃ e, exponentPart (t ++ rest) = some (e, rest) := by
  cases ht with
  | none =>
    cases rest with
    | nil => exact ⟨none, rfl⟩
    | cons c rest =>
      have hc := stops_cons.1 hstop
      simp only [goesOn, Bool.or_eq_false_iff, decide_eq_false_iff_not] at hc
      refine ⟨none, ?_⟩
      rw [List.nil_append, exponentPart, if_neg (not_or.2 ⟨hc.1.2, hc.2⟩)]
  | @plain c t hc h =>
    obtain ⟨ds, hds⟩ := exists_values h.2
    have hsign : exponentSign (t ++ rest) = (false, t ++ rest) := by
      -- a digit is no sign
      refine exponentSign.eq_3 _ ?_ ?_ <;>
      · intro cs hcs
        cases t with
        | nil => exact h.1 rfl
        | cons c t =>
          obtain ⟨rfl, -⟩ := List.cons.inj hcs
          exact Bool.false_ne_true (h.2 _ (List.mem_cons_self ..))
    refine ⟨some (Digit.number 10 ds : Nat), ?_⟩
    rw [List.cons_append, exponentPart, if_pos hc, hsign]
    simp only [digits1_iff.2 ⟨t, rfl, h, hds, hstop.noDigit⟩]
    rfl
  | @signed c d t hc hd h =>
    obtain ⟨ds, hds⟩ := exists_values h.2
    rcases hd with rfl | rfl
    · refine ⟨some (-(Digit.number 10 ds : Nat)), ?_⟩
      rw [List.cons_append, exponentPart, if_pos hc]
      simp only [List.cons_append, exponentSign, digits1_iff.2 ⟨t, rfl, h, hds, hstop.noDigit⟩]
      rfl
    · refine ⟨some (Digit.number 10 ds : Nat), ?_⟩
      rw [List.cons_append, exponentPart, if_pos hc]
      simp only [List.cons_append, exponentSign, digits1_iff.2 ⟨t, rfl, h, hds, hstop.noDigit⟩]
      rfl

/-- Behind the digits of a whole part stands no digit, but a fraction, an exponent or the rest. -/
theorem noDigit_behind {f e : List Char} (hf : IsFraction f) (he : IsExponent e)
    (hstop : Stops rest) : NoDigit (f ++ (e ++ rest)) := by
  cases hf with
  | point h => exact noDigit_cons.2 rfl
  | none =>
    cases he with
    | none => exact hstop.noDigit
    | plain hc h => rcases hc with rfl | rfl <;> exact noDigit_cons.2 rfl
    | signed hc hd h => rcases hc with rfl | rfl <;> exact noDigit_cons.2 rfl

/-- Behind the digits of a fraction stands no point. -/
theorem head?_exponent {e : List Char} (he : IsExponent e) (hstop : Stops rest) :
    (e ++ rest).head? ≠ some '.' := by
  cases he with
  | none =>
    intro h
    exact absurd (hstop '.' h) (by decide)
  | plain hc h => rcases hc with rfl | rfl <;> exact fun h => nomatch h
  | signed hc hd h => rcases hc with rfl | rfl <;> exact fun h => nomatch h

/-- What is cut off behind the sign of a number is spelled as the grammar says: a whole part without
a zero in front, then perhaps a fraction and an exponent. -/
theorem isUnsigned_of_unsigned {negative : Bool} {n : Numeral}
    (h : unsigned negative cs = some (n, rest)) : ∃ t, IsUnsigned t ∧ cs = t ++ rest := by
  simp only [unsigned, Option.bind_eq_bind, Option.bind_eq_some_iff] at h
  obtain ⟨⟨w, cs₁⟩, hw, ⟨f, cs₂⟩, hf, ⟨e, cs₃⟩, he, hn⟩ := h
  cases hn
  obtain ⟨t₁, rfl, hwhole, -, -⟩ := wholePart_iff.1 hw
  obtain ⟨t₂, hfraction, rfl⟩ := isFraction_of_fractionPart hf
  obtain ⟨t₃, hexponent, rfl⟩ := isExponent_of_exponentPart he
  refine ⟨t₁ ++ (t₂ ++ t₃), ⟨t₁, t₂, t₃, rfl, hwhole, hfraction, hexponent⟩, ?_⟩
  rw [List.append_assoc, List.append_assoc]

/-- A number of the grammar is cut off whole, if nothing goes on with it. Which number it stands for
is of no concern to a grammar. -/
theorem exists_unsigned (negative : Bool) (ht : IsUnsigned t) (hstop : Stops rest) :
    ∃ n, unsigned negative (t ++ rest) = some (n, rest) := by
  obtain ⟨w, f, e, rfl, hw, hf, he⟩ := ht
  obtain ⟨ds, hds⟩ := exists_values hw.1.2
  have hwhole := wholePart_iff.2 ⟨w, rfl, hw, hds, noDigit_behind hf he hstop⟩
  have hdigit : NoDigit (e ++ rest) := noDigit_behind .none he hstop
  obtain ⟨x, hx⟩ := exists_fractionPart hf hdigit (head?_exponent he hstop)
  obtain ⟨y, hy⟩ := exists_exponentPart he hstop
  refine ⟨⟨negative, ds, x, y⟩, ?_⟩
  simp only [unsigned, List.append_assoc, hwhole, hx, hy, Option.bind_eq_bind, Option.bind_some]

/-- A number without its sign begins with a digit. -/
theorem exists_digit_of_isUnsigned (ht : IsUnsigned t) : ∃ c cs, t = c :: cs ∧ IsDigit c := by
  obtain ⟨w, f, e, rfl, hw, -, -⟩ := ht
  cases w with
  | nil => exact absurd rfl hw.1.1
  | cons c w => exact ⟨c, w ++ (f ++ e), rfl, hw.1.2 c (List.mem_cons_self ..)⟩

/-- **What is cut off as a number is one.** The parts are cut off one after another, and each of
them is the part of a number that it is taken for. -/
theorem isNumber_of_cut {n : Numeral} (h : cut cs = some (n, rest)) :
    ∃ t, IsNumber t ∧ cs = t ++ rest := by
  cases cs with
  | nil => exact nomatch h
  | cons c cs =>
    by_cases hminus : c = '-'
    · subst hminus
      obtain ⟨t, ht, rfl⟩ :=
        isUnsigned_of_unsigned (show unsigned true cs = some (n, rest) from h)
      exact ⟨'-' :: t, .negative ht, rfl⟩
    · rw [cut_of_ne hminus] at h
      obtain ⟨t, ht, hcs⟩ := isUnsigned_of_unsigned h
      exact ⟨t, .positive ht, hcs⟩

/-- **A number is cut off** where nothing goes on with it. All of it is taken, since each part is
taken with all its digits and the text behind begins no part. -/
theorem exists_cut (ht : IsNumber t) (hstop : Stops rest) :
    ∃ n, cut (t ++ rest) = some (n, rest) := by
  cases ht with
  | negative h => exact exists_unsigned true h hstop
  | positive h =>
    obtain ⟨c, cs, rfl, hc⟩ := exists_digit_of_isUnsigned h
    have hminus : c ≠ '-' := by
      rintro rfl
      exact Bool.false_ne_true hc
    show ∃ n, cut (c :: (cs ++ rest)) = some (n, rest)
    rw [cut_of_ne hminus]
    exact exists_unsigned false h hstop

end Numeral

end Ingest.Json
