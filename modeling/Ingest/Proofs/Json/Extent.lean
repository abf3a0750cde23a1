import Ingest.Json.Parser

/-!
# Where a value ends

A reader of JSON takes a value off the front of a text and leaves the rest. What it takes does not
depend on what stands further behind: more text behind a value is left with the rest, and the value
stays the same (`extends_all`). Every value but a number says itself where it ends, with a quote, a
bracket or its last letter. A number ends where nothing goes on with it, so the text that is put
behind must not begin with a digit, a point or the sign of an exponent; a comma or a bracket does
not.

The readers of values, items and members call one another, so the law is proved for all three at
once, by induction on the fuel. More fuel does no harm, which makes the law fit for a value that is
read alone and then as an item of an array.
-/

namespace Ingest.Json

variable {cs rest more : List Char} {c : Char}

/-- Whether a character goes on with a number: a digit, a point, or the letter of an exponent. -/
def goesOn (c : Char) : Bool := (Digit.decimal? c).isSome || c = '.' || c = 'e' || c = 'E'

/-- **A text that goes on with no number** in front of it. Only the first character counts, and an
empty text is such a text. -/
def Stops (cs : List Char) : Prop := ∀ c ∈ cs.head?, goesOn c = false

theorem stops_cons : Stops (c :: cs) ↔ goesOn c = false := by
  simp only [Stops, List.head?_cons, Option.mem_def, Option.some.injEq, forall_eq']

/-! ## Blanks and words -/

/-- What stands behind the first character that is no blank. -/
theorem skip_append (h : skip cs = c :: rest) : skip (cs ++ more) = c :: (rest ++ more) := by
  unfold skip at h ⊢
  rw [List.dropWhile_append, h]
  rfl

/-- Blanks behind a text are dropped with it. -/
theorem skip_append_of_nil (h : skip cs = []) : skip (cs ++ more) = skip more := by
  unfold skip at h ⊢
  rw [List.dropWhile_append, h]
  rfl

/-- A word is taken off the front letter by letter, with nothing skipped. As an equation between
texts, this lets more text be put behind without looking at the reader again. -/
theorem word_iff {w : List Char} : word w cs = some rest ↔ cs = w ++ rest := by
  induction w generalizing cs with
  | nil => exact Option.some_inj
  | cons c w ih =>
    cases cs with
    | nil => exact ⟨fun h => (nomatch h), fun h => (nomatch h)⟩
    | cons c' cs =>
      rw [word, List.cons_append, List.cons.injEq, eq_comm (a := c')]
      split
      · next hc => rw [ih, and_iff_right hc]
      · next hc => simp only [reduceCtorEq, hc, false_and]

theorem word_append {w : List Char} (h : word w cs = some rest) :
    word w (cs ++ more) = some (rest ++ more) := by
  rw [word_iff.1 h, List.append_assoc]
  exact word_iff.2 rfl

/-! ## Strings -/

/-- The digits of an escape end no string and escape nothing. -/
theorem ne_of_hex4 {a b c d : Char} {n : Nat} (h : hex4 a b c d = some n) :
    ∀ x ∈ [a, b, c, d], x ≠ '"' ∧ x ≠ '\\' := by
  have hdigit : ∀ {c k}, Digit.hex? c = some k → c ≠ '"' ∧ c ≠ '\\' := by
    intro c k hc
    constructor
    · rintro rfl
      cases hc
    · rintro rfl
      cases hc
  simp only [hex4, Option.bind_eq_bind, Option.bind_eq_some_iff] at h
  obtain ⟨_, ha, _, hb, _, hc, _, hd, -⟩ := h
  simp only [List.forall_mem_cons]
  exact ⟨hdigit ha, hdigit hb, hdigit hc, hdigit hd, fun x hx => nomatch hx⟩

theorem pushFront_eq_some {r : Option (List Char × List Char)} {s : List Char} :
    pushFront c r = some (s, rest) ↔ ∃ s', r = some (s', rest) ∧ s = c :: s' := by
  unfold pushFront
  rw [Option.map_eq_some_iff]
  constructor
  · rintro ⟨⟨s', rest'⟩, hr, h⟩
    obtain ⟨hs, rfl⟩ := Prod.mk.inj h
    exact ⟨s', hr, hs.symm⟩
  · rintro ⟨s', hr, rfl⟩
    exact ⟨(s', rest), hr, rfl⟩

/-- **A string ends at its closing quote**, and what stands behind it is left alone. An escape is
what the cases are about, since a quote behind a backslash closes nothing. -/
theorem stringTail_append {s : List Char} (h : stringTail cs = some (s, rest)) :
    stringTail (cs ++ more) = some (s, rest ++ more) := by
  fun_induction stringTail cs generalizing s with
  | case1 => exact nomatch h
  | case2 cs =>
    obtain ⟨rfl, rfl⟩ := Prod.mk.inj (Option.some.inj h)
    rfl
  | case3 a b c d cs hhex => exact nomatch h
  | case4 a b c d cs n hhex hlow => exact nomatch h
  | case5 a b c d n hhex hlow hhigh e f g h' cs m hhex' hlow' ih =>
    obtain ⟨s', hs', rfl⟩ := pushFront_eq_some.1 h
    simp only [List.cons_append, stringTail, hhex, hlow, hhigh, hhex', hlow', if_true]
    exact pushFront_eq_some.2 ⟨s', ih hs', rfl⟩
  | case6 => exact nomatch h
  | case7 => exact nomatch h
  | case8 => exact nomatch h
  | case9 a b c d cs n hhex hlow hhigh ih =>
    obtain ⟨s', hs', rfl⟩ := pushFront_eq_some.1 h
    simp only [List.cons_append, stringTail, hhex, hlow, hhigh]
    exact pushFront_eq_some.2 ⟨s', ih hs', rfl⟩
  | case10 c cs hplain e he ih =>
    obtain ⟨s', hs', rfl⟩ := pushFront_eq_some.1 h
    have hletter : c ≠ 'u' := by
      rintro rfl
      exact nomatch he
    rw [List.cons_append, List.cons_append,
      stringTail.eq_4 c (cs ++ more) fun _ _ _ _ _ hu _ => hletter hu, he]
    exact pushFront_eq_some.2 ⟨s', ih hs', rfl⟩
  | case11 => exact nomatch h
  | case12 => exact nomatch h
  | case13 c cs hquote _ _ hplain ih =>
    obtain ⟨s', hs', rfl⟩ := pushFront_eq_some.1 h
    rw [List.cons_append, stringTail.eq_5 c (cs ++ more) hquote
      (fun _ _ _ _ _ hc _ => hplain (.inl hc)) (fun _ _ hc _ => hplain (.inl hc)), if_neg hplain]
    exact pushFront_eq_some.2 ⟨s', ih hs', rfl⟩

/-! ## Numbers -/

namespace Numeral

/-- The digits at the front of a text are the same with more behind it, if the new text does not
begin with one. All laws of this section come down to this one. -/
theorem digits_append (hmore : Stops more) :
    digits (cs ++ more) = ((digits cs).1, (digits cs).2 ++ more) := by
  induction cs with
  | nil =>
    cases more with
    | nil => rfl
    | cons c more =>
      have hdigit : Digit.decimal? c = none := by
        have hstop := stops_cons.1 hmore
        simp only [goesOn, Bool.or_eq_false_iff, Option.isSome_eq_false_iff,
          Option.isNone_iff_eq_none] at hstop
        exact hstop.1.1.1
      show digits (c :: more) = ([], c :: more)
      rw [digits, hdigit]
  | cons c cs ih =>
    rw [List.cons_append, digits, digits]
    cases Digit.decimal? c with
    | none => rfl
    | some d => simp only [ih]

theorem digits1_append (hmore : Stops more) {ds : List Nat} (h : digits1 cs = some (ds, rest)) :
    digits1 (cs ++ more) = some (ds, rest ++ more) := by
  unfold digits1 at h ⊢
  rw [digits_append hmore]
  generalize digits cs = r at h
  obtain ⟨ds', rest'⟩ := r
  cases ds' with
  | nil => exact nomatch h
  | cons d ds' =>
    obtain ⟨rfl, rfl⟩ := Prod.mk.inj (Option.some.inj h)
    rfl

theorem wholePart_append (hmore : Stops more) {ds : List Nat}
    (h : wholePart cs = some (ds, rest)) : wholePart (cs ++ more) = some (ds, rest ++ more) := by
  unfold wholePart at h ⊢
  cases hdigits : digits1 cs with
  | none =>
    rw [hdigits] at h
    exact nomatch h
  | some r =>
    obtain ⟨ds', rest'⟩ := r
    rw [hdigits] at h
    rw [digits1_append hmore hdigits]
    match ds' with
    | [] =>
      cases h
      rfl
    | 0 :: _ :: _ => exact nomatch h
    | [0] =>
      cases h
      rfl
    | (d + 1) :: ds' =>
      cases h
      rfl

theorem fractionPart_append (hmore : Stops more) {f : Option (List Nat)}
    (h : fractionPart cs = some (f, rest)) :
    fractionPart (cs ++ more) = some (f, rest ++ more) := by
  unfold fractionPart at h
  split at h
  · next cs =>
    obtain ⟨⟨ds, rest'⟩, hds, heq⟩ := Option.map_eq_some_iff.1 h
    cases heq
    rw [List.cons_append, fractionPart, digits1_append hmore hds]
    rfl
  · next hpoint =>
    cases h
    refine fractionPart.eq_2 _ fun cs' hcs' => ?_
    cases cs with
    | nil =>
      rw [List.nil_append] at hcs'
      rw [hcs', stops_cons] at hmore
      exact absurd hmore (by decide)
    | cons c cs =>
      obtain ⟨rfl, -⟩ := List.cons.inj hcs'
      exact hpoint cs rfl

/-- The sign of an exponent is looked for in one character. An empty text would take its sign from
what is put behind, hence the hypothesis. -/
theorem exponentSign_append (h : cs ≠ []) :
    exponentSign (cs ++ more) = ((exponentSign cs).1, (exponentSign cs).2 ++ more) := by
  cases cs with
  | nil => exact absurd rfl h
  | cons c cs =>
    by_cases hminus : c = '-'
    · subst hminus
      rfl
    by_cases hplus : c = '+'
    · subst hplus
      rfl
    have hsign : ∀ cs, exponentSign (c :: cs) = (false, c :: cs) := fun cs =>
      exponentSign.eq_3 _ (fun _ h => hminus (List.cons.inj h).1)
        (fun _ h => hplus (List.cons.inj h).1)
    rw [List.cons_append, hsign, hsign]
    rfl

theorem exponentPart_append (hmore : Stops more) {e : Option Int}
    (h : exponentPart cs = some (e, rest)) :
    exponentPart (cs ++ more) = some (e, rest ++ more) := by
  cases cs with
  | nil =>
    cases h
    cases more with
    | nil => rfl
    | cons c more =>
      have hstop := stops_cons.1 hmore
      simp only [goesOn, Bool.or_eq_false_iff, decide_eq_false_iff_not] at hstop
      show exponentPart (c :: more) = some (none, c :: more)
      rw [exponentPart, if_neg (not_or.2 ⟨hstop.1.2, hstop.2⟩)]
  | cons c cs =>
    rw [exponentPart] at h
    rw [List.cons_append, exponentPart]
    split at h
    · next he =>
      obtain ⟨⟨ds, rest'⟩, hds, heq⟩ := Option.map_eq_some_iff.1 h
      cases heq
      have hne : cs ≠ [] := by
        rintro rfl
        exact nomatch hds
      rw [if_pos he, exponentSign_append hne]
      show Option.map _ (digits1 ((exponentSign cs).2 ++ more)) = _
      rw [digits1_append hmore hds]
      rfl
    · next he =>
      cases h
      rw [if_neg he]
      rfl

/-- What is cut off behind the sign of a number. A number is cut in these three parts, and each of
them ends by itself but for the last. -/
def unsigned (negative : Bool) (cs : List Char) : Option (Numeral × List Char) := do
  let (whole, cs) ← wholePart cs
  let (fraction, cs) ← fractionPart cs
  let (exponent, cs) ← exponentPart cs
  some (⟨negative, whole, fraction, exponent⟩, cs)

theorem cut_of_ne (hc : c ≠ '-') : cut (c :: cs) = unsigned false (c :: cs) := by
  unfold cut
  split
  · next h => exact absurd (List.cons.inj h).1 hc
  · rfl

theorem unsigned_append (hmore : Stops more) (negative : Bool) {n : Numeral}
    (h : unsigned negative cs = some (n, rest)) :
    unsigned negative (cs ++ more) = some (n, rest ++ more) := by
  simp only [unsigned, Option.bind_eq_bind, Option.bind_eq_some_iff] at h ⊢
  obtain ⟨⟨w, cs₁⟩, hw, ⟨f, cs₂⟩, hf, ⟨e, cs₃⟩, he, hn⟩ := h
  cases hn
  exact ⟨(w, cs₁ ++ more), wholePart_append hmore hw, (f, cs₂ ++ more),
    fractionPart_append hmore hf, (e, cs₃ ++ more), exponentPart_append hmore he, rfl⟩

/-- **A number ends where nothing goes on with it.** It is the one value that has no sign of its
end, and the reason why more text is put behind a value with a condition. -/
theorem cut_append (hmore : Stops more) {n : Numeral} (h : cut cs = some (n, rest)) :
    cut (cs ++ more) = some (n, rest ++ more) := by
  cases cs with
  | nil => exact nomatch h
  | cons c cs =>
    by_cases hminus : c = '-'
    · subst hminus
      exact unsigned_append hmore true h
    · rw [cut_of_ne hminus] at h
      rw [List.cons_append, cut_of_ne hminus]
      exact unsigned_append hmore false h

end Numeral

/-! ## Arrays and objects -/

variable {fuel depth : Nat} {v : Json}

theorem ne_nil_of_value {r : Json × List Char} (h : value fuel depth cs = some r) : cs ≠ [] := by
  rintro rfl
  cases fuel <;> exact nomatch h

theorem ne_nil_of_elements {r : List Json × List Char} (h : elements fuel depth cs = some r) :
    cs ≠ [] := by
  rintro rfl
  cases fuel with
  | zero => exact nomatch h
  | succ fuel =>
    rw [elements] at h
    split at h
    · exact nomatch h
    · next hv => exact ne_nil_of_value hv rfl

theorem ne_nil_of_members {r : List (String × Json) × List Char}
    (h : members fuel depth cs = some r) : cs ≠ [] := by
  rintro rfl
  cases fuel <;> exact nomatch h

theorem elements_bracket : elements fuel depth (']' :: cs) = none := by
  cases fuel with
  | zero => rfl
  | succ fuel =>
    have hvalue : value fuel depth (']' :: cs) = none := by
      cases fuel <;> rfl
    rw [elements, hvalue]

theorem members_brace : members fuel depth ('\x7d' :: cs) = none := by
  cases fuel <;> rfl

/-- **What an array is read as**: it is empty, or it has items up to its closing bracket. -/
theorem value_array_iff : value (fuel + 1) depth ('[' :: cs) = some (v, rest) ↔
    0 < depth ∧ (skip cs = ']' :: rest ∧ v = .arr [] ∨
      ∃ vs, elements fuel (depth - 1) (skip cs) = some (vs, rest) ∧ v = .arr vs) := by
  rw [value]
  split
  · next hzero => simp only [hzero, reduceCtorEq, Nat.lt_irrefl, false_and]
  next hpos =>
  rw [and_iff_right (Nat.pos_of_ne_zero hpos)]
  split
  · next rest' hskip =>
    simp only [hskip, elements_bracket, Option.some.injEq, Prod.mk.injEq, List.cons.injEq,
      true_and, reduceCtorEq, false_and, exists_false, or_false]
    exact ⟨fun ⟨hv, hrest⟩ => ⟨hrest, hv.symm⟩, fun ⟨hrest, hv⟩ => ⟨hv.symm, hrest⟩⟩
  · next hbracket =>
    rw [or_iff_right fun h => hbracket rest h.1, Option.map_eq_some_iff]
    constructor
    · rintro ⟨⟨vs, rest'⟩, hvs, heq⟩
      cases heq
      exact ⟨vs, hvs, rfl⟩
    · rintro ⟨vs, hvs, rfl⟩
      exact ⟨(vs, rest), hvs, rfl⟩

/-- **What an object is read as**: it is empty, or it has members up to its closing brace. -/
theorem value_object_iff : value (fuel + 1) depth ('\x7b' :: cs) = some (v, rest) ↔
    0 < depth ∧ (skip cs = '\x7d' :: rest ∧ v = .obj [] ∨
      ∃ ms, members fuel (depth - 1) (skip cs) = some (ms, rest) ∧ v = ofMembers ms) := by
  rw [value]
  split
  · next hzero => simp only [hzero, reduceCtorEq, Nat.lt_irrefl, false_and]
  next hpos =>
  rw [and_iff_right (Nat.pos_of_ne_zero hpos)]
  split
  · next rest' hskip =>
    simp only [hskip, members_brace, Option.some.injEq, Prod.mk.injEq, List.cons.injEq,
      true_and, reduceCtorEq, false_and, exists_false, or_false]
    exact ⟨fun ⟨hv, hrest⟩ => ⟨hrest, hv.symm⟩, fun ⟨hrest, hv⟩ => ⟨hv.symm, hrest⟩⟩
  · next hbrace =>
    rw [or_iff_right fun h => hbrace rest h.1, Option.map_eq_some_iff]
    constructor
    · rintro ⟨⟨ms, rest'⟩, hms, heq⟩
      cases heq
      exact ⟨ms, hms, rfl⟩
    · rintro ⟨ms, hms, rfl⟩
      exact ⟨(ms, rest), hms, rfl⟩

/-- **What items are read as**: a value, and behind it the closing bracket or further items. -/
theorem elements_iff {vs : List Json} : elements (fuel + 1) depth cs = some (vs, rest) ↔
    ∃ v cs₁, value fuel depth cs = some (v, cs₁) ∧ (skip cs₁ = ']' :: rest ∧ vs = [v] ∨
      ∃ cs₂ vs', skip cs₁ = ',' :: cs₂ ∧ elements fuel depth (skip cs₂) = some (vs', rest) ∧
        vs = v :: vs') := by
  rw [elements]
  constructor
  · intro h
    split at h
    · cases h
    next v cs₁ hv =>
    split at h
    · next hskip =>
      cases h
      exact ⟨v, cs₁, hv, .inl ⟨hskip, rfl⟩⟩
    · next cs₂ hskip =>
      obtain ⟨⟨vs', rest'⟩, hvs, heq⟩ := Option.map_eq_some_iff.1 h
      cases heq
      exact ⟨v, cs₁, hv, .inr ⟨cs₂, vs', hskip, hvs, rfl⟩⟩
    · cases h
  · rintro ⟨v, cs₁, hv, ⟨hskip, rfl⟩ | ⟨cs₂, vs', hskip, hvs, rfl⟩⟩
    · simp only [hv, hskip]
    · simp only [hv, hskip, hvs, Option.map_some]

/-- **What members are read as**: a key and its value, and behind them the closing brace or further
members. -/
theorem members_iff {ms : List (String × Json)} :
    members (fuel + 1) depth cs = some (ms, rest) ↔
      ∃ cs₀ k cs₁ cs₂ v cs₃, cs = '"' :: cs₀ ∧ stringTail cs₀ = some (k, cs₁) ∧
        skip cs₁ = ':' :: cs₂ ∧ value fuel depth (skip cs₂) = some (v, cs₃) ∧
        (skip cs₃ = '\x7d' :: rest ∧ ms = [(String.ofList k, v)] ∨
          ∃ cs₄ ms', skip cs₃ = ',' :: cs₄ ∧ members fuel depth (skip cs₄) = some (ms', rest) ∧
            ms = (String.ofList k, v) :: ms') := by
  constructor
  · intro h
    unfold members at h
    split at h
    · next cs₀ =>
      split at h
      · cases h
      next k cs₁ hk =>
      split at h
      · next cs₂ hcolon =>
        split at h
        · cases h
        next v cs₃ hv =>
        refine ⟨cs₀, k, cs₁, cs₂, v, cs₃, rfl, hk, hcolon, hv, ?_⟩
        split at h
        · next hskip =>
          cases h
          exact .inl ⟨hskip, rfl⟩
        · next cs₄ hskip =>
          obtain ⟨⟨ms', rest'⟩, hms, heq⟩ := Option.map_eq_some_iff.1 h
          cases heq
          exact .inr ⟨cs₄, ms', hskip, hms, rfl⟩
        · cases h
      · cases h
    · cases h
  · rintro ⟨cs₀, k, cs₁, cs₂, v, cs₃, rfl, hk, hcolon, hv,
      ⟨hskip, rfl⟩ | ⟨cs₄, ms', hskip, hms, rfl⟩⟩
    · simp only [members, hk, hcolon, hv, hskip]
    · simp only [members, hk, hcolon, hv, hskip, hms, Option.map_some]

/-- The words of the grammar, and what they stand for. They are kept in a list so that one case
stands for all three of them. -/
def wordValues : List (List Char × Json) :=
  [("true".toList, .bool true), ("false".toList, .bool false), ("null".toList, .null)]

/-- **What a value is read as**, by what it begins with. There is one rule for each kind of value,
and the readers of items and of members are named in those for arrays and objects. -/
inductive ReadsAs (fuel depth : Nat) : List Char → Json → List Char → Prop where
  | string {cs rest s : List Char} (h : stringTail cs = some (s, rest)) :
      ReadsAs fuel depth ('"' :: cs) (.str (String.ofList s)) rest
  | noItems {cs rest : List Char} (pos : 0 < depth) (h : skip cs = ']' :: rest) :
      ReadsAs fuel depth ('[' :: cs) (.arr []) rest
  | items {cs rest : List Char} {vs : List Json} (pos : 0 < depth)
      (h : elements fuel (depth - 1) (skip cs) = some (vs, rest)) :
      ReadsAs fuel depth ('[' :: cs) (.arr vs) rest
  | noMembers {cs rest : List Char} (pos : 0 < depth) (h : skip cs = '\x7d' :: rest) :
      ReadsAs fuel depth ('\x7b' :: cs) (.obj []) rest
  | members {cs rest : List Char} {ms : List (String × Json)} (pos : 0 < depth)
      (h : members fuel (depth - 1) (skip cs) = some (ms, rest)) :
      ReadsAs fuel depth ('\x7b' :: cs) (ofMembers ms) rest
  | word {cs rest w : List Char} {v : Json} (hw : (w, v) ∈ wordValues)
      (h : word w cs = some rest) : ReadsAs fuel depth cs v rest
  | number {cs rest : List Char} {n : Numeral} {v : Json} (h : Numeral.cut cs = some (n, rest))
      (hv : n.value? = some v) : ReadsAs fuel depth cs v rest

/-- A reader is opened here once, and split along the first character. The proofs about values that
follow split along `ReadsAs` in its place, with one case for each kind of value. -/
theorem readsAs_of_value (h : value (fuel + 1) depth cs = some (v, rest)) :
    ReadsAs fuel depth cs v rest := by
  unfold value at h
  split at h
  · obtain ⟨⟨s, rest'⟩, hs, heq⟩ := Option.map_eq_some_iff.1 h
    cases heq
    exact .string hs
  · next cs =>
    have h : value (fuel + 1) depth ('[' :: cs) = some (v, rest) := by rwa [value]
    obtain ⟨hpos, ⟨hskip, rfl⟩ | ⟨vs, hvs, rfl⟩⟩ := value_array_iff.1 h
    · exact .noItems hpos hskip
    · exact .items hpos hvs
  · next cs =>
    have h : value (fuel + 1) depth ('\x7b' :: cs) = some (v, rest) := by rwa [value]
    obtain ⟨hpos, ⟨hskip, rfl⟩ | ⟨ms, hms, rfl⟩⟩ := value_object_iff.1 h
    · exact .noMembers hpos hskip
    · exact .members hpos hms
  · next cs =>
    obtain ⟨rest', hrest, heq⟩ := Option.map_eq_some_iff.1 h
    cases heq
    exact .word (.head _) (show word "true".toList ('t' :: cs) = _ from hrest)
  · next cs =>
    obtain ⟨rest', hrest, heq⟩ := Option.map_eq_some_iff.1 h
    cases heq
    exact .word (.tail _ (.head _)) (show word "false".toList ('f' :: cs) = _ from hrest)
  · next cs =>
    obtain ⟨rest', hrest, heq⟩ := Option.map_eq_some_iff.1 h
    cases heq
    exact .word (.tail _ (.tail _ (.head _))) (show word "null".toList ('n' :: cs) = _ from hrest)
  · split at h
    · next n rest' hcut =>
      obtain ⟨v', hv, heq⟩ := Option.map_eq_some_iff.1 h
      cases heq
      exact .number hcut hv
    · exact nomatch h

/-- **A value is read as what it begins with**, and as nothing else. With it the reader of values
need not be unfolded again. -/
theorem value_iff : value (fuel + 1) depth cs = some (v, rest) ↔ ReadsAs fuel depth cs v rest := by
  refine ⟨readsAs_of_value, fun h => ?_⟩
  cases h with
  | string h =>
    rw [value, h]
    rfl
  | noItems pos h => exact value_array_iff.2 ⟨pos, .inl ⟨h, rfl⟩⟩
  | items pos h => exact value_array_iff.2 ⟨pos, .inr ⟨_, h, rfl⟩⟩
  | noMembers pos h => exact value_object_iff.2 ⟨pos, .inl ⟨h, rfl⟩⟩
  | members pos h => exact value_object_iff.2 ⟨pos, .inr ⟨_, h, rfl⟩⟩
  | word hw h =>
    simp only [wordValues, List.mem_cons, List.not_mem_nil, or_false, Prod.mk.injEq] at hw
    rw [word_iff.1 h]
    rcases hw with ⟨rfl, rfl⟩ | ⟨rfl, rfl⟩ | ⟨rfl, rfl⟩ <;> rfl
  | number h hv =>
    -- a number begins like nothing else
    unfold value
    split
    case h_7 => simp only [h, hv, Option.map_some]
    all_goals exact nomatch h

/-! ## Values, items and members -/

/-- **A reader that stops where it stopped.** With no less fuel, and with more text behind, it reads
the same and leaves the text with the rest. -/
def Extends {α : Type} (read : Nat → Nat → List Char → Option (α × List Char)) (fuel : Nat) :
    Prop :=
  ∀ ⦃depth cs a rest fuel' more⦄, read fuel depth cs = some (a, rest) → fuel ≤ fuel' →
    Stops more → read fuel' depth (cs ++ more) = some (a, rest ++ more)

/-- An array or an object goes on as it did behind its opening bracket. -/
theorem skip_append_of_ne_nil (h : skip cs ≠ []) : skip (cs ++ more) = skip cs ++ more := by
  obtain ⟨c, rest, hskip⟩ := List.exists_cons_of_ne_nil h
  rw [hskip, skip_append hskip]
  rfl

/-- One step of the induction, for values: what stands inside of brackets is extended with one fuel
less, and nothing goes on with a closing bracket or quote. -/
theorem extends_value (helements : Extends elements fuel) (hmembers : Extends members fuel) :
    Extends value (fuel + 1) := by
  intro depth cs v rest fuel' more h hfuel hmore
  obtain ⟨fuel', rfl⟩ : ∃ n, fuel' = n + 1 := ⟨fuel' - 1, by omega⟩
  have hfuel : fuel ≤ fuel' := Nat.le_of_succ_le_succ hfuel
  refine value_iff.2 ?_
  cases value_iff.1 h with
  | string h => exact .string (stringTail_append h)
  | noItems pos h => exact .noItems pos (skip_append h)
  | items pos h =>
    rw [List.cons_append]
    refine .items pos ?_
    rw [skip_append_of_ne_nil (ne_nil_of_elements h)]
    exact helements h hfuel hmore
  | noMembers pos h => exact .noMembers pos (skip_append h)
  | members pos h =>
    rw [List.cons_append]
    refine .members pos ?_
    rw [skip_append_of_ne_nil (ne_nil_of_members h)]
    exact hmembers h hfuel hmore
  | word hw h => exact .word hw (word_append h)
  | number h hv => exact .number (Numeral.cut_append hmore h) hv

/-- The step for items. Behind an item stands a comma or a bracket, and neither goes on with a
number, so the item may itself be extended. -/
theorem extends_elements (hvalue : Extends value fuel) (helements : Extends elements fuel) :
    Extends elements (fuel + 1) := by
  intro depth cs vs rest fuel' more h hfuel hmore
  obtain ⟨fuel', rfl⟩ : ∃ n, fuel' = n + 1 := ⟨fuel' - 1, by omega⟩
  have hfuel : fuel ≤ fuel' := Nat.le_of_succ_le_succ hfuel
  obtain ⟨v, cs₁, hv, hbehind⟩ := elements_iff.1 h
  refine elements_iff.2 ⟨v, cs₁ ++ more, hvalue hv hfuel hmore, ?_⟩
  rcases hbehind with ⟨hskip, rfl⟩ | ⟨cs₂, vs', hskip, hvs, rfl⟩
  · exact .inl ⟨skip_append hskip, rfl⟩
  · refine .inr ⟨cs₂ ++ more, vs', skip_append hskip, ?_, rfl⟩
    rw [skip_append_of_ne_nil (ne_nil_of_elements hvs)]
    exact helements hvs hfuel hmore

/-- The step for members, where a name and a colon stand in front of each value and change
nothing. -/
theorem extends_members (hvalue : Extends value fuel) (hmembers : Extends members fuel) :
    Extends members (fuel + 1) := by
  intro depth cs ms rest fuel' more h hfuel hmore
  obtain ⟨fuel', rfl⟩ : ∃ n, fuel' = n + 1 := ⟨fuel' - 1, by omega⟩
  have hfuel : fuel ≤ fuel' := Nat.le_of_succ_le_succ hfuel
  obtain ⟨cs₀, k, cs₁, cs₂, v, cs₃, rfl, hk, hcolon, hv, hbehind⟩ := members_iff.1 h
  refine members_iff.2 ⟨cs₀ ++ more, k, cs₁ ++ more, cs₂ ++ more, v, cs₃ ++ more, rfl,
    stringTail_append hk, skip_append hcolon, ?_, ?_⟩
  · rw [skip_append_of_ne_nil (ne_nil_of_value hv)]
    exact hvalue hv hfuel hmore
  · rcases hbehind with ⟨hskip, rfl⟩ | ⟨cs₄, ms', hskip, hms, rfl⟩
    · exact .inl ⟨skip_append hskip, rfl⟩
    · refine .inr ⟨cs₄ ++ more, ms', skip_append hskip, ?_, rfl⟩
      rw [skip_append_of_ne_nil (ne_nil_of_members hms)]
      exact hmembers hms hfuel hmore

/-- **All three readers extend**, for every fuel. None of them can be treated before the others,
since a value calls the readers of items and members, and these call the one of values. -/
theorem extends_all (fuel : Nat) :
    Extends value fuel ∧ Extends elements fuel ∧ Extends members fuel := by
  induction fuel with
  | zero =>
    refine ⟨fun _ _ _ _ _ _ h => ?_, fun _ _ _ _ _ _ h => ?_, fun _ _ _ _ _ _ h => ?_⟩
    · exact nomatch h
    · exact nomatch h
    · exact nomatch h
  | succ fuel ih =>
    obtain ⟨hvalue, helements, hmembers⟩ := ih
    exact ⟨extends_value helements hmembers, extends_elements hvalue helements,
      extends_members hvalue hmembers⟩

end Ingest.Json
