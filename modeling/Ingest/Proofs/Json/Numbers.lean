import Ingest.Proofs.Json.Printing

/-!
# Texts whose numbers are whole

Which numbers stand in a document can be told without reading it: they begin outside of strings with
a digit or a minus, and go on as long as there are characters of numbers (`numbers`). If each of
them is a whole number in range, written as such a number is written, then whatever the document is
read as is `Legible`, and so it is read back when it is written again.

A reader of values, items or members is given a text, and what it leaves has no other numbers than
the text had. So the readers are followed together, by induction on the fuel (`Careful`). A number
is all of what stands together only if nothing stands behind it that could belong to one. For a
value this is asked of the text behind it (`Ends`), and the readers of items and members see to it,
since they go on only at a comma or a bracket.
-/

namespace Ingest.Json

variable {cs rest t w : List Char} {c : Char}

/-- The characters that a number begins with: a digit or a minus. -/
def beginsNumber (c : Char) : Bool := (Digit.decimal? c).isSome || c = '-'

/-- The characters of numbers: those that go on with one, and the two signs. -/
def ofNumber (c : Char) : Bool := goesOn c || c = '-' || c = '+'

/-- Where a search for numbers stands: outside of everything, within a number, within a string, or
behind a backslash in one. -/
inductive Place where
  | plain
  | number
  | string
  | escape

/-- **The numbers of a text**, as they are written. They are found by going through the characters
once; the text need not be a document. -/
def numbers : Place → List Char → List (List Char)
  | _, [] => []
  | .plain, c :: cs =>
    if beginsNumber c then (c :: cs.takeWhile ofNumber) :: numbers .number cs
    else if c = '"' then numbers .string cs
    else numbers .plain cs
  | .number, c :: cs =>
    if ofNumber c then numbers .number cs
    else if c = '"' then numbers .string cs
    else numbers .plain cs
  | .string, c :: cs =>
    if c = '"' then numbers .plain cs
    else if c = '\\' then numbers .escape cs
    else numbers .string cs
  | .escape, _ :: cs => numbers .string cs

/-- The text of a whole number in range, as such a number is written. A zero has no sign, and no
number has a zero in front. -/
def IsInteger (t : List Char) : Prop := ∃ n, leastInt ≤ n ∧ n < intBound ∧ t = intChars n

/-- **A text whose numbers are whole.** Strings may hold whatever they like, digits included. -/
def Whole (cs : List Char) : Prop := ∀ t ∈ numbers .plain cs, IsInteger t

/-! ## Where no number is -/

/-- A character that begins neither a number nor a string is passed over. -/
theorem numbers_cons (hnumber : beginsNumber c = false) (hquote : c ≠ '"') :
    numbers .plain (c :: cs) = numbers .plain cs := by
  rw [numbers, if_neg (Bool.eq_false_iff.1 hnumber), if_neg hquote]

theorem numbers_append (ht : ∀ c ∈ t, beginsNumber c = false ∧ c ≠ '"') :
    numbers .plain (t ++ rest) = numbers .plain rest := by
  induction t with
  | nil => rfl
  | cons c t ih =>
    obtain ⟨⟨hnumber, hquote⟩, ht⟩ := List.forall_mem_cons.1 ht
    rw [List.cons_append, numbers_cons hnumber hquote, ih ht]

theorem numbers_blank (hw : Blank w) : numbers .plain (w ++ rest) = numbers .plain rest := by
  refine numbers_append fun c hc => ?_
  rcases eq_of_isSpace (hw c hc) with rfl | rfl | rfl | rfl <;> decide

theorem numbers_string_cons (hquote : c ≠ '"') (hescape : c ≠ '\\') :
    numbers .string (c :: cs) = numbers .string cs := by
  rw [numbers, if_neg hquote, if_neg hescape]

/-- A string holds no numbers, whatever is spelled in it: the search goes from its first quote to
its last one without a find. -/
theorem numbers_isString (ht : IsString t) :
    numbers .string (t ++ '"' :: rest) = numbers .plain rest := by
  induction ht with
  | nil => rfl
  | plain hquote hplain _ ih =>
    rw [List.cons_append, numbers_string_cons hquote fun hc => hplain (.inl hc), ih]
  | letter _ _ ih => exact ih
  | @code a b c d n t h _ ih =>
    have hplain := ne_of_hex4 h
    simp only [List.forall_mem_cons] at hplain
    obtain ⟨ha, hb, hc, hd, -⟩ := hplain
    show numbers .string (a :: b :: c :: d :: (t ++ '"' :: rest)) = _
    rw [numbers_string_cons ha.1 ha.2, numbers_string_cons hb.1 hb.2,
      numbers_string_cons hc.1 hc.2, numbers_string_cons hd.1 hd.2, ih]

theorem numbers_stringTail {s : List Char} (h : stringTail cs = some (s, rest)) :
    numbers .string cs = numbers .plain rest := by
  obtain ⟨t, ht, rfl⟩ := stringTail_iff.1 h
  exact numbers_isString ht.isString

theorem Whole.tail (h : Whole (c :: cs)) (hnumber : beginsNumber c = false) (hquote : c ≠ '"') :
    Whole cs := by
  rwa [Whole, numbers_cons hnumber hquote] at h

theorem Whole.skip (h : Whole cs) : Whole (skip cs) := by
  obtain ⟨w, hw, hcs⟩ := exists_skip (rfl : Json.skip cs = _)
  rwa [hcs, Whole, numbers_blank hw] at h

theorem Whole.of_skip (h : Whole cs) (hskip : Json.skip cs = c :: rest)
    (hnumber : beginsNumber c = false) (hquote : c ≠ '"') : Whole rest :=
  (hskip ▸ h.skip).tail hnumber hquote

/-- What stands behind a string has the numbers that the text had. Words, brackets and blanks leave
the numbers alone in the same way. -/
theorem Whole.of_stringTail {s : List Char} (h : Whole ('"' :: cs))
    (hs : stringTail cs = some (s, rest)) : Whole rest := by
  rw [Whole, ← numbers_stringTail hs]
  exact h

theorem Whole.of_word (h : Whole cs) (hword : word w cs = some rest)
    (hw : w.all (fun c => !beginsNumber c && c ≠ '"') = true) : Whole rest := by
  rw [word_iff.1 hword, Whole, numbers_append] at h
  · exact h
  · intro c hc
    have hplain := List.all_eq_true.1 hw c hc
    simpa only [Bool.and_eq_true, Bool.not_eq_true', decide_eq_true_eq] using hplain

/-! ## Where a number is -/

/-- **A text with which no number goes on**, not even by a sign. -/
def Ends (cs : List Char) : Prop := ∀ c ∈ cs.head?, ofNumber c = false

theorem ends_cons : Ends (c :: cs) ↔ ofNumber c = false := by
  simp only [Ends, List.head?_cons, Option.mem_def, Option.some.injEq, forall_eq']

theorem Ends.stops (h : Ends cs) : Stops cs := by
  intro c hc
  have hend := h c hc
  simp only [ofNumber, Bool.or_eq_false_iff] at hend
  exact hend.1.1

theorem ends_of_skip (h : skip cs = c :: rest) (hc : ofNumber c = false) : Ends cs := by
  obtain ⟨w, hw, rfl⟩ := exists_skip h
  cases w with
  | nil => exact ends_cons.2 hc
  | cons b w =>
    refine ends_cons.2 ?_
    rcases eq_of_isSpace (hw b List.mem_cons_self) with rfl | rfl | rfl | rfl <;> decide

theorem ends_of_blank (hw : Blank w) : Ends w := by
  intro c hc
  rcases eq_of_isSpace (hw c (List.mem_of_mem_head? hc)) with rfl | rfl | rfl | rfl <;> decide

theorem ofNumber_of_isDigit (hc : IsDigit c) : ofNumber c = true := by
  have hc : (Digit.decimal? c).isSome = true := hc
  simp only [ofNumber, goesOn, hc, Bool.true_or]

/-- A number has no other characters than those of numbers. -/
theorem ofNumber_of_isNumber (ht : IsNumber t) : ∀ c ∈ t, ofNumber c = true := by
  have hdigits : ∀ {t}, IsDigits t → ∀ c ∈ t, ofNumber c = true :=
    fun h c hc => ofNumber_of_isDigit (h.2 c hc)
  have hfraction : ∀ {t}, IsFraction t → ∀ c ∈ t, ofNumber c = true := by
    intro t h
    cases h with
    | none => exact fun c hc => nomatch hc
    | point h => exact List.forall_mem_cons.2 ⟨rfl, hdigits h⟩
  have hexponent : ∀ {t}, IsExponent t → ∀ c ∈ t, ofNumber c = true := by
    intro t h
    cases h with
    | none => exact fun c hc => nomatch hc
    | plain hc h =>
      refine List.forall_mem_cons.2 ⟨?_, hdigits h⟩
      rcases hc with rfl | rfl <;> rfl
    | signed hc hd h =>
      refine List.forall_mem_cons.2 ⟨?_, List.forall_mem_cons.2 ⟨?_, hdigits h⟩⟩
      · rcases hc with rfl | rfl <;> rfl
      · rcases hd with rfl | rfl <;> rfl
  have hunsigned : ∀ {t}, IsUnsigned t → ∀ c ∈ t, ofNumber c = true := by
    rintro t ⟨w, f, e, rfl, hw, hf, he⟩ c hc
    rcases List.mem_append.1 hc with hc | hc
    · exact hdigits hw.1 c hc
    · exact (List.mem_append.1 hc).elim (hfraction hf c) (hexponent he c)
  cases ht with
  | positive h => exact hunsigned h
  | negative h => exact List.forall_mem_cons.2 ⟨rfl, hunsigned h⟩

/-- A number begins with a digit or a minus. Neither begins any other value, so nothing that is no
number is taken for one. -/
theorem exists_beginsNumber (ht : IsNumber t) : ∃ c cs, t = c :: cs ∧ beginsNumber c = true := by
  cases ht with
  | positive h =>
    obtain ⟨c, cs, rfl, hc⟩ := Numeral.exists_digit_of_isUnsigned h
    have hc : (Digit.decimal? c).isSome = true := hc
    exact ⟨c, cs, rfl, by rw [beginsNumber, hc, Bool.true_or]⟩
  | negative h => exact ⟨'-', _, rfl, rfl⟩

theorem numbers_number_append (ht : ∀ c ∈ t, ofNumber c = true) :
    numbers .number (t ++ rest) = numbers .number rest := by
  induction t with
  | nil => rfl
  | cons c t ih =>
    obtain ⟨hc, ht⟩ := List.forall_mem_cons.1 ht
    rw [List.cons_append, numbers, if_pos hc, ih ht]

theorem ofNumber_of_beginsNumber (h : beginsNumber c = true) : ofNumber c = true := by
  rcases Bool.or_eq_true _ _ ▸ h with hdigit | hminus
  · exact ofNumber_of_isDigit hdigit
  · rw [of_decide_eq_true hminus]
    rfl

/-- Where no number goes on, the next one is searched for. -/
theorem Ends.numbers (h : Ends cs) : numbers .number cs = numbers .plain cs := by
  cases cs with
  | nil => rfl
  | cons c cs =>
    have hc := Bool.eq_false_iff.1 (ends_cons.1 h)
    rw [Json.numbers, Json.numbers, if_neg hc, if_neg fun hb => hc (ofNumber_of_beginsNumber hb)]

/-- **A number is found** as it is written, if none goes on behind it. What the search takes for a
number is all that could belong to one, so the two agree only there. -/
theorem numbers_isNumber (ht : IsNumber t) (hends : Ends rest) :
    numbers .plain (t ++ rest) = t :: numbers .plain rest := by
  have hall := ofNumber_of_isNumber ht
  obtain ⟨c, cs, rfl, hc⟩ := exists_beginsNumber ht
  have hcs := (List.forall_mem_cons.1 hall).2
  have hnone : rest.takeWhile ofNumber = [] := by
    cases rest with
    | nil => rfl
    | cons b rest => exact List.takeWhile_cons_of_neg (Bool.eq_false_iff.1 (ends_cons.1 hends))
  rw [List.cons_append, numbers, if_pos hc, List.takeWhile_append_of_pos hcs, hnone,
    List.append_nil, numbers_number_append hcs, hends.numbers]

/-! ## Reading -/

variable {fuel depth : Nat} {v : Json}

/-- **Readers that make legible values** of texts whose numbers are whole, and leave no other
numbers. -/
structure Careful (fuel : Nat) : Prop where
  value : ∀ ⦃depth cs v rest⦄, value fuel depth cs = some (v, rest) → Ends rest → Whole cs →
    Legible depth v ∧ Whole rest
  elements : ∀ ⦃depth cs vs rest⦄, elements fuel depth cs = some (vs, rest) → Whole cs →
    (∀ v ∈ vs, Legible depth v) ∧ Whole rest
  members : ∀ ⦃depth cs ms rest⦄, members fuel depth cs = some (ms, rest) → Whole cs →
    (∀ e ∈ ms, Legible depth e.2) ∧ Whole rest

/-- A whole number is read as itself, and not as a double: its text is one that a whole number is
written as, and those are read back. -/
theorem legible_of_cut {n : Numeral} (h : Numeral.cut cs = some (n, rest)) (hv : n.value? = some v)
    (hends : Ends rest) (hwhole : Whole cs) : Legible depth v ∧ Whole rest := by
  obtain ⟨t, ht, rfl⟩ := Numeral.isNumber_of_cut h
  have hnumbers := numbers_isNumber ht hends
  obtain ⟨k, hleast, hbound, rfl⟩ := hwhole t (by rw [hnumbers]; exact List.mem_cons_self)
  obtain ⟨m, hm, hvalue⟩ := Numeral.cut_intChars hleast hbound hends.stops
  obtain ⟨rfl, -⟩ := Prod.mk.inj (Option.some.inj (hm.symm.trans h))
  obtain rfl := Option.some.inj (hvalue.symm.trans hv)
  exact ⟨.int hleast hbound, fun t ht => hwhole t (by rw [hnumbers]; exact .tail _ ht)⟩

/-- A word stands for a value that is written as the word. -/
theorem legible_of_mem_wordValues (hw : (w, v) ∈ wordValues) : Legible depth v := by
  simp only [wordValues, List.mem_cons, List.not_mem_nil, or_false, Prod.mk.injEq] at hw
  obtain ⟨-, rfl⟩ | ⟨-, rfl⟩ | ⟨-, rfl⟩ := hw
  · exact .bool true
  · exact .bool false
  · exact .null

/-- All values under the keys of an object that is made of members are of these. -/
theorem forall_mem_ofEntries {p : Json → Prop} {ms : List (String × Json)} (h : ∀ e ∈ ms, p e.2) :
    ∀ e ∈ Keyed.ofEntries ms, p e.2 := by
  intro e he
  have hfind := (Keyed.find?_eq_some_iff (Keyed.nodup_of_sorted (Keyed.sorted_ofEntries ms))).2 he
  rw [Keyed.find?_ofEntries] at hfind
  exact h _ (List.mem_reverse.1 (Keyed.mem_of_find? hfind))

/-- One step of the induction, for values. A string is legible whatever it holds, a number since it
is whole, and what is in brackets by the fuel below. -/
theorem Careful.succ_value (h : Careful fuel) (hv : Json.value (fuel + 1) depth cs = some (v, rest))
    (hends : Ends rest) (hwhole : Whole cs) : Legible depth v ∧ Whole rest := by
  have hdepth : 0 < depth → ∃ d, depth = d + 1 := fun hpos =>
    Nat.exists_eq_succ_of_ne_zero (Nat.pos_iff_ne_zero.1 hpos)
  cases value_iff.1 hv with
  | string hs => exact ⟨.str _, hwhole.of_stringTail hs⟩
  | noItems pos hskip =>
    obtain ⟨d, rfl⟩ := hdepth pos
    have hcs := hwhole.tail rfl (by decide)
    exact ⟨.arr (List.forall_mem_nil _), hcs.of_skip hskip rfl (by decide)⟩
  | items pos hvs =>
    obtain ⟨d, rfl⟩ := hdepth pos
    have hcs := hwhole.tail rfl (by decide)
    obtain ⟨hlegible, hrest⟩ := h.elements hvs hcs.skip
    exact ⟨.arr hlegible, hrest⟩
  | noMembers pos hskip =>
    obtain ⟨d, rfl⟩ := hdepth pos
    have hcs := hwhole.tail rfl (by decide)
    exact ⟨.obj List.Pairwise.nil (List.forall_mem_nil _), hcs.of_skip hskip rfl (by decide)⟩
  | @members _ _ ms pos hms =>
    obtain ⟨d, rfl⟩ := hdepth pos
    have hcs := hwhole.tail rfl (by decide)
    obtain ⟨hlegible, hrest⟩ := h.members hms hcs.skip
    exact ⟨.obj (Keyed.sorted_ofEntries ms) (forall_mem_ofEntries hlegible), hrest⟩
  | word hw hrest =>
    have hplain : ∀ e ∈ wordValues, e.1.all (fun c => !beginsNumber c && c ≠ '"') = true := by
      decide
    exact ⟨legible_of_mem_wordValues hw, hwhole.of_word hrest (hplain _ hw)⟩
  | number hcut hv => exact legible_of_cut hcut hv hends hwhole

/-- The step for items. The reader goes on only behind a comma and ends at a bracket, so each item
is followed by a text that ends a number. -/
theorem Careful.succ_elements {vs : List Json} (h : Careful fuel)
    (hvs : Json.elements (fuel + 1) depth cs = some (vs, rest)) (hwhole : Whole cs) :
    (∀ v ∈ vs, Legible depth v) ∧ Whole rest := by
  obtain ⟨v, cs₁, hv, hbehind⟩ := elements_iff.1 hvs
  rcases hbehind with ⟨hskip, rfl⟩ | ⟨cs₂, vs', hskip, hvs', rfl⟩
  · obtain ⟨hlegible, hcs₁⟩ := h.value hv (ends_of_skip hskip rfl) hwhole
    exact ⟨List.forall_mem_singleton.2 hlegible, hcs₁.of_skip hskip rfl (by decide)⟩
  · obtain ⟨hlegible, hcs₁⟩ := h.value hv (ends_of_skip hskip rfl) hwhole
    obtain ⟨hlegibles, hrest⟩ := h.elements hvs' (hcs₁.of_skip hskip rfl (by decide)).skip
    exact ⟨List.forall_mem_cons.2 ⟨hlegible, hlegibles⟩, hrest⟩

theorem Careful.succ_members {ms : List (String × Json)} (h : Careful fuel)
    (hms : Json.members (fuel + 1) depth cs = some (ms, rest)) (hwhole : Whole cs) :
    (∀ e ∈ ms, Legible depth e.2) ∧ Whole rest := by
  obtain ⟨cs₀, k, cs₁, cs₂, v, cs₃, rfl, hk, hcolon, hv, hbehind⟩ := members_iff.1 hms
  have hcs₂ := (hwhole.of_stringTail hk).of_skip hcolon rfl (by decide)
  rcases hbehind with ⟨hskip, rfl⟩ | ⟨cs₄, ms', hskip, hms', rfl⟩
  · obtain ⟨hlegible, hcs₃⟩ := h.value hv (ends_of_skip hskip rfl) hcs₂.skip
    exact ⟨List.forall_mem_singleton.2 hlegible, hcs₃.of_skip hskip rfl (by decide)⟩
  · obtain ⟨hlegible, hcs₃⟩ := h.value hv (ends_of_skip hskip rfl) hcs₂.skip
    obtain ⟨hlegibles, hrest⟩ := h.members hms' (hcs₃.of_skip hskip rfl (by decide)).skip
    exact ⟨List.forall_mem_cons.2 ⟨hlegible, hlegibles⟩, hrest⟩

/-- **Readers with any fuel are careful.** The three of them are taken together, as in the other
laws about them. -/
theorem careful (fuel : Nat) : Careful fuel := by
  induction fuel with
  | zero =>
    constructor
    case value => exact fun _ _ _ _ hv => (nomatch hv)
    case elements => exact fun _ _ _ _ hvs => (nomatch hvs)
    case members => exact fun _ _ _ _ hms => (nomatch hms)
  | succ fuel ih =>
    constructor
    case value => exact fun _ _ _ _ => ih.succ_value
    case elements => exact fun _ _ _ _ => ih.succ_elements
    case members => exact fun _ _ _ _ => ih.succ_members

/-- **A document whose numbers are whole is read as a legible value.** So it is read back when it is
written, although it may not be written as it was. -/
theorem legible_of_ofChars? (h : ofChars? cs = some v) (hwhole : Whole cs) :
    Legible maxDepth v := by
  unfold ofChars? at h
  split at h
  · next v' rest hvalue =>
    split at h
    · next hempty =>
      cases h
      have hblank := skip_eq_nil_iff.1 (List.isEmpty_iff.1 hempty)
      exact ((careful _).value hvalue (ends_of_blank hblank) hwhole.skip).1
    · cases h
  · cases h

end Ingest.Json
