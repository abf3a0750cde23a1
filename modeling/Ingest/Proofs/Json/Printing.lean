import Ingest.Json.Basic
import Ingest.Proofs.Json.Grammar
import Ingest.Proofs.Keyed

/-!
# What is written is read back

The writer of values and the reader of values were made for each other, but for two things. A reader
puts the members of an object in order and stops at a depth, and a double is written in fewer digits
than it has. `Legible` values ask for none of this: whole numbers only, the members of every object
in order, and no more arrays and objects inside each other than are allowed.

Such a value is read back from its text, and what stands behind it is left (`Legible.readBack`). The
proof goes along the value. For strings and numbers it rests on what the reader says of their texts;
the items of an array and the members of an object are lists of values that are read back already.
-/

namespace Ingest.Json

variable {cs rest t : List Char} {c : Char}

/-! ## Strings -/

/-- Every character is spelled in a way that is read as this one: with a letter behind a backslash
if there is one, in four hexadecimal digits if it is a control, and else as it is. -/
theorem spells_escape_cons {s : List Char} (c : Char) (h : Spells t s) :
    Spells (escape c ++ t) (c :: s) := by
  unfold escape
  split
  · next hc => exact .letter (by rw [hc]; rfl) h
  next hquote =>
  split
  · next hc => exact .letter (by rw [hc]; rfl) h
  next hslash =>
  iterate 5
    split
    · next hc => exact .letter (by rw [hc]; rfl) h
  split
  · next hcontrol =>
    have hhigh : Digit.hex? (Digit.lower (c.toNat / 16)) = some (c.toNat / 16) :=
      Digit.hex?_lower ⟨c.toNat / 16, by omega⟩
    have hlow : Digit.hex? (Digit.lower (c.toNat % 16)) = some (c.toNat % 16) :=
      Digit.hex?_lower ⟨c.toNat % 16, by omega⟩
    have hcode : hex4 '0' '0' (Digit.lower (c.toNat / 16)) (Digit.lower (c.toNat % 16))
        = some c.toNat := by
      have hzero : Digit.hex? '0' = some 0 := rfl
      simp only [hex4, hzero, hhigh, hlow, Option.bind_eq_bind, Option.bind_some,
        Option.some.injEq]
      omega
    have hnoLow : isLow c.toNat = false := by
      rw [isLow, Bool.and_eq_false_iff, decide_eq_false_iff_not]
      exact .inl (by omega)
    have hnoHigh : isHigh c.toNat = false := by
      rw [isHigh, Bool.and_eq_false_iff, decide_eq_false_iff_not]
      exact .inl (by omega)
    have hspells := Spells.code hcode hnoLow hnoHigh h
    rwa [Char.ofNat_toNat] at hspells
  · next hplain => exact .plain hquote (not_or.2 ⟨hslash, hplain⟩) h

theorem spells_escape (s : List Char) : Spells (s.flatMap escape) s := by
  induction s with
  | nil => exact .nil
  | cons c s ih => exact spells_escape_cons c ih

/-- **A string is read back**, up to its closing quote. Every character that the grammar forbids in
a string is escaped, and every escape that is written is read as the character. -/
theorem stringTail_escape (s rest : List Char) :
    stringTail (s.flatMap escape ++ '"' :: rest) = some (s, rest) :=
  stringTail_iff.2 ⟨_, spells_escape s, rfl⟩

/-! ## Whole numbers -/

namespace Numeral

theorem le_foldl (n : Nat) (ds : List Nat) : n ≤ ds.foldl (fun n d => n * 10 + d) n := by
  induction ds generalizing n with
  | nil => exact Nat.le_refl n
  | cons d ds ih =>
    have hstep : n ≤ n * 10 + d := by omega
    exact hstep.trans (ih _)

/-- **All digits are taken** of a number that fits. The reader gathers digits as long as the number
stays in 64 bits, and here it never leaves them. -/
theorem gather_of_lt {n : Nat} {ds : List Nat}
    (h : ds.foldl (fun n d => n * 10 + d) n < bound) :
    gather n ds = (ds.foldl (fun n d => n * 10 + d) n, []) := by
  induction ds generalizing n with
  | nil => rfl
  | cons d ds ih =>
    rw [gather, if_pos (Nat.lt_of_le_of_lt (le_foldl _ ds) h)]
    exact ih h

theorem exists_values_toDigits (n : Nat) : ∃ ds : List Nat,
    (Nat.toDigits 10 n).map Digit.decimal? = ds.map some ∧ Digit.number 10 ds = n := by
  refine ⟨(Nat.toDigits 10 n).map fun c => c.toNat - '0'.toNat, ?_, ?_⟩
  · rw [List.map_map]
    refine List.map_congr_left fun c hc => ?_
    have hdigit := Char.isDigit_iff_toNat.1 (Nat.isDigit_of_mem_toDigits (by decide) (by decide) hc)
    exact if_pos hdigit
  · have hvalue : Nat.ofDigitChars 10 (Nat.toDigits 10 n) 0 = n := Nat.ofDigitChars_ten_toDigits
    rw [Nat.ofDigitChars_eq_foldl] at hvalue
    rw [Digit.number, List.foldl_map]
    simpa only [Nat.mul_comm] using hvalue

theorem head?_toDigits {n : Nat} (h : 0 < n) : (Nat.toDigits 10 n).head? ≠ some '0' := by
  induction n using Nat.strong_induction_on with
  | h n ih =>
    rcases Nat.lt_or_ge n 10 with hlt | hge
    · have hall : ∀ n < 10, 0 < n → Nat.digitChar n ≠ '0' := by decide
      rw [Nat.toDigits_of_lt_base hlt]
      exact fun hzero => hall n hlt h (Option.some.inj hzero)
    · -- the first digit is that of a smaller number
      have hfirst := ih (n / 10) (by omega) (by omega)
      obtain ⟨c, cs, hc⟩ := List.exists_cons_of_ne_nil (@Nat.toDigits_ne_nil (n / 10) 10)
      rw [Nat.toDigits_of_base_le (by decide) hge, hc]
      rw [hc] at hfirst
      exact hfirst

/-- The decimal digits of a number are a whole part by the grammar, which allows a zero in front for
zero alone. -/
theorem isWhole_toDigits (n : Nat) : IsWhole (Nat.toDigits 10 n) := by
  obtain ⟨ds, hds, -⟩ := exists_values_toDigits n
  refine ⟨⟨Nat.toDigits_ne_nil, isDigit_of_values hds⟩, fun hzero => ?_⟩
  rcases Nat.eq_zero_or_pos n with rfl | hpos
  · exact Nat.toDigits_zero 10
  · exact absurd hzero (head?_toDigits hpos)

/-- What stands behind a number begins no fraction and no exponent. -/
theorem parts_of_stops (h : Stops rest) :
    fractionPart rest = some (none, rest) ∧ exponentPart rest = some (none, rest) := by
  cases rest with
  | nil => exact ⟨rfl, rfl⟩
  | cons c rest =>
    have hc := stops_cons.1 h
    simp only [goesOn, Bool.or_eq_false_iff, decide_eq_false_iff_not] at hc
    refine ⟨fractionPart.eq_2 _ ?_, ?_⟩
    · rintro cs heq
      exact hc.1.1.2 (List.cons.inj heq).1
    · rw [exponentPart, if_neg (not_or.2 ⟨hc.1.2, hc.2⟩)]

/-- The digits of a number are cut off as its whole part, which is all there is. -/
theorem unsigned_toDigits (negative : Bool) (n : Nat) (h : Stops rest) : ∃ ds,
    unsigned negative (Nat.toDigits 10 n ++ rest) = some (⟨negative, ds, none, none⟩, rest) ∧
      Digit.number 10 ds = n := by
  obtain ⟨ds, hds, hvalue⟩ := exists_values_toDigits n
  have hwhole := wholePart_iff.2 ⟨_, rfl, isWhole_toDigits n, hds, h.noDigit⟩
  obtain ⟨hfraction, hexponent⟩ := parts_of_stops h
  refine ⟨ds, ?_, hvalue⟩
  simp only [unsigned, hwhole, hfraction, hexponent, Option.bind_eq_bind, Option.bind_some]

theorem int?_of_lt (negative : Bool) {ds : List Nat} (h : Digit.number 10 ds < bound) :
    int? ⟨negative, ds, none, none⟩ =
      if negative = true then
        if Digit.number 10 ds ≠ 0 ∧ leastInt ≤ -(Digit.number 10 ds : Int) then
          some (-(Digit.number 10 ds : Int))
        else none
      else some (Digit.number 10 ds : Int) := by
  have hgather : gather 0 ds = (Digit.number 10 ds, []) := gather_of_lt h
  simp only [int?, hgather]

theorem cut_toDigits (n : Nat) (rest : List Char) :
    cut (Nat.toDigits 10 n ++ rest) = unsigned false (Nat.toDigits 10 n ++ rest) := by
  obtain ⟨c, cs, hc⟩ := List.exists_cons_of_ne_nil (@Nat.toDigits_ne_nil n 10)
  have hdigit : IsDigit c := (isWhole_toDigits n).1.2 c (by rw [hc]; exact List.mem_cons_self)
  rw [hc, List.cons_append]
  refine cut_of_ne ?_
  rintro rfl
  exact Bool.false_ne_true hdigit

/-- **A whole number is read back**, where nothing goes on with it. The two ends of the range are
the least signed number and the greatest unsigned one. -/
theorem cut_intChars {n : Int} (hleast : leastInt ≤ n) (hbound : n < intBound) (h : Stops rest) :
    ∃ m, cut (intChars n ++ rest) = some (m, rest) ∧ m.value? = some (.int n) := by
  have hsmall : n.natAbs < bound := by
    have hleast' : -(2 : Int) ^ 63 ≤ n := hleast
    have hbound' : n < 2 ^ 64 := hbound
    show n.natAbs < 2 ^ 64
    omega
  unfold intChars
  split
  · next hneg =>
    obtain ⟨ds, hcut, hds⟩ := unsigned_toDigits true n.natAbs h
    refine ⟨_, hcut, ?_⟩
    have hvalue : -((n.natAbs : Nat) : Int) = n := by omega
    rw [value?, int?_of_lt true (hds ▸ hsmall), hds, hvalue, if_pos rfl,
      if_pos ⟨by omega, hleast⟩]
  · next hpos =>
    obtain ⟨ds, hcut, hds⟩ := unsigned_toDigits false n.natAbs h
    refine ⟨_, (cut_toDigits n.natAbs rest).trans hcut, ?_⟩
    have hvalue : ((n.natAbs : Nat) : Int) = n := by omega
    rw [value?, int?_of_lt false (hds ▸ hsmall), hds, hvalue, if_neg Bool.false_ne_true]

end Numeral

/-! ## Values -/

/-- **A value that can be read back**, if arrays and objects may nest to a depth: its numbers are
whole and in range, and its objects are in order. -/
inductive Legible : Nat → Json → Prop where
  | null {depth : Nat} : Legible depth .null
  | bool {depth : Nat} (b : Bool) : Legible depth (.bool b)
  | int {depth : Nat} {n : Int} (least : leastInt ≤ n) (bound : n < intBound) :
      Legible depth (.int n)
  | str {depth : Nat} (s : String) : Legible depth (.str s)
  | arr {depth : Nat} {items : List Json} (h : ∀ x ∈ items, Legible depth x) :
      Legible (depth + 1) (.arr items)
  | obj {depth : Nat} {members : List (String × Json)} (sorted : Keyed.Sorted members)
      (h : ∀ e ∈ members, Legible depth e.2) : Legible (depth + 1) (.obj members)

variable {fuel depth : Nat} {v : Json}

/-- No text of a value begins with a blank. -/
theorem Legible.head (h : Legible depth v) : ∃ c cs, v.chars = c :: cs ∧ isSpace c = false := by
  cases h with
  | @int _ n least bound =>
    show ∃ c cs, intChars n = _ ∧ _
    unfold intChars
    split
    · exact ⟨'-', _, rfl, rfl⟩
    · obtain ⟨c, cs, hc⟩ := List.exists_cons_of_ne_nil (@Nat.toDigits_ne_nil n.natAbs 10)
      have hdigit : IsDigit c :=
        (Numeral.isWhole_toDigits n.natAbs).1.2 c (by rw [hc]; exact List.mem_cons_self)
      refine ⟨c, cs, hc, Bool.eq_false_iff.2 fun hspace => ?_⟩
      rcases eq_of_isSpace hspace with rfl | rfl | rfl | rfl <;> exact Bool.false_ne_true hdigit
  | bool b => cases b <;> exact ⟨_, _, rfl, rfl⟩
  | null | str | arr | obj => exact ⟨_, _, rfl, rfl⟩

/-- **A value that is read back** from its text, with what stands behind it left, if there is fuel
enough and the text behind does not go on with a number. -/
def ReadBack (depth : Nat) (v : Json) : Prop :=
  ∀ ⦃fuel rest⦄, Stops rest → 2 * v.chars.length ≤ fuel →
    value fuel depth (v.chars ++ rest) = some (v, rest)

/-- A value is read back if it is with at least one unit of fuel. -/
theorem readBack_of_succ (hne : v.chars ≠ [])
    (h : ∀ ⦃fuel rest⦄, Stops rest → 2 * v.chars.length ≤ fuel + 1 →
      value (fuel + 1) depth (v.chars ++ rest) = some (v, rest)) : ReadBack depth v := by
  intro fuel rest hstop hfuel
  have hlen : 0 < v.chars.length := List.length_pos_iff.2 hne
  obtain ⟨fuel, rfl⟩ := Nat.exists_eq_succ_of_ne_zero (show fuel ≠ 0 by omega)
  exact h hstop hfuel

/-- A value does not begin with a blank when it is written, so none is lost when blanks are dropped
in front of it. -/
theorem Legible.skip (h : Legible depth v) (more : List Char) :
    skip (v.chars ++ more) = v.chars ++ more := by
  obtain ⟨c, cs, hchars, hc⟩ := h.head
  rw [hchars, List.cons_append, skip_cons hc]

theorem itemChars_cons {xs : List Json} (hxs : xs ≠ []) :
    itemChars (v :: xs) = v.chars ++ ',' :: itemChars xs := by
  obtain ⟨x, xs, rfl⟩ := List.exists_cons_of_ne_nil hxs
  rw [itemChars]
  exact fun h => nomatch h

theorem skip_itemChars {xs : List Json} (hxs : xs ≠ []) (h : ∀ x ∈ xs, Legible depth x)
    (more : List Char) : skip (itemChars xs ++ more) = itemChars xs ++ more := by
  obtain ⟨x, xs, rfl⟩ := List.exists_cons_of_ne_nil hxs
  have hx := h x List.mem_cons_self
  cases xs with
  | nil => exact hx.skip more
  | cons y xs =>
    rw [itemChars_cons (List.cons_ne_nil y xs), List.append_assoc]
    exact hx.skip _

/-- **The items of an array are read back**, in front of the bracket that closes it. The induction
is on the items, and fuel that is enough for their text is enough for each of them. -/
theorem elements_itemChars {xs : List Json} (hxs : xs ≠ []) (hlegible : ∀ x ∈ xs, Legible depth x)
    (h : ∀ x ∈ xs, ReadBack depth x) (hfuel : 2 * (itemChars xs).length + 1 ≤ fuel) :
    elements fuel depth (itemChars xs ++ ']' :: rest) = some (xs, rest) := by
  induction xs generalizing fuel with
  | nil => exact absurd rfl hxs
  | cons x xs ih =>
    obtain ⟨fuel, rfl⟩ := Nat.exists_eq_succ_of_ne_zero (show fuel ≠ 0 by omega)
    obtain ⟨hx, hrest⟩ := List.forall_mem_cons.1 h
    by_cases hnil : xs = []
    · subst hnil
      have hchars : itemChars [x] = x.chars := rfl
      rw [hchars] at hfuel ⊢
      have hv := hx (stops_cons.2 rfl : Stops (']' :: rest))
        (show 2 * x.chars.length ≤ fuel by omega)
      exact elements_iff.2 ⟨x, _, hv, .inl ⟨skip_cons rfl _, rfl⟩⟩
    · rw [itemChars_cons hnil] at hfuel ⊢
      rw [List.length_append, List.length_cons] at hfuel
      rw [List.append_assoc, List.cons_append]
      have hv := hx (stops_cons.2 rfl : Stops (',' :: (itemChars xs ++ ']' :: rest)))
        (show 2 * x.chars.length ≤ fuel by omega)
      have hlegible' := (List.forall_mem_cons.1 hlegible).2
      refine elements_iff.2 ⟨x, _, hv, .inr ⟨_, xs, skip_cons rfl _, ?_, rfl⟩⟩
      rw [skip_itemChars hnil hlegible']
      exact ih hnil hlegible' hrest (by omega)

theorem memberChars_cons {k : String} {ms : List (String × Json)} (hms : ms ≠ []) :
    memberChars ((k, v) :: ms) = stringChars k ++ ':' :: v.chars ++ ',' :: memberChars ms := by
  obtain ⟨e, ms, rfl⟩ := List.exists_cons_of_ne_nil hms
  rw [memberChars]
  exact fun h => nomatch h

theorem skip_memberChars {ms : List (String × Json)} (hms : ms ≠ []) (more : List Char) :
    skip (memberChars ms ++ more) = memberChars ms ++ more := by
  obtain ⟨⟨k, v⟩, ms, rfl⟩ := List.exists_cons_of_ne_nil hms
  cases ms with
  | nil => exact skip_cons rfl _
  | cons e ms =>
    rw [memberChars_cons (List.cons_ne_nil e ms)]
    exact skip_cons rfl _

theorem stringChars_append (s : String) (more : List Char) :
    stringChars s ++ more = '"' :: (s.toList.flatMap escape ++ '"' :: more) := by
  simp only [stringChars, List.cons_append, List.append_assoc, List.nil_append]

/-- **The members of an object are read back**, in the order in which they were written. -/
theorem members_memberChars {ms : List (String × Json)} (hms : ms ≠ [])
    (hlegible : ∀ e ∈ ms, Legible depth e.2) (h : ∀ e ∈ ms, ReadBack depth e.2)
    (hfuel : 2 * (memberChars ms).length + 1 ≤ fuel) :
    members fuel depth (memberChars ms ++ '\x7d' :: rest) = some (ms, rest) := by
  induction ms generalizing fuel with
  | nil => exact absurd rfl hms
  | cons e ms ih =>
    obtain ⟨k, v⟩ := e
    obtain ⟨fuel, rfl⟩ := Nat.exists_eq_succ_of_ne_zero (show fuel ≠ 0 by omega)
    obtain ⟨hv, hrest⟩ := List.forall_mem_cons.1 h
    obtain ⟨hvlegible, hlegible'⟩ := List.forall_mem_cons.1 hlegible
    have hv : ReadBack depth v := hv
    have hvlegible : Legible depth v := hvlegible
    -- behind the key and the colon nothing is skipped
    have hread : ∀ more, Stops more → 2 * v.chars.length ≤ fuel →
        value fuel depth (skip (v.chars ++ more)) = some (v, more) := by
      intro more hstop hfuel
      rw [hvlegible.skip]
      exact hv hstop hfuel
    by_cases hnil : ms = []
    · subst hnil
      have hchars : memberChars [(k, v)] = stringChars k ++ ':' :: v.chars := rfl
      rw [hchars, List.length_append, List.length_cons] at hfuel
      rw [hchars, List.append_assoc, List.cons_append, stringChars_append]
      refine members_iff.2 ⟨_, k.toList, _, _, v, '\x7d' :: rest, rfl, stringTail_escape _ _,
        skip_cons rfl _, hread _ (stops_cons.2 rfl) (by omega), .inl ⟨skip_cons rfl _, ?_⟩⟩
      rw [String.ofList_toList]
    · have hchars : memberChars ((k, v) :: ms) ++ '\x7d' :: rest = '"' ::
          (k.toList.flatMap escape ++ '"' ::
            (':' :: (v.chars ++ ',' :: (memberChars ms ++ '\x7d' :: rest)))) := by
        rw [memberChars_cons hnil, List.append_assoc, List.append_assoc, stringChars_append]
        rfl
      rw [memberChars_cons hnil] at hfuel
      simp only [List.length_append, List.length_cons] at hfuel
      rw [hchars]
      refine members_iff.2 ⟨_, k.toList, _, _, v, ',' :: (memberChars ms ++ '\x7d' :: rest), rfl,
        stringTail_escape _ _, skip_cons rfl _, hread _ (stops_cons.2 rfl) (by omega),
        .inr ⟨_, ms, skip_cons rfl _, ?_, ?_⟩⟩
      · rw [skip_memberChars hnil]
        exact ih hnil hlegible' hrest (by omega)
      · rw [String.ofList_toList]

/-- **An array is read back** if its items are. An empty one is written and read without looking at
items at all. -/
theorem value_arr_chars {xs : List Json} (hlegible : ∀ x ∈ xs, Legible depth x)
    (h : ∀ x ∈ xs, ReadBack depth x) (hfuel : 2 * (Json.arr xs).chars.length ≤ fuel + 1) :
    value (fuel + 1) (depth + 1) ((Json.arr xs).chars ++ rest) = some (.arr xs, rest) := by
  have hchars : (Json.arr xs).chars = '[' :: (itemChars xs ++ [']']) := rfl
  rw [hchars, List.length_cons, List.length_append, List.length_singleton] at hfuel
  rw [hchars, List.cons_append, List.append_assoc, List.singleton_append]
  refine value_iff.2 ?_
  by_cases hnil : xs = []
  · subst hnil
    exact .noItems (Nat.succ_pos depth) (skip_cons rfl _)
  · refine .items (Nat.succ_pos depth) ?_
    rw [skip_itemChars hnil hlegible]
    exact elements_itemChars hnil hlegible h (by omega)

/-- **An object is read back in order** if its members are, whatever order they were written in. -/
theorem value_obj_chars {ms : List (String × Json)} (hlegible : ∀ e ∈ ms, Legible depth e.2)
    (h : ∀ e ∈ ms, ReadBack depth e.2) (hfuel : 2 * (Json.obj ms).chars.length ≤ fuel + 1) :
    value (fuel + 1) (depth + 1) ((Json.obj ms).chars ++ rest) = some (ofMembers ms, rest) := by
  have hchars : (Json.obj ms).chars = '\x7b' :: (memberChars ms ++ ['\x7d']) := rfl
  rw [hchars, List.length_cons, List.length_append, List.length_singleton] at hfuel
  rw [hchars, List.cons_append, List.append_assoc, List.singleton_append]
  refine value_iff.2 ?_
  by_cases hnil : ms = []
  · subst hnil
    exact .noMembers (Nat.succ_pos depth) (skip_cons rfl _)
  · refine .members (Nat.succ_pos depth) ?_
    rw [skip_memberChars hnil]
    exact members_memberChars hnil hlegible h (by omega)

/-- **A legible value is read back**, wherever it stands. The induction is on why it is legible,
which hands down the depth along with the value. -/
theorem Legible.readBack (h : Legible depth v) : ReadBack depth v := by
  induction h with
  | null => exact readBack_of_succ (List.cons_ne_nil _ _) fun fuel rest _ _ => rfl
  | bool b => cases b <;> exact readBack_of_succ (List.cons_ne_nil _ _) fun fuel rest _ _ => rfl
  | @int depth n least bound =>
    obtain ⟨c, cs, hchars, -⟩ := (Legible.int least bound : Legible depth _).head
    refine readBack_of_succ (hchars ▸ List.cons_ne_nil c cs) fun fuel rest hstop _ => ?_
    obtain ⟨m, hcut, hvalue⟩ := Numeral.cut_intChars least bound hstop
    exact value_iff.2 (.number hcut hvalue)
  | @str depth s =>
    refine readBack_of_succ (List.cons_ne_nil _ _) fun fuel rest _ _ => ?_
    have hread : ReadsAs fuel depth _ _ rest := .string (stringTail_escape s.toList rest)
    rw [String.ofList_toList] at hread
    rw [chars, stringChars_append]
    exact value_iff.2 hread
  | arr h ih =>
    exact readBack_of_succ (List.cons_ne_nil _ _) fun fuel rest _ hfuel =>
      value_arr_chars h ih hfuel
  | @obj depth members sorted h ih =>
    refine readBack_of_succ (List.cons_ne_nil _ _) fun fuel rest _ hfuel => ?_
    -- members in order are all that is made of them
    have hsorted : ofMembers members = .obj members :=
      congrArg Json.obj
        (Keyed.ofEntries_eq_of_find? (Keyed.nodup_of_sorted sorted) sorted fun _ => rfl)
    rw [value_obj_chars h ih hfuel, hsorted]

/-! ## Documents -/

/-- A document is a value with nothing but blanks around it. A value that is written has none at
all, and fuel is given by the length of the text. -/
theorem ofChars?_of_value (hskip : skip cs = cs)
    (h : value (2 * cs.length + 2) maxDepth (cs ++ []) = some (v, [])) : ofChars? cs = some v := by
  rw [List.append_nil] at h
  rw [ofChars?, hskip, h]
  rfl

/-- **An object is read back in order**, whatever order its members were written in. Its values have
to be legible; the order of its own members is what reading changes. -/
theorem ofText?_compact_obj {ms : List (String × Json)}
    (h : ∀ e ∈ ms, Legible (maxDepth - 1) e.2) :
    ofText? (Json.obj ms).compact = some (ofMembers ms) := by
  rw [ofText?, compact, String.toList_ofList]
  exact ofChars?_of_value (skip_cons rfl _)
    (value_obj_chars h (fun e he => (h e he).readBack) (Nat.le_add_right _ 2))

end Ingest.Json
