import Ingest.Proofs.Json.Lexeme

/-!
# The grammar of JSON

`Derives` builds the texts of values up from their parts, and with them those of items and of
members, which stand between the brackets. Nothing limits how deep they nest. The reader that
passes over a value accepts the values of the grammar and nothing else (`derives_of_pass`,
`pass_of_derives`).

The two directions go along different lines. What is passed over is of the grammar by induction on
the fuel, since that is how the readers call one another. What is of the grammar is passed over by
induction on how it is built, and twice the length of a text is fuel enough for it.
-/

namespace Ingest.Json

variable {cs rest t w : List Char} {c : Char}

/-! ## Values -/

/-- What a text may be a part of: a value, the items of an array or the members of an object. -/
inductive Part where
  | value
  | items
  | members

/-- The words of the grammar. -/
def words : List (List Char) := ["true".toList, "false".toList, "null".toList]

/-- **The grammar of values**, of items from the first one on, and of members from the first one
on. -/
inductive Derives : Part → List Char → Prop where
  | string {t : List Char} (h : IsString t) : Derives .value ('"' :: (t ++ ['"']))
  | number {t : List Char} (h : IsNumber t) : Derives .value t
  | word {t : List Char} (h : t ∈ words) : Derives .value t
  | noItems {w : List Char} (hw : Blank w) : Derives .value ('[' :: (w ++ [']']))
  | array {w t : List Char} (hw : Blank w) (h : Derives .items t) :
      Derives .value ('[' :: (w ++ (t ++ [']'])))
  | noMembers {w : List Char} (hw : Blank w) : Derives .value ('\x7b' :: (w ++ ['\x7d']))
  | object {w t : List Char} (hw : Blank w) (h : Derives .members t) :
      Derives .value ('\x7b' :: (w ++ (t ++ ['\x7d'])))
  | item {t w : List Char} (h : Derives .value t) (hw : Blank w) : Derives .items (t ++ w)
  | items {t w₁ w₂ ts : List Char} (h : Derives .value t) (h₁ : Blank w₁) (h₂ : Blank w₂)
      (rest : Derives .items ts) : Derives .items (t ++ (w₁ ++ ',' :: (w₂ ++ ts)))
  | member {k w₁ w₂ t w₃ : List Char} (hk : IsString k) (h₁ : Blank w₁) (h₂ : Blank w₂)
      (h : Derives .value t) (h₃ : Blank w₃) :
      Derives .members ('"' :: (k ++ '"' :: (w₁ ++ ':' :: (w₂ ++ (t ++ w₃)))))
  | members {k w₁ w₂ t w₃ w₄ ts : List Char} (hk : IsString k) (h₁ : Blank w₁) (h₂ : Blank w₂)
      (h : Derives .value t) (h₃ : Blank w₃) (h₄ : Blank w₄) (rest : Derives .members ts) :
      Derives .members
        ('"' :: (k ++ '"' :: (w₁ ++ ':' :: (w₂ ++ (t ++ (w₃ ++ ',' :: (w₄ ++ ts)))))))

namespace Part

/-- What ends a part. A value needs nothing to end it, items and members need their bracket. -/
def close : Part → List Char
  | .value => []
  | .items => [']']
  | .members => ['\x7d']

/-- The reader that passes over a part and what ends it. -/
def skim : Part → Nat → List Char → Option (List Char)
  | .value => Json.skim
  | .items => skimElements
  | .members => skimMembers

/-- The fuel that the reader of a part needs beyond twice its length. The bracket that ends items or
members is not part of their text. -/
def extra : Part → Nat
  | .value => 0
  | _ => 1

end Part

/-- **The first character of a part** is no blank. So blanks in front of a part are dropped, and
nothing of the part is. -/
theorem Derives.head {p : Part} (h : Derives p t) :
    ∃ c cs, t = c :: cs ∧ isSpace c = false := by
  induction h with
  | number h =>
    cases h with
    | negative h => exact ⟨'-', _, rfl, rfl⟩
    | positive h =>
      obtain ⟨c, cs, rfl, hc⟩ := Numeral.exists_digit_of_isUnsigned h
      refine ⟨c, cs, rfl, Bool.eq_false_iff.2 fun hspace => ?_⟩
      rcases eq_of_isSpace hspace with rfl | rfl | rfl | rfl <;> exact Bool.false_ne_true hc
  | word h =>
    simp only [words, List.mem_cons, List.not_mem_nil, or_false] at h
    rcases h with rfl | rfl | rfl <;> exact ⟨_, _, rfl, rfl⟩
  | item h hw ih =>
    obtain ⟨c, cs, rfl, hc⟩ := ih
    exact ⟨c, _, rfl, hc⟩
  | items h h₁ h₂ rest ih =>
    obtain ⟨c, cs, rfl, hc⟩ := ih
    exact ⟨c, _, rfl, hc⟩
  | string | noItems | array | noMembers | object | member | members => exact ⟨_, _, rfl, rfl⟩

/-! ## Passing over values -/

variable {fuel : Nat}

theorem skim_of_cut {n : Numeral} (h : Numeral.cut cs = some (n, rest)) :
    skim (fuel + 1) cs = some rest := by
  unfold skim
  split
  case h_7 => rw [h, Option.map_some]
  all_goals exact nomatch h

/-- An array is empty, or it has items up to its closing bracket. -/
theorem skim_array_iff : skim (fuel + 1) ('[' :: cs) = some rest ↔
    skip cs = ']' :: rest ∨ skimElements fuel (skip cs) = some rest := by
  have hbracket : ∀ cs, skimElements fuel (']' :: cs) = none := by
    intro cs
    rcases fuel with - | - | fuel <;> rfl
  rw [skim]
  split
  · next rest' hskip =>
    rw [hskip, hbracket]
    simp only [Option.some.injEq, List.cons.injEq, true_and, reduceCtorEq, or_false]
  · next hskip => rw [or_iff_right (hskip rest)]

/-- An object is empty, or it has members up to its closing brace. -/
theorem skim_object_iff : skim (fuel + 1) ('\x7b' :: cs) = some rest ↔
    skip cs = '\x7d' :: rest ∨ skimMembers fuel (skip cs) = some rest := by
  have hbrace : ∀ cs, skimMembers fuel ('\x7d' :: cs) = none := by
    intro cs
    cases fuel <;> rfl
  rw [skim]
  split
  · next rest' hskip =>
    rw [hskip, hbrace]
    simp only [Option.some.injEq, List.cons.injEq, true_and, reduceCtorEq, or_false]
  · next hskip => rw [or_iff_right (hskip rest)]

/-- Items are a value, and behind it the closing bracket or further items. -/
theorem skimElements_iff : skimElements (fuel + 1) cs = some rest ↔
    ∃ cs₁, skim fuel cs = some cs₁ ∧ (skip cs₁ = ']' :: rest ∨
      ∃ cs₂, skip cs₁ = ',' :: cs₂ ∧ skimElements fuel (skip cs₂) = some rest) := by
  rw [skimElements]
  constructor
  · intro h
    split at h
    · exact nomatch h
    next cs₁ hv =>
    split at h
    · next rest' hskip =>
      cases h
      exact ⟨cs₁, hv, .inl hskip⟩
    · next cs₂ hskip => exact ⟨cs₁, hv, .inr ⟨cs₂, hskip, h⟩⟩
    · exact nomatch h
  · rintro ⟨cs₁, hv, hskip | ⟨cs₂, hskip, hvs⟩⟩
    · simp only [hv, hskip]
    · simp only [hv, hskip, hvs]

/-- Members are a key and its value, and behind them the closing brace or further members. -/
theorem skimMembers_iff : skimMembers (fuel + 1) cs = some rest ↔
    ∃ cs₀ cs₁ cs₂ cs₃, cs = '"' :: cs₀ ∧ skimString cs₀ = some cs₁ ∧ skip cs₁ = ':' :: cs₂ ∧
      skim fuel (skip cs₂) = some cs₃ ∧ (skip cs₃ = '\x7d' :: rest ∨
        ∃ cs₄, skip cs₃ = ',' :: cs₄ ∧ skimMembers fuel (skip cs₄) = some rest) := by
  constructor
  · intro h
    unfold skimMembers at h
    split at h
    · next cs₀ =>
      split at h
      · exact nomatch h
      next cs₁ hk =>
      split at h
      · next cs₂ hcolon =>
        split at h
        · exact nomatch h
        next cs₃ hv =>
        refine ⟨cs₀, cs₁, cs₂, cs₃, rfl, hk, hcolon, hv, ?_⟩
        split at h
        · next rest' hskip =>
          cases h
          exact .inl hskip
        · next cs₄ hskip => exact .inr ⟨cs₄, hskip, h⟩
        · exact nomatch h
      · exact nomatch h
    · exact nomatch h
  · rintro ⟨cs₀, cs₁, cs₂, cs₃, rfl, hk, hcolon, hv, hskip | ⟨cs₄, hskip, hms⟩⟩
    · simp only [skimMembers, hk, hcolon, hv, hskip]
    · simp only [skimMembers, hk, hcolon, hv, hskip, hms]

/-- What a reader with some fuel passes over is of the grammar, for all three readers at once, with
what ends the part behind it. -/
def Sound (fuel : Nat) : Prop := ∀ ⦃p : Part⦄ ⦃cs rest⦄, p.skim fuel cs = some rest →
  ∃ t, Derives p t ∧ cs = t ++ (p.close ++ rest)

/-- What is passed over as a value is one of the grammar. There is one case for each kind of value,
and the hypothesis speaks for what is inside of brackets. -/
theorem Sound.value (hsound : Sound fuel) (h : skim (fuel + 1) cs = some rest) :
    ∃ t, Derives .value t ∧ cs = t ++ rest := by
  unfold skim at h
  split at h
  · obtain ⟨t, ht, rfl⟩ := skimString_iff.1 h
    exact ⟨_, .string ht, by simp⟩
  · next cs =>
    have h : skim (fuel + 1) ('[' :: cs) = some rest := by rwa [skim]
    rcases skim_array_iff.1 h with hskip | hitems
    · obtain ⟨w, hw, rfl⟩ := exists_skip hskip
      exact ⟨_, .noItems hw, by simp⟩
    · obtain ⟨t, ht, hcs⟩ := hsound (p := .items) hitems
      obtain ⟨w, hw, rfl⟩ := exists_skip hcs
      exact ⟨_, .array hw ht, by simp [Part.close]⟩
  · next cs =>
    have h : skim (fuel + 1) ('\x7b' :: cs) = some rest := by rwa [skim]
    rcases skim_object_iff.1 h with hskip | hmembers
    · obtain ⟨w, hw, rfl⟩ := exists_skip hskip
      exact ⟨_, .noMembers hw, by simp⟩
    · obtain ⟨t, ht, hcs⟩ := hsound (p := .members) hmembers
      obtain ⟨w, hw, rfl⟩ := exists_skip hcs
      exact ⟨_, .object hw ht, by simp [Part.close]⟩
  · exact ⟨"true".toList, .word (by decide), congrArg _ (word_iff.1 h)⟩
  · exact ⟨"false".toList, .word (by decide), congrArg _ (word_iff.1 h)⟩
  · exact ⟨"null".toList, .word (by decide), congrArg _ (word_iff.1 h)⟩
  · obtain ⟨⟨n, rest'⟩, hcut, rfl⟩ := Option.map_eq_some_iff.1 h
    obtain ⟨t, ht, hcs⟩ := Numeral.isNumber_of_cut hcut
    exact ⟨t, .number ht, hcs⟩

/-- The same for the items of an array: one item with blanks behind it and a bracket, or an item, a
comma and more items. -/
theorem Sound.items (hsound : Sound fuel) (h : skimElements (fuel + 1) cs = some rest) :
    ∃ t, Derives .items t ∧ cs = t ++ ']' :: rest := by
  obtain ⟨cs₁, hv, hbehind⟩ := skimElements_iff.1 h
  obtain ⟨t, ht, rfl⟩ := hsound (p := .value) hv
  rcases hbehind with hskip | ⟨cs₂, hskip, hvs⟩
  · obtain ⟨w, hw, rfl⟩ := exists_skip hskip
    exact ⟨_, .item ht hw, by simp [Part.close]⟩
  · obtain ⟨w₁, h₁, rfl⟩ := exists_skip hskip
    obtain ⟨ts, hts, hcs⟩ := hsound (p := .items) hvs
    obtain ⟨w₂, h₂, rfl⟩ := exists_skip hcs
    exact ⟨_, .items ht h₁ h₂ hts, by simp [Part.close]⟩

/-- The same for members. A name is a string of the grammar, with a colon and perhaps blanks before
its value. -/
theorem Sound.members (hsound : Sound fuel) (h : skimMembers (fuel + 1) cs = some rest) :
    ∃ t, Derives .members t ∧ cs = t ++ '\x7d' :: rest := by
  obtain ⟨cs₀, cs₁, cs₂, cs₃, rfl, hkey, hcolon, hv, hbehind⟩ := skimMembers_iff.1 h
  obtain ⟨k, hk, rfl⟩ := skimString_iff.1 hkey
  obtain ⟨w₁, h₁, rfl⟩ := exists_skip hcolon
  obtain ⟨t, ht, hcs⟩ := hsound (p := .value) hv
  obtain ⟨w₂, h₂, rfl⟩ := exists_skip hcs
  rcases hbehind with hskip | ⟨cs₄, hskip, hms⟩
  · obtain ⟨w₃, h₃, rfl⟩ := exists_skip hskip
    exact ⟨_, .member hk h₁ h₂ ht h₃, by simp [Part.close]⟩
  · obtain ⟨w₃, h₃, rfl⟩ := exists_skip hskip
    obtain ⟨ts, hts, hcs'⟩ := hsound (p := .members) hms
    obtain ⟨w₄, h₄, rfl⟩ := exists_skip hcs'
    exact ⟨_, .members hk h₁ h₂ ht h₃ h₄ hts, by simp [Part.close]⟩

/-- **What is passed over is of the grammar.** The induction is on the fuel: each of the readers
calls the others with one unit less. -/
theorem sound (fuel : Nat) : Sound fuel := by
  induction fuel with
  | zero =>
    intro p cs rest h
    cases p <;> exact nomatch h
  | succ fuel ih =>
    intro p cs rest h
    cases p with
    | value => exact ih.value h
    | items => exact ih.items h
    | members => exact ih.members h

/-! ## All of the grammar -/

/-- Blanks go on with no number, if what stands behind them does not. -/
theorem stops_blank (hw : Blank w) (hstop : Stops rest) : Stops (w ++ rest) := by
  cases w with
  | nil => exact hstop
  | cons c w =>
    refine stops_cons.2 ?_
    rcases eq_of_isSpace (hw c (List.mem_cons_self ..)) with rfl | rfl | rfl | rfl <;> decide

theorem skip_sign (hw : Blank w) (hc : isSpace c = false) (more : List Char) :
    skip (w ++ c :: more) = c :: more :=
  (skip_eq_cons_iff hc).2 ⟨w, hw, rfl⟩

/-- No part of a text begins with a blank. Blanks in front of a part are dropped up to its
beginning, and no further. -/
theorem skip_part {p : Part} (ht : Derives p t) (hw : Blank w) (more : List Char) :
    skip (w ++ (t ++ more)) = t ++ more := by
  obtain ⟨c, cs, rfl, hc⟩ := ht.head
  exact skip_sign hw hc _

/-- **A part that is passed over**, if nothing goes on with it and there is fuel enough. -/
def Passed (p : Part) (t : List Char) : Prop :=
  ∀ ⦃fuel rest⦄, Stops (p.close ++ rest) → 2 * t.length + p.extra ≤ fuel →
    p.skim fuel (t ++ (p.close ++ rest)) = some rest

theorem Passed.value (h : Passed .value t) (hstop : Stops rest) (hfuel : 2 * t.length ≤ fuel) :
    skim fuel (t ++ rest) = some rest :=
  h hstop hfuel

theorem Passed.items (h : Passed .items t) (hfuel : 2 * t.length + 1 ≤ fuel) :
    skimElements fuel (t ++ ']' :: rest) = some rest :=
  h (stops_cons.2 rfl) hfuel

theorem Passed.members (h : Passed .members t) (hfuel : 2 * t.length + 1 ≤ fuel) :
    skimMembers fuel (t ++ '\x7d' :: rest) = some rest :=
  h (stops_cons.2 rfl) hfuel

/-- For a single value only a reader with some fuel has to be looked at: a value is not empty, so
fuel enough for it is more than none. -/
theorem passed_value (hne : t ≠ []) (h : ∀ ⦃fuel rest⦄, Stops rest → 2 * t.length ≤ fuel + 1 →
    skim (fuel + 1) (t ++ rest) = some rest) : Passed .value t := by
  intro fuel rest hstop hfuel
  have hlen : 0 < t.length := List.length_pos_iff.2 hne
  have hfuel : 2 * t.length ≤ fuel := hfuel
  obtain ⟨fuel, rfl⟩ := Nat.exists_eq_succ_of_ne_zero (show fuel ≠ 0 by omega)
  exact h hstop hfuel

/-- The other direction begins here, one lemma for each rule of the grammar. What is written by a
rule is passed over if its parts are. -/
theorem passed_array (hw : Blank w) (ht : Derives .items t) (h : Passed .items t) :
    Passed .value ('[' :: (w ++ (t ++ [']']))) := by
  refine passed_value (List.cons_ne_nil _ _) fun fuel rest _ hfuel => ?_
  have hcs : w ++ (t ++ [']']) ++ rest = w ++ (t ++ ']' :: rest) := by simp
  simp only [List.length_cons, List.length_append, List.length_nil] at hfuel
  rw [List.cons_append, skim_array_iff, hcs, skip_part ht hw]
  exact .inr (h.items (by omega))

theorem passed_object (hw : Blank w) (ht : Derives .members t) (h : Passed .members t) :
    Passed .value ('\x7b' :: (w ++ (t ++ ['\x7d']))) := by
  refine passed_value (List.cons_ne_nil _ _) fun fuel rest _ hfuel => ?_
  have hcs : w ++ (t ++ ['\x7d']) ++ rest = w ++ (t ++ '\x7d' :: rest) := by simp
  simp only [List.length_cons, List.length_append, List.length_nil] at hfuel
  rw [List.cons_append, skim_object_iff, hcs, skip_part ht hw]
  exact .inr (h.members (by omega))

theorem passed_item (h : Passed .value t) (hw : Blank w) : Passed .items (t ++ w) := by
  intro fuel rest _ hfuel
  simp only [List.length_append, Part.extra] at hfuel
  obtain ⟨fuel, rfl⟩ := Nat.exists_eq_succ_of_ne_zero (show fuel ≠ 0 by omega)
  refine skimElements_iff.2 ⟨w ++ ']' :: rest, ?_, .inl (skip_sign hw rfl _)⟩
  rw [List.append_assoc]
  exact h.value (stops_blank hw (stops_cons.2 rfl)) (by omega)

/-- An item is followed by a comma, which ends a number if the item is one. The fuel is counted in
characters, twice, so that the items behind still have enough. -/
theorem passed_items {w₁ w₂ ts : List Char} (h : Passed .value t) (h₁ : Blank w₁) (h₂ : Blank w₂)
    (hts : Derives .items ts) (hrest : Passed .items ts) :
    Passed .items (t ++ (w₁ ++ ',' :: (w₂ ++ ts))) := by
  intro fuel rest _ hfuel
  simp only [List.length_append, List.length_cons, Part.extra] at hfuel
  obtain ⟨fuel, rfl⟩ := Nat.exists_eq_succ_of_ne_zero (show fuel ≠ 0 by omega)
  have hcs : t ++ (w₁ ++ ',' :: (w₂ ++ ts)) ++ (']' :: rest)
      = t ++ (w₁ ++ ',' :: (w₂ ++ (ts ++ ']' :: rest))) := by simp
  refine skimElements_iff.2 ⟨w₁ ++ ',' :: (w₂ ++ (ts ++ ']' :: rest)), ?_,
    .inr ⟨w₂ ++ (ts ++ ']' :: rest), skip_sign h₁ rfl _, ?_⟩⟩
  · show skim fuel (t ++ (w₁ ++ ',' :: (w₂ ++ ts)) ++ (']' :: rest)) = _
    rw [hcs]
    exact h.value (stops_blank h₁ (stops_cons.2 rfl)) (by omega)
  · rw [skip_part hts h₂]
    exact hrest.items (by omega)

theorem passed_member {k w₁ w₂ w₃ : List Char} (hk : IsString k) (h₁ : Blank w₁) (h₂ : Blank w₂)
    (ht : Derives .value t) (h : Passed .value t) (h₃ : Blank w₃) :
    Passed .members ('"' :: (k ++ '"' :: (w₁ ++ ':' :: (w₂ ++ (t ++ w₃))))) := by
  intro fuel rest _ hfuel
  simp only [List.length_append, List.length_cons, Part.extra] at hfuel
  obtain ⟨fuel, rfl⟩ := Nat.exists_eq_succ_of_ne_zero (show fuel ≠ 0 by omega)
  refine skimMembers_iff.2 ⟨_, w₁ ++ ':' :: (w₂ ++ (t ++ (w₃ ++ '\x7d' :: rest))), _,
    w₃ ++ '\x7d' :: rest, rfl, skimString_iff.2 ⟨k, hk, by simp [Part.close]⟩,
    skip_sign h₁ rfl _, ?_, .inl (skip_sign h₃ rfl _)⟩
  rw [skip_part ht h₂]
  exact h.value (stops_blank h₃ (stops_cons.2 rfl)) (by omega)

/-- Members are like items, with a name and a colon for each. A name is a string and takes no
fuel. -/
theorem passed_members {k w₁ w₂ w₃ w₄ ts : List Char} (hk : IsString k) (h₁ : Blank w₁)
    (h₂ : Blank w₂) (ht : Derives .value t) (h : Passed .value t) (h₃ : Blank w₃) (h₄ : Blank w₄)
    (hts : Derives .members ts) (hrest : Passed .members ts) : Passed .members
      ('"' :: (k ++ '"' :: (w₁ ++ ':' :: (w₂ ++ (t ++ (w₃ ++ ',' :: (w₄ ++ ts))))))) := by
  intro fuel rest _ hfuel
  simp only [List.length_append, List.length_cons, Part.extra] at hfuel
  obtain ⟨fuel, rfl⟩ := Nat.exists_eq_succ_of_ne_zero (show fuel ≠ 0 by omega)
  refine skimMembers_iff.2 ⟨_, w₁ ++ ':' :: (w₂ ++ (t ++ (w₃ ++ ',' :: (w₄ ++ (ts ++
    '\x7d' :: rest))))), _, w₃ ++ ',' :: (w₄ ++ (ts ++ '\x7d' :: rest)), rfl,
    skimString_iff.2 ⟨k, hk, by simp [Part.close]⟩, skip_sign h₁ rfl _, ?_,
    .inr ⟨_, skip_sign h₃ rfl _, ?_⟩⟩
  · rw [skip_part ht h₂]
    exact h.value (stops_blank h₃ (stops_cons.2 rfl)) (by omega)
  · rw [skip_part hts h₄]
    exact hrest.members (by omega)

/-- **What is of the grammar is passed over.** The induction is on how the part is built, so each
rule of the grammar is followed once, and twice its length is fuel enough for every part in it. -/
theorem Derives.passed {p : Part} (ht : Derives p t) : Passed p t := by
  induction ht with
  | @string t h =>
    refine passed_value (List.cons_ne_nil _ _) fun fuel rest _ _ => ?_
    rw [List.cons_append, skim]
    exact skimString_iff.2 ⟨t, h, by simp⟩
  | @number t h =>
    obtain ⟨c, cs, rfl, -⟩ := (Derives.number h).head
    refine passed_value (List.cons_ne_nil c cs) fun fuel rest hstop _ => ?_
    obtain ⟨n, hn⟩ := Numeral.exists_cut h hstop
    exact skim_of_cut hn
  | @word t h =>
    simp only [words, List.mem_cons, List.not_mem_nil, or_false] at h
    rcases h with rfl | rfl | rfl <;>
      exact passed_value (List.cons_ne_nil _ _) fun fuel rest _ _ => word_iff.2 rfl
  | @noItems w hw =>
    refine passed_value (List.cons_ne_nil _ _) fun fuel rest _ _ => skim_array_iff.2 (.inl ?_)
    show skip (w ++ [']'] ++ rest) = _
    rw [List.append_assoc]
    exact skip_sign hw rfl rest
  | @noMembers w hw =>
    refine passed_value (List.cons_ne_nil _ _) fun fuel rest _ _ => skim_object_iff.2 (.inl ?_)
    show skip (w ++ ['\x7d'] ++ rest) = _
    rw [List.append_assoc]
    exact skip_sign hw rfl rest
  | array hw h ih => exact passed_array hw h ih
  | object hw h ih => exact passed_object hw h ih
  | item h hw ih => exact passed_item ih hw
  | items h h₁ h₂ rest ih ih' => exact passed_items ih h₁ h₂ rest ih'
  | member hk h₁ h₂ h h₃ ih => exact passed_member hk h₁ h₂ h ih h₃
  | members hk h₁ h₂ h h₃ h₄ rest ih ih' =>
    exact passed_members hk h₁ h₂ h ih h₃ h₄ rest ih'

/-- **What is passed over is a value of the grammar.** The reader has no other way to succeed. -/
theorem derives_of_pass (h : pass cs = some rest) : ∃ t, Derives .value t ∧ cs = t ++ rest :=
  sound _ (p := .value) h

/-- **Every value of the grammar is passed over**, up to a text that does not go on with it. -/
theorem pass_of_derives (ht : Derives .value t) (hstop : Stops rest) :
    pass (t ++ rest) = some rest :=
  ht.passed.value hstop (by rw [List.length_append]; omega)

end Ingest.Json
