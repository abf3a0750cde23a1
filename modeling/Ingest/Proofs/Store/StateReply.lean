import Ingest.Proofs.Json.Grammar
import Ingest.Store.StateReply

/-!
# Which replies tell the state of a label

The reader of such a reply takes one member of an object and passes over the others. Here it is
said what it reads without the reader: `Members` are the members of an object with what their keys
say and the texts of their values, and an object tells a state if exactly one of them is the state
and this one is a string (`ObjectTells`). The members are read one after another, and what was found
so far decides what the next one may be (`Takes`), so the reader is followed along them.

An array of one string is read as well (`ArrayTells`), and nothing else is (`ofText?_eq_some_iff`).
-/

namespace Ingest.StateReply

open Json (Blank Spells Derives Stops skip)

variable {cs rest t v w : List Char} {k name : String} {s : Option String}
  {found found' : Option (Option String)} {ms : List (String × List Char)} {fuel : Nat}

/-! ## What a reply may be -/

/-- **The members of an object** from the first one on: what the keys say, and the texts of the
values. -/
inductive Members : List (String × List Char) → List Char → Prop where
  | one {k : String} {kt w₁ w₂ v w₃ : List Char} (hk : Spells kt k.toList) (h₁ : Blank w₁)
      (h₂ : Blank w₂) (h : Derives .value v) (h₃ : Blank w₃) :
      Members [(k, v)] ('"' :: (kt ++ '"' :: (w₁ ++ ':' :: (w₂ ++ (v ++ w₃)))))
  | more {k : String} {kt w₁ w₂ v w₃ w₄ ts : List Char} {ms : List (String × List Char)}
      (hk : Spells kt k.toList) (h₁ : Blank w₁) (h₂ : Blank w₂) (h : Derives .value v)
      (h₃ : Blank w₃) (h₄ : Blank w₄) (rest : Members ms ts) :
      Members ((k, v) :: ms)
        ('"' :: (kt ++ '"' :: (w₁ ++ ':' :: (w₂ ++ (v ++ (w₃ ++ ',' :: (w₄ ++ ts)))))))

/-- The text of a string, with its quotes and what it says. -/
def IsText (v : List Char) (name : String) : Prop :=
  ∃ t, v = '"' :: (t ++ ['"']) ∧ Spells t name.toList

/-- **An object that tells a state**: it has one member `state`, and this one is a string. -/
def ObjectTells (body : List Char) (name : String) : Prop :=
  ∃ w₁ w₂ t w₃ ms v, Blank w₁ ∧ Blank w₂ ∧ Blank w₃ ∧
    body = w₁ ++ '\x7b' :: (w₂ ++ (t ++ '\x7d' :: w₃)) ∧ Members ms t ∧
    ms.filter (·.1 = key) = [(key, v)] ∧ IsText v name

/-- **An array that tells a state**: it has one item, and this one is a string. -/
def ArrayTells (body : List Char) (name : String) : Prop :=
  ∃ w₁ w₂ v w₃ w₄, Blank w₁ ∧ Blank w₂ ∧ Blank w₃ ∧ Blank w₄ ∧
    body = w₁ ++ '[' :: (w₂ ++ (v ++ (w₃ ++ ']' :: w₄))) ∧ IsText v name

theorem IsText.derives (h : IsText v name) : Derives .value v := by
  obtain ⟨t, rfl, ht⟩ := h
  exact .string ht.isString

theorem Members.derives (h : Members ms t) : Derives .members t := by
  induction h with
  | one hk h₁ h₂ h h₃ => exact .member hk.isString h₁ h₂ h h₃
  | more hk h₁ h₂ h h₃ h₄ _ ih => exact .members hk.isString h₁ h₂ h h₃ h₄ ih

theorem Members.derives_value (h : Members ms t) : ∀ m ∈ ms, Derives .value m.2 := by
  induction h with
  | one _ _ _ h _ => exact List.forall_mem_cons.2 ⟨h, fun m hm => nomatch hm⟩
  | more _ _ _ h _ _ _ ih => exact List.forall_mem_cons.2 ⟨h, ih⟩

/-! ## The value of the state -/

/-- The text of a string or of null: what the member for the state may have for its value. -/
def IsOptional (v : List Char) : Option String → Prop
  | some name => IsText v name
  | none => v = "null".toList

theorem IsOptional.derives (h : IsOptional v s) : Derives .value v := by
  cases s with
  | some name => exact IsText.derives h
  | none =>
    obtain rfl : v = "null".toList := h
    exact .word (by decide)

/-- A string is read as what it says, and null as nothing. -/
theorem optionalText_iff :
    optionalText cs = some (s, rest) ↔ ∃ v, IsOptional v s ∧ cs = v ++ rest := by
  constructor
  · intro h
    unfold optionalText at h
    split at h
    · obtain ⟨⟨x, rest'⟩, hx, heq⟩ := Option.map_eq_some_iff.1 h
      cases heq
      obtain ⟨t, ht, rfl⟩ := Json.stringTail_iff.1 hx
      exact ⟨'"' :: (t ++ ['"']), ⟨t, rfl, by rwa [String.toList_ofList]⟩, by simp⟩
    · obtain ⟨rest', hrest, heq⟩ := Option.map_eq_some_iff.1 h
      cases heq
      exact ⟨"null".toList, rfl, congrArg _ (Json.word_iff.1 hrest)⟩
    · exact nomatch h
  · rintro ⟨v, hv, rfl⟩
    cases s with
    | some name =>
      obtain ⟨t, rfl, ht⟩ := hv
      have hread : Json.stringTail (t ++ ['"'] ++ rest) = some (name.toList, rest) :=
        Json.stringTail_iff.2 ⟨t, ht, by simp⟩
      rw [List.cons_append, optionalText, hread, Option.map_some, String.ofList_toList]
    | none =>
      obtain rfl : v = "null".toList := hv
      show Option.map _ (Json.word "ull".toList ("ull".toList ++ rest)) = _
      rw [Json.word_iff.2 rfl]
      rfl

/-! ## Members one after another -/

/-- **What a member makes of what was found so far.** The state must be the first of its kind, and
every other member changes nothing. -/
inductive Takes : String → List Char → Option (Option String) → Option (Option String) → Prop where
  | state {v : List Char} {s : Option String} (h : IsOptional v s) : Takes key v none (some s)
  | other {k : String} {v : List Char} (hk : k ≠ key) (h : Derives .value v)
      (found : Option (Option String)) : Takes k v found found

theorem Takes.derives (h : Takes k v found found') : Derives .value v := by
  cases h with
  | state h => exact h.derives
  | other _ h _ => exact h

/-- What the reader does with one member is what is said of it without the reader. The member of the
state has to be a string or null, and the first of its name. -/
theorem takes_of_memberValue (h : memberValue k found cs = some (found', rest)) :
    ∃ v, Takes k v found found' ∧ cs = v ++ rest := by
  unfold memberValue at h
  split at h
  · next hk =>
    subst hk
    cases found with
    | some s => exact nomatch h
    | none =>
      obtain ⟨⟨s, rest'⟩, hs, heq⟩ := Option.map_eq_some_iff.1 h
      cases heq
      obtain ⟨v, hv, hcs⟩ := optionalText_iff.1 hs
      exact ⟨v, .state hv, hcs⟩
  · next hk =>
    obtain ⟨rest', hrest, heq⟩ := Option.map_eq_some_iff.1 h
    cases heq
    obtain ⟨v, hv, hcs⟩ := Json.derives_of_pass hrest
    exact ⟨v, .other hk hv found, hcs⟩

/-- The converse, behind which a comma or the end of the object has to stand. So the reader and the
description agree for each member, and then for all. -/
theorem memberValue_of_takes (h : Takes k v found found') (hstop : Stops rest) :
    memberValue k found (v ++ rest) = some (found', rest) := by
  cases h with
  | @state v s h =>
    unfold memberValue
    rw [if_pos rfl]
    simp only [optionalText_iff.2 ⟨v, h, rfl⟩, Option.map_some]
  | other hk h found =>
    unfold memberValue
    rw [if_neg hk, Json.pass_of_derives h hstop, Option.map_some]

/-- What members make of what was found so far. -/
inductive Collects :
    Option (Option String) → List (String × List Char) → Option (Option String) → Prop where
  | nil (found : Option (Option String)) : Collects found [] found
  | cons {found found₁ found' : Option (Option String)} {k : String} {v : List Char}
      {ms : List (String × List Char)} (h : Takes k v found found₁)
      (rest : Collects found₁ ms found') : Collects found ((k, v) :: ms) found'

theorem collects_nil : Collects found [] found' ↔ found' = found := by
  constructor
  · intro h
    cases h
    rfl
  · rintro rfl
    exact .nil _

theorem collects_cons : Collects found ((k, v) :: ms) found' ↔
    ∃ found₁, Takes k v found found₁ ∧ Collects found₁ ms found' := by
  constructor
  · intro h
    cases h with
    | cons h rest => exact ⟨_, h, rest⟩
  · rintro ⟨found₁, h, rest⟩
    exact .cons h rest

/-- The state is taken once. A second member of its name is refused, even one that says the same. -/
theorem takes_key : Takes key v found found' ↔
    found = none ∧ ∃ s, IsOptional v s ∧ found' = some s := by
  constructor
  · intro h
    cases h with
    | state h => exact ⟨rfl, _, h, rfl⟩
    | other hk => exact absurd rfl hk
  · rintro ⟨rfl, s, h, rfl⟩
    exact .state h

theorem takes_of_ne (hk : k ≠ key) (hv : Derives .value v) :
    Takes k v found found' ↔ found' = found := by
  constructor
  · intro h
    cases h with
    | state => exact absurd rfl hk
    | other => rfl
  · rintro rfl
    exact .other hk hv _

/-- **The state is found among members** if it is one of them and no other one is. What was found
before the first of them stands for members that were read already. -/
theorem collects_iff (hms : ∀ m ∈ ms, Derives .value m.2) : Collects found ms found' ↔
    ms.filter (·.1 = key) = [] ∧ found' = found ∨
      found = none ∧ ∃ v s, ms.filter (·.1 = key) = [(key, v)] ∧ IsOptional v s ∧
        found' = some s := by
  induction ms generalizing found with
  | nil => simp only [collects_nil, List.filter_nil, true_and, List.nil_eq, reduceCtorEq,
      false_and, exists_false, and_false, or_false]
  | cons m ms ih =>
    obtain ⟨k, v⟩ := m
    obtain ⟨hv, hvs⟩ := List.forall_mem_cons.1 hms
    rw [collects_cons]
    by_cases hk : k = key
    · subst hk
      simp only [takes_key, List.filter_cons, decide_true, if_true, reduceCtorEq, false_and,
        false_or, List.cons.injEq, Prod.mk.injEq, true_and]
      constructor
      · rintro ⟨found₁, ⟨rfl, s, hs, rfl⟩, hrest⟩
        rcases (ih hvs).1 hrest with ⟨hnone, rfl⟩ | ⟨hne, -⟩
        · exact ⟨rfl, v, s, ⟨rfl, hnone⟩, hs, rfl⟩
        · exact nomatch hne
      · rintro ⟨rfl, v', s, ⟨rfl, hnone⟩, hs, rfl⟩
        exact ⟨some s, ⟨rfl, s, hs, rfl⟩, (ih hvs).2 (.inl ⟨hnone, rfl⟩)⟩
    · simp only [takes_of_ne hk hv, exists_eq_left, List.filter_cons, hk, decide_false,
        Bool.false_eq_true, if_false]
      exact ih hvs

/-! ## The reader of members -/

/-- Members are a key and its value, and behind them the closing brace or further members. -/
theorem members_iff : members (fuel + 1) found cs = some (found', rest) ↔
    ∃ cs₀ k cs₁ cs₂ found₁ cs₃, cs = '"' :: cs₀ ∧ Json.stringTail cs₀ = some (k, cs₁) ∧
      skip cs₁ = ':' :: cs₂ ∧
      memberValue (String.ofList k) found (skip cs₂) = some (found₁, cs₃) ∧
      (skip cs₃ = '\x7d' :: rest ∧ found' = found₁ ∨
        ∃ cs₄, skip cs₃ = ',' :: cs₄ ∧ members fuel found₁ (skip cs₄) = some (found', rest)) := by
  constructor
  · intro h
    unfold members at h
    split at h
    · next cs₀ =>
      split at h
      · exact nomatch h
      next k cs₁ hk =>
      split at h
      · next cs₂ hcolon =>
        split at h
        · exact nomatch h
        next found₁ cs₃ hv =>
        refine ⟨cs₀, k, cs₁, cs₂, found₁, cs₃, rfl, hk, hcolon, hv, ?_⟩
        split at h
        · next rest' hskip =>
          cases h
          exact .inl ⟨hskip, rfl⟩
        · next cs₄ hskip => exact .inr ⟨cs₄, hskip, h⟩
        · exact nomatch h
      · exact nomatch h
    · exact nomatch h
  · rintro ⟨cs₀, k, cs₁, cs₂, found₁, cs₃, rfl, hk, hcolon, hv,
      ⟨hskip, rfl⟩ | ⟨cs₄, hskip, hms⟩⟩
    · simp only [members, hk, hcolon, hv, hskip]
    · simp only [members, hk, hcolon, hv, hskip, hms]

/-- **What is read as members is members**, and what is found in them is what they say. This is the
half that keeps the reader from making something up. -/
theorem exists_members (h : members fuel found cs = some (found', rest)) :
    ∃ ms t, Members ms t ∧ Collects found ms found' ∧ cs = t ++ '\x7d' :: rest := by
  induction fuel generalizing found cs with
  | zero => exact nomatch h
  | succ fuel ih =>
    obtain ⟨cs₀, k, cs₁, cs₂, found₁, cs₃, rfl, hkey, hcolon, hvalue, hbehind⟩ := members_iff.1 h
    obtain ⟨kt, hk, rfl⟩ := Json.stringTail_iff.1 hkey
    rw [← String.toList_ofList (l := k)] at hk
    obtain ⟨w₁, h₁, rfl⟩ := Json.exists_skip hcolon
    obtain ⟨v, hv, hcs⟩ := takes_of_memberValue hvalue
    obtain ⟨w₂, h₂, rfl⟩ := Json.exists_skip hcs
    rcases hbehind with ⟨hskip, rfl⟩ | ⟨cs₄, hskip, hrest⟩
    · obtain ⟨w₃, h₃, rfl⟩ := Json.exists_skip hskip
      refine ⟨_, _, .one hk h₁ h₂ hv.derives h₃, .cons hv (.nil _), ?_⟩
      simp only [List.cons_append, List.append_assoc]
    · obtain ⟨w₃, h₃, rfl⟩ := Json.exists_skip hskip
      obtain ⟨ms, ts, hms, hcollects, hcs'⟩ := ih hrest
      obtain ⟨w₄, h₄, rfl⟩ := Json.exists_skip hcs'
      refine ⟨_, _, .more hk h₁ h₂ hv.derives h₃ h₄ hms, .cons hv hcollects, ?_⟩
      simp only [List.cons_append, List.append_assoc]

/-- **Members are read**, if each of them may follow what was found before it. This is the half that
keeps it from overlooking something. -/
theorem Members.read (h : Members ms t) (hfound : Collects found ms found')
    (hfuel : t.length ≤ fuel) :
    members fuel found (t ++ '\x7d' :: rest) = some (found', rest) := by
  induction h generalizing found fuel with
  | @one k kt w₁ w₂ v w₃ hk h₁ h₂ h h₃ =>
    obtain ⟨found₁, hv, hnil⟩ := collects_cons.1 hfound
    obtain rfl := collects_nil.1 hnil
    simp only [List.length_cons, List.length_append] at hfuel
    obtain ⟨fuel, rfl⟩ := Nat.exists_eq_succ_of_ne_zero (show fuel ≠ 0 by omega)
    refine members_iff.2 ⟨_, k.toList, w₁ ++ ':' :: (w₂ ++ (v ++ (w₃ ++ '\x7d' :: rest))), _,
      found', w₃ ++ '\x7d' :: rest, rfl, Json.stringTail_iff.2 ⟨kt, hk, by simp⟩,
      Json.skip_sign h₁ rfl _, ?_, .inl ⟨Json.skip_sign h₃ rfl _, rfl⟩⟩
    rw [String.ofList_toList, Json.skip_part h h₂]
    exact memberValue_of_takes hv (Json.stops_blank h₃ (Json.stops_cons.2 rfl))
  | @more k kt w₁ w₂ v w₃ w₄ ts ms hk h₁ h₂ h h₃ h₄ hms ih =>
    obtain ⟨found₁, hv, hcollects⟩ := collects_cons.1 hfound
    simp only [List.length_cons, List.length_append] at hfuel
    obtain ⟨fuel, rfl⟩ := Nat.exists_eq_succ_of_ne_zero (show fuel ≠ 0 by omega)
    refine members_iff.2 ⟨_, k.toList, w₁ ++ ':' :: (w₂ ++ (v ++ (w₃ ++ ',' :: (w₄ ++ (ts ++
      '\x7d' :: rest))))), _, found₁, w₃ ++ ',' :: (w₄ ++ (ts ++ '\x7d' :: rest)), rfl,
      Json.stringTail_iff.2 ⟨kt, hk, by simp⟩, Json.skip_sign h₁ rfl _, ?_,
      .inr ⟨_, Json.skip_sign h₃ rfl _, ?_⟩⟩
    · rw [String.ofList_toList, Json.skip_part h h₂]
      exact memberValue_of_takes hv (Json.stops_blank h₃ (Json.stops_cons.2 rfl))
    · rw [Json.skip_part hms.derives h₄]
      exact ih hcollects (by omega)

/-! ## The whole reply -/

theorem cut_object_iff : cut ('\x7b' :: cs) = some (some name, rest) ↔
    members ((skip cs).length + 1) none (skip cs) = some (some (some name), rest) := by
  have hbrace : ∀ fuel cs, members fuel none ('\x7d' :: cs) = none := by
    intro fuel cs
    cases fuel <;> rfl
  rw [cut]
  split
  · next rest' hskip =>
    rw [hskip, hbrace]
    simp only [Option.some.injEq, Prod.mk.injEq, reduceCtorEq, false_and]
  · rw [Option.map_eq_some_iff]
    constructor
    · rintro ⟨⟨x, rest'⟩, hx, heq⟩
      obtain ⟨hname, rfl⟩ := Prod.mk.inj heq
      obtain ⟨s, rfl, rfl⟩ := Option.bind_eq_some_iff.1 hname
      exact hx
    · exact fun h => ⟨_, h, rfl⟩

theorem cut_array_iff : cut ('[' :: cs) = some (s, rest) ↔
    ∃ v w, IsOptional v s ∧ Blank w ∧ skip cs = v ++ (w ++ ']' :: rest) := by
  show single (skip cs) = some (s, rest) ↔ _
  generalize skip cs = cs
  constructor
  · intro h
    unfold single at h
    split at h
    · exact nomatch h
    next s' cs₁ hs =>
    split at h
    · next rest' hskip =>
      cases h
      obtain ⟨v, hv, rfl⟩ := optionalText_iff.1 hs
      obtain ⟨w, hw, rfl⟩ := Json.exists_skip hskip
      exact ⟨v, w, hv, hw, rfl⟩
    · exact nomatch h
  · rintro ⟨v, w, hv, hw, rfl⟩
    have hs : optionalText (v ++ (w ++ ']' :: rest)) = some (s, w ++ ']' :: rest) :=
      optionalText_iff.2 ⟨v, hv, rfl⟩
    have hskip : skip (w ++ ']' :: rest) = ']' :: rest := Json.skip_sign hw rfl rest
    simp only [single, hs, hskip]

theorem cut_eq_some {r : Option String × List Char} (h : cut cs = some r) :
    ∃ cs', cs = '\x7b' :: cs' ∨ cs = '[' :: cs' := by
  unfold cut at h
  split at h
  · exact ⟨_, .inl rfl⟩
  · exact ⟨_, .inr rfl⟩
  · exact nomatch h

/-- A reply is read whole: behind the object or the array nothing may stand but blanks. -/
theorem ofText?_eq_some {body : String} : ofText? body = some name ↔
    ∃ rest, cut (skip body.toList) = some (some name, rest) ∧ Blank rest := by
  unfold ofText?
  cases cut (skip body.toList) with
  | none => simp only [reduceCtorEq, false_and, exists_false]
  | some r =>
    obtain ⟨s, rest⟩ := r
    simp only [Option.some.injEq, Prod.mk.injEq]
    constructor
    · intro h
      split at h
      · next hblank =>
        exact ⟨rest, ⟨h, rfl⟩, Json.skip_eq_nil_iff.1 (List.isEmpty_iff.1 hblank)⟩
      · exact nomatch h
    · rintro ⟨rest', ⟨rfl, rfl⟩, hblank⟩
      rw [if_pos (List.isEmpty_iff.2 (Json.skip_eq_nil_iff.2 hblank))]

theorem objectTells_of_cut {w₁ : List Char} (h₁ : Blank w₁)
    (h : cut ('\x7b' :: cs) = some (some name, rest)) (hrest : Blank rest) :
    ObjectTells (w₁ ++ '\x7b' :: cs) name := by
  obtain ⟨ms, t, hms, hcollects, hcs⟩ := exists_members (cut_object_iff.1 h)
  obtain ⟨w₂, h₂, rfl⟩ := Json.exists_skip hcs
  rcases (collects_iff hms.derives_value).1 hcollects with ⟨-, hnone⟩ | ⟨-, v, s, hv, hs, heq⟩
  · exact nomatch hnone
  · obtain rfl := Option.some.inj heq
    exact ⟨w₁, w₂, t, rest, ms, v, h₁, h₂, hrest, rfl, hms, hv, hs⟩

/-- **Which replies tell a state**, and what they tell: an object in which exactly one member is the
state and this one is a string, and an array of one string. The reader is not mentioned on the right
side, only the grammar of texts. -/
theorem ofText?_eq_some_iff {body : String} :
    ofText? body = some name ↔ ObjectTells body.toList name ∨ ArrayTells body.toList name := by
  rw [ofText?_eq_some]
  constructor
  · rintro ⟨rest, hcut, hrest⟩
    obtain ⟨w₁, h₁, hbody⟩ : ∃ w, Blank w ∧ body.toList = w ++ skip body.toList :=
      Json.exists_skip rfl
    obtain ⟨cs, hcs | hcs⟩ := cut_eq_some hcut
    · rw [hcs] at hcut hbody
      rw [hbody]
      exact .inl (objectTells_of_cut h₁ hcut hrest)
    · rw [hcs] at hcut hbody
      obtain ⟨v, w₃, hv, h₃, hskip⟩ := cut_array_iff.1 hcut
      obtain ⟨w₂, h₂, rfl⟩ := Json.exists_skip hskip
      exact .inr ⟨w₁, w₂, v, w₃, rest, h₁, h₂, h₃, hrest, hbody, hv⟩
  · rintro (⟨w₁, w₂, t, w₃, ms, v, h₁, h₂, h₃, hbody, hms, hstate, hv⟩ |
      ⟨w₁, w₂, v, w₃, w₄, h₁, h₂, h₃, h₄, hbody, hv⟩)
    · refine ⟨w₃, ?_, h₃⟩
      have hcollects : Collects none ms (some (some name)) :=
        (collects_iff hms.derives_value).2 (.inr ⟨rfl, v, some name, hstate, hv, rfl⟩)
      rw [hbody, Json.skip_sign h₁ rfl, cut_object_iff, Json.skip_part hms.derives h₂]
      refine hms.read hcollects ?_
      rw [List.length_append]
      omega
    · refine ⟨w₄, ?_, h₄⟩
      rw [hbody, Json.skip_sign h₁ rfl]
      exact cut_array_iff.2 ⟨v, w₃, hv, h₃, Json.skip_part hv.derives h₂ _⟩

end Ingest.StateReply
