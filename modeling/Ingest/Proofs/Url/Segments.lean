import Ingest.Proofs.Url.Authority
import Ingest.Proofs.Url.Percent
import Mathlib.Algebra.Order.BigOperators.Group.List
import Mathlib.Algebra.Order.Ring.Nat

/-!
# Texts that are spliced into a path

Texts are put one behind another with a slash in front of each, and the whole is read as the path
of an address. The parts of that path are the texts again exactly if each of them is a segment
(`isSegment`): it holds no sign that the reader takes for one of its own or drops, it is not one of
the two texts that stand for other segments, and there is no escape in it.

That segments are read back is seen step by step. That nothing else is, is seen by counting bytes:
on its way to the parts of a path a text can only lose bytes (`weight_walk`, `sum_cutSegments`), and
every text that is no segment loses some.
-/

namespace Ingest.Url

open String (utf8EncodeChar)

/-! ## Segments -/

/-- The bytes of some characters. -/
def bytes (cs : List Char) : Bytes := cs.flatMap utf8EncodeChar

/-- A character that the reader of a path neither drops nor takes for a sign: no slash of either
kind, no mark of a query or fragment, no tab and no line end. -/
def isOrdinary (c : Char) : Bool := isKept c && !endsAuthority true c

/-- **Whether a text is a segment of a path** just as it is. It can be looked up character by
character, but for escapes and for the two texts that stand for other segments. -/
def isSegment (s : String) : Bool :=
  s.toList.all isOrdinary && !hasEscape (Bytes.ofText s) && s ≠ "." && s ≠ ".."

/-- **The parts of a path**: what stands between its slashes, with escapes read. They are bytes, as
an escape may stand for a byte that is no text. -/
def Path.parts (p : Path) : List Bytes :=
  ((cutSegments false p.chars).drop 1).map fun s => unescape (bytes s)

/-- Texts with a slash in front of each. -/
def spliced (ps : List String) : List Char := ps.flatMap fun p => '/' :: p.toList

/-- What a reader takes for the path in spliced texts. -/
def pathText (ps : List String) : List Char := beforeTail ((spliced ps).filter isKept)

/-- What this path is cut into. -/
def pathCuts (ps : List String) : List (List Char) :=
  cutSegments true (afterSlash true (pathText ps))

/-! ## Cutting at slashes -/

section Cut

variable {web : Bool} {cs : List Char}

theorem cutSegments_append {s t : List Char} {ss : List (List Char)}
    (h : ∀ c ∈ s, isSlash web c = false) (hcs : cutSegments web cs = t :: ss) :
    cutSegments web (s ++ cs) = (s ++ t) :: ss := by
  induction s with
  | nil => exact hcs
  | cons c s ih =>
    obtain ⟨hc, hs⟩ := List.forall_mem_cons.1 h
    rw [List.cons_append, cutSegments, hc, if_neg Bool.false_ne_true, ih hs, List.cons_append]

/-- **Segments with slashes in front of them are cut apart again.** In front of the first slash
stands an empty piece, which is no segment. -/
theorem cutSegments_flatMap {ss : List (List Char)}
    (h : ∀ s ∈ ss, ∀ c ∈ s, isSlash web c = false) :
    cutSegments web (ss.flatMap fun s => '/' :: s) = [] :: ss := by
  induction ss with
  | nil => rfl
  | cons s ss ih =>
    obtain ⟨hs, hss⟩ := List.forall_mem_cons.1 h
    rw [List.flatMap_cons, List.cons_append, cutSegments, isSlash, decide_eq_true rfl,
      Bool.true_or, if_pos rfl, cutSegments_append hs (ih hss), List.append_nil]

/-- There is no slash in what was cut at slashes. -/
theorem not_isSlash_of_mem_cutSegments {s : List Char} (hs : s ∈ cutSegments web cs) :
    ∀ c ∈ s, isSlash web c = false := by
  induction cs generalizing s with
  | nil =>
    rw [List.mem_singleton.1 hs]
    exact fun c hc => nomatch hc
  | cons c cs ih =>
    rw [cutSegments] at hs
    split at hs
    · rcases List.mem_cons.1 hs with rfl | hs
      · exact fun c hc => nomatch hc
      · exact ih hs
    · next hc =>
      have hc := Bool.eq_false_iff.2 hc
      split at hs
      · rw [List.mem_singleton.1 hs]
        exact List.forall_mem_cons.2 ⟨hc, fun c hc => nomatch hc⟩
      · next t ts hcut =>
        rw [hcut] at ih
        rcases List.mem_cons.1 hs with rfl | hs
        · exact List.forall_mem_cons.2 ⟨hc, ih List.mem_cons_self⟩
        · exact ih (List.mem_cons_of_mem t hs)

end Cut

/-! ## Walking along segments -/

/-- Whether a segment stands for another one. -/
def isDots (s : List Char) : Bool := isDoubleDot s || isDot s

/-- One step of a walk, if it is not the last: back for two dots, nowhere for one, and on for
anything else. -/
def advance (done : List String) (s : List Char) : List String :=
  if isDoubleDot s then stepBack done
  else if isDot s then done
  else escape EscapeSet.path s :: done

/-- **A walk goes segment by segment**, and one that ends in dots ends with an empty segment. -/
theorem walk_eq (done : List String) (ss : List (List Char)) :
    walk false done ss
      = ((if ss.getLast?.any isDots then [""] else []) ++ ss.foldl advance done).reverse := by
  fun_induction walk false done ss with
  | case1 done => rfl
  | case2 done s hs =>
    rw [List.getLast?_singleton, Option.any_some, isDots, hs, Bool.true_or, if_pos rfl,
      List.foldl_cons, List.foldl_nil, advance, if_pos hs, List.singleton_append]
  | case3 done s hs hs' =>
    rw [List.getLast?_singleton, Option.any_some, isDots, hs', Bool.or_true, if_pos rfl,
      List.foldl_cons, List.foldl_nil, advance, if_neg hs, if_pos hs', List.singleton_append]
  | case4 done s hs hs' =>
    have hno : isDots s = false :=
      Bool.or_eq_false_iff.2 ⟨Bool.eq_false_iff.2 hs, Bool.eq_false_iff.2 hs'⟩
    rw [List.getLast?_singleton, Option.any_some, hno, if_neg Bool.false_ne_true,
      List.foldl_cons, List.foldl_nil, advance, if_neg hs, if_neg hs']
    rfl
  | case5 done s ss hne hs ih =>
    rw [ih, List.getLast?_cons_of_ne_nil hne, List.foldl_cons, advance, if_pos hs]
  | case6 done s ss hne hs hs' ih =>
    rw [ih, List.getLast?_cons_of_ne_nil hne, List.foldl_cons, advance, if_neg hs, if_pos hs']
  | case7 done s ss hne hs hs' ih =>
    rw [ih, List.getLast?_cons_of_ne_nil hne, List.foldl_cons, advance, if_neg hs, if_neg hs']
    rfl

/-- The segments of a walk are escaped segments of its way. -/
theorem mem_foldl_advance {x : String} {done : List String} {ss : List (List Char)}
    (hx : x ∈ ss.foldl advance done) : x ∈ done ∨ ∃ s ∈ ss, x = escape EscapeSet.path s := by
  induction ss generalizing done with
  | nil => exact .inl hx
  | cons s ss ih =>
    have hadvance : x ∈ advance done s → x ∈ done ∨ x = escape EscapeSet.path s := by
      intro hx
      unfold advance at hx
      split at hx
      · unfold stepBack at hx
        split at hx
        · exact nomatch hx
        · split at hx
          · exact .inl hx
          · exact .inl (List.mem_cons_of_mem _ hx)
      · split at hx
        · exact .inl hx
        · exact (List.mem_cons.1 hx).symm
    rcases ih hx with hx | ⟨s', hs', rfl⟩
    · rcases hadvance hx with hx | rfl
      · exact .inl hx
      · exact .inr ⟨s, List.mem_cons_self, rfl⟩
    · exact .inr ⟨s', List.mem_cons_of_mem _ hs', rfl⟩

theorem not_mem_escape {s : List Char} (h : '/' ∉ s) :
    '/' ∉ (escape EscapeSet.path s).toList := by
  have hdigit : ∀ n : Fin 16, Digit.upper n ≠ '/' := by decide
  rw [escape, String.toList_ofList]
  intro hmem
  obtain ⟨c, hc, hmem⟩ := List.mem_flatMap.1 hmem
  unfold escapeChar at hmem
  split at hmem
  · obtain ⟨b, -, hmem⟩ := List.mem_flatMap.1 hmem
    obtain ⟨hhigh, hlow⟩ := digits_lt b
    simp only [escapeByte, List.mem_cons, List.not_mem_nil, or_false] at hmem
    rcases hmem with hmem | hmem | hmem
    · exact nomatch hmem
    · exact hdigit ⟨_, hhigh⟩ hmem.symm
    · exact hdigit ⟨_, hlow⟩ hmem.symm
  · exact h (List.mem_singleton.1 hmem ▸ hc)

/-- The parts of a path are its segments if there is no slash in them. -/
theorem parts_segments {ss : List String} (h : ∀ x ∈ ss, '/' ∉ x.toList) :
    (Path.segments ss).parts = ss.map fun x => unescape (Bytes.ofText x) := by
  have hslash : ∀ s ∈ ss.map String.toList, ∀ c ∈ s, isSlash false c = false := by
    intro s hs c hc
    obtain ⟨x, hx, rfl⟩ := List.mem_map.1 hs
    have hne : c ≠ '/' := fun heq => h x hx (heq ▸ hc)
    rw [isSlash, decide_eq_false hne, Bool.false_and, Bool.or_false]
  have hchars : (Path.segments ss).chars = (ss.map String.toList).flatMap fun s => '/' :: s :=
    (List.flatMap_map ..).symm
  rw [Path.parts, hchars, cutSegments_flatMap hslash, List.drop_one, List.tail_cons, List.map_map]
  rfl

/-- **The parts of a path behind a host** are what a walk comes to. -/
theorem parts_rootPath (cs : List Char) :
    (rootPath true cs).parts
      = (walk false [] (cutSegments true (afterSlash true cs))).map
        fun x => unescape (Bytes.ofText x) := by
  rw [rootPath, Bool.not_true, Bool.and_false, if_neg Bool.false_ne_true]
  refine parts_segments fun x hx => ?_
  rw [walk_eq, List.mem_reverse] at hx
  rcases List.mem_append.1 hx with hx | hx
  · split at hx
    · rw [List.mem_singleton.1 hx]
      exact List.not_mem_nil
    · exact nomatch hx
  · rcases mem_foldl_advance hx with hx | ⟨s, hs, rfl⟩
    · exact nomatch hx
    · refine not_mem_escape fun hslash => ?_
      exact nomatch not_isSlash_of_mem_cutSegments hs _ hslash

/-! ## Counting bytes -/

/-- The number of bytes of some characters. -/
def size (cs : List Char) : Nat := (bytes cs).length

/-- The number of bytes that a segment contributes to a path: those it is read as, and none if it
stands for another segment. -/
def gain (s : List Char) : Nat := if isDots s then 0 else (unescape (bytes s)).length

/-- The number of bytes in segments of a path. -/
def weight (done : List String) : Nat :=
  (done.map fun x => (unescape (Bytes.ofText x)).length).sum

@[simp] theorem weight_cons (x : String) (done : List String) :
    weight (x :: done) = (unescape (Bytes.ofText x)).length + weight done := by
  rw [weight, List.map_cons, List.sum_cons, weight]

/-- To step back in a path loses a segment, and with it the bytes it was read as. -/
theorem weight_stepBack (done : List String) : weight (stepBack done) ≤ weight done := by
  unfold stepBack
  split
  · exact Nat.le_refl _
  · split
    · exact Nat.le_refl _
    · rw [weight_cons]
      exact Nat.le_add_left _ _

/-- With one more segment the path gains at most the bytes of it, and none if it stands for another.
No segment makes the ones before it longer. -/
theorem weight_advance (done : List String) (s : List Char) :
    weight (advance done s) ≤ weight done + gain s := by
  unfold advance gain
  cases hs : isDoubleDot s with
  | true =>
    rw [if_pos rfl]
    exact (weight_stepBack done).trans (Nat.le_add_right _ _)
  | false =>
    rw [if_neg Bool.false_ne_true, isDots, hs, Bool.false_or]
    split
    · exact Nat.le_add_right _ _
    · rw [weight_cons, unescape_escape EscapeSet.proper_path, Nat.add_comm]
      exact Nat.le_refl _

/-- **A walk gains no more bytes than its segments contribute.** Stepping back takes away a segment
that was counted, so it can only lose. -/
theorem weight_walk (ss : List (List Char)) : weight (walk false [] ss) ≤ (ss.map gain).sum := by
  have hfold : ∀ done : List String,
      weight (ss.foldl advance done) ≤ weight done + (ss.map gain).sum := by
    induction ss with
    | nil => exact fun done => Nat.le_refl _
    | cons s ss ih =>
      intro done
      have hstep := weight_advance done s
      have hrest := ih (advance done s)
      rw [List.foldl_cons, List.map_cons, List.sum_cons]
      omega
  have hend : ∀ ds : List String, weight ds.reverse = weight ds := by
    intro ds
    rw [weight, List.map_reverse, List.sum_reverse, weight]
  have hempty : (unescape (Bytes.ofText "")).length = 0 := by
    rw [Bytes.ofText_empty]
    rfl
  have h := hfold []
  rw [show weight [] = 0 from rfl, Nat.zero_add] at h
  rw [walk_eq, hend]
  split
  · rwa [List.singleton_append, weight_cons, hempty, Nat.zero_add]
  · exact h

@[simp] theorem size_cons (c : Char) (cs : List Char) :
    size (c :: cs) = (utf8EncodeChar c).length + size cs := by
  rw [size, bytes, List.flatMap_cons, List.length_append]
  rfl

@[simp] theorem size_append (cs ds : List Char) : size (cs ++ ds) = size cs + size ds := by
  rw [size, bytes, List.flatMap_append, List.length_append]
  rfl

theorem length_utf8EncodeChar_pos (c : Char) : 0 < (utf8EncodeChar c).length := by
  rw [String.length_utf8EncodeChar]
  exact Char.utf8Size_pos c

theorem size_filter (p : Char → Bool) (cs : List Char) :
    size (cs.filter p) ≤ size cs ∧ (cs.all p = false → size (cs.filter p) < size cs) := by
  induction cs with
  | nil => exact ⟨Nat.le_refl _, fun h => nomatch h⟩
  | cons c cs ih =>
    have hpos := length_utf8EncodeChar_pos c
    rw [List.filter_cons, List.all_cons]
    cases hc : p c with
    | true =>
      rw [if_pos rfl, size_cons, size_cons, Bool.true_and]
      exact ⟨Nat.add_le_add_left ih.1 _, fun h => Nat.add_lt_add_left (ih.2 h) _⟩
    | false =>
      rw [if_neg Bool.false_ne_true, size_cons]
      omega

theorem size_le_of_sublist {cs ds : List Char} (h : cs.Sublist ds) : size cs ≤ size ds := by
  induction h with
  | slnil => exact Nat.le_refl _
  | cons c h ih =>
    rw [size_cons]
    exact ih.trans (Nat.le_add_left _ _)
  | cons_cons c h ih =>
    rw [size_cons, size_cons]
    exact Nat.add_le_add_left ih _

theorem size_pos_of_isDots {s : List Char} (h : isDots s = true) : 0 < size s := by
  cases s with
  | nil => exact absurd h (by decide)
  | cons c cs =>
    rw [size_cons]
    exact Nat.lt_of_lt_of_le (length_utf8EncodeChar_pos c) (Nat.le_add_right _ _)

/-- **A segment contributes its bytes at most**, and all of them only if it stands for itself and
holds no escapes. -/
theorem gain_le_size (s : List Char) :
    gain s ≤ size s ∧ (gain s = size s → isDots s = false ∧ hasEscape (bytes s) = false) := by
  unfold gain
  cases hdots : isDots s with
  | true =>
    have hpos := size_pos_of_isDots hdots
    rw [if_pos rfl]
    exact ⟨Nat.zero_le _, fun h => absurd h hpos.ne⟩
  | false =>
    obtain ⟨hle, hlt⟩ := length_unescape (bytes s)
    rw [if_neg Bool.false_ne_true]
    refine ⟨hle, fun h => ⟨rfl, Bool.eq_false_iff.2 fun hesc => ?_⟩⟩
    exact (hlt hesc).ne h

/-- The slashes are what cutting takes away. -/
theorem sum_cutSegments (web : Bool) (cs : List Char) :
    ((cutSegments web cs).map size).sum = size (cs.filter (!isSlash web ·)) := by
  induction cs with
  | nil => rfl
  | cons c cs ih =>
    rw [cutSegments, List.filter_cons]
    cases hc : isSlash web c with
    | true =>
      rw [if_pos rfl, Bool.not_true, if_neg Bool.false_ne_true, List.map_cons, List.sum_cons, ih]
      exact Nat.zero_add _
    | false =>
      rw [if_neg Bool.false_ne_true, Bool.not_false, if_pos rfl, size_cons, ← ih]
      cases cutSegments web cs with
      | nil => exact size_cons c []
      | cons t ts =>
        rw [List.map_cons, List.map_cons, List.sum_cons, List.sum_cons, size_cons, Nat.add_assoc]

/-- What is no less than a sum in no place is nowhere more. With it a count of all bytes says
something about every single text. -/
theorem eq_of_sum_le {α : Type} {l : List α} {f g : α → Nat} (h : ∀ a ∈ l, f a ≤ g a)
    (hsum : (l.map g).sum ≤ (l.map f).sum) : ∀ a ∈ l, f a = g a := by
  intro a ha
  by_contra hne
  exact Nat.not_lt_of_le hsum
    (List.sum_lt_sum f g h ⟨a, ha, Nat.lt_of_le_of_ne (h a ha) hne⟩)

/-! ## Texts between slashes -/

variable {ps : List String}

theorem isOrdinary_iff {c : Char} :
    isOrdinary c = true ↔ isKept c = true ∧ isSlash true c = false ∧ (c ≠ '?' ∧ c ≠ '#') := by
  rw [isOrdinary, endsAuthority, Bool.and_eq_true, Bool.not_eq_true', Bool.or_eq_false_iff,
    Bool.or_eq_false_iff, decide_eq_false_iff_not, decide_eq_false_iff_not, and_assoc]

/-- What is left of texts between slashes is of their ordinary characters. -/
theorem sum_pathCuts (ps : List String) :
    ((pathCuts ps).map size).sum ≤ (ps.map fun p => size (p.toList.filter isOrdinary)).sum := by
  have hsum : size ((spliced ps).filter isOrdinary)
      = (ps.map fun p => size (p.toList.filter isOrdinary)).sum := by
    induction ps with
    | nil => rfl
    | cons p ps ih =>
      rw [List.map_cons, List.sum_cons, ← ih, ← size_append, ← List.filter_append]
      rfl
  have hafter : ∀ cs : List Char, (afterSlash true cs).Sublist cs := by
    intro cs
    cases cs with
    | nil => exact List.Sublist.refl _
    | cons c cs =>
      rw [afterSlash]
      split
      · exact List.sublist_cons_self c cs
      · exact List.Sublist.refl _
  unfold pathCuts
  generalize hread : afterSlash true (pathText ps) = cs
  have hcut : cs.Sublist (pathText ps) := hread ▸ hafter _
  have hsub : cs.Sublist (spliced ps) :=
    hcut.trans ((List.takeWhile_sublist _).trans List.filter_sublist)
  have hordinary : cs.filter (!isSlash true ·) = cs.filter isOrdinary := by
    refine List.filter_congr fun c hc => ?_
    have hmem := hcut.subset hc
    have hkept := (List.mem_filter.1 (List.takeWhile_subset _ hmem)).2
    have htail := List.all_eq_true.1 List.all_takeWhile c hmem
    rw [Bool.and_eq_true, decide_eq_true_iff, decide_eq_true_iff] at htail
    refine Bool.eq_iff_iff.2 ?_
    rw [Bool.not_eq_true', isOrdinary_iff]
    exact ⟨fun h => ⟨hkept, h, htail⟩, fun h => h.2.1⟩
  rw [sum_cutSegments, hordinary, ← hsum]
  exact size_le_of_sublist (hsub.filter isOrdinary)

section Ordinary

variable (h : ∀ p ∈ ps, p.toList.all isOrdinary = true)

include h

theorem eq_slash_or_isOrdinary_of_mem {c : Char} (hc : c ∈ spliced ps) :
    c = '/' ∨ isOrdinary c = true := by
  obtain ⟨p, hp, hc⟩ := List.mem_flatMap.1 hc
  rcases List.mem_cons.1 hc with rfl | hc
  · exact .inl rfl
  · exact .inr (List.all_eq_true.1 (h p hp) c hc)

theorem filter_spliced : (spliced ps).filter isKept = spliced ps := by
  refine List.filter_eq_self.2 fun c hc => ?_
  rcases eq_slash_or_isOrdinary_of_mem h hc with rfl | hc
  · rfl
  · exact (isOrdinary_iff.1 hc).1

theorem ne_tail_of_mem {c : Char} (hc : c ∈ spliced ps) : (c ≠ '?' && c ≠ '#') = true := by
  rw [Bool.and_eq_true, decide_eq_true_iff, decide_eq_true_iff]
  rcases eq_slash_or_isOrdinary_of_mem h hc with rfl | hc
  · decide
  · exact (isOrdinary_iff.1 hc).2.2

/-- If no text holds a sign that ends a path, then nothing of the texts falls outside of it. -/
theorem pathText_eq : pathText ps = spliced ps := by
  rw [pathText, filter_spliced h]
  exact List.takeWhile_eq_self_iff.2 fun _ hc => ne_tail_of_mem h hc

theorem fromTail_eq_nil : fromTail ((spliced ps).filter isKept) = [] := by
  rw [filter_spliced h]
  exact List.dropWhile_eq_nil_iff.2 fun _ hc => ne_tail_of_mem h hc

/-- **Ordinary texts between slashes are cut apart again**, and each piece is the text it was. -/
theorem pathCuts_eq (hps : ps ≠ []) : pathCuts ps = ps.map String.toList := by
  have hslash : ∀ s ∈ ps.map String.toList, ∀ c ∈ s, isSlash true c = false := by
    intro s hs c hc
    obtain ⟨p, hp, rfl⟩ := List.mem_map.1 hs
    exact (isOrdinary_iff.1 (List.all_eq_true.1 (h p hp) c hc)).2.1
  have hcut := cutSegments_flatMap hslash
  rw [List.flatMap_map] at hcut
  rw [pathCuts, pathText_eq h]
  cases ps with
  | nil => exact absurd rfl hps
  | cons p ps => exact (List.cons.inj hcut).2

end Ordinary

/-! ## Segments are read back -/

theorem parts_pathText (ps : List String) :
    (rootPath true (pathText ps)).parts
      = (walk false [] (pathCuts ps)).map fun x => unescape (Bytes.ofText x) :=
  parts_rootPath (pathText ps)

/-- A text without escapes stands for another segment only if it is one of two. -/
theorem isDots_eq_false {p : String} (h : hasEscape (Bytes.ofText p) = false) (hone : p ≠ ".")
    (htwo : p ≠ "..") : isDots p.toList = false := by
  have hother : ∀ q ∈ ["%2e", "%2E", "%2e%2e", "%2e%2E", "%2E%2e", "%2E%2E", "%2e.", "%2E.",
      ".%2e", ".%2E"], p ≠ q := by
    have hall : ∀ q ∈ ["%2e", "%2E", "%2e%2e", "%2e%2E", "%2E%2e", "%2E%2E", "%2e.", "%2E.",
      ".%2e", ".%2E"], hasEscape (Bytes.ofText q) = true := by decide +kernel
    rintro q hq rfl
    exact nomatch (hall p hq).symm.trans h
  simp only [List.forall_mem_cons] at hother
  simp [isDots, isDoubleDot, isDot, String.ofList_toList, hone, htwo, hother]

/-- A walk without dots passes all segments. -/
theorem foldl_advance_of_not_isDots {ss : List (List Char)} (h : ∀ s ∈ ss, isDots s = false)
    (done : List String) :
    ss.foldl advance done = (ss.map (escape EscapeSet.path)).reverse ++ done := by
  induction ss generalizing done with
  | nil => rfl
  | cons s ss ih =>
    obtain ⟨hs, hss⟩ := List.forall_mem_cons.1 h
    obtain ⟨hdouble, hdot⟩ := Bool.or_eq_false_iff.1 hs
    rw [List.foldl_cons, ih hss, advance, hdouble, hdot, if_neg Bool.false_ne_true,
      if_neg Bool.false_ne_true, List.map_cons, List.reverse_cons, List.append_assoc]
    rfl

theorem isSegment_iff {p : String} : isSegment p = true ↔ p.toList.all isOrdinary = true ∧
    hasEscape (Bytes.ofText p) = false ∧ p ≠ "." ∧ p ≠ ".." := by
  simp only [isSegment, Bool.and_eq_true, Bool.not_eq_true', and_assoc, ne_eq, decide_not,
    decide_eq_false_iff_not]

/-- **Segments that are spliced into a path are its parts**, and nothing stands behind it. -/
theorem parts_of_isSegment (hps : ps ≠ []) (h : ∀ p ∈ ps, isSegment p = true) :
    (rootPath true (pathText ps)).parts = ps.map Bytes.ofText ∧
      fromTail ((spliced ps).filter isKept) = [] := by
  have hall : ∀ p ∈ ps, p.toList.all isOrdinary = true := fun p hp => (isSegment_iff.1 (h p hp)).1
  have hdots : ∀ s ∈ ps.map String.toList, isDots s = false := by
    intro s hs
    obtain ⟨p, hp, rfl⟩ := List.mem_map.1 hs
    obtain ⟨-, hesc, hone, htwo⟩ := isSegment_iff.1 (h p hp)
    exact isDots_eq_false hesc hone htwo
  have hlast : (ps.map String.toList).getLast?.any isDots = false := by
    cases hs : (ps.map String.toList).getLast? with
    | none => rfl
    | some s => exact hdots s (List.mem_of_getLast? hs)
  rw [parts_pathText, pathCuts_eq hall hps, walk_eq, hlast, if_neg Bool.false_ne_true,
    foldl_advance_of_not_isDots hdots, List.nil_append, List.append_nil, List.reverse_reverse,
    List.map_map, List.map_map]
  refine ⟨List.map_congr_left fun p hp => ?_, fromTail_eq_nil hall⟩
  rw [Function.comp_apply, Function.comp_apply, unescape_escape EscapeSet.proper_path]
  exact unescape_eq_self_iff.2 (isSegment_iff.1 (h p hp)).2.1

/-- **Nothing but segments is read back.** The bytes of the parts are counted: there are at most
those of the ordinary characters, and as many as in the texts only if all characters are ordinary
and no text stands for anything else. -/
theorem isSegment_of_parts (hps : ps ≠ [])
    (h : (rootPath true (pathText ps)).parts = ps.map Bytes.ofText) :
    ∀ p ∈ ps, isSegment p = true := by
  have hweight : (ps.map fun p => size p.toList).sum = weight (walk false [] (pathCuts ps)) := by
    rw [parts_pathText] at h
    have hlen := congrArg (fun l => (l.map List.length).sum) h
    rw [List.map_map, List.map_map] at hlen
    exact hlen.symm
  have hgain := weight_walk (pathCuts ps)
  have hsize := List.sum_le_sum fun s (_ : s ∈ pathCuts ps) => (gain_le_size s).1
  have hfilter := sum_pathCuts ps
  -- nothing was lost to signs, and so the texts were cut apart again
  have hall : ∀ p ∈ ps, p.toList.all isOrdinary = true := by
    have heq := eq_of_sum_le (fun p (_ : p ∈ ps) => (size_filter isOrdinary p.toList).1)
      (hweight.le.trans (hgain.trans (hsize.trans hfilter)))
    intro p hp
    by_contra hno
    exact ((size_filter isOrdinary p.toList).2 (Bool.eq_false_iff.2 hno)).ne (heq p hp)
  -- nothing was lost to dots and escapes either
  rw [pathCuts_eq hall hps] at hgain hweight
  rw [List.map_map] at hgain
  have heq := eq_of_sum_le (fun p (_ : p ∈ ps) => (gain_le_size p.toList).1)
    (hweight.le.trans hgain)
  intro p hp
  obtain ⟨hdots, hesc⟩ := (gain_le_size p.toList).2 (heq p hp)
  refine isSegment_iff.2 ⟨hall p hp, hesc, ?_, ?_⟩
  · rintro rfl
    exact absurd hdots (by decide)
  · rintro rfl
    exact absurd hdots (by decide)

/-- **Which texts are read back from a path** they are spliced into: segments, and no others. The
texts are taken together, since one that holds a slash could make up for another that is lost. -/
theorem parts_spliced_iff (hps : ps ≠ []) :
    (rootPath true (pathText ps)).parts = ps.map Bytes.ofText ↔
      ∀ p ∈ ps, isSegment p = true :=
  ⟨isSegment_of_parts hps, fun h => (parts_of_isSegment hps h).1⟩

end Ingest.Url
