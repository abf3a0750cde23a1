import Ingest.Text.Basic

/-!
# Tables of ranges

What holds for characters is held as closed ranges of code points, ascending and apart, each with
its value. A table is written as a text of words: a code point, or the first and the last of a
range, in hexadecimal, and behind them what holds there.

The main statement is that the search by halves finds a value just if a range of the table gives it.
-/

namespace Ingest

/-- A closed range of code points and what holds for it. A range may have a single one. -/
structure CodeRange (α : Type) where
  first : Nat
  last : Nat
  value : α

/-- A table of ranges, as an array, so that the middle of it is at hand. -/
abbrev CodeRanges (α : Type) := Array (CodeRange α)

namespace CodeRanges

variable {α : Type}

/-! ## Search -/

/-- Searches between the places `lo` and `hi` of a table. In a table that is not ordered it may miss
what is there. -/
def search (rs : CodeRanges α) (n lo hi : Nat) : Option α :=
  if lo < hi then
    match rs[(lo + hi) / 2]? with
    | none => none
    | some r =>
      if n < r.first then search rs n lo ((lo + hi) / 2)
      else if r.last < n then search rs n ((lo + hi) / 2 + 1) hi
      else some r.value
  else none
termination_by hi - lo

/-- **What holds for a code point**, if it is in a range of the table. -/
def find? (rs : CodeRanges α) (n : Nat) : Option α := search rs n 0 rs.size

/-- Whether a code point is in a range of the table. -/
def covers (rs : CodeRanges α) (c : Char) : Bool := (find? rs c.toNat).isSome

/-- No range is empty, and each ends before the next begins. This is what the search by halves rests
on. -/
structure Ordered (rs : CodeRanges α) : Prop where
  first_le_last : ∀ r ∈ rs, r.first ≤ r.last
  apart : ∀ (i j : Nat) (hi : i < rs.size) (hj : j < rs.size), i < j → rs[i].last < rs[j].first

theorem mem_of_search {rs : CodeRanges α} {n lo hi : Nat} {v : α}
    (h : search rs n lo hi = some v) :
    ∃ r ∈ rs, r.first ≤ n ∧ n ≤ r.last ∧ r.value = v := by
  fun_induction search rs n lo hi with
  | case1 => simp at h
  | case2 lo hi _ r hr _ ih => exact ih h
  | case3 lo hi _ r hr _ _ ih => exact ih h
  | case4 lo hi _ r hr h₁ h₂ =>
    exact ⟨r, Array.mem_of_getElem? hr, Nat.not_lt.1 h₁, Nat.not_lt.1 h₂, Option.some.inj h⟩
  | case5 => simp at h

theorem search_of_getElem? {rs : CodeRanges α} (ordered : Ordered rs) {n lo hi i : Nat}
    {s : CodeRange α} (hs : rs[i]? = some s) (hi_le : hi ≤ rs.size) (lo_le : lo ≤ i)
    (lt_hi : i < hi) (first_le : s.first ≤ n) (le_last : n ≤ s.last) :
    search rs n lo hi = some s.value := by
  obtain ⟨hsize, rfl⟩ := Array.getElem?_eq_some_iff.1 hs
  fun_induction search rs n lo hi with
  | case1 lo hi h hnone =>
    have := Array.getElem?_eq_none_iff.1 hnone
    omega
  | case2 lo hi h r hr hlt ih =>
    obtain ⟨hm, rfl⟩ := Array.getElem?_eq_some_iff.1 hr
    have hne : ¬ (lo + hi) / 2 ≤ i := fun hle => by
      rcases Nat.lt_or_eq_of_le hle with hlt' | heq
      · have := ordered.apart _ _ hm hsize hlt'
        have := ordered.first_le_last _ (Array.getElem_mem hm)
        omega
      · simp only [heq] at hlt
        omega
    exact ih (by omega) lo_le (by omega)
  | case3 lo hi h r hr _ hlt ih =>
    obtain ⟨hm, rfl⟩ := Array.getElem?_eq_some_iff.1 hr
    have hne : ¬ i ≤ (lo + hi) / 2 := fun hle => by
      rcases Nat.lt_or_eq_of_le hle with hlt' | heq
      · have := ordered.apart _ _ hsize hm hlt'
        have := ordered.first_le_last _ (Array.getElem_mem hm)
        omega
      · simp only [← heq] at hlt
        omega
    exact ih hi_le (by omega) lt_hi
  | case4 lo hi h r hr hge hle =>
    obtain ⟨hm, rfl⟩ := Array.getElem?_eq_some_iff.1 hr
    have heq : (lo + hi) / 2 = i := by
      rcases Nat.lt_trichotomy ((lo + hi) / 2) i with hlt | heq | hlt
      · have := ordered.apart _ _ hm hsize hlt
        omega
      · exact heq
      · have := ordered.apart _ _ hsize hm hlt
        omega
    simp only [heq]
  | case5 lo hi h => omega

/-- **The search finds what the ranges say**, no more and no less. -/
theorem find?_eq_some_iff {rs : CodeRanges α} (ordered : Ordered rs) {n : Nat} {v : α} :
    find? rs n = some v ↔ ∃ r ∈ rs, r.first ≤ n ∧ n ≤ r.last ∧ r.value = v := by
  constructor
  · exact mem_of_search
  · rintro ⟨r, hr, h₁, h₂, rfl⟩
    obtain ⟨i, hi, hr⟩ := Array.mem_iff_getElem.1 hr
    have hr := Array.getElem?_eq_some_iff.2 ⟨hi, hr⟩
    exact search_of_getElem? ordered hr (Nat.le_refl _) (Nat.zero_le i) hi h₁ h₂

/-! ## Written tables -/

/-- The words of a text, with any blanks and line ends between them. -/
def words (s : String) : List (List Char) :=
  let step (c : Char) (r : List Char × List (List Char)) : List Char × List (List Char) :=
    if isBlank c then ([], if r.1.isEmpty then r.2 else r.1 :: r.2) else (c :: r.1, r.2)
  let r := s.toList.foldr step ([], [])
  if r.1.isEmpty then r.2 else r.1 :: r.2

/-- The number of the hexadecimal digits in front of a word, and the rest of the word. -/
def cutNumber (w : List Char) : Nat × List Char :=
  let isDigit (c : Char) : Bool := (Digit.hex? c).isSome
  (Digit.number 16 ((w.takeWhile isDigit).filterMap Digit.hex?), w.dropWhile isDigit)

/-- The numbers of a word with points between them. -/
def numbers (w : List Char) : List Nat :=
  let step (c : Char) (r : List Char × List Nat) : List Char × List Nat :=
    if c = '.' then ([], (cutNumber r.1).1 :: r.2) else (c :: r.1, r.2)
  let r := w.foldr step ([], [])
  (cutNumber r.1).1 :: r.2

/-- The range of a word, whose end says what holds. A word without a hyphen is a range of one. -/
def rangeOfWord (read : List Char → α) (w : List Char) : CodeRange α :=
  let (first, rest) := cutNumber w
  match rest with
  | '-' :: rest => let (last, rest) := cutNumber rest; ⟨first, last, read rest⟩
  | rest => ⟨first, first, read rest⟩

/-- **The table of a text.** The words are taken as they come; that they are in order is not
checked. -/
def ofText (read : List Char → α) (s : String) : CodeRanges α :=
  ((words s).map (rangeOfWord read)).toArray

/-- The table of a text whose words are ranges and nothing else. -/
def ofBareText (s : String) : CodeRanges Unit := ofText (fun _ => ()) s

end CodeRanges

end Ingest
