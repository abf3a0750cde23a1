import Ingest.Payload
import Mathlib.Data.Nat.Find

/-!
# Rows cut out of a payload

Whoever receives separated values cuts them at the delimiter, from the left on: what a delimiter has
used up takes part in no other. The rows come back exactly if each of them ends where the delimiter
behind it first occurs (`cut_payload_eq_iff`), because the cuts before it are then made at the ends
of the rows before it, and what lies behind the delimiter cannot bring its first occurrence forward.

A row that holds the delimiter is cut apart. For a delimiter of one byte nothing else can go wrong.
A longer one may begin in the row and end in the delimiter behind it, and there are rows with which
it does so exactly if it overlaps itself, as `||` does and `\r\n` does not.
-/

namespace Ingest

namespace Bytes

/-- **Where a byte string first occurs** in another, counted from the front. -/
def find? (d : Bytes) : Bytes → Option Nat
  | [] => if d = [] then some 0 else none
  | b :: bs => if d <+: b :: bs then some 0 else (find? d bs).map (· + 1)

variable {d bs : Bytes} {i : Nat}

/-- The first occurrence is one, and there is none before it. -/
theorem find?_eq_some_iff (hd : d ≠ []) :
    find? d bs = some i ↔ d <+: bs.drop i ∧ ∀ j < i, ¬ d <+: bs.drop j := by
  induction bs generalizing i with
  | nil =>
    rw [find?, if_neg hd, List.drop_nil, List.prefix_nil]
    exact ⟨fun h => (nomatch h), fun h => absurd h.1 hd⟩
  | cons b bs ih =>
    rw [find?]
    by_cases h : d <+: b :: bs
    · rw [if_pos h, Option.some.injEq]
      constructor
      · rintro rfl
        exact ⟨h, fun j hj => absurd hj (Nat.not_lt_zero j)⟩
      · rintro ⟨-, hfirst⟩
        exact (Nat.eq_zero_of_not_pos fun hi => hfirst 0 hi h).symm
    · rw [if_neg h, Option.map_eq_some_iff]
      constructor
      · rintro ⟨i, hi, rfl⟩
        obtain ⟨hoccurs, hfirst⟩ := ih.1 hi
        refine ⟨hoccurs, fun j hj => ?_⟩
        cases j with
        | zero => exact h
        | succ j => exact hfirst j (Nat.lt_of_succ_lt_succ hj)
      · rintro ⟨hoccurs, hfirst⟩
        cases i with
        | zero => exact absurd hoccurs h
        | succ i => exact ⟨i, ih.2 ⟨hoccurs, fun j hj => hfirst (j + 1) (Nat.succ_lt_succ hj)⟩, rfl⟩

/-- A byte string that occurs somewhere has a first occurrence, and not behind that one. -/
theorem exists_find?_of_prefix (hd : d ≠ []) (h : d <+: bs.drop i) :
    ∃ k ≤ i, find? d bs = some k := by
  classical
  have hex : ∃ k, d <+: bs.drop k := ⟨i, h⟩
  exact ⟨Nat.find hex, Nat.find_le h, (find?_eq_some_iff hd).2
    ⟨Nat.find_spec hex, fun j hj => Nat.find_min hex hj⟩⟩

theorem add_length_le_of_find? (hd : d ≠ []) (h : find? d bs = some i) :
    i + d.length ≤ bs.length := by
  have hlength := ((find?_eq_some_iff hd).1 h).1.length_le
  have hpos := List.length_pos_iff.2 hd
  rw [List.length_drop] at hlength
  omega

/-- **A byte string cut at a separator**, from the left on. What is cut away takes part in no later
occurrence. -/
def cut (d bs : Bytes) : List Bytes :=
  if _hd : d = [] then [bs]
  else
    match _hi : find? d bs with
    | none => [bs]
    | some i => bs.take i :: cut d (bs.drop (i + d.length))
termination_by bs.length
decreasing_by
  have hle := add_length_le_of_find? _hd _hi
  have hpos := List.length_pos_iff.2 _hd
  rw [List.length_drop]
  omega

theorem cut_of_find?_eq_none (h : find? d bs = none) : cut d bs = [bs] := by
  unfold cut
  split
  · rfl
  · split
    · rfl
    · next hi => exact nomatch h.symm.trans hi

/-- Bytes are cut at the first place where the delimiter stands, and what is behind it is cut in the
same way. Delimiters that overlap are thus found from the left. -/
theorem cut_of_find?_eq_some (hd : d ≠ []) (h : find? d bs = some i) :
    cut d bs = bs.take i :: cut d (bs.drop (i + d.length)) := by
  rw [cut, dif_neg hd]
  split
  · next hi => exact nomatch h.symm.trans hi
  · next k hk =>
    obtain rfl := Option.some.inj (h.symm.trans hk)
    rfl

@[simp] theorem cut_nil (hd : d ≠ []) : cut d [] = [[]] :=
  cut_of_find?_eq_none (by rw [find?, if_neg hd])

end Bytes

namespace Framing

open Bytes (find? cut)

variable {d row : Bytes}

/-- **A row that ends where the delimiter behind it first occurs.** It is a condition on the row and
its delimiter alone; the rows around it have no part in it. -/
def Delimited (d row : Bytes) : Prop := find? d (row ++ d) = some row.length

instance : Decidable (Delimited d row) := inferInstanceAs (Decidable (_ = _))

/-- **A delimiter that overlaps itself**: a part of it at the end is how it begins. A delimiter of
one byte has no such part. -/
def Overlaps (d : Bytes) : Prop := ∃ k < d.length, 0 < k ∧ d.drop k <+: d

instance : Decidable (Overlaps d) := inferInstanceAs (Decidable (∃ k < d.length, _))

/-- A row keeps its end if the delimiter is not found earlier in the row with the delimiter behind
it. Not to contain one is not enough: the end of the row may begin one. -/
theorem delimited_iff (hd : d ≠ []) :
    Delimited d row ↔ ∀ j < row.length, ¬ d <+: row.drop j ++ d := by
  have hdrop : ∀ j < row.length, (row ++ d).drop j = row.drop j ++ d := fun j hj =>
    List.drop_append_of_le_length (Nat.le_of_lt hj)
  rw [Delimited, Bytes.find?_eq_some_iff hd, List.drop_left,
    and_iff_right (List.prefix_refl d)]
  exact forall₂_congr fun j hj => by rw [hdrop j hj]

/-- **What lies behind a delimiter does not count** for where it first occurs. An occurrence that
began earlier would end inside the delimiter, whatever comes after it. -/
theorem find?_append_append_iff (hd : d ≠ []) (rest : Bytes) :
    find? d (row ++ (d ++ rest)) = some row.length ↔ Delimited d row := by
  have hdrop : ∀ j < row.length,
      (d <+: (row ++ (d ++ rest)).drop j ↔ d <+: row.drop j ++ d) := by
    intro j hj
    rw [List.drop_append_of_le_length (Nat.le_of_lt hj), ← List.append_assoc]
    refine ⟨fun h => ?_, fun h => h.trans (List.prefix_append _ rest)⟩
    refine List.prefix_of_prefix_length_le h (List.prefix_append _ rest) ?_
    rw [List.length_append]
    exact Nat.le_add_left _ _
  rw [delimited_iff hd, Bytes.find?_eq_some_iff hd, List.drop_left,
    and_iff_right (List.prefix_append d rest)]
  exact forall₂_congr fun j hj => not_congr (hdrop j hj)

/-! ## All rows of a payload -/

theorem payload_csv_cons (d row : Bytes) (rows : List Bytes) :
    (csv d).payload (row :: rows) = row ++ (d ++ (csv d).payload rows) := by
  rw [payload, payload, List.flatMap_cons, List.append_assoc]

/-- **The first piece is the first row** exactly if the row is delimited, and then the other pieces
are those of the other rows. -/
theorem cut_payload_cons_iff (hd : d ≠ []) {rows pieces : List Bytes} :
    cut d ((csv d).payload (row :: rows)) = row :: pieces ↔
      Delimited d row ∧ cut d ((csv d).payload rows) = pieces := by
  rw [payload_csv_cons]
  have hdrop : (row ++ (d ++ (csv d).payload rows)).drop (row.length + d.length)
      = (csv d).payload rows := by
    rw [← List.append_assoc, ← List.length_append, List.drop_left]
  constructor
  · intro h
    -- the delimiter occurs behind the row, so it is cut there at the latest
    have hoccurs : d <+: (row ++ (d ++ (csv d).payload rows)).drop row.length := by
      rw [List.drop_left]
      exact List.prefix_append d _
    obtain ⟨i, hle, hi⟩ := Bytes.exists_find?_of_prefix hd hoccurs
    rw [Bytes.cut_of_find?_eq_some hd hi] at h
    obtain ⟨hrow, hpieces⟩ := List.cons.inj h
    obtain rfl : i = row.length := by
      have hlength := congrArg List.length hrow
      rwa [List.take_append_of_le_length hle, List.length_take, Nat.min_eq_left hle] at hlength
    rw [hdrop] at hpieces
    exact ⟨(find?_append_append_iff hd _).1 hi, hpieces⟩
  · rintro ⟨hrow, hpieces⟩
    rw [Bytes.cut_of_find?_eq_some hd ((find?_append_append_iff hd _).2 hrow), List.take_left,
      hdrop, hpieces]

/-- Rows come back, with nothing behind them, if all of them are delimited. The empty piece at the
end is what stands behind the last delimiter. -/
theorem cut_payload_iff (hd : d ≠ []) (rows : List Bytes) :
    cut d ((csv d).payload rows) = rows ++ [[]] ↔ ∀ row ∈ rows, Delimited d row := by
  induction rows with
  | nil => exact ⟨fun _ row hrow => (nomatch hrow), fun _ => Bytes.cut_nil hd⟩
  | cons row rows ih =>
    rw [List.cons_append, cut_payload_cons_iff hd, ih, List.forall_mem_cons]

/-! ## Delimiters inside of rows and across their ends -/

/-- A row that keeps its end does not contain the delimiter. The converse is what fails for
delimiters that overlap themselves. -/
theorem not_infix_of_delimited (hd : d ≠ []) (h : Delimited d row) : ¬ d <:+: row := by
  rintro ⟨front, back, rfl⟩
  have hpos := List.length_pos_iff.2 hd
  refine (delimited_iff hd).1 h front.length ?_ ?_
  · simp only [List.length_append]
    omega
  · rw [List.append_assoc, List.drop_left, List.append_assoc]
    exact List.prefix_append d _

/-- A delimiter that does not overlap itself occurs across the end of no row. -/
theorem delimited_of_not_overlaps (hd : d ≠ []) (hover : ¬ Overlaps d) (h : ¬ d <:+: row) :
    Delimited d row := by
  refine (delimited_iff hd).2 fun j hj hoccurs => ?_
  have hlength : (row.drop j).length = row.length - j := List.length_drop
  rcases Nat.lt_or_ge (row.drop j).length d.length with hshort | hlong
  · -- what is left of the row begins the delimiter, and the delimiter goes on as it begins
    have hfront : row.drop j <+: d :=
      List.prefix_of_prefix_length_le (List.prefix_append _ d) hoccurs (Nat.le_of_lt hshort)
    obtain ⟨back, rfl⟩ := hfront
    refine hover ⟨(row.drop j).length, hshort, by omega, ?_⟩
    rw [List.drop_left]
    exact (List.prefix_append_right_inj _).1 hoccurs
  · -- the delimiter lies inside of the row
    have hinside : d <+: row.drop j :=
      List.prefix_of_prefix_length_le hoccurs (List.prefix_append _ d) hlong
    exact h (hinside.isInfix.trans (List.drop_suffix j row).isInfix)

/-- **A delimiter occurs across the end of some row** that does not hold it exactly if it overlaps
itself: the row is what the delimiter has in front of the overlap. -/
theorem exists_not_delimited_iff (hd : d ≠ []) :
    (∃ row, ¬ d <:+: row ∧ ¬ Delimited d row) ↔ Overlaps d := by
  constructor
  · rintro ⟨row, hrow, hnot⟩
    exact Classical.not_not.1 fun hover => hnot (delimited_of_not_overlaps hd hover hrow)
  · rintro ⟨k, hlt, hpos, hover⟩
    have hlength : (d.take k).length = k := by
      rw [List.length_take, Nat.min_eq_left (Nat.le_of_lt hlt)]
    refine ⟨d.take k, fun h => ?_, fun h => ?_⟩
    · have hle := h.length_le
      rw [hlength] at hle
      exact Nat.not_le_of_lt hlt hle
    · refine (delimited_iff hd).1 h 0 (by rwa [hlength]) ?_
      calc d = d.take k ++ d.drop k := (List.take_append_drop k d).symm
        _ <+: d.take k ++ d := (List.prefix_append_right_inj _).2 hover

theorem not_overlaps_of_length_eq_one (h : d.length = 1) : ¬ Overlaps d := by
  rintro ⟨k, hlt, hpos, -⟩
  omega

/-- **When rows are recovered.** A payload cut at its delimiter gives the rows in order and nothing
behind them exactly if every row is delimited. No such row holds the delimiter. For a delimiter of
one byte the converse is true as well; for a longer one there are rows that do not hold it and are
lost all the same exactly if it overlaps itself, and `x|` is one for `||`. -/
theorem cut_payload_eq_iff {d : Bytes} (hd : d ≠ []) (rows : List Bytes) :
    (cut d ((csv d).payload rows) = rows ++ [[]] ↔
        ∀ row ∈ rows, find? d (row ++ d) = some row.length) ∧
      (∀ row, find? d (row ++ d) = some row.length → ¬ d <:+: row) ∧
      (d.length = 1 → ((∀ row ∈ rows, find? d (row ++ d) = some row.length) ↔
        ∀ row ∈ rows, ¬ d <:+: row)) ∧
      ((∃ row, ¬ d <:+: row ∧ find? d (row ++ d) ≠ some row.length) ↔ Overlaps d) ∧
      (let bars := Bytes.ofText "||"
       let row := Bytes.ofText "x|"
       ¬ bars <:+: row ∧ cut bars ((csv bars).payload [row]) ≠ [row, []]) := by
  refine ⟨cut_payload_iff hd rows, fun row => not_infix_of_delimited hd, fun hone => ?_,
    exists_not_delimited_iff hd, ?_⟩
  · refine forall₂_congr fun row _ => ⟨not_infix_of_delimited hd, ?_⟩
    exact delimited_of_not_overlaps hd (not_overlaps_of_length_eq_one hone)
  · refine ⟨by decide +kernel, fun h => ?_⟩
    have hnot : ¬ Delimited (Bytes.ofText "||") (Bytes.ofText "x|") := by decide +kernel
    have hbars : Bytes.ofText "||" ≠ [] := by decide +kernel
    exact hnot ((cut_payload_iff hbars [Bytes.ofText "x|"]).1 h _ List.mem_cons_self)

/-- A delimiter of two bytes that does not overlap itself: rows that hold one of the bytes, or
nothing, come back. -/
theorem cut_payload_eq_iff_of_crlf :
    let crlf := Bytes.ofText "\r\n"
    let rows := [Bytes.ofText "a\r", [], Bytes.ofText "\n"]
    crlf ≠ [] ∧ cut crlf ((csv crlf).payload rows) = rows ++ [[]] ∧
      ∀ row, ¬ crlf <:+: row → find? crlf (row ++ crlf) = some row.length := by
  intro crlf rows
  have hcrlf : crlf ≠ [] := by decide +kernel
  obtain ⟨hrows, -, -, hoverlaps, -⟩ := cut_payload_eq_iff hcrlf rows
  refine ⟨hcrlf, hrows.2 (by decide +kernel), fun row hrow => ?_⟩
  have hnot : ¬ Overlaps crlf := by decide +kernel
  exact Classical.not_not.1 fun hlost => hnot (hoverlaps.1 ⟨row, hrow, hlost⟩)

end Framing

end Ingest
