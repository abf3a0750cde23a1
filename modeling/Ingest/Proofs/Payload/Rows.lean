import Ingest.Payload
import Ingest.Proofs.Payload.Cutting

/-!
# Rows of a file as a payload

A file is read into rows and its rows are framed again, each with a line feed behind it. What comes
out is the file, but for its line ends: the carriage return in front of a line feed or of the end is
gone, and a line feed stands at the end if there is anything (`payload_split`). So no row is lost
and none is split in two, and rows that hold no line end come back as they were.

The lines of a text are put together from its end. What stands behind a line feed is in lines of its
own by then, so a text may be cut there (`lines_append`), and each law is an induction on the bytes
in front.
-/

namespace Ingest.Rows

open Bytes (cr lf)

variable {b : UInt8} {data a row line : Bytes} {rows rest : List Bytes}

/-! ## Lines -/

theorem lines_cons (b : UInt8) (data : Bytes) : lines (b :: data) = consLine b (lines data) := rfl

theorem consLine_lf (rest : List Bytes) : consLine lf rest = [] :: rest := if_pos rfl

theorem consLine_cons (h : b ≠ lf) : consLine b (line :: rest) = (b :: line) :: rest := if_neg h

/-- A byte in front of lines changes none but the first of them. -/
theorem consLine_append (b : UInt8) (h : rows ≠ []) :
    consLine b (rows ++ rest) = consLine b rows ++ rest := by
  cases rows with
  | nil => exact absurd rfl h
  | cons line rows =>
    by_cases hb : b = lf
    · rw [hb, consLine_lf, consLine_lf]
      rfl
    · rw [List.cons_append, consLine_cons hb, consLine_cons hb, List.cons_append]

theorem consLine_ne_nil (b : UInt8) (rest : List Bytes) : consLine b rest ≠ [] := by
  unfold consLine
  split
  · exact List.cons_ne_nil _ _
  · cases rest <;> exact List.cons_ne_nil _ _

/-- Data that is not empty has a line, which may be empty. Only the empty data has none. -/
theorem lines_ne_nil (h : data ≠ []) : lines data ≠ [] := by
  cases data with
  | nil => exact absurd rfl h
  | cons b data => exact consLine_ne_nil b (lines data)

/-- **A text may be cut behind a line feed**, and its parts be taken for texts of their own. The
induction is on the part in front, since lines are put together from the end. -/
theorem lines_append (a data : Bytes) :
    lines (a ++ lf :: data) = lines (a ++ [lf]) ++ lines data := by
  induction a with
  | nil => exact consLine_lf (lines data)
  | cons b a ih =>
    rw [List.cons_append, List.cons_append, lines_cons, lines_cons, ih]
    have hne : a ++ [lf] ≠ [] := List.append_ne_nil_of_right_ne_nil a (List.cons_ne_nil _ _)
    exact consLine_append b (lines_ne_nil hne)

theorem lines_line (h : lf ∉ line) : lines (line ++ [lf]) = [line] := by
  induction line with
  | nil => rfl
  | cons b line ih =>
    rw [List.cons_append, lines_cons, ih fun hmem => h (.tail _ hmem)]
    exact consLine_cons fun hb => h (hb ▸ .head _)

theorem not_mem_of_mem_lines (data : Bytes) : ∀ line ∈ lines data, lf ∉ line := by
  induction data with
  | nil => exact fun line h => nomatch h
  | cons b data ih =>
    rw [lines_cons]
    by_cases hb : b = lf
    · rw [hb, consLine_lf]
      exact List.forall_mem_cons.2 ⟨List.not_mem_nil, ih⟩
    · cases hlines : lines data with
      | nil =>
        have hsingle : consLine b [] = [[b]] := if_neg hb
        rw [hsingle, List.forall_mem_singleton, List.mem_singleton]
        exact Ne.symm hb
      | cons line rest =>
        rw [hlines] at ih
        obtain ⟨hline, hrest⟩ := List.forall_mem_cons.1 ih
        rw [consLine_cons hb]
        refine List.forall_mem_cons.2 ⟨fun hmem => ?_, hrest⟩
        exact (List.mem_cons.1 hmem).elim (Ne.symm hb) hline

/-! ## Carriage returns -/

/-- **A text without the carriage returns of its line ends**: one in front of each line feed, and
one at the end. -/
def withoutReturns : Bytes → Bytes
  | [] => []
  | b :: bs =>
    if b = cr ∧ (bs = [] ∨ bs.head? = some lf) then withoutReturns bs else b :: withoutReturns bs

/-- The line feed that a text lacks at its end. An empty text lacks none, as it has no line. -/
def missingEnd (data : Bytes) : Bytes :=
  if data ≠ [] ∧ data.getLast? ≠ some lf then [lf] else []

theorem missingEnd_cons (h : data ≠ []) : missingEnd (b :: data) = missingEnd data := by
  unfold missingEnd
  rw [List.getLast?_cons_of_ne_nil h]
  simp only [ne_eq, h, List.cons_ne_nil, not_false_eq_true, true_and]

theorem trimReturn_cons (h : line ≠ []) : trimReturn (b :: line) = b :: trimReturn line := by
  unfold trimReturn
  rw [List.getLast?_cons_of_ne_nil h, List.dropLast_cons_of_ne_nil h]
  split <;> rfl

theorem trimReturn_singleton : trimReturn [b] = if b = cr then [] else [b] := by
  unfold trimReturn
  simp only [List.getLast?_singleton, Option.some.injEq, List.dropLast_singleton]

/-- Of a row one carriage return is dropped at its end, and a second one stays. Rows that end in
none are those that come back as they were. -/
theorem trimReturn_eq_self_iff : trimReturn row = row ↔ row.getLast? ≠ some cr := by
  unfold trimReturn
  rw [ite_eq_right_iff, ne_eq]
  refine imp_congr_right fun hlast => iff_false_intro fun h => ?_
  obtain ⟨front, rfl⟩ := List.getLast?_eq_some_iff.1 hlast
  rw [List.dropLast_concat] at h
  have hlength := congrArg List.length h
  rw [List.length_append, List.length_singleton] at hlength
  omega

theorem eq_nil_iff_of_lines (h : lines data = line :: rest) : line = [] ↔ data.head? = some lf := by
  cases data with
  | nil => exact nomatch h
  | cons b data =>
    rw [lines_cons] at h
    rw [List.head?_cons, Option.some.injEq]
    by_cases hb : b = lf
    · rw [hb, consLine_lf] at h
      exact iff_of_true (List.cons.inj h).1.symm hb
    · refine iff_of_false ?_ hb
      rintro rfl
      unfold consLine at h
      rw [if_neg hb] at h
      cases hlines : lines data <;> rw [hlines] at h <;> exact nomatch h

/-! ## The laws -/

theorem missingEnd_cons_lf (data : Bytes) : missingEnd (lf :: data) = missingEnd data := by
  by_cases hdata : data = []
  · rw [hdata]
    rfl
  · exact missingEnd_cons hdata

theorem missingEnd_singleton (hb : b ≠ lf) : missingEnd [b] = [lf] :=
  if_pos ⟨List.cons_ne_nil b [], fun hlast => hb (Option.some.inj hlast)⟩

theorem split_cons_lf (data : Bytes) : split (lf :: data) = [] :: split data := by
  unfold split
  rw [lines_cons, consLine_lf, List.map_cons]
  rfl

/-- **What is framed again** is the text but for its line ends: without their carriage returns, and
with a line feed at the end. The two laws, on what is gone and what is added, are one equation. -/
theorem payload_split (data : Bytes) :
    (Framing.csv [lf]).payload (split data) = withoutReturns data ++ missingEnd data := by
  induction data with
  | nil => rfl
  | cons b data ih =>
    by_cases hb : b = lf
    · have hkeep : withoutReturns (lf :: data) = lf :: withoutReturns data :=
        if_neg fun h => absurd h.1 (by decide)
      rw [hb, split_cons_lf, Framing.payload_csv_cons, ih, hkeep, missingEnd_cons_lf]
      rfl
    by_cases hdata : data = []
    · -- the last row, with nothing behind it
      have hlines : lines [b] = [[b]] := if_neg hb
      rw [hdata, split, hlines, List.map_singleton, Framing.payload_csv_cons, trimReturn_singleton,
        withoutReturns, missingEnd_singleton hb]
      by_cases hcr : b = cr
      · rw [if_pos hcr, if_pos ⟨hcr, .inl rfl⟩]
        rfl
      · rw [if_neg hcr, if_neg fun h => hcr h.1]
        rfl
    obtain ⟨line, rest, hlines⟩ := List.exists_cons_of_ne_nil (lines_ne_nil hdata)
    have hempty := eq_nil_iff_of_lines hlines
    rw [split, hlines, List.map_cons, Framing.payload_csv_cons] at ih
    rw [split, lines_cons, hlines, consLine_cons hb, List.map_cons, Framing.payload_csv_cons,
      missingEnd_cons hdata, withoutReturns]
    by_cases hline : line = []
    · -- a line feed follows
      rw [hline] at ih
      have ih : [lf] ++ (Framing.csv [lf]).payload (rest.map trimReturn)
          = withoutReturns data ++ missingEnd data := ih
      rw [hline, trimReturn_singleton, ih]
      by_cases hcr : b = cr
      · rw [if_pos hcr, if_pos ⟨hcr, .inr (hempty.1 hline)⟩, List.nil_append]
      · rw [if_neg hcr, if_neg fun h => hcr h.1]
        rfl
    · -- a carriage return in front of something else stays
      have hkeep : ¬ (b = cr ∧ (data = [] ∨ data.head? = some lf)) := fun h =>
        h.2.elim hdata (mt hempty.2 hline)
      rw [if_neg hkeep, trimReturn_cons hline, List.cons_append, ih, List.cons_append]

/-- Rows without a line feed, each with one behind it, are the lines of what they make. Carriage
returns at their ends are not lost at this stage. -/
theorem lines_payload (h : ∀ row ∈ rows, lf ∉ row) :
    lines ((Framing.csv [lf]).payload rows) = rows := by
  induction rows with
  | nil => rfl
  | cons row rows ih =>
    obtain ⟨hrow, hrows⟩ := List.forall_mem_cons.1 h
    rw [Framing.payload_csv_cons]
    show lines (row ++ lf :: (Framing.csv [lf]).payload rows) = row :: rows
    rw [lines_append, lines_line hrow, ih hrows]
    rfl

theorem not_mem_of_mem_split (data : Bytes) : ∀ row ∈ split data, lf ∉ row := by
  intro row hrow hmem
  obtain ⟨line, hline, rfl⟩ := List.mem_map.1 hrow
  have hsublist : (trimReturn line).Sublist line := by
    unfold trimReturn
    split
    · exact List.dropLast_sublist line
    · exact .refl line
  exact not_mem_of_mem_lines data line hline (hsublist.subset hmem)

/-- **Which rows come back** when their payload is split: those without a line feed in them and
without a carriage return at their end, and no others. -/
theorem split_payload_iff : split ((Framing.csv [lf]).payload rows) = rows ↔
    ∀ row ∈ rows, lf ∉ row ∧ row.getLast? ≠ some cr := by
  have htrim : rows.map trimReturn = rows ↔ ∀ row ∈ rows, row.getLast? ≠ some cr := by
    have hid := List.map_inj_left (l := rows) (f := trimReturn) (g := id)
    rw [List.map_id] at hid
    exact hid.trans (forall₂_congr fun row _ => trimReturn_eq_self_iff)
  constructor
  · intro h
    have hlf : ∀ row ∈ rows, lf ∉ row := h ▸ not_mem_of_mem_split _
    rw [split, lines_payload hlf, htrim] at h
    exact fun row hrow => ⟨hlf row hrow, h row hrow⟩
  · intro h
    rw [split, lines_payload fun row hrow => (h row hrow).1]
    exact htrim.2 fun row hrow => (h row hrow).2

/-- There is a row for every line feed, and one more for what lacks it. -/
theorem length_split (data : Bytes) :
    (split data).length = data.count lf + (missingEnd data).length := by
  unfold split
  rw [List.length_map]
  induction data with
  | nil => rfl
  | cons b data ih =>
    rw [lines_cons]
    by_cases hb : b = lf
    · rw [hb, consLine_lf, List.length_cons, ih, List.count_cons_self, missingEnd_cons_lf]
      omega
    rw [List.count_cons_of_ne hb]
    by_cases hdata : data = []
    · have hsingle : consLine b (lines []) = [[b]] := if_neg hb
      rw [hdata, hsingle, missingEnd_singleton hb]
      rfl
    · obtain ⟨line, rest, hlines⟩ := List.exists_cons_of_ne_nil (lines_ne_nil hdata)
      rw [hlines] at ih ⊢
      rw [consLine_cons hb, missingEnd_cons hdata, ← ih]
      rfl

/-- **The rows of a file.** A file may be cut behind a line feed and its parts be split by
themselves. Framed again, the rows are the file without the carriage returns of its line ends, and
with a line feed at the end. Rows come back from their payload exactly if none of them holds a line
feed or ends in a carriage return. There are as many rows as line ends, and no row holds one. -/
theorem split_lossless :
    (∀ a b : Bytes, split (a ++ lf :: b) = split (a ++ [lf]) ++ split b) ∧
    (∀ data : Bytes, (Framing.csv [lf]).payload (split data)
      = withoutReturns data ++ if data ≠ [] ∧ data.getLast? ≠ some lf then [lf] else []) ∧
    (∀ rows : List Bytes, split ((Framing.csv [lf]).payload rows) = rows ↔
      ∀ row ∈ rows, lf ∉ row ∧ row.getLast? ≠ some cr) ∧
    ∀ data : Bytes, (∀ row ∈ split data, lf ∉ row) ∧ (split data).length
      = data.count lf + if data ≠ [] ∧ data.getLast? ≠ some lf then 1 else 0 := by
  refine ⟨fun a b => ?_, payload_split, fun rows => split_payload_iff, fun data => ?_⟩
  · rw [split, lines_append, List.map_append]
    rfl
  · refine ⟨not_mem_of_mem_split data, ?_⟩
    rw [length_split, missingEnd, apply_ite List.length]
    rfl

/-- Line ends of both kinds, a row that ends in a carriage return of its own, an empty row, and a
carriage return at the end. -/
theorem split_lossless_of_returns :
    let data := Bytes.ofText "a\r\nb\r\r\n\nc\rd\r"
    let rows := [Bytes.ofText "a", Bytes.ofText "b\r", [], Bytes.ofText "c\rd"]
    split data = rows ∧ (Framing.csv [lf]).payload rows = Bytes.ofText "a\nb\r\n\nc\rd\n" ∧
      (∀ row ∈ rows, lf ∉ row) ∧
      split ((Framing.csv [lf]).payload [Bytes.ofText "\ra", []]) = [Bytes.ofText "\ra", []] := by
  intro data rows
  have hsplit : split data = rows := by decide +kernel
  obtain ⟨-, hpayload, hback, hrows⟩ := split_lossless
  refine ⟨hsplit, ?_, hsplit ▸ (hrows data).1, (hback _).2 (by decide +kernel)⟩
  rw [← hsplit, hpayload]
  decide +kernel

end Ingest.Rows
