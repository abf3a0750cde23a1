import Ingest.Load.Attempt
import Mathlib.Algebra.Order.Ring.Nat

/-!
# Sizes

A batch counts the bytes of its rows as they arrive, and the room for a payload is set aside from
that count before a row is looked at. Both are kept apart from what they count: the count from the
rows, and the formula for the room from the writing of the payload. They agree because a batch is
determined by the rows that were given for it, however they were given (`Built.eq_ofRows`), and
because the room is the length of the payload to the byte (`Framing.length_payload`).

The array is the one framing where the two are written differently. There is a comma less than
there are rows, but no comma fewer than none, so the brackets and commas of `n` rows are
`max n 1 + 1` bytes.
-/

namespace Ingest

namespace Framing

theorem length_withCommas_cons (row : Bytes) (rows : List Bytes) :
    (withCommas (row :: rows)).length = ((row :: rows).map List.length).sum + rows.length := by
  induction rows generalizing row with
  | nil => rfl
  | cons row' rows ih =>
    have hsplit : withCommas (row :: row' :: rows) = row ++ 0x2C :: withCommas (row' :: rows) := rfl
    have htotal : ((row :: row' :: rows).map List.length).sum
        = row.length + ((row' :: rows).map List.length).sum := List.sum_cons
    rw [hsplit, htotal, List.length_append, List.length_cons, ih, List.length_cons]
    omega

theorem length_payload_csv (d : Bytes) (rows : List Bytes) :
    ((csv d).payload rows).length = (rows.map List.length).sum + rows.length * d.length := by
  show (rows.flatMap (· ++ d)).length = _
  induction rows with
  | nil => simp
  | cons row rows ih =>
    rw [List.flatMap_cons, List.length_append, List.length_append, ih, List.map_cons,
      List.sum_cons, List.length_cons, Nat.succ_mul]
    omega

/-- An array has two brackets and a comma between neighbours. -/
theorem length_payload_array (rows : List Bytes) :
    ((json false).payload rows).length = (rows.map List.length).sum + max rows.length 1 + 1 := by
  show (0x5B :: withCommas rows ++ [0x5D]).length = _
  cases rows with
  | nil => rfl
  | cons row rows =>
    rw [List.length_append, List.length_cons, length_withCommas_cons, List.length_singleton,
      List.length_cons]
    omega

theorem length_payload_wrapped (rows : List Bytes) :
    ((json true).payload rows).length = (rows.map List.length).sum :=
  List.length_flatten

/-- **The room that is set aside is filled**, to the last byte, if the bytes of the rows were
counted right. So no payload has to grow while it is written, and no room is left over. -/
theorem length_payload (f : Framing) (rows : List Bytes) :
    (f.payload rows).length = f.reserved rows.length (rows.map List.length).sum := by
  match f with
  | .csv d => exact length_payload_csv d rows
  | .json false => exact length_payload_array rows
  | .json true => exact length_payload_wrapped rows

end Framing

namespace Batch

variable {database table label : String} {rows : List Bytes} {b : Batch}

/-- **How batches are built**: without rows or of given rows, and row by row from there. What was
given on the way is noted in its order. -/
inductive Built (database table label : String) : List Bytes → Batch → Prop where
  | empty : Built database table label [] (Batch.empty database table label)
  | ofRows (rows : List Bytes) :
    Built database table label rows (Batch.ofRows database table label rows)
  | push {rows : List Bytes} {b : Batch} (row : Bytes) (h : Built database table label rows b) :
    Built database table label (rows ++ [row]) (b.push row)

theorem totalBytes_ofRows (database table label : String) (rows : List Bytes) :
    (ofRows database table label rows).totalBytes = (rows.map List.length).sum := by
  show rows.foldl (fun n row => n + row.length) 0 = _
  rw [List.sum_eq_foldl, List.foldl_map]

/-- **A row that is added** could have been given with the others. It is the step by which every
batch is brought to one form. -/
theorem push_ofRows (database table label : String) (rows : List Bytes) (row : Bytes) :
    (ofRows database table label rows).push row = ofRows database table label (rows ++ [row]) := by
  unfold ofRows push
  rw [List.foldl_append]
  rfl

/-- Rows that are added to a batch one by one are rows of it from the beginning. The count of its
bytes is therefore proved for lists, without a look at how a batch was built. -/
theorem foldl_push_ofRows (rows added : List Bytes) :
    added.foldl push (ofRows database table label rows)
      = ofRows database table label (rows ++ added) := by
  induction added generalizing rows with
  | nil => rw [List.append_nil, List.foldl_nil]
  | cons row added ih =>
    rw [List.foldl_cons, push_ofRows, ih, List.append_assoc, List.singleton_append]

/-- **A batch is determined by what was given for it**, and not by how: at once, one by one, or some
of each. -/
theorem Built.eq_ofRows (h : Built database table label rows b) :
    b = Batch.ofRows database table label rows := by
  induction h with
  | empty => rfl
  | ofRows rows => rfl
  | push row _ ih => rw [ih, push_ofRows]

/-- **What is kept of a batch while it is built**: its names, the rows in the order they were given
in, and their bytes together. Rows that are given at once make the same batch as rows that are added
one by one. And then the payload has exactly the length that is set aside for it: a delimiter for
each row, or the brackets and commas of the array, or nothing beside the rows. -/
theorem Built.sizes (h : Built database table label rows b) :
    b.database = database ∧ b.table = table ∧ b.label = label ∧ b.rows = rows ∧
      b.size = rows.length ∧ b.totalBytes = (rows.map List.length).sum ∧
      b = Batch.ofRows database table label rows ∧
      b = rows.foldl Batch.push (Batch.empty database table label) ∧
      (∀ d, ((Framing.csv d).payload b.rows).length = b.totalBytes + b.size * d.length) ∧
      ((Framing.json false).payload b.rows).length = b.totalBytes + max b.size 1 + 1 ∧
      ((Framing.json true).payload b.rows).length = b.totalBytes ∧
      ∀ l : Loader, (l.payload b).length = l.framing.reserved b.size b.totalBytes := by
  obtain rfl := h.eq_ofRows
  have htotal : (Batch.ofRows database table label rows).totalBytes = (rows.map List.length).sum :=
    totalBytes_ofRows database table label rows
  have hpayload : ∀ f : Framing, (f.payload rows).length
      = f.reserved rows.length (Batch.ofRows database table label rows).totalBytes := fun f => by
    rw [htotal, f.length_payload]
  exact ⟨rfl, rfl, rfl, rfl, rfl, htotal, rfl, (foldl_push_ofRows [] rows).symm,
    fun d => hpayload (.csv d), hpayload (.json false), hpayload (.json true),
    fun l => hpayload l.framing⟩

/-- Three rows, two of them given at once and the third, which is empty, added. -/
theorem Built.sizes_of_three_rows :
    let rows := [Bytes.ofText "1,alice", Bytes.ofText "2,bob", []]
    let b := (Batch.ofRows "d" "t" "l" [Bytes.ofText "1,alice", Bytes.ofText "2,bob"]).push []
    Built "d" "t" "l" rows b ∧ b.totalBytes = 12 ∧
      ((Framing.csv Framing.defaultDelimiter).payload b.rows).length = 15 ∧
      ((Framing.json false).payload b.rows).length = 16 ∧
      ((Framing.json true).payload b.rows).length = 12 := by
  intro rows b
  have hbuilt : Built "d" "t" "l" rows b :=
    Built.push [] (Built.ofRows [Bytes.ofText "1,alice", Bytes.ofText "2,bob"])
  obtain ⟨-, -, -, -, hsize, htotal, -, -, hcsv, harray, hwrapped, -⟩ := hbuilt.sizes
  have hthree : b.size = 3 := hsize
  have htwelve : b.totalBytes = 12 := htotal.trans (by decide)
  rw [hthree, htwelve] at harray
  refine ⟨hbuilt, htwelve, ?_, harray, hwrapped.trans htwelve⟩
  rw [hcsv, hthree, htwelve]
  rfl

end Batch

end Ingest
