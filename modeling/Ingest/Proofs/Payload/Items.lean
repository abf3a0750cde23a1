import Ingest.Json.Basic
import Ingest.Payload
import Ingest.Proofs.Json.Nesting
import Ingest.Proofs.Text.Utf8
import Mathlib.Data.List.Forall2

/-!
# Rows as the items of an array

Rows that are documents of their own become the items of one array, with commas between them and
brackets around them. Each row may carry blanks in front and behind: those in front are dropped
before the item is read, those behind before the comma or the bracket. A row is read in the array as
it is read alone, because neither a comma nor a bracket goes on with a number and every other value
ends by itself (`extends_all`). The array takes up one of the levels that may be nested, so the rows
may nest one level less than a document (`nesting`).

The same holds of the bytes: a row is a text throughout, so its characters are those that it has
alone, and what stands between the rows is ASCII.
-/

namespace Ingest

namespace Json

variable {cs t rest more : List Char} {depth fuel : Nat} {v : Json}

/-- **Reads a document in which arrays and objects nest at most so deep.** A document is one that
nests no deeper than the greatest depth, so this is the reader of documents with its limit as an
argument. -/
def within? (depth : Nat) (cs : List Char) : Option Json :=
  match value (2 * cs.length + 2) depth (skip cs) with
  | some (v, rest) => if (skip rest).isEmpty then some v else none
  | none => none

theorem within?_eq_some_iff : within? depth cs = some v ↔
    ∃ rest, value (2 * cs.length + 2) depth (skip cs) = some (v, rest) ∧ skip rest = [] := by
  unfold within?
  cases value (2 * cs.length + 2) depth (skip cs) with
  | none => simp only [reduceCtorEq, false_and, exists_false]
  | some r =>
    obtain ⟨v', rest⟩ := r
    simp only [List.isEmpty_iff, Option.ite_none_right_eq_some, Option.some.injEq, Prod.mk.injEq]
    constructor
    · rintro ⟨hrest, rfl⟩
      exact ⟨rest, ⟨rfl, rfl⟩, hrest⟩
    · rintro ⟨_, ⟨rfl, rfl⟩, hrest⟩
      exact ⟨hrest, rfl⟩

/-- A document is read with every limit that its text keeps. The limit is met by counting brackets
outside of strings, which can be done without reading anything. -/
theorem within?_of_nesting {s : String} (h : ofText? s = some v) (hdepth : nesting s ≤ depth) :
    within? depth s.toList = some v := by
  have hmax : within? maxDepth s.toList = some v := h
  obtain ⟨rest, hv, hrest⟩ := within?_eq_some_iff.1 hmax
  refine within?_eq_some_iff.2 ⟨rest, value_of_deepest hv ?_, hrest⟩
  rw [deepest_skip]
  exact hdepth

/-- **A document in front of a longer text** is read there as it is alone, up to what follows its
blanks. -/
theorem exists_value_append (h : within? depth t = some v) (hmore : Stops more)
    (hfuel : 2 * t.length + 2 ≤ fuel) :
    ∃ rest, value fuel depth (skip (t ++ more)) = some (v, rest) ∧ skip rest = skip more := by
  obtain ⟨rest, hv, hrest⟩ := within?_eq_some_iff.1 h
  refine ⟨rest ++ more, ?_, skip_append_of_nil hrest⟩
  rw [skip_append_of_ne_nil (ne_nil_of_value hv)]
  exact (extends_all _).1 hv hfuel hmore

/-! ## The items of an array -/

/-- Texts with a comma between neighbours, which is how the items of an array stand. -/
def withCommas : List (List Char) → List Char
  | [] => []
  | [t] => t
  | t :: ts => t ++ ',' :: withCommas ts

theorem withCommas_cons_cons (t t' : List Char) (ts : List (List Char)) :
    withCommas (t :: t' :: ts) = t ++ ',' :: withCommas (t' :: ts) := rfl

/-- The last item stands in front of the bracket, and it is read there as it is alone. -/
theorem elements_last (h : within? depth t = some v) (hfuel : 2 * t.length + 2 ≤ fuel) :
    elements (fuel + 1) depth (skip (t ++ ']' :: rest)) = some ([v], rest) := by
  have hstops : Stops (']' :: rest) := stops_cons.2 rfl
  obtain ⟨rest', hv, hrest'⟩ := exists_value_append h hstops hfuel
  exact elements_iff.2 ⟨v, rest', hv, .inl ⟨hrest', rfl⟩⟩

variable {ts : List (List Char)} {vs : List Json}

/-- Every other item stands in front of a comma, behind which the rest of them begin. -/
theorem elements_cons (h : within? depth t = some v) (hfuel : 2 * t.length + 2 ≤ fuel)
    (hmore : elements fuel depth (skip more) = some (vs, rest)) :
    elements (fuel + 1) depth (skip (t ++ ',' :: more)) = some (v :: vs, rest) := by
  have hstops : Stops (',' :: more) := stops_cons.2 rfl
  obtain ⟨rest', hv, hrest'⟩ := exists_value_append h hstops hfuel
  exact elements_iff.2 ⟨v, rest', hv, .inr ⟨more, vs, hrest', hmore, rfl⟩⟩

/-- **Documents with commas between them are the items of an array**, each of them read as it is
read alone. The induction is on the documents, and the fuel is measured by the text of all of
them. -/
theorem elements_withCommas (h : List.Forall₂ (fun t v => within? depth t = some v) ts vs)
    (hne : ts ≠ []) (hfuel : 2 * (withCommas ts).length + 3 ≤ fuel) :
    elements fuel depth (skip (withCommas ts ++ ']' :: rest)) = some (vs, rest) := by
  induction h generalizing fuel with
  | nil => exact absurd rfl hne
  | @cons t v ts vs ht hts ih =>
    obtain ⟨fuel, rfl⟩ : ∃ n, fuel = n + 1 := ⟨fuel - 1, by omega⟩
    cases ts with
    | nil =>
      cases hts
      exact elements_last ht (Nat.le_of_succ_le_succ hfuel)
    | cons t' ts =>
      rw [withCommas_cons_cons, List.length_append, List.length_cons] at hfuel
      rw [withCommas_cons_cons, List.append_assoc, List.cons_append]
      exact elements_cons ht (by omega) (ih (List.cons_ne_nil t' ts) (by omega))

/-- **Documents between brackets are an array**, which takes up a level of nesting. An array of none
is a case of its own, since there is no item to begin with. -/
theorem within?_array (h : List.Forall₂ (fun t v => within? depth t = some v) ts vs) :
    within? (depth + 1) ('[' :: (withCommas ts ++ [']'])) = some (.arr vs) := by
  refine within?_eq_some_iff.2 ⟨[], ?_, rfl⟩
  show value (2 * (withCommas ts ++ [']']).length + 3 + 1) (depth + 1) ('[' :: _) = _
  cases ts with
  | nil =>
    cases h
    rfl
  | cons t ts =>
    have hfuel : 2 * (withCommas (t :: ts)).length + 3
        ≤ 2 * (withCommas (t :: ts) ++ [']']).length + 3 := by
      rw [List.length_append]
      omega
    exact value_array_iff.2 ⟨Nat.succ_pos depth, .inr
      ⟨vs, elements_withCommas h (List.cons_ne_nil t ts) hfuel, rfl⟩⟩

end Json

namespace Framing

variable {rows : List Bytes} {ts : List (List Char)}

theorem withCommas_cons_cons (row row' : Bytes) (rows : List Bytes) :
    withCommas (row :: row' :: rows) = row ++ 0x2C :: withCommas (row' :: rows) := rfl

/-- The characters of rows with commas are those of the rows, with commas. This is where it matters
that each row is a text by itself: none of them ends in the middle of a character. -/
theorem scan_withCommas (h : List.Forall₂ (fun row t => Utf8.scan none row = t.map some) rows ts) :
    Utf8.scan none (withCommas rows) = (Json.withCommas ts).map some := by
  induction h with
  | nil => rfl
  | @cons row t rows ts hrow hrows ih =>
    cases hrows with
    | nil => exact hrow
    | cons hrow' hrows =>
      rw [withCommas_cons_cons, Json.withCommas_cons_cons, Utf8.scan_append_of_text hrow,
        List.map_append]
      exact congrArg (t.map some ++ some ',' :: ·) ih

/-- The characters of a payload are those of the rows between brackets. -/
theorem scan_payload_json
    (h : List.Forall₂ (fun row t => Utf8.scan none row = t.map some) rows ts) :
    Utf8.scan none ((json false).payload rows)
      = ('[' :: (Json.withCommas ts ++ [']'])).map some := by
  rw [List.map_cons, List.map_append]
  exact congrArg (some '[' :: ·) (Utf8.scan_append_of_text (scan_withCommas h) [0x5D])

/-- **Rows that are documents arrive as an array of them.** Let each row be the text of a document
that nests at most 126 deep, with blanks around it or not. Then their payload is the text of a
document too, and its value is the array of the values of the rows, in order and with nothing
added. -/
theorem ofText?_payload_eq_arr {rows : List Bytes} {vs : List Json}
    (h : List.Forall₂ (fun row v => ∃ s, Utf8.decode? row = some s ∧
      Json.ofText? s = some v ∧ Json.nesting s ≤ 126) rows vs) :
    ∃ s, Utf8.decode? ((json false).payload rows) = some s ∧ Json.ofText? s = some (.arr vs) := by
  obtain ⟨ts, hts, hvs⟩ : ∃ ts,
      List.Forall₂ (fun row t => Utf8.scan none row = t.map some) rows ts ∧
        List.Forall₂ (fun t v => Json.within? 126 t = some v) ts vs := by
    induction h with
    | nil => exact ⟨[], .nil, .nil⟩
    | cons hrow _ ih =>
      obtain ⟨ts, hts, hvs⟩ := ih
      obtain ⟨s, hs, hv, hdepth⟩ := hrow
      exact ⟨s.toList :: ts, .cons (Utf8.decode?_eq_some_iff.1 hs) hts,
        .cons (Json.within?_of_nesting hv hdepth) hvs⟩
  refine ⟨String.ofList ('[' :: (Json.withCommas ts ++ [']'])), ?_, ?_⟩
  · rw [Utf8.decode?_eq_some_iff, String.toList_ofList, scan_payload_json hts]
  · show Json.within? (126 + 1) (String.ofList _).toList = _
    rw [String.toList_ofList]
    exact Json.within?_array hvs

/-- An object with blanks around it, a number that only the comma ends, and a string with a bracket,
a comma and an escape inside. -/
theorem ofText?_payload_eq_arr_of_blanks :
    let texts := [" \x7b\"a\": [1, null]\x7d\n", "-2.5E1", "\t\"[é,\\u00e9\""]
    ∃ vs, vs.map Json.compact = ["\x7b\"a\":[1,null]\x7d", "-25.0", "\"[é,é\""] ∧
      texts.map Json.ofText? = vs.map some ∧ (∀ s ∈ texts, Json.nesting s ≤ 126) ∧
      ∃ s, Utf8.decode? ((json false).payload (texts.map Bytes.ofText)) = some s ∧
        Json.ofText? s = some (.arr vs) := by
  intro texts
  have hread : texts.map (fun s => (Json.ofText? s).map Json.compact)
      = [some "\x7b\"a\":[1,null]\x7d", some "-25.0", some "\"[é,é\""] := by decide +kernel
  have hnesting : ∀ s ∈ texts, Json.nesting s ≤ 126 := by decide +kernel
  simp only [texts, List.map_cons, List.map_nil, List.cons.injEq, Option.map_eq_some_iff] at hread
  obtain ⟨⟨v₁, h₁, hv₁⟩, ⟨v₂, h₂, hv₂⟩, ⟨v₃, h₃, hv₃⟩, -⟩ := hread
  have hrow : ∀ s v, s ∈ texts → Json.ofText? s = some v →
      ∃ s', Utf8.decode? (Bytes.ofText s) = some s' ∧ Json.ofText? s' = some v ∧
        Json.nesting s' ≤ 126 := fun s v hs hv =>
    ⟨s, Utf8.decode?_ofText s, hv, hnesting s hs⟩
  refine ⟨[v₁, v₂, v₃], ?_, ?_, hnesting, ofText?_payload_eq_arr
    (.cons (hrow _ v₁ (.head _) h₁) (.cons (hrow _ v₂ (.tail _ (.head _)) h₂)
      (.cons (hrow _ v₃ (.tail _ (.tail _ (.head _))) h₃) .nil)))⟩
  · simp only [List.map_cons, List.map_nil, hv₁, hv₂, hv₃]
  · simp only [texts, List.map_cons, List.map_nil, h₁, h₂, h₃]

end Framing

end Ingest
