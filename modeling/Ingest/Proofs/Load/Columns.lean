import Ingest.Proofs.Load.Defaults

/-!
# The list of columns is read back

A name is listed between backquotes, and it loses its own before. So whoever reads the list from its
front is inside a name from one backquote to the next, whatever the name holds, and the commas
outside are those that were put between the names (`cut_withCommas`). A name may be empty, or it may
be the word for the column of operations: it stands between backquotes like any other, and that
column stands without.

`read_header` says what is read of a list. With it a list says as much as its cleaned names and
whether there is a column for operations, and no more (`header_read_back`).
-/

namespace Ingest.Columns

variable {name : String} {names : List String} {operations inside : Bool} {c : Char}
  {t cs p : List Char} {ps : List (List Char)}

/-! ## Cutting -/

theorem quote_not_mem_clean (name : String) : quote ∉ clean name := by
  intro hmem
  exact of_decide_eq_true (List.mem_filter.1 hmem).2 rfl

theorem cut_cons (hc : ¬ (c = ',' ∧ (!inside) = true))
    (h : cut (if c = quote then !inside else inside) cs = p :: ps) :
    cut inside (c :: cs) = (c :: p) :: ps := by
  rw [cut, if_neg hc, h]

/-- **Inside backquotes nothing is cut**, up to the one that closes them. A comma in a name is part
of the name, as is a blank or a letter of the operations. -/
theorem cut_inside (ht : quote ∉ t) (h : cut false cs = p :: ps) :
    cut true (t ++ quote :: cs) = (t ++ quote :: p) :: ps := by
  induction t with
  | nil =>
    refine cut_cons (fun hc => nomatch hc.2) ?_
    rw [if_pos rfl]
    exact h
  | cons c t ih =>
    obtain ⟨hc, ht⟩ := not_or.1 (mt List.mem_cons.2 ht)
    refine cut_cons (fun hc => nomatch hc.2) ?_
    rw [if_neg (Ne.symm hc)]
    exact ih ht

theorem cut_quoted (name : String) (h : cut false cs = p :: ps) :
    cut false (quoted name ++ cs) = (quoted name ++ p) :: ps := by
  have hquoted : ∀ more, quoted name ++ more = quote :: (clean name ++ quote :: more) := by
    intro more
    simp only [quoted, List.cons_append, List.append_assoc, List.nil_append]
  rw [hquoted, hquoted]
  refine cut_cons (fun hc => absurd hc.1 (by decide)) ?_
  rw [if_pos rfl]
  exact cut_inside (quote_not_mem_clean name) h

theorem cut_comma (cs : List Char) : cut false (',' :: cs) = [] :: cut false cs := by
  rw [cut, if_pos ⟨rfl, rfl⟩]

/-- **The list is cut into the names that were listed**, and into what stands behind them. What
stands behind begins outside of backquotes, since every name has closed its own. -/
theorem cut_withCommas (hnames : names ≠ []) (h : cut false cs = [] :: ps) :
    cut false (withCommas (names.map quoted) ++ cs) = names.map quoted ++ ps := by
  induction names with
  | nil => exact absurd rfl hnames
  | cons name names ih =>
    cases names with
    | nil =>
      show cut false (quoted name ++ cs) = quoted name :: ps
      rw [cut_quoted name h, List.append_nil]
    | cons name' names =>
      have hlist : withCommas ((name :: name' :: names).map quoted) ++ cs
          = quoted name ++ ',' :: (withCommas ((name' :: names).map quoted) ++ cs) :=
        List.append_assoc ..
      have hcomma := cut_comma (withCommas ((name' :: names).map quoted) ++ cs)
      rw [hlist, cut_quoted name hcomma, ih (List.cons_ne_nil name' names), List.append_nil]
      rfl

/-! ## Reading -/

theorem entry_quoted (name : String) :
    entry (quoted name) = .name (String.ofList (clean name)) := by
  have hpiece : quoted name = quote :: (clean name ++ [quote]) := rfl
  rw [hpiece, entry, if_pos ⟨rfl, List.getLast?_concat⟩, List.dropLast_concat]

/-- **The columns that are listed**: every name as it is cleaned, and with operations the column for
them behind the names, if there are any. -/
def listed (names : List String) (operations : Bool) : List Entry :=
  names.map (fun name => .name (String.ofList (clean name))) ++
    if operations = true ∧ names ≠ [] then [.plain operation] else []

theorem toList_header (hnames : names ≠ []) : (header names operations).toList
    = withCommas (names.map quoted) ++ if operations then ',' :: operation.toList else [] := by
  have hne : (withCommas (names.map quoted)).isEmpty = false := by
    refine List.isEmpty_eq_false_iff.2 fun hnil => hnames ?_
    have hempty : header names false = "" := by
      rw [header, hnil]
      rfl
    exact header_eq_empty_iff.1 hempty
  rw [header, String.toList_ofList, hne]
  cases operations with
  | false => exact (List.append_nil _).symm
  | true => rfl

/-- **What is read of a list are the columns that were listed.** An empty list is the one case in
which there is nothing to cut. -/
theorem read_header (names : List String) (operations : Bool) :
    read (header names operations) = listed names operations := by
  by_cases hnames : names = []
  · subst hnames
    have hempty : header [] operations = "" := header_eq_empty_iff.2 rfl
    rw [hempty, listed, if_neg fun h => h.2 rfl]
    rfl
  · -- what stands behind the names is cut off as a piece of its own
    have hbehind : cut false (if operations then ',' :: operation.toList else [])
        = [] :: if operations then [operation.toList] else [] := by
      cases operations <;> decide
    rw [read, if_neg (mt header_eq_empty_iff.1 hnames), toList_header hnames,
      cut_withCommas hnames hbehind, List.map_append, List.map_map, listed]
    congr 1
    · exact List.map_congr_left fun name _ => entry_quoted name
    · cases operations with
      | false => rfl
      | true =>
        rw [if_pos rfl, if_pos ⟨rfl, hnames⟩]
        decide

/-- The name of a column that has one. -/
def Entry.name? : Entry → Option String
  | .name s => some s
  | .plain _ => none

theorem filterMap_name?_listed (names : List String) (operations : Bool) :
    (listed names operations).filterMap Entry.name?
      = names.map fun name => String.ofList (clean name) := by
  have hbehind : ∀ P : Prop, [Decidable P] →
      (if P then [Entry.plain operation] else []).filterMap Entry.name? = [] := by
    intro P _
    split <;> rfl
  have hnames : Entry.name? ∘ (fun name => .name (String.ofList (clean name)))
      = some ∘ fun name => String.ofList (clean name) := rfl
  rw [listed, List.filterMap_append, hbehind, List.append_nil, List.filterMap_map, hnames,
    List.filterMap_eq_map]

theorem plain_mem_listed_iff :
    .plain operation ∈ listed names operations ↔ operations = true ∧ names ≠ [] := by
  have hname : .plain operation ∉
      names.map fun name => Entry.name (String.ofList (clean name)) := by
    intro hmem
    obtain ⟨name, -, h⟩ := List.mem_map.1 hmem
    exact nomatch h
  rw [listed, List.mem_append, or_iff_right hname]
  split
  · next h => exact iff_of_true (List.mem_singleton.2 rfl) h
  · next h => exact iff_of_false List.not_mem_nil h

/-- **The list of columns is read back.** What is read of it are the cleaned names in their order,
and behind them the column for operations if it was asked for and there are names. So two lists are
the same exactly if their cleaned names are and both have that column or neither has. -/
theorem header_read_back :
    (∀ names operations, read (header names operations)
      = names.map (fun name => .name (String.ofList (clean name))) ++
        if operations = true ∧ names ≠ [] then [.plain operation] else []) ∧
    (∀ name, quote ∉ clean name) ∧
    ∀ names operations names' operations',
      header names operations = header names' operations' ↔
        names.map clean = names'.map clean ∧
          ((operations = true ∧ names ≠ []) ↔ (operations' = true ∧ names' ≠ [])) := by
  refine ⟨read_header, quote_not_mem_clean, fun names operations names' operations' => ?_⟩
  constructor
  · intro h
    have hlisted : listed names operations = listed names' operations' := by
      rw [← read_header, h, read_header]
    have hnames : (names.map fun name => String.ofList (clean name))
        = names'.map fun name => String.ofList (clean name) := by
      rw [← filterMap_name?_listed names operations, hlisted, filterMap_name?_listed]
    refine ⟨?_, ?_⟩
    · have hclean := congrArg (List.map String.toList) hnames
      simpa only [List.map_map, Function.comp_def, String.toList_ofList] using hclean
    · rw [← plain_mem_listed_iff, hlisted, plain_mem_listed_iff]
  · rintro ⟨hnames, hoperations⟩
    have hquoted : names.map quoted = names'.map quoted := by
      have hquote := congrArg (List.map fun t => quote :: t ++ [quote]) hnames
      rwa [List.map_map, List.map_map] at hquote
    by_cases hempty : names = []
    · have hempty' : names' = [] := by
        subst hempty
        exact List.map_eq_nil_iff.1 hnames.symm
      rw [header_eq_empty_iff.2 hempty, header_eq_empty_iff.2 hempty']
    · have hempty' : names' ≠ [] := by
        rintro rfl
        exact hempty (List.map_eq_nil_iff.1 hnames)
      have hsame : operations = operations' := by
        rw [Bool.eq_iff_iff]
        simpa only [hempty, hempty', ne_eq, not_false_eq_true, and_true] using hoperations
      rw [← String.toList_inj, toList_header hempty, toList_header hempty', hquoted, hsame]

/-- Names with a comma, with blanks around them, like the column for operations, and with nothing in
them. -/
example : read (header ["a,b", " c\td ", "__op", "e\x60f", ""] true)
    = [.name "a,b", .name "c\td", .name "__op", .name "ef", .name "", .plain "__op"] := by
  decide +kernel

end Ingest.Columns
