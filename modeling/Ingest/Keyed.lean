/-!
# Entries sorted by key

A finite map from texts, held as the list of its entries in ascending order of their keys. Texts
are ordered by their characters, which is the order of their UTF-8 bytes, so the list is also the
order in which entries are printed and sent.
-/

namespace Ingest

/-- Entries in ascending order of their keys, each key once. That they are so is `Keyed.Sorted`, a
property that every operation here keeps. -/
abbrev Keyed (α : Type) := List (String × α)

namespace Keyed

variable {α : Type}

def find? (k : String) : Keyed α → Option α
  | [] => none
  | (k', v) :: rest => if k = k' then some v else find? k rest

/-- Puts a value under a key; the value that stood there goes. The place is the one the order asks
for. -/
def insert (k : String) (v : α) : Keyed α → Keyed α
  | [] => [(k, v)]
  | (k', v') :: rest =>
    if k < k' then (k, v) :: (k', v') :: rest
    else if k = k' then (k, v) :: rest
    else (k', v') :: insert k v rest

/-- Takes a key out, with the one entry that stands under it. -/
def erase (k : String) : Keyed α → Keyed α
  | [] => []
  | (k', v) :: rest => if k = k' then rest else (k', v) :: erase k rest

/-- The keys in order. -/
def keys (m : Keyed α) : List String := m.map Prod.fst

/-- The map of a list of entries; of equal keys the last wins, as in an object whose members are
read one after another. -/
def ofEntries (entries : List (String × α)) : Keyed α :=
  entries.foldl (fun m e => insert e.1 e.2 m) []

/-- The order of the entries, as a property of the list. It is strict, so that no key stands twice
and two maps with the same entries are the same list. -/
def Sorted (m : Keyed α) : Prop := (keys m).Pairwise (· < ·)

@[simp] theorem find?_insert_self (k : String) (v : α) (m : Keyed α) :
    find? k (insert k v m) = some v := by
  induction m with
  | nil => simp [insert, find?]
  | cons e rest ih =>
    obtain ⟨k', v'⟩ := e
    unfold insert
    split
    · simp [find?]
    · split
      · simp [find?]
      · next h => simp [find?, h, ih]

theorem find?_insert_of_ne {k k' : String} (h : k' ≠ k) (v : α) (m : Keyed α) :
    find? k' (insert k v m) = find? k' m := by
  induction m with
  | nil => simp [insert, find?, h]
  | cons e rest ih =>
    obtain ⟨k₀, v₀⟩ := e
    unfold insert
    split
    · simp [find?, h]
    · split
      · next hk => subst hk; simp [find?, h]
      · simp [find?, ih]

theorem find?_erase_of_ne {k k' : String} (h : k' ≠ k) (m : Keyed α) :
    find? k' (erase k m) = find? k' m := by
  induction m with
  | nil => rfl
  | cons e rest ih =>
    obtain ⟨k₀, v₀⟩ := e
    unfold erase
    split
    · next hk => subst hk; simp [find?, h]
    · simp [find?, ih]

theorem find?_eq_none_iff {k : String} {m : Keyed α} : find? k m = none ↔ k ∉ keys m := by
  induction m with
  | nil => simp [find?, keys]
  | cons e rest ih =>
    obtain ⟨k₀, v₀⟩ := e
    by_cases h : k = k₀
    · simp [find?, keys, h]
    · simpa [find?, keys, h] using ih

/-! ## Order -/

theorem mem_keys_insert {k k' : String} {v : α} {m : Keyed α} :
    k' ∈ keys (insert k v m) ↔ k' = k ∨ k' ∈ keys m := by
  induction m with
  | nil => simp [insert, keys]
  | cons e rest ih =>
    obtain ⟨k₀, v₀⟩ := e
    unfold insert
    split
    · simp [keys]
    · split
      · next hk => subst hk; simp [keys]
      · simp only [keys, List.map_cons, List.mem_cons] at ih ⊢
        rw [ih]
        grind

theorem sorted_insert {k : String} {v : α} {m : Keyed α} (h : Sorted m) :
    Sorted (insert k v m) := by
  induction m with
  | nil => simp [insert, Sorted, keys]
  | cons e rest ih =>
    obtain ⟨k₀, v₀⟩ := e
    obtain ⟨hlt, hrest⟩ := List.pairwise_cons.1 h
    unfold insert
    split
    · next hk =>
      refine List.pairwise_cons.2 ⟨fun x hx => ?_, h⟩
      rcases List.mem_cons.1 hx with rfl | hx
      · exact hk
      · exact String.lt_trans hk (hlt x hx)
    · next hk =>
      split
      · next he => subst he; exact h
      · next he =>
        refine List.pairwise_cons.2 ⟨fun x hx => ?_, ih hrest⟩
        rcases mem_keys_insert.1 hx with rfl | hx
        · exact Std.lt_of_le_of_ne (String.not_lt.1 hk) (Ne.symm he)
        · exact hlt x hx

theorem sorted_erase {k : String} {m : Keyed α} (h : Sorted m) : Sorted (erase k m) := by
  have sub : ∀ m : Keyed α, (erase k m).Sublist m := by
    intro m
    induction m with
    | nil => exact .refl _
    | cons e rest ih =>
      unfold erase
      split
      · exact .cons _ (.refl _)
      · exact .cons_cons _ ih
  exact List.Pairwise.sublist ((sub m).map Prod.fst) h

theorem find?_erase_self {k : String} {m : Keyed α} (h : Sorted m) :
    find? k (erase k m) = none := by
  induction m with
  | nil => rfl
  | cons e rest ih =>
    obtain ⟨k₀, v₀⟩ := e
    obtain ⟨hlt, hrest⟩ := List.pairwise_cons.1 h
    unfold erase
    split
    · next hk =>
      subst hk
      exact find?_eq_none_iff.2 fun hm => String.lt_irrefl _ (hlt _ hm)
    · next hk => simp [find?, hk, ih hrest]

theorem sorted_ofEntries (entries : List (String × α)) : Sorted (ofEntries entries) := by
  suffices ∀ m : Keyed α, Sorted m → Sorted (entries.foldl (fun m e => insert e.1 e.2 m) m) from
    this [] List.Pairwise.nil
  induction entries with
  | nil => exact fun _ h => h
  | cons e rest ih => exact fun m h => ih _ (sorted_insert h)

end Keyed

end Ingest
