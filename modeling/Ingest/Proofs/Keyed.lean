import Ingest.Keyed

/-!
# Entries as a map

A list of entries is a map by the values that are found in it. Entries sorted by key are determined
by these values (`eq_of_find?`), and a map that is made of entries finds what a search from their
end finds, since of equal keys the last wins. So entries whose keys are all different make the
sorted map that finds the same (`ofEntries_eq_of_find?`), whatever order they stand in.
-/

namespace Ingest.Keyed

variable {α : Type} {k : String} {v : α} {m m' : Keyed α}

theorem find?_append (k : String) (m m' : Keyed α) :
    find? k (m ++ m') = (find? k m).or (find? k m') := by
  induction m with
  | nil => rfl
  | cons e rest ih =>
    obtain ⟨k₀, v₀⟩ := e
    rw [List.cons_append, find?, find?, ih]
    split <;> rfl

theorem mem_of_find? (h : find? k m = some v) : (k, v) ∈ m := by
  induction m with
  | nil => exact nomatch h
  | cons e rest ih =>
    obtain ⟨k₀, v₀⟩ := e
    rw [find?] at h
    split at h
    · next hk =>
      cases hk
      cases h
      exact .head rest
    · exact .tail _ (ih h)

/-- **What stands under different keys is found**, and nothing else is. With a key that stands twice
only the first of its values would be. -/
theorem find?_eq_some_iff (hm : (keys m).Nodup) : find? k m = some v ↔ (k, v) ∈ m := by
  refine ⟨mem_of_find?, fun hmem => ?_⟩
  induction m with
  | nil => exact nomatch hmem
  | cons e rest ih =>
    obtain ⟨hnew, hrest⟩ := List.nodup_cons.1 hm
    rcases List.mem_cons.1 hmem with rfl | hmem
    · rw [find?, if_pos rfl]
    · have hk : k ≠ e.1 := fun hk => hnew (hk ▸ List.mem_map_of_mem hmem)
      rw [find?, if_neg hk]
      exact ih hrest hmem

theorem nodup_of_sorted (h : Sorted m) : (keys m).Nodup :=
  List.Pairwise.imp (S := (· ≠ ·)) (fun {a b} (hlt : a < b) (heq : a = b) =>
    String.lt_irrefl b (heq ▸ hlt)) h

/-- **Sorted entries are determined by what is found in them.** Two such lists begin with the same
key, the least one that is found, and so they are the same throughout. -/
theorem eq_of_find? (hm : Sorted m) (hm' : Sorted m') (h : ∀ k, find? k m = find? k m') :
    m = m' := by
  have hnodup : ∀ {m : Keyed α}, Sorted m → m.Nodup := fun hm =>
    List.Pairwise.of_map Prod.fst (fun a b hne heq => hne (congrArg Prod.fst heq))
      (nodup_of_sorted hm)
  have hperm : m.Perm m' := by
    refine (List.perm_ext_iff_of_nodup (hnodup hm) (hnodup hm')).2 fun e => ?_
    rw [← find?_eq_some_iff (nodup_of_sorted hm), ← find?_eq_some_iff (nodup_of_sorted hm'), h]
  refine hperm.eq_of_pairwise (fun a b _ _ (hab : a.1 < b.1) (hba : b.1 < a.1) => ?_) ?_ ?_
  · exact absurd (String.lt_trans hab hba) (String.lt_irrefl _)
  · exact List.pairwise_map.1 hm
  · exact List.pairwise_map.1 hm'

/-- **Of equal keys the last wins**, as if the entries were searched from their end. -/
theorem find?_ofEntries (k : String) (es : List (String × α)) :
    find? k (ofEntries es) = find? k es.reverse := by
  suffices ∀ m : Keyed α, find? k (es.foldl (fun m e => insert e.1 e.2 m) m)
      = (find? k es.reverse).or (find? k m) by
    rw [ofEntries, this, find?, Option.or_none]
  induction es with
  | nil => exact fun m => rfl
  | cons e rest ih =>
    intro m
    rw [List.foldl_cons, ih, List.reverse_cons, find?_append, Option.or_assoc]
    congr 1
    by_cases hk : k = e.1
    · rw [hk, find?_insert_self, find?, if_pos rfl, Option.some_or]
    · rw [find?_insert_of_ne hk, find?, if_neg hk, find?, Option.none_or]

/-- **Entries under different keys make the sorted map that finds the same.** It need not be said
which map that is, as there is only one. -/
theorem ofEntries_eq_of_find? {es : List (String × α)} (hes : (keys es).Nodup) (hm : Sorted m)
    (h : ∀ k, find? k es = find? k m) : ofEntries es = m := by
  refine eq_of_find? (sorted_ofEntries es) hm fun k => ?_
  have hreverse : (keys es.reverse).Nodup := by
    unfold keys at hes ⊢
    rw [List.map_reverse]
    exact (List.reverse_perm _).nodup_iff.2 hes
  rw [find?_ofEntries, ← h k]
  refine Option.ext fun v => ?_
  rw [find?_eq_some_iff hreverse, find?_eq_some_iff hes, List.mem_reverse]

end Ingest.Keyed
