import Ingest.Http.Message

/-!
# Fields after a change

Setting a field leaves exactly one of its name and does not touch the fields of other names. What
the first value under a name is follows from what all values under it are, so the laws are stated
for all of them.

Fields that were only ever set have no name in common (`Single`). Setting such fields one after
another puts them in the place of what stood under their names and leaves the rest
(`all_setAll_of_single`).
-/

namespace Ingest.Http.Headers

variable {name other : String} {value : Bytes} {hs : Headers}

@[simp] theorem all_nil (name : String) : all name [] = [] := rfl

theorem all_cons (name : String) (f : String × Bytes) (hs : Headers) :
    all name (f :: hs) = if f.1 = name then f.2 :: all name hs else all name hs := by
  unfold all
  by_cases h : f.1 = name
  · rw [List.filter_cons, if_pos (beq_iff_eq.2 h), if_pos h, List.map_cons]
  · rw [List.filter_cons, if_neg (by simpa using h), if_neg h]

theorem first?_eq_head? (name : String) (hs : Headers) : first? name hs = (all name hs).head? := by
  unfold first? all
  rw [List.head?_map, List.head?_filter]

theorem has_eq_isSome (name : String) (hs : Headers) : has name hs = (first? name hs).isSome := by
  unfold has first?
  rw [Option.isSome_map, List.isSome_find?]

theorem all_filter_of_ne (h : other ≠ name) (hs : Headers) :
    all other (hs.filter (·.1 != name)) = all other hs := by
  unfold all
  rw [List.filter_filter]
  congr 1
  refine List.filter_congr fun f _ => ?_
  by_cases hf : f.1 = other
  · simp [hf, h]
  · simp [hf]

theorem all_filter_self (name : String) (hs : Headers) :
    all name (hs.filter (·.1 != name)) = [] := by
  unfold all
  rw [List.map_eq_nil_iff, List.filter_eq_nil_iff]
  intro f hf
  simpa using (List.mem_filter.1 hf).2

/-- Setting a field walks up to the first of its name. -/
theorem set_cons (name : String) (value : Bytes) (f : String × Bytes) (hs : Headers) :
    set name value (f :: hs)
      = if f.1 = name then (name, value) :: hs.filter (·.1 != name)
        else f :: set name value hs := by
  by_cases h : f.1 = name
  · rw [if_pos h]
    simp [set, has, h]
  · -- a field of another name stays in front, whether the name stands behind it or not
    rw [if_neg h]
    by_cases hhas : has name hs = true
    · have hcons : has name (f :: hs) = true := by
        simpa [has, h] using hhas
      simp [set, hhas, hcons, h]
    · have hcons : ¬ has name (f :: hs) = true := by
        simpa [has, h] using hhas
      simp [set, hhas, hcons]

/-- **Setting a field leaves one value under its name**, however many there were before. -/
@[simp] theorem all_set_self (name : String) (value : Bytes) (hs : Headers) :
    all name (set name value hs) = [value] := by
  induction hs with
  | nil => simp [set, has, all]
  | cons f hs ih =>
    rw [set_cons]
    by_cases h : f.1 = name
    · rw [if_pos h, all_cons, if_pos rfl, all_filter_self]
    · rw [if_neg h, all_cons, if_neg h, ih]

/-- **Setting a field leaves the fields of other names** as they were, with their order. -/
theorem all_set_of_ne (h : other ≠ name) (value : Bytes) (hs : Headers) :
    all other (set name value hs) = all other hs := by
  induction hs with
  | nil => simp [set, has, all, h.symm]
  | cons f hs ih =>
    rw [set_cons]
    by_cases hf : f.1 = name
    · rw [if_pos hf, all_cons, if_neg h.symm, all_cons, if_neg (hf ▸ h.symm), all_filter_of_ne h]
    · rw [if_neg hf, all_cons, all_cons, ih]

@[simp] theorem first?_set_self (name : String) (value : Bytes) (hs : Headers) :
    first? name (set name value hs) = some value := by
  rw [first?_eq_head?, all_set_self]
  rfl

theorem first?_set_of_ne (h : other ≠ name) (value : Bytes) (hs : Headers) :
    first? other (set name value hs) = first? other hs := by
  rw [first?_eq_head?, first?_eq_head?, all_set_of_ne h]

/-! ## Appended fields -/

theorem all_append_self (name : String) (value : Bytes) (hs : Headers) :
    all name (append name value hs) = all name hs ++ [value] := by
  simp [append, all]

theorem all_append_of_ne (h : other ≠ name) (value : Bytes) (hs : Headers) :
    all other (append name value hs) = all other hs := by
  simp [append, all, h.symm]

/-! ## One field after another -/

/-- **Fields of which no two have the same name.** It is what fields are that were set and never
appended. -/
def Single (hs : Headers) : Prop := ∀ name, (all name hs).length ≤ 1

theorem single_nil : Single [] := fun _ => Nat.zero_le 1

theorem Single.set (h : Single hs) (name : String) (value : Bytes) :
    Single (hs.set name value) := by
  intro other
  by_cases ho : other = name
  · rw [ho, all_set_self]
    exact Nat.le_refl 1
  · rw [all_set_of_ne ho]
    exact h other

/-- Of fields without a common name, the first of a name is the only one. -/
theorem Single.all_eq (h : Single hs) (name : String) : all name hs = (first? name hs).toList := by
  rw [first?_eq_head?]
  have hlen := h name
  cases hall : all name hs with
  | nil => rfl
  | cons v vs =>
    rw [hall, List.length_cons] at hlen
    have hvs : vs = [] := List.length_eq_zero_iff.1 (by omega)
    rw [hvs]
    rfl

/-- Of fields that are set one after another, the last of a name counts. Setting fields in this way
takes the place of those that stood under their names before. -/
theorem all_setAll (name : String) (fields hs : Headers) :
    all name (setAll fields hs)
      = ((all name fields).getLast?.map fun value => [value]).getD (all name hs) := by
  induction fields generalizing hs with
  | nil => rfl
  | cons f fields ih =>
    have hrest : setAll (f :: fields) hs = setAll fields (set f.1 f.2 hs) := rfl
    rw [hrest, ih, all_cons]
    by_cases hf : f.1 = name
    · rw [if_pos hf, ← hf, all_set_self, List.getLast?_cons]
      cases (all f.1 fields).getLast? <;> rfl
    · rw [if_neg hf, all_set_of_ne (Ne.symm hf)]

/-- **Setting fields without a common name**: they take the places of what stood under their
names, and what stood under other names stays. -/
theorem all_setAll_of_single {fields : Headers} (h : Single fields) (name : String) (hs : Headers) :
    all name (setAll fields hs)
      = if all name fields = [] then all name hs else all name fields := by
  rw [all_setAll, h.all_eq name]
  cases first? name fields with
  | none => rw [Option.toList_none, if_pos rfl]; rfl
  | some value => rw [Option.toList_some, if_neg (List.cons_ne_nil value [])]; rfl

end Ingest.Http.Headers
