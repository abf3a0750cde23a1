/-!
# Steps that may fail

A computation that is put together from steps which may fail comes to a result exactly when every
one of them does. With `bind_eq_ok` what is known of the steps is known of the whole, in the order
in which they are taken. The same step taken for every entry of a list is `mapM_eq_some_iff`.
-/

namespace Ingest

/-- Two steps succeed exactly when the first does, and the second does with its result. It is the
one law by which readers, checks and builders are opened; none of them is unfolded further. -/
theorem bind_eq_ok {ε α β : Type} {x : Except ε α} {f : α → Except ε β} {b : β} :
    x >>= f = .ok b ↔ ∃ a, x = .ok a ∧ f a = .ok b := by
  cases x with
  | error e =>
    constructor
    · exact fun h => nomatch h
    · exact fun ⟨a, h, _⟩ => nomatch h
  | ok a =>
    constructor
    · exact fun h => ⟨a, rfl, h⟩
    · rintro ⟨a', ⟨⟩, h⟩
      exact h

theorem exists_eq_ok_of_isOk {ε α : Type} {x : Except ε α} (h : x.isOk = true) :
    ∃ a, x = .ok a := by
  cases x with
  | error e => exact nomatch h
  | ok a => exact ⟨a, rfl⟩

theorem toOption_eq_some_iff {ε α : Type} {x : Except ε α} {a : α} :
    x.toOption = some a ↔ x = .ok a := by
  cases x with
  | error e => simp only [Except.toOption, reduceCtorEq]
  | ok a' => simp only [Except.toOption, Option.some.injEq, Except.ok.injEq]

/-- The entries of a list are read exactly if each of them is. -/
theorem mapM_eq_some_iff {α β : Type} {f : α → Option β} {l : List α} {rs : List β} :
    l.mapM f = some rs ↔ l.map f = rs.map some := by
  induction l generalizing rs with
  | nil =>
    rw [List.mapM_nil]
    cases rs <;> simp
  | cons a l ih =>
    rw [List.mapM_cons, List.map_cons]
    cases hfa : f a with
    | none => cases rs <;> simp
    | some r =>
      simp only [Option.bind_eq_bind, Option.bind_some, Option.bind_eq_some_iff, ih]
      constructor
      · rintro ⟨rs', hrs', h⟩
        rw [← Option.some.inj h, List.map_cons, hrs']
      · intro h
        obtain ⟨r', rs', rfl, hr, hrs⟩ := List.map_eq_cons_iff.1 h.symm
        rw [← Option.some.inj hr]
        exact ⟨rs', hrs.symm, rfl⟩

end Ingest
