import Ingest.Settings.Basic

/-!
# Names in any mixture of letters

The keys of properties are told apart by their letters, and the fields of a message are not: a
property is sent under its key in small letters, and of several that come out the same the last is
the one that counts. Capital letters stand before small ones, so a key that is in small letters
already comes after every other spelling of it.
-/

namespace Ingest

theorem le_toLower (c : Char) : c ≤ c.toLower := by
  unfold Char.toLower
  split
  · next h =>
    have hle : c.val.toNat ≤ 90 := UInt32.le_iff_toNat_le.1 h.2
    have hsum : (c.val + ('a'.val - 'A'.val)).toNat = c.val.toNat + 32 := by
      rw [UInt32.toNat_add]
      exact Nat.mod_eq_of_lt (show c.val.toNat + 32 < 2 ^ 32 by omega)
    refine UInt32.le_iff_toNat_le.2 ?_
    show c.val.toNat ≤ (c.val + ('a'.val - 'A'.val)).toNat
    omega
  · exact Char.le_refl c

/-- **A text comes before itself in small letters**, or is the same. Capital letters stand before
small ones in the order of characters. -/
theorem le_lowerText (s : String) : s ≤ lowerText s := by
  refine String.not_lt.1 fun h => ?_
  rw [lowerText, String.lt_iff, String.toList_ofList] at h
  generalize s.toList = cs at h
  induction cs with
  | nil => exact List.not_lt_nil _ h
  | cons c cs ih =>
    rcases List.cons_lt_cons_iff.1 h with hlt | ⟨-, hlt⟩
    · exact Char.not_lt.2 (le_toLower c) hlt
    · exact ih hlt

namespace Keyed

/-- **What is sent under a name**: the value of the last entry whose key is the name in any mixture
of letters. -/
def spelled? (name : String) (m : Keyed String) : Option String :=
  (m.reverse.find? fun e => lowerText e.1 == name).map Prod.snd

theorem spelled?_cons (name : String) (e : String × String) (m : Keyed String) :
    spelled? name (e :: m)
      = (spelled? name m).or (if lowerText e.1 = name then some e.2 else none) := by
  unfold spelled?
  rw [List.reverse_cons, List.find?_append]
  by_cases h : lowerText e.1 = name
  · rw [if_pos h, List.find?_cons_of_pos (by simpa using h)]
    cases m.reverse.find? fun e => lowerText e.1 == name <;> rfl
  · rw [if_neg h, List.find?_cons_of_neg (by simpa using h)]
    cases m.reverse.find? fun e => lowerText e.1 == name <;> rfl

/-- A name is not spelled by any key exactly if no key is the name in some mixture of cases. -/
theorem spelled?_eq_none_iff {name : String} {m : Keyed String} :
    spelled? name m = none ↔ ∀ k ∈ keys m, lowerText k ≠ name := by
  unfold spelled? keys
  rw [Option.map_eq_none_iff, List.find?_eq_none]
  constructor
  · intro h k hk
    obtain ⟨e, he, rfl⟩ := List.mem_map.1 hk
    simpa using h e (List.mem_reverse.2 he)
  · intro h e he
    simpa using h e.1 (List.mem_map_of_mem (List.mem_reverse.1 he))

/-- **A key in small letters counts before all other spellings of it**: it is the last of them in
the order of keys, and so it is the last to be set. -/
theorem spelled?_of_find? {name value : String} {m : Keyed String} (hm : Sorted m)
    (hname : lowerText name = name) (h : find? name m = some value) :
    spelled? name m = some value := by
  induction m with
  | nil => exact nomatch h
  | cons e rest ih =>
    obtain ⟨hlt, hrest⟩ := List.pairwise_cons.1 hm
    rw [spelled?_cons]
    by_cases he : name = e.1
    · -- a key behind it is greater, and so it is no spelling of the name
      rw [find?, if_pos he] at h
      have hnone : spelled? name rest = none := by
        refine spelled?_eq_none_iff.2 fun k hk hlower => ?_
        have hle : k ≤ name := hlower ▸ le_lowerText k
        exact String.not_lt.2 hle (he ▸ hlt k hk)
      rw [hnone, Option.none_or, if_pos (he ▸ hname)]
      exact h
    · rw [find?, if_neg he] at h
      rw [ih hrest h, Option.some_or]

end Keyed

end Ingest
