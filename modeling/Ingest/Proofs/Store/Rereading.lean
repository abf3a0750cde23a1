import Ingest.Proofs.Json.Numbers
import Ingest.Proofs.Steps
import Ingest.Proofs.Store.Response

/-!
# What the store has sent is read again

A load that the store has rejected keeps the response, and its raw body is the text of it. That is
not the text that was sent: the known members stand in front, blanks are gone, escapes are written
in one way and of equal keys the last is left. It says the same, though, if the numbers of what was
sent are whole. Then it is read as the very response that it was made of, wherever a response is
read, and that response is written as the same text again (`rawBody_reread`).

The response has the members of the object that was sent, so its text is that of an object with
legible values, and it nests no deeper. Such an object is read back in the order of its keys, which
is how the object was read in the first place.
-/

namespace Ingest

theorem Json.Legible.members {depth : Nat} {m : List (String × Json)}
    (h : Legible (depth + 1) (.obj m)) : ∀ e ∈ m, Legible depth e.2 := by
  cases h with
  | obj _ h => exact h

namespace Response

variable {body : String} {m : Keyed Json} {r : Response}

/-- An object with a status is decoded as it is read. The two readers differ only in what they take
for an object. -/
theorem decodeText_of_ofText (h : ofText body = .ok r) : decodeText body = .ok r := by
  obtain ⟨m, hm, hr⟩ := ofText_eq_ok_iff.1 h
  rw [decodeText, hm]
  exact hr

theorem Lossless.forall_mem_members {p : Json → Prop} (h : Lossless m r) (hm : ∀ e ∈ m, p e.2) :
    ∀ e ∈ r.members, p e.2 := by
  intro e he
  have hfind := (Keyed.find?_eq_some_iff h.nodup_members).2 he
  rw [h.find?_members] at hfind
  exact hm _ (Keyed.mem_of_find? hfind)

/-- **The text of a response is the object that it was read of.** It is read with the limit of
nesting that the object has kept before, and its numbers are written as they are read. -/
theorem ofText?_text (hm : Json.ofText? body = some (.obj m)) (hwhole : Json.Whole body.toList)
    (hr : ofObject m = .ok r) : Json.ofText? r.text = some (.obj m) := by
  have hsorted := Json.sorted_of_ofText? hm
  have hlossless := lossless_of_ofObject hsorted hr
  have hlegible : ∀ e ∈ m, Json.Legible (Json.maxDepth - 1) e.2 :=
    (Json.legible_of_ofChars? hm hwhole).members
  rw [text, toJson, Json.ofText?_compact_obj (hlossless.forall_mem_members hlegible),
    hlossless.ofMembers_members hsorted]

/-- **The raw body of a rejected load is the response of the store, read again.** Let the store send
a text in which all numbers are whole, in the range of 64 bits and without a sign on a zero. If it
is read as a response, then the raw body of the failure is there, it is read and decoded as the same
response, and whatever it is read or decoded as has that raw body. -/
theorem rawBody_reread (hread : read body = .ok r) (hwhole : Json.Whole body.toList)
    (label : String) (log : Option String) :
    ∃ text, (Failure.rejected label r log).rawBody = some text ∧
      read text = .ok r ∧ decodeText text = .ok r ∧
      (∃ v, Json.ofText? text = some v ∧ decode v = .ok r) ∧
      ∀ r', read text = .ok r' ∨ decodeText text = .ok r' →
        (Failure.rejected label r' log).rawBody = some text := by
  obtain ⟨m, hm, hr⟩ := ofText_eq_ok_iff.1 (read_eq_ok_iff.1 hread)
  have hobject := ofText?_text hm hwhole hr
  have htext : ofText r.text = .ok r := ofText_eq_ok_iff.2 ⟨m, hobject, hr⟩
  have hagain := read_eq_ok_iff.2 htext
  have hdecode := decodeText_of_ofText htext
  refine ⟨r.text, rfl, hagain, hdecode, ⟨.obj m, hobject, hr⟩, fun r' hr' => ?_⟩
  have hsame : r' = r := by
    rcases hr' with hr' | hr'
    · exact Except.ok.inj (hr'.symm.trans hagain)
    · exact Except.ok.inj (hr'.symm.trans hdecode)
  rw [hsame]
  rfl

/-- Blanks, escapes, keys out of order, a key that comes twice, a label that is no text and the
limits of whole numbers: what was sent is another text than the raw body, and the same response. -/
theorem rawBody_reread_of_escapes : ∃ body raw,
    body = "\x7b \"Note\\u00e9\": [\x7b\"b\": -9223372036854775808, \"a\": 0\x7d, \"\\u0001/\"]," ++
      "\"LoadBytes\": 18446744073709551615, \"Label\": \"x\", \"Status\": \"Fail\"," ++
      "\"Label\": 7 \x7d" ∧
    raw = "\x7b\"Status\":\"Fail\",\"LoadBytes\":18446744073709551615,\"Label\":7," ++
      "\"Noteé\":[\x7b\"a\":0,\"b\":-9223372036854775808\x7d,\"\\u0001/\"]\x7d" ∧
    ∃ r, read body = .ok r ∧ Json.Whole body.toList ∧
      (Failure.rejected "L1" r none).rawBody = some raw ∧ read raw = .ok r := by
  have hinteger :
      ∀ t ∈ ["-9223372036854775808", "0", "18446744073709551615", "7"].map String.toList,
        Json.IsInteger t := by
    simp only [List.map_cons, List.map_nil, List.forall_mem_cons]
    exact ⟨⟨-9223372036854775808, by decide, by decide, by decide⟩,
      ⟨0, by decide, by decide, by decide⟩,
      ⟨18446744073709551615, by decide, by decide, by decide⟩,
      ⟨7, by decide, by decide, by decide⟩, fun t ht => nomatch ht⟩
  have hsent : ∀ {body raw}, (read body).toOption.map text = some raw →
      Json.numbers .plain body.toList
        = ["-9223372036854775808", "0", "18446744073709551615", "7"].map String.toList →
      ∃ r, read body = .ok r ∧ Json.Whole body.toList ∧
        (Failure.rejected "L1" r none).rawBody = some raw ∧ read raw = .ok r := by
    intro body raw hraw hnumbers
    obtain ⟨r, hr, rfl⟩ := Option.map_eq_some_iff.1 hraw
    have hread := toOption_eq_some_iff.1 hr
    have hwhole : Json.Whole body.toList := by rwa [Json.Whole, hnumbers]
    obtain ⟨text, htext, hagain, -⟩ := rawBody_reread hread hwhole "L1" none
    obtain rfl := Option.some.inj htext
    exact ⟨r, hread, hwhole, rfl, hagain⟩
  exact ⟨_, _, rfl, rfl, hsent (by decide +kernel) (by decide +kernel)⟩

end Response

end Ingest
