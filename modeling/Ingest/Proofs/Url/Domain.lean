import Ingest.Proofs.Steps
import Ingest.Proofs.Text.Utf8
import Ingest.Url.Host

/-!
# What no name can hold

A name goes through many hands before it is looked at: its escapes are resolved, its bytes are read
as text, capitals become small, and marks are put on their letters. None of this takes a blank or a
control away, wherever it stands. So a name that holds one is refused, whatever else it holds
(`parse_append_loose`).
-/

namespace Ingest

/-! ## Composition -/

namespace Composite

variable {c d start : Char} {cs marks : List Char}

theorem pair?_of_lt_left (h : c.toNat < 0x3C) (d : Char) : pair? c d = none := by
  rw [pair?, if_pos (.inl h)]

theorem pair?_of_lt_right (h : d.toNat < 0x300) (c : Char) : pair? c d = none := by
  rw [pair?, if_pos (.inr h)]

/-- A character without parts is still there when a text is taken apart. No character of ASCII has
parts. -/
theorem mem_takeApart (h : c.toNat < 0xC0) (hc : c ∈ cs) : c ∈ takeApart cs := by
  refine List.mem_flatMap.2 ⟨c, hc, ?_⟩
  rw [takeChar, if_pos h]
  exact List.mem_singleton.2 rfl

/-- A character that is no part of another one stays: as the start of a group, as one of its marks,
or in what is still to be looked at. -/
theorem mem_putBehind (h : c.toNat < 0x3C) {last : Nat}
    (hc : c = start ∨ c ∈ marks ∨ c ∈ cs) : c ∈ putBehind start marks last cs := by
  induction cs generalizing start marks last with
  | nil =>
    rw [putBehind]
    simpa using hc
  | cons d ds ih =>
    unfold putBehind
    simp only
    split
    · next s hwhole =>
      -- the two that were put together are both other characters
      have hpair : pair? start d = some s := by
        split at hwhole
        · exact hwhole
        · exact nomatch hwhole
      have hstart : c ≠ start := by
        rintro rfl
        exact nomatch (pair?_of_lt_left h d).symm.trans hpair
      have hmark : c ≠ d := by
        rintro rfl
        exact nomatch (pair?_of_lt_right (by omega) start).symm.trans hpair
      refine ih (.inr ?_)
      rcases hc with hc | hc | hc
      · exact absurd hc hstart
      · exact .inl hc
      · exact .inr ((List.mem_cons.1 hc).resolve_left hmark)
    · split
      · rw [List.cons_append, List.mem_cons, List.mem_append, List.mem_reverse]
        rcases hc with hc | hc | hc
        · exact .inl hc
        · exact .inr (.inl hc)
        · exact .inr (.inr (ih ((List.mem_cons.1 hc).imp id .inr)))
      · refine ih ?_
        rcases hc with hc | hc | hc
        · exact .inl hc
        · exact .inr (.inl (List.mem_cons_of_mem d hc))
        · rcases List.mem_cons.1 hc with hc | hc
          · exact .inr (.inl (hc ▸ List.mem_cons_self))
          · exact .inr (.inr hc)

/-- **Composition does not lose a character that is no part of another one.** It takes a text apart,
puts its marks in order and joins what belongs together, and a blank survives each of the three. -/
theorem mem_compose (h : c.toNat < 0x3C) (hc : c ∈ cs) : c ∈ compose cs := by
  have horder : c ∈ order (takeApart cs) :=
    (order_perm _).mem_iff.2 (mem_takeApart (by omega) hc)
  unfold compose
  generalize order (takeApart cs) = ds at horder
  induction ds with
  | nil => exact nomatch horder
  | cons d ds ih =>
    rw [putTogether]
    split
    · exact mem_putBehind h ((List.mem_cons.1 horder).imp id .inr)
    · rcases List.mem_cons.1 horder with rfl | hds
      · exact List.mem_cons_self
      · exact List.mem_cons_of_mem d (ih hds)

end Composite

/-! ## Bytes -/

namespace Utf8

variable {b : UInt8} {bs : Bytes} {p : Option Pending}

/-- What comes behind a lead byte is none of ASCII. So a byte of ASCII ends what has begun before
it. -/
theorem le_least_of_lead {q : Pending} (h : lead b = .begins q) : 0x80 ≤ q.least := by
  unfold lead at h
  repeat' split at h
  all_goals simp only [Lead.begins.injEq, reduceCtorEq] at h
  all_goals
    rw [← h]
    first
    | exact UInt8.le_refl _
    | exact UInt8.le_iff_toNat_le.2 (by decide)

/-- **A byte of ASCII in a text is a character of it.** The reader only takes a byte for a part of a
character if it is none of ASCII, and nothing in a text is passed over. -/
theorem mem_scan (hascii : b < 0x80) (hp : ∀ q, p = some q → 0x80 ≤ q.least) (hb : b ∈ bs)
    (hall : none ∉ scan p bs) : some (Char.ofNat b.toNat) ∈ scan p bs := by
  induction bs generalizing p with
  | nil => exact absurd hb List.not_mem_nil
  | cons x xs ih =>
    cases p with
    | none =>
      rw [scan, List.mem_append] at hall ⊢
      have hrest : none ∉ scan (openAt x).2 xs := fun h => hall (.inr h)
      rcases List.mem_cons.1 hb with rfl | hb
      · refine .inl ?_
        rw [openAt, lead, if_pos hascii]
        exact List.mem_singleton.2 rfl
      · refine .inr (ih (fun q hq => ?_) hb hrest)
        unfold openAt at hq
        cases hlead : lead x with
        | whole c =>
          rw [hlead] at hq
          exact absurd hq (Option.some_ne_none q).symm
        | stray =>
          rw [hlead] at hq
          exact absurd hq (Option.some_ne_none q).symm
        | begins q' =>
          rw [hlead] at hq
          rw [← Option.some.inj hq]
          exact le_least_of_lead hlead
    | some q =>
      rw [scan] at hall ⊢
      split at hall
      · next hbounds =>
        have hne : b ≠ x := by
          rintro rfl
          exact absurd (UInt8.le_trans (hp q rfl) hbounds.1) (UInt8.not_le.2 hascii)
        have hb : b ∈ xs := (List.mem_cons.1 hb).resolve_left hne
        rw [if_pos hbounds]
        simp only at hall ⊢
        split at hall
        · next howed =>
          rw [if_pos howed]
          refine List.mem_cons_of_mem _ (ih (fun q hq => absurd hq (Option.some_ne_none q).symm) hb
            fun h => ?_)
          exact hall (List.mem_cons_of_mem _ h)
        · next howed =>
          rw [if_neg howed]
          refine ih ?_ hb hall
          intro q' hq'
          rw [← Option.some.inj hq']
          exact UInt8.le_refl _
      · exact absurd List.mem_cons_self hall

theorem mem_of_decode? {s : String} (hascii : b < 0x80) (hb : b ∈ bs) (h : decode? bs = some s) :
    Char.ofNat b.toNat ∈ s.toList := by
  unfold decode? at h
  obtain ⟨cs, hcs, rfl⟩ := Option.map_eq_some_iff.1 h
  rw [String.toList_ofList]
  have hread : scan none bs = cs.map some := by
    rw [← mapM_eq_some_iff.1 hcs, List.map_id]
  have hall : none ∉ scan none bs := by
    rw [hread, List.mem_map]
    rintro ⟨c, -, hc⟩
    exact nomatch hc
  have hmem : some (Char.ofNat b.toNat) ∈ scan none bs :=
    mem_scan hascii (fun q hq => (nomatch hq)) hb hall
  rw [hread, List.mem_map] at hmem
  obtain ⟨c, hc, heq⟩ := hmem
  rwa [← Option.some.inj heq]

end Utf8

namespace Url

theorem isSome_hex?_of_hexPair? {a c x : UInt8} (h : hexPair? a c = some x) :
    (Digit.hex? (Char.ofNat a.toNat)).isSome = true ∧
      (Digit.hex? (Char.ofNat c.toNat)).isSome = true := by
  unfold hexPair? at h
  obtain ⟨m, hm, h⟩ := Option.bind_eq_some_iff.1 h
  obtain ⟨n, hn, -⟩ := Option.bind_eq_some_iff.1 h
  rw [hm, hn]
  exact ⟨rfl, rfl⟩

/-- **A byte that is no part of an escape stays.** It can be taken for neither the sign of one nor a
digit behind it. -/
theorem mem_unescape {b : UInt8} {bs : Bytes} (hpercent : b ≠ 0x25)
    (hdigit : Digit.hex? (Char.ofNat b.toNat) = none) (hb : b ∈ bs) : b ∈ unescape bs := by
  fun_induction unescape bs with
  | case1 => exact nomatch hb
  | case2 a c rest x hx ih =>
    -- neither the sign nor a digit behind it
    obtain ⟨ha, hc⟩ := isSome_hex?_of_hexPair? hx
    rcases List.mem_cons.1 hb with rfl | hb
    · exact absurd rfl hpercent
    rcases List.mem_cons.1 hb with rfl | hb
    · rw [hdigit] at ha
      exact nomatch ha
    rcases List.mem_cons.1 hb with rfl | hb
    · rw [hdigit] at hc
      exact nomatch hc
    exact List.mem_cons_of_mem x (ih hb)
  | case3 a c rest hx ih =>
    rcases List.mem_cons.1 hb with rfl | hb
    · exact List.mem_cons_self
    · exact List.mem_cons_of_mem _ (ih hb)
  | case4 x rest hx ih =>
    rcases List.mem_cons.1 hb with rfl | hb
    · exact List.mem_cons_self
    · exact List.mem_cons_of_mem _ (ih hb)

namespace Domain

variable {c : Char} {cs : List Char}

/-- What comes before the letters has no small form. -/
theorem toLower_of_lt (h : c.toNat < 0x41) : c.toLower = c := by
  unfold Char.toLower
  rw [dif_neg fun hcapital => ?_]
  have hle : 0x41 ≤ c.toNat := UInt32.le_iff_toNat_le.1 hcapital.1
  omega

/-- **A name that holds a blank or a control is refused.** It is still there when the name has been
mapped and composed, and then it is one of the characters that no name may hold. -/
theorem mapped?_of_mem (h : c.toNat ≤ 0x20) (hc : c ∈ cs) : mapped? cs = none := by
  have hforbidden : isForbidden c = true := by
    unfold isForbidden
    rw [decide_eq_true h, Bool.true_or, Bool.true_or]
  have hrefused : ∀ {ds : List Char}, c ∈ ds →
      Option.filter (!·.any isForbidden) (some ds) = none := by
    intro ds hds
    rw [Option.filter_some, List.any_eq_true.2 ⟨c, hds, hforbidden⟩]
    rfl
  unfold mapped?
  simp only
  split
  · refine hrefused (List.mem_map.2 ⟨c, hc, toLower_of_lt (by omega)⟩)
  · cases hparts : cs.mapM mapChar? with
    | none => rfl
    | some parts =>
      have hmem : some [c] ∈ parts.map some := by
        rw [← mapM_eq_some_iff.1 hparts, List.mem_map]
        refine ⟨c, hc, ?_⟩
        rw [mapChar?, if_pos (by omega), toLower_of_lt (by omega)]
      obtain ⟨part, hpart, heq⟩ := List.mem_map.1 hmem
      refine hrefused (Composite.mem_compose (by omega) (List.mem_flatten.2 ⟨part, hpart, ?_⟩))
      rw [Option.some.inj heq]
      exact List.mem_singleton.2 rfl

theorem ofBytes?_of_mem {b : UInt8} {bs : Bytes} (h : b.toNat ≤ 0x20) (hb : b ∈ bs) :
    ofBytes? bs = none := by
  have hnone : ∀ s, Utf8.decode? bs = some s → mapped? s.toList = none := by
    intro s hs
    have hsmall : ∀ n ≤ 0x20, (Char.ofNat n).toNat = n := by decide
    have hchar := hsmall b.toNat h
    refine mapped?_of_mem (c := Char.ofNat b.toNat) (by rw [hchar]; exact h) ?_
    exact Utf8.mem_of_decode? (UInt8.lt_iff_toNat_lt.2 (Nat.lt_of_le_of_lt h (by decide))) hb hs
  unfold ofBytes?
  cases hs : Utf8.decode? bs with
  | none => rfl
  | some s =>
    simp only [Option.bind_eq_bind, Option.bind_some, hnone s hs, Option.bind_none]

end Domain

/-- **A text that ends in a blank or a control is no host.** This is so for a name as for an address
in numbers, with or without brackets. -/
theorem Host.parse_append_loose {cs loose : List Char} (hne : loose ≠ [])
    (h : ∀ c ∈ loose, c.toNat ≤ 0x20) : ∃ f, Host.parse (cs ++ loose) = .error f := by
  obtain ⟨c, hlast⟩ : ∃ c, loose.getLast? = some c :=
    ⟨_, List.getLast?_eq_some_getLast hne⟩
  have hmem : c ∈ loose := List.mem_of_getLast? hlast
  have hc : c.toNat ≤ 0x20 := h c hmem
  unfold Host.parse
  split
  · next t ht =>
    -- a bracket that is not closed
    have hopen : ¬ t.getLast? = some ']' := by
      intro hclosed
      have hend : ('[' :: t).getLast? = some ']' := by
        rw [List.getLast?_cons, hclosed]
        rfl
      rw [← ht, List.getLast?_append, hlast] at hend
      obtain rfl : c = ']' := Option.some.inj hend
      exact absurd hc (by decide)
    rw [bracketed, if_neg hopen]
    exact ⟨_, rfl⟩
  · have hbyte : UInt8.ofNat c.toNat ∈ (cs ++ loose).flatMap String.utf8EncodeChar := by
      refine List.mem_flatMap.2 ⟨c, List.mem_append_right cs hmem, ?_⟩
      rw [Utf8.utf8EncodeChar_of_lt (by omega)]
      exact List.mem_singleton.2 rfl
    have hnat : (UInt8.ofNat c.toNat).toNat = c.toNat := Nat.mod_eq_of_lt (by omega)
    have hkept : UInt8.ofNat c.toNat
        ∈ unescape ((cs ++ loose).flatMap String.utf8EncodeChar) := by
      have hsmall : ∀ n ≤ 0x20, UInt8.ofNat n ≠ 0x25 ∧
          Digit.hex? (Char.ofNat (UInt8.ofNat n).toNat) = none := by decide
      obtain ⟨hpercent, hdigit⟩ := hsmall c.toNat hc
      exact mem_unescape hpercent hdigit hbyte
    rw [Domain.ofBytes?_of_mem (by rw [hnat]; exact hc) hkept]
    exact ⟨_, rfl⟩

end Url

end Ingest
