import PromptLibrary.Source.Extract
/-!
# Places of patterns

The search for a pattern gives the end of a text; here that end is named by its offset, the first
one at which the pattern stands.  The place of a literal in source text is then three such offsets
one after the other, and each search that finds nothing has an error of its own.
-/

namespace PromptLibrary.Proofs.Source.Place

open PromptLibrary.Source

section FirstPlace

variable {α : Type}

/-- `i` is the first offset from `k` on at which `pattern` stands in `s`. -/
structure FirstAt (pattern s : List α) (k i : Nat) : Prop where
  from_le : k ≤ i
  le_length : i ≤ s.length
  here : pattern <+: s.drop i
  not_before : ∀ j, k ≤ j → j < i → ¬ pattern <+: s.drop j

/-- `pattern` stands nowhere in `s` from the offset `k` on. -/
def AbsentFrom (pattern s : List α) (k : Nat) : Prop :=
  ∀ i, k ≤ i → i ≤ s.length → ¬ pattern <+: s.drop i

variable {pattern s : List α} {a : α} {i j k : Nat}

theorem firstAt_unique (hi : FirstAt pattern s k i) (hj : FirstAt pattern s k j) : i = j := by
  rcases Nat.lt_trichotomy i j with hlt | heq | hgt
  · exact absurd hi.here (hj.not_before i hi.from_le hlt)
  · exact heq
  · exact absurd hj.here (hi.not_before j hj.from_le hgt)

theorem firstAt_zero (h : pattern <+: s) : FirstAt pattern s 0 0 :=
  ⟨Nat.le_refl 0, Nat.zero_le _, h, fun _ _ hj => absurd hj (Nat.not_lt_zero _)⟩

theorem firstAt_cons_succ (h : ¬ pattern <+: a :: s) :
    FirstAt pattern (a :: s) 0 (i + 1) ↔ FirstAt pattern s 0 i := by
  constructor
  · intro hf
    refine ⟨Nat.zero_le _, Nat.le_of_succ_le_succ hf.le_length, hf.here, ?_⟩
    intro j _ hj
    exact hf.not_before (j + 1) (Nat.zero_le _) (Nat.succ_lt_succ hj)
  · intro hf
    refine ⟨Nat.zero_le _, Nat.succ_le_succ hf.le_length, hf.here, ?_⟩
    intro j _ hj
    cases j with
    | zero => exact h
    | succ j => exact hf.not_before j (Nat.zero_le _) (Nat.lt_of_succ_lt_succ hj)

theorem absentFrom_cons (h : ¬ pattern <+: a :: s) :
    AbsentFrom pattern (a :: s) 0 ↔ AbsentFrom pattern s 0 := by
  constructor
  · intro hf i _ hi
    exact hf (i + 1) (Nat.zero_le _) (Nat.succ_le_succ hi)
  · intro hf i _ hi
    cases i with
    | zero => exact h
    | succ i => exact hf i (Nat.zero_le _) (Nat.le_of_succ_le_succ hi)

/-- An offset in the end of a text is an offset in the whole text. -/
theorem firstAt_drop (hk : k ≤ s.length) :
    FirstAt pattern (s.drop k) 0 i ↔ FirstAt pattern s k (k + i) := by
  constructor
  · intro hf
    have hle := hf.le_length
    rw [List.length_drop] at hle
    refine ⟨Nat.le_add_right k i, by omega, ?_, ?_⟩
    · rw [← List.drop_drop]
      exact hf.here
    · intro j hkj hj
      have hn := hf.not_before (j - k) (Nat.zero_le _) (by omega)
      rwa [List.drop_drop, Nat.add_sub_cancel' hkj] at hn
  · intro hf
    have hle := hf.le_length
    refine ⟨Nat.zero_le _, ?_, ?_, ?_⟩
    · rw [List.length_drop]
      omega
    · rw [List.drop_drop]
      exact hf.here
    · intro j _ hj
      rw [List.drop_drop]
      exact hf.not_before (k + j) (Nat.le_add_right k j) (by omega)

theorem absentFrom_drop (hk : k ≤ s.length) :
    AbsentFrom pattern (s.drop k) 0 ↔ AbsentFrom pattern s k := by
  constructor
  · intro hf i hki hi
    have hn := hf (i - k) (Nat.zero_le _) (by rw [List.length_drop]; omega)
    rwa [List.drop_drop, Nat.add_sub_cancel' hki] at hn
  · intro hf i _ hi
    rw [List.length_drop] at hi
    rw [List.drop_drop]
    exact hf (k + i) (Nat.le_add_right k i) (by omega)

/-- A symbol stands first behind a stretch without it. -/
theorem firstAt_symbol {t u r : List α} (hu : a ∉ u) :
    FirstAt [a] (t ++ (u ++ a :: r)) t.length (t.length + u.length) := by
  have hlen : t.length ≤ (t ++ (u ++ a :: r)).length := by simp
  rw [← firstAt_drop hlen, List.drop_left]
  clear hlen
  induction u with
  | nil => exact firstAt_zero (List.prefix_append [a] r)
  | cons b u ih =>
    rw [List.mem_cons, not_or] at hu
    refine (firstAt_cons_succ fun hp => ?_).2 (ih hu.2)
    exact hu.1 (List.cons_prefix_cons.1 hp).1

/-- Text that is put after the end does not move the first place of a pattern. -/
theorem firstAt_append {more : List α} (h : FirstAt pattern s k i) :
    FirstAt pattern (s ++ more) k i := by
  have hlength := h.here.length_le
  rw [List.length_drop] at hlength
  refine ⟨h.from_le, ?_, ?_, ?_⟩
  · rw [List.length_append]
    exact Nat.le_add_right_of_le h.le_length
  · rw [List.drop_append_of_le_length h.le_length]
    exact h.here.trans (List.prefix_append _ _)
  · intro j hkj hj hp
    apply h.not_before j hkj hj
    rw [List.drop_append_of_le_length (by have := h.le_length; omega)] at hp
    -- A pattern that fits in front of its first place ends before the text does.
    apply List.prefix_of_prefix_length_le hp (List.prefix_append _ _)
    have := h.le_length
    rw [List.length_drop]
    omega

variable [DecidableEq α]

/-- Searching for a pattern gives the text from its first place on. -/
theorem fromFirst_eq_some_iff {r : List α} :
    Search.fromFirst? pattern s = some r ↔ ∃ i, FirstAt pattern s 0 i ∧ r = s.drop i := by
  induction s with
  | nil =>
    rw [Search.fromFirst?]
    constructor
    · intro h
      split at h
      · next he =>
        rw [List.isEmpty_iff.1 he]
        exact ⟨0, firstAt_zero (List.prefix_refl _), (Option.some.inj h).symm⟩
      · exact absurd h (by simp)
    · rintro ⟨i, hf, rfl⟩
      have hp : pattern = [] := by simpa using hf.here
      simp [hp]
  | cons a s ih =>
    rw [Search.fromFirst?]
    by_cases hp : pattern <+: a :: s
    · rw [if_pos (List.isPrefixOf_iff_prefix.2 hp)]
      constructor
      · intro h
        exact ⟨0, firstAt_zero hp, (Option.some.inj h).symm⟩
      · rintro ⟨i, hf, rfl⟩
        rw [firstAt_unique hf (firstAt_zero hp), List.drop_zero]
    · rw [if_neg (fun h => hp (List.isPrefixOf_iff_prefix.1 h)), ih]
      constructor
      · rintro ⟨i, hf, rfl⟩
        exact ⟨i + 1, (firstAt_cons_succ hp).2 hf, rfl⟩
      · rintro ⟨i, hf, rfl⟩
        cases i with
        | zero => exact absurd hf.here hp
        | succ i => exact ⟨i, (firstAt_cons_succ hp).1 hf, rfl⟩

theorem fromFirst_eq_none_iff :
    Search.fromFirst? pattern s = none ↔ AbsentFrom pattern s 0 := by
  induction s with
  | nil =>
    rw [Search.fromFirst?]
    constructor
    · intro h i _ _ hp
      have he : pattern = [] := by simpa using hp
      simp [he] at h
    · intro h
      have hne : ¬ pattern <+: [] := h 0 (Nat.le_refl 0) (Nat.le_refl 0)
      simpa using hne
  | cons a s ih =>
    rw [Search.fromFirst?]
    by_cases hp : pattern <+: a :: s
    · rw [if_pos (List.isPrefixOf_iff_prefix.2 hp)]
      constructor
      · intro h
        exact absurd h (by simp)
      · intro h
        exact absurd hp (h 0 (Nat.le_refl 0) (Nat.zero_le _))
    · rw [if_neg (fun h => hp (List.isPrefixOf_iff_prefix.1 h)), ih, absentFrom_cons hp]

theorem fromFirst_eq_drop (h : FirstAt pattern s k i) :
    Search.fromFirst? pattern (s.drop k) = some (s.drop i) := by
  have hk : k ≤ s.length := Nat.le_trans h.from_le h.le_length
  refine fromFirst_eq_some_iff.2 ⟨i - k, (firstAt_drop hk).2 ?_, ?_⟩
  · rwa [Nat.add_sub_cancel' h.from_le]
  · rw [List.drop_drop, Nat.add_sub_cancel' h.from_le]

theorem fromFirst_eq_none (hk : k ≤ s.length) (h : AbsentFrom pattern s k) :
    Search.fromFirst? pattern (s.drop k) = none :=
  fromFirst_eq_none_iff.2 ((absentFrom_drop hk).2 h)

end FirstPlace

/-! ## The place of a literal -/

/-- Where the literal assigned to `marker` begins, or what is missing. -/
inductive Located (source marker : List Char) : Except ExtractError Nat → Prop where
  | noMarker (hm : AbsentFrom marker source 0) :
      Located source marker (.error (.markerNotFound marker))
  | noEquals {m : Nat} (hm : FirstAt marker source 0 m) (he : AbsentFrom ['='] source m) :
      Located source marker (.error (.assignmentNotFound marker m))
  | noBrace {m e : Nat} (hm : FirstAt marker source 0 m) (he : FirstAt ['='] source m e)
      (hb : AbsentFrom ['\x7b'] source e) : Located source marker (.error (.objectNotFound e))
  | brace {m e b : Nat} (hm : FirstAt marker source 0 m) (he : FirstAt ['='] source m e)
      (hb : FirstAt ['\x7b'] source e b) : Located source marker (.ok b)

variable {source marker : List Char}

theorem length_sub_length_drop {n : Nat} (h : n ≤ source.length) :
    source.length - (source.drop n).length = n := by
  rw [List.length_drop]
  omega

theorem locate_of_located {r : Except ExtractError Nat} (h : Located source marker r) :
    locate source marker = r := by
  cases h with
  | noMarker hm =>
    simp only [locate, fromLiteral, fromFirst_eq_none_iff.2 hm, Except.map]
  | noEquals hm he =>
    simp only [locate, fromLiteral, fromFirst_eq_some_iff.2 ⟨_, hm, rfl⟩,
      fromFirst_eq_none hm.le_length he, Except.map, length_sub_length_drop hm.le_length]
  | noBrace hm he hb =>
    simp only [locate, fromLiteral, fromFirst_eq_some_iff.2 ⟨_, hm, rfl⟩, fromFirst_eq_drop he,
      fromFirst_eq_none he.le_length hb, Except.map, length_sub_length_drop he.le_length]
  | brace hm he hb =>
    simp only [locate, fromLiteral, fromFirst_eq_some_iff.2 ⟨_, hm, rfl⟩, fromFirst_eq_drop he,
      fromFirst_eq_drop hb, Except.map, length_sub_length_drop hb.le_length]

/-- A pattern stands first somewhere from an offset on, or nowhere. -/
theorem firstAt_or_absentFrom (pattern : List Char) {s : List Char} {k : Nat} (hk : k ≤ s.length) :
    (∃ i, FirstAt pattern s k i) ∨ AbsentFrom pattern s k := by
  cases h : Search.fromFirst? pattern (s.drop k) with
  | none => exact .inr ((absentFrom_drop hk).1 (fromFirst_eq_none_iff.1 h))
  | some r =>
    obtain ⟨i, hf, _⟩ := fromFirst_eq_some_iff.1 h
    exact .inl ⟨k + i, (firstAt_drop hk).1 hf⟩

theorem exists_located (source marker : List Char) : ∃ r, Located source marker r := by
  rcases firstAt_or_absentFrom marker (Nat.zero_le source.length) with ⟨m, hm⟩ | hm
  · rcases firstAt_or_absentFrom ['='] hm.le_length with ⟨e, he⟩ | he
    · rcases firstAt_or_absentFrom ['\x7b'] he.le_length with ⟨b, hb⟩ | hb
      · exact ⟨_, .brace hm he hb⟩
      · exact ⟨_, .noBrace hm he hb⟩
    · exact ⟨_, .noEquals hm he⟩
  · exact ⟨_, .noMarker hm⟩

/-- The search for a literal answers with its place or with the first thing that is missing. -/
theorem located_iff {r : Except ExtractError Nat} :
    Located source marker r ↔ locate source marker = r := by
  constructor
  · exact locate_of_located
  · rintro rfl
    obtain ⟨r, h⟩ := exists_located source marker
    rwa [locate_of_located h]

/-- A literal that was located begins with a brace, and the scan starts there. -/
theorem fromLiteral_of_located {b : Nat} (h : Located source marker (.ok b)) :
    fromLiteral source marker = .ok (source.drop b) ∧ b ≤ source.length ∧
      ∃ rest, source.drop b = '\x7b' :: rest := by
  cases h with
  | brace hm he hb =>
    refine ⟨?_, hb.le_length, ?_⟩
    · simp only [fromLiteral, fromFirst_eq_some_iff.2 ⟨_, hm, rfl⟩, fromFirst_eq_drop he,
        fromFirst_eq_drop hb]
    · obtain ⟨rest, hr⟩ := hb.here
      exact ⟨rest, hr.symm⟩

end PromptLibrary.Proofs.Source.Place
