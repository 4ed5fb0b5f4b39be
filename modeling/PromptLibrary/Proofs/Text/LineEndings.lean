import PromptLibrary.Proofs.Text.Runs
import PromptLibrary.Text.Search
import Mathlib.Data.List.Basic
import Mathlib.Data.Option.Basic
/-!
# Line endings of two characters

A text without carriage returns may be written with one in front of any of its line feeds.  What
looks at a text by classes of characters that do not tell the two apart sees no difference.

* `WithReturns` — a text and the same text with carriage returns;
* `exists_of_append`, `exists_of_append_right` — a stretch without line breaks is the same in both;
* `runs`, `runs_eq` — so are the longest runs of a class, up to their line breaks;
* `rel_fromFirst` — a pattern without line breaks is found at the same place.
-/

namespace PromptLibrary.Proofs.Text.LineEndings

open PromptLibrary.Proofs.Text.Runs

def IsBreak (c : Char) : Prop :=
  c = '\n' ∨ c = '\r'

instance (c : Char) : Decidable (IsBreak c) :=
  inferInstanceAs (Decidable (_ ∨ _))

/-- The first text has no carriage returns; the second one is the first with carriage returns in
front of some of its line feeds. -/
inductive WithReturns : List Char → List Char → Prop where
  | nil : WithReturns [] []
  | char {c : Char} {s t : List Char} (hc : ¬ IsBreak c) (h : WithReturns s t) :
      WithReturns (c :: s) (c :: t)
  | feed {s t : List Char} (h : WithReturns s t) : WithReturns ('\n' :: s) ('\n' :: t)
  | pair {s t : List Char} (h : WithReturns s t) : WithReturns ('\n' :: s) ('\r' :: '\n' :: t)

variable {s t s' t' u pattern : List Char} {c d : Char} {p : Char → Bool} {f : Char → Char}
  {n : Nat}

/-! ## Stretches without line breaks -/

theorem exists_of_cons (h : WithReturns (c :: s) t) (hc : ¬ IsBreak c) :
    ∃ t', t = c :: t' ∧ WithReturns s t' := by
  cases h with
  | char _ h => exact ⟨_, rfl, h⟩
  | feed _ => exact absurd (.inl rfl) hc
  | pair _ => exact absurd (.inl rfl) hc

theorem exists_of_cons_right (h : WithReturns s (c :: t)) (hc : ¬ IsBreak c) :
    ∃ s', s = c :: s' ∧ WithReturns s' t := by
  cases h with
  | char _ h => exact ⟨_, rfl, h⟩
  | feed _ => exact absurd (.inl rfl) hc
  | pair _ => exact absurd (.inr rfl) hc

theorem ne_cons (h : WithReturns s t) (hc : ¬ IsBreak c) (hs : ∀ r, s = c :: r → False) :
    ∀ r, t = c :: r → False := by
  rintro r rfl
  obtain ⟨s', rfl, _⟩ := exists_of_cons_right h hc
  exact hs s' rfl

theorem not_withReturns_return : ¬ WithReturns ('\r' :: s) t := by
  rintro (_ | ⟨hc, _⟩)
  exact hc (.inr rfl)

theorem exists_of_cons_cons (h : WithReturns (c :: d :: s) t) (hc : ¬ IsBreak c)
    (hd : ¬ IsBreak d) : ∃ t', t = c :: d :: t' ∧ WithReturns s t' := by
  obtain ⟨_, rfl, hmore⟩ := exists_of_cons h hc
  obtain ⟨t', rfl, h'⟩ := exists_of_cons hmore hd
  exact ⟨t', rfl, h'⟩

theorem exists_of_append (h : WithReturns (u ++ s) t) (hu : ∀ c ∈ u, ¬ IsBreak c) :
    ∃ t', t = u ++ t' ∧ WithReturns s t' := by
  induction u generalizing t with
  | nil => exact ⟨t, rfl, h⟩
  | cons c u ih =>
    obtain ⟨hc, hmore⟩ := List.forall_mem_cons.1 hu
    obtain ⟨w, rfl, hw⟩ := exists_of_cons h hc
    obtain ⟨t', rfl, h'⟩ := ih hw hmore
    exact ⟨t', rfl, h'⟩

theorem exists_of_append_right (h : WithReturns s (u ++ t)) (hu : ∀ c ∈ u, ¬ IsBreak c) :
    ∃ s', s = u ++ s' ∧ WithReturns s' t := by
  induction u generalizing s with
  | nil => exact ⟨s, rfl, h⟩
  | cons c u ih =>
    obtain ⟨hc, hmore⟩ := List.forall_mem_cons.1 hu
    obtain ⟨w, rfl, hw⟩ := exists_of_cons_right h hc
    obtain ⟨s', rfl, h'⟩ := ih hw hmore
    exact ⟨s', rfl, h'⟩

theorem withReturns_append (h : WithReturns s t) (h' : WithReturns s' t') :
    WithReturns (s ++ s') (t ++ t') := by
  induction h with
  | nil => exact h'
  | char hc _ ih => exact .char hc ih
  | feed _ ih => exact .feed ih
  | pair _ ih => exact .pair ih

theorem eq_of_not_mem (h : WithReturns s t) (hs : '\n' ∉ s) : t = s := by
  induction h with
  | nil => rfl
  | char _ _ ih => rw [ih fun hmem => hs (List.mem_cons_of_mem _ hmem)]
  | feed _ => exact absurd List.mem_cons_self hs
  | pair _ => exact absurd List.mem_cons_self hs

theorem eq_nil_iff (h : WithReturns s t) : s = [] ↔ t = [] := by
  cases h <;> simp

theorem isPrefix_iff (h : WithReturns s t) (hpattern : ∀ c ∈ pattern, ¬ IsBreak c) :
    pattern <+: s ↔ pattern <+: t := by
  constructor
  · rintro ⟨r, rfl⟩
    obtain ⟨t', rfl, _⟩ := exists_of_append h hpattern
    exact List.prefix_append _ _
  · rintro ⟨r, rfl⟩
    obtain ⟨s', rfl, _⟩ := exists_of_append_right h hpattern
    exact List.prefix_append _ _

/-! ## The first character -/

theorem head?_eq_some_iff (h : WithReturns s t) (hc : ¬ IsBreak c) :
    s.head? = some c ↔ t.head? = some c := by
  rw [List.head?_eq_some_iff, List.head?_eq_some_iff]
  constructor
  · rintro ⟨s', rfl⟩
    obtain ⟨t', rfl, _⟩ := exists_of_cons h hc
    exact ⟨t', rfl⟩
  · rintro ⟨t', rfl⟩
    obtain ⟨s', rfl, _⟩ := exists_of_cons_right h hc
    exact ⟨s', rfl⟩

theorem withReturns_tail (h : WithReturns s t) (hs : s.head? = some c) (hc : ¬ IsBreak c) :
    WithReturns s.tail t.tail := by
  obtain ⟨s', rfl⟩ := List.head?_eq_some_iff.1 hs
  obtain ⟨t', rfl, h'⟩ := exists_of_cons h hc
  exact h'

theorem any_head?_eq (h : WithReturns s t) (hp : p '\n' = p '\r') :
    s.head?.any p = t.head?.any p := by
  cases h with
  | nil | char | feed => rfl
  | pair => exact hp

/-- A run of a class without line breaks ends in both texts or in neither. -/
theorem head?_eq_false_iff (h : WithReturns s t) (hfeed : p '\n' = false)
    (hreturn : p '\r' = false) :
    (∀ c ∈ s.head?, p c = false) ↔ ∀ c ∈ t.head?, p c = false := by
  cases h with
  | nil | char | feed => rfl
  | pair => simp [hfeed, hreturn]

/-! ## Classes that do not tell line breaks apart -/

theorem all_eq (h : WithReturns s t) (hp : p '\n' = p '\r') : s.all p = t.all p := by
  induction h with
  | nil => rfl
  | char _ _ ih => rw [List.all_cons, List.all_cons, ih]
  | feed _ ih => rw [List.all_cons, List.all_cons, ih]
  | pair _ ih => rw [List.all_cons, List.all_cons, List.all_cons, ih, ← hp, ← Bool.and_assoc,
      Bool.and_self]

theorem runs (h : WithReturns s t) (hp : p '\n' = p '\r') :
    WithReturns (s.takeWhile p) (t.takeWhile p) ∧ WithReturns (s.dropWhile p) (t.dropWhile p) := by
  induction h with
  | nil => exact ⟨.nil, .nil⟩
  | @char c s t hc h ih =>
    cases hpc : p c with
    | true => simpa [List.takeWhile_cons, List.dropWhile_cons, hpc] using ⟨.char hc ih.1, ih.2⟩
    | false => simpa [List.takeWhile_cons, List.dropWhile_cons, hpc] using ⟨.nil, .char hc h⟩
  | @feed s t h ih =>
    cases hpc : p '\n' with
    | true => simpa [List.takeWhile_cons, List.dropWhile_cons, hpc] using ⟨.feed ih.1, ih.2⟩
    | false => simpa [List.takeWhile_cons, List.dropWhile_cons, hpc] using ⟨.nil, .feed h⟩
  | @pair s t h ih =>
    cases hpc : p '\n' with
    | true =>
      simpa [List.takeWhile_cons, List.dropWhile_cons, ← hp, hpc] using ⟨.pair ih.1, ih.2⟩
    | false => simpa [List.takeWhile_cons, List.dropWhile_cons, ← hp, hpc] using ⟨.nil, .pair h⟩

theorem not_isBreak_of_class (hfeed : p '\n' = false) (hreturn : p '\r' = false)
    (hc : p c = true) : ¬ IsBreak c := by
  rintro (rfl | rfl)
  · simp [hfeed] at hc
  · simp [hreturn] at hc

/-- A run of a class without line breaks is the same in both texts. -/
theorem runs_eq (h : WithReturns s t) (hfeed : p '\n' = false) (hreturn : p '\r' = false) :
    t.takeWhile p = s.takeWhile p ∧ WithReturns (s.dropWhile p) (t.dropWhile p) := by
  obtain ⟨hrun, hafter⟩ := runs h (hfeed.trans hreturn.symm)
  refine ⟨eq_of_not_mem hrun fun hmem => ?_, hafter⟩
  have hp := List.all_eq_true.1 List.all_takeWhile _ hmem
  simp [hfeed] at hp

/-- The same for a run of limited length. -/
theorem runs_take_eq (h : WithReturns s t) (hfeed : p '\n' = false) (hreturn : p '\r' = false) :
    ∃ u r r', s = u ++ r ∧ t = u ++ r' ∧ (s.take n).takeWhile p = u ∧
      (t.take n).takeWhile p = u ∧ WithReturns r r' := by
  obtain ⟨r, hs, hlength, hend⟩ := exists_takeWhile_take (p := p) (s := s) (n := n)
  have hrun : ∀ c ∈ (s.take n).takeWhile p, p c = true := List.all_eq_true.1 List.all_takeWhile
  generalize (s.take n).takeWhile p = u at hs hlength hend hrun ⊢
  subst hs
  obtain ⟨r', rfl, hrest⟩ := exists_of_append h fun c hc =>
    not_isBreak_of_class hfeed hreturn (hrun c hc)
  have hend' : u.length = n ∨ ∀ c ∈ r'.head?, p c = false :=
    hend.imp_right (head?_eq_false_iff hrest hfeed hreturn).1
  exact ⟨u, r, r', rfl, rfl, rfl, takeWhile_take_eq_run hrun hlength hend', hrest⟩

/-- A change of characters that makes no line breaks and keeps those that there are. -/
theorem withReturns_map (h : WithReturns s t) (hfeed : f '\n' = '\n') (hreturn : f '\r' = '\r')
    (hf : ∀ c, ¬ IsBreak c → ¬ IsBreak (f c)) : WithReturns (s.map f) (t.map f) := by
  induction h with
  | nil => exact .nil
  | char hc _ ih => exact .char (hf _ hc) ih
  | feed _ ih =>
    rw [List.map_cons, List.map_cons, hfeed]
    exact .feed ih
  | pair _ ih =>
    rw [List.map_cons, List.map_cons, List.map_cons, hfeed, hreturn]
    exact .pair ih

/-! ## Patterns -/

/-- A pattern does not begin at a line break that it does not hold. -/
theorem not_isPrefix_cons (hne : pattern ≠ []) (hpattern : ∀ c ∈ pattern, ¬ IsBreak c)
    (hc : IsBreak c) : ¬ pattern <+: c :: s := by
  obtain ⟨d, more, rfl⟩ := List.exists_cons_of_ne_nil hne
  intro hfront
  obtain rfl := (List.cons_prefix_cons.1 hfront).1
  exact hpattern d List.mem_cons_self hc

theorem fromFirst_cons_of_not_matches (h : ¬ pattern <+: c :: s) :
    Search.fromFirst? pattern (c :: s) = Search.fromFirst? pattern s := by
  rw [Search.fromFirst?, if_neg fun hp => h (List.isPrefixOf_iff_prefix.1 hp)]

theorem fromFirst_cons_of_matches (h : pattern <+: c :: s) :
    Search.fromFirst? pattern (c :: s) = some (c :: s) := by
  rw [Search.fromFirst?, if_pos (List.isPrefixOf_iff_prefix.2 h)]

/-- Both results are there or neither is. -/
theorem cases_of_rel {α β : Type} {R : α → β → Prop} {x : Option α} {y : Option β}
    (h : Option.Rel R x y) :
    (x = none ∧ y = none) ∨ ∃ a b, x = some a ∧ y = some b ∧ R a b := by
  cases h with
  | none => exact .inl ⟨rfl, rfl⟩
  | some h => exact .inr ⟨_, _, rfl, rfl, h⟩

/-- A pattern is found at the same place in both texts, or in neither. -/
theorem rel_fromFirst (h : WithReturns s t) (hne : pattern ≠ [])
    (hpattern : ∀ c ∈ pattern, ¬ IsBreak c) :
    Option.Rel WithReturns (Search.fromFirst? pattern s) (Search.fromFirst? pattern t) := by
  have hfeed {s : List Char} : ¬ pattern <+: '\n' :: s :=
    not_isPrefix_cons hne hpattern (.inl rfl)
  have hreturn {s : List Char} : ¬ pattern <+: '\r' :: s :=
    not_isPrefix_cons hne hpattern (.inr rfl)
  induction h with
  | nil =>
    rw [Search.fromFirst?]
    split
    · exact .some .nil
    · exact .none
  | @char c s t hc h ih =>
    have hsame := isPrefix_iff (.char hc h) hpattern
    by_cases hp : pattern <+: c :: s
    · rw [fromFirst_cons_of_matches hp, fromFirst_cons_of_matches (hsame.1 hp)]
      exact .some (.char hc h)
    · rw [fromFirst_cons_of_not_matches hp, fromFirst_cons_of_not_matches (mt hsame.2 hp)]
      exact ih
  | feed h ih =>
    rw [fromFirst_cons_of_not_matches hfeed, fromFirst_cons_of_not_matches hfeed]
    exact ih
  | pair h ih =>
    rw [fromFirst_cons_of_not_matches hfeed, fromFirst_cons_of_not_matches hreturn,
      fromFirst_cons_of_not_matches hfeed]
    exact ih

end PromptLibrary.Proofs.Text.LineEndings
