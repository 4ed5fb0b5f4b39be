import PromptLibrary.Text.Search
import Mathlib.Data.List.Basic
import Mathlib.Data.List.Infix
/-!
# Pieces between occurrences of a pattern

Occurrences of a pattern cannot overlap if no end of the pattern is also a beginning of it.  Then
every list falls in just one way into pieces that are free of the pattern, with the pattern between
them, and replacing the pattern joins the same pieces by something else.

* `not_prefix_append` — no occurrence begins in a piece and ends in the pattern behind it;
* `cut_iff` — the first piece, and the rest;
* `existsUnique_cut`, `replaceAll_of_cut`.
-/

namespace PromptLibrary.Proofs.Text.Pieces

variable {α : Type} [DecidableEq α]

/-- No end of the pattern begins it, other than the whole pattern. -/
def Unbordered (pattern : List α) : Prop :=
  ∀ ending ∈ pattern.tails, ending ≠ [] → ending <+: pattern → ending = pattern

instance (pattern : List α) : Decidable (Unbordered pattern) :=
  inferInstanceAs (Decidable (∀ _ ∈ pattern.tails, _))

/-- The pieces of a list that is cut at every occurrence of a pattern. -/
structure Cut (pattern s : List α) (pieces : List (List α)) : Prop where
  ne_nil : pieces ≠ []
  joined : Search.joinWith pattern pieces = s
  free : ∀ piece ∈ pieces, ¬ pattern <:+: piece

variable {pattern s r before after value separator piece more : List α} {first : α}
  {pieces : List (List α)}

/-! ## Joining -/

omit [DecidableEq α] in
theorem joinWith_singleton : Search.joinWith separator [piece] = piece := by
  simp [Search.joinWith]

omit [DecidableEq α] in
theorem joinWith_cons (h : pieces ≠ []) : Search.joinWith separator (piece :: pieces) =
    piece ++ (separator ++ Search.joinWith separator pieces) := by
  obtain ⟨next, rest, rfl⟩ := List.exists_cons_of_ne_nil h
  simp [Search.joinWith]

omit [DecidableEq α] in
theorem flatMap_joinWith {β : Type} {f : α → List β} :
    (Search.joinWith separator pieces).flatMap f =
      Search.joinWith (separator.flatMap f) (pieces.map (·.flatMap f)) := by
  induction pieces with
  | nil => rfl
  | cons piece rest ih =>
    by_cases he : rest = []
    · subst he
      rw [joinWith_singleton, List.map_singleton, joinWith_singleton]
    · rw [joinWith_cons he, List.flatMap_append, List.flatMap_append, ih, List.map_cons,
        joinWith_cons (by simpa using he)]

/-! ## Occurrences -/

omit [DecidableEq α] in
theorem not_prefix_append (hpattern : Unbordered pattern) (hs : s ≠ [])
    (hfree : ¬ pattern <:+: s) : ¬ pattern <+: s ++ (pattern ++ r) := by
  intro h
  rcases List.prefix_or_prefix_of_prefix h (List.prefix_append s _) with hin | ⟨ending, hending⟩
  · exact hfree hin.isInfix
  · -- The occurrence ends in the next one, so that its end is a beginning.
    have hsplit : s ++ ending <+: s ++ (pattern ++ r) := by rwa [hending]
    have hprefix : ending <+: pattern := by
      refine List.prefix_of_prefix_length_le ((List.prefix_append_right_inj s).1 hsplit)
        (List.prefix_append pattern r) ?_
      rw [← hending, List.length_append]
      exact Nat.le_add_left _ _
    have hne : ending ≠ [] := by
      rintro rfl
      rw [List.append_nil] at hending
      exact hfree (hending ▸ List.infix_rfl)
    have hwhole : ending = pattern :=
      hpattern ending ((List.mem_tails _ _).2 ⟨s, hending⟩) hne hprefix
    rw [hwhole] at hending
    exact hs (List.append_left_eq_self.1 hending)

omit [DecidableEq α] in
theorem not_prefix_of_free (hfree : ¬ pattern <:+: s) : ¬ pattern <+: s :=
  fun h => hfree h.isInfix

omit [DecidableEq α] in
theorem free_tail {a : α} (hfree : ¬ pattern <:+: a :: s) : ¬ pattern <:+: s :=
  fun h => hfree (List.infix_cons h)

/-! ## The first occurrence -/

theorem cut?_append (hne : pattern ≠ []) (hpattern : Unbordered pattern)
    (hfree : ¬ pattern <:+: s) : Search.cut? pattern (s ++ (pattern ++ r)) = some (s, r) := by
  induction s with
  | nil =>
    obtain ⟨a, rest, rfl⟩ := List.exists_cons_of_ne_nil hne
    have hprefix : (a :: rest).isPrefixOf (a :: (rest ++ r)) = true :=
      List.isPrefixOf_iff_prefix.2 ⟨r, rfl⟩
    rw [List.nil_append, List.cons_append, Search.cut?, if_pos hprefix]
    simp
  | cons a s ih =>
    have hprefix : ¬ pattern.isPrefixOf (a :: (s ++ (pattern ++ r))) = true := fun h =>
      not_prefix_append hpattern (List.cons_ne_nil a s) hfree (List.isPrefixOf_iff_prefix.1 h)
    rw [List.cons_append, Search.cut?, if_neg hprefix, ih (free_tail hfree)]
    rfl

theorem cut?_of_free (hfree : ¬ pattern <:+: s) : Search.cut? pattern s = none := by
  induction s with
  | nil =>
    have hne : ¬ pattern.isEmpty = true := fun h =>
      hfree (List.isEmpty_iff.1 h ▸ List.infix_rfl)
    rw [Search.cut?, if_neg hne]
  | cons a s ih =>
    have hprefix : ¬ pattern.isPrefixOf (a :: s) = true := fun h =>
      not_prefix_of_free hfree (List.isPrefixOf_iff_prefix.1 h)
    rw [Search.cut?, if_neg hprefix, ih (free_tail hfree)]
    rfl

/-- What stands before the first occurrence is free of the pattern. -/
theorem eq_of_cut? (hne : pattern ≠ []) (h : Search.cut? pattern s = some (before, after)) :
    s = before ++ (pattern ++ after) ∧ ¬ pattern <:+: before := by
  induction s generalizing before with
  | nil => simp [Search.cut?, hne] at h
  | cons a s ih =>
    rw [Search.cut?] at h
    split at h
    · next hprefix =>
      obtain ⟨rest, hrest⟩ := List.isPrefixOf_iff_prefix.1 hprefix
      simp only [Option.some.injEq, Prod.mk.injEq] at h
      obtain ⟨rfl, rfl⟩ := h
      rw [← hrest, List.drop_left]
      exact ⟨rfl, fun h => hne (List.infix_nil.1 h)⟩
    · next hprefix =>
      obtain ⟨⟨front, rest⟩, hcut, he⟩ := Option.map_eq_some_iff.1 h
      obtain ⟨rfl, rfl⟩ := Prod.mk.inj he
      obtain ⟨rfl, hfree⟩ := ih hcut
      refine ⟨rfl, fun hin => ?_⟩
      rcases List.infix_cons_iff.1 hin with hstart | hrest
      · exact hprefix (List.isPrefixOf_iff_prefix.2
          (hstart.trans (List.prefix_append (a :: front) _)))
      · exact hfree hrest

theorem free_of_cut? (h : Search.cut? pattern s = none) : ¬ pattern <:+: s := by
  induction s with
  | nil =>
    rintro hin
    rw [List.infix_nil.1 hin] at h
    simp [Search.cut?] at h
  | cons a s ih =>
    rw [Search.cut?] at h
    split at h
    · simp at h
    · next hprefix =>
      rw [List.infix_cons_iff, not_or]
      exact ⟨fun hstart => hprefix (List.isPrefixOf_iff_prefix.2 hstart),
        ih (Option.map_eq_none_iff.1 h)⟩

/-! ## Cutting -/

/-- A list without the pattern is one piece; otherwise the first piece ends at the first
occurrence. -/
theorem cut_iff (hne : pattern ≠ []) (hpattern : Unbordered pattern) :
    Cut pattern s pieces ↔ match Search.cut? pattern s with
      | none => pieces = [s]
      | some (before, after) => ∃ rest, pieces = before :: rest ∧ Cut pattern after rest := by
  constructor
  · rintro ⟨hpieces, rfl, hfree⟩
    obtain ⟨piece, rest, rfl⟩ := List.exists_cons_of_ne_nil hpieces
    obtain ⟨hpiece, hrest⟩ := List.forall_mem_cons.1 hfree
    by_cases he : rest = []
    · subst he
      rw [joinWith_singleton, cut?_of_free hpiece]
    · rw [joinWith_cons he, cut?_append hne hpattern hpiece]
      exact ⟨rest, rfl, he, rfl, hrest⟩
  · intro h
    split at h
    · next hcut =>
      subst h
      exact ⟨List.cons_ne_nil _ _, joinWith_singleton, by simpa using free_of_cut? hcut⟩
    · next before after hcut =>
      obtain ⟨rest, rfl, hrest⟩ := h
      obtain ⟨rfl, hfree⟩ := eq_of_cut? hne hcut
      exact ⟨List.cons_ne_nil _ _, by rw [joinWith_cons hrest.ne_nil, hrest.joined],
        List.forall_mem_cons.2 ⟨hfree, hrest.free⟩⟩

theorem existsUnique_cut (hne : pattern ≠ []) (hpattern : Unbordered pattern) (s : List α) :
    ∃! pieces, Cut pattern s pieces := by
  induction hn : s.length using Nat.strongRecOn generalizing s with
  | _ n ih =>
    cases hcut : Search.cut? pattern s with
    | none =>
      refine ⟨[s], (cut_iff hne hpattern).2 (by rw [hcut]),
        fun pieces (h : Cut pattern s pieces) => ?_⟩
      rwa [cut_iff hne hpattern, hcut] at h
    | some parts =>
      obtain ⟨before, after⟩ := parts
      have hshorter : after.length < n := by
        have hpos := List.length_pos_iff.2 hne
        rw [(eq_of_cut? hne hcut).1, List.length_append, List.length_append] at hn
        omega
      obtain ⟨rest, hrest, hunique⟩ := ih after.length hshorter after rfl
      refine ⟨before :: rest, (cut_iff hne hpattern).2 (by rw [hcut]; exact ⟨rest, rfl, hrest⟩),
        fun pieces (h : Cut pattern s pieces) => ?_⟩
      rw [cut_iff hne hpattern, hcut] at h
      obtain ⟨other, rfl, hother⟩ := h
      rw [hunique other hother]

/-! ## Replacing -/

theorem replaceAll_of_free (hfree : ¬ (first :: more) <:+: s) :
    Search.replaceAll first more value s = s := by
  induction s with
  | nil => rw [Search.replaceAll]
  | cons a s ih =>
    have hprefix : ¬ (first :: more).isPrefixOf (a :: s) = true := fun h =>
      not_prefix_of_free hfree (List.isPrefixOf_iff_prefix.1 h)
    rw [Search.replaceAll, if_neg hprefix, ih (free_tail hfree)]

theorem replaceAll_append (hpattern : Unbordered (first :: more))
    (hfree : ¬ (first :: more) <:+: s) :
    Search.replaceAll first more value (s ++ (first :: more ++ r)) =
      s ++ (value ++ Search.replaceAll first more value r) := by
  induction s with
  | nil =>
    have hprefix : (first :: more).isPrefixOf (first :: (more ++ r)) = true :=
      List.isPrefixOf_iff_prefix.2 ⟨r, rfl⟩
    rw [List.nil_append, List.cons_append, Search.replaceAll, if_pos hprefix, List.drop_left]
    rfl
  | cons a s ih =>
    have hprefix : ¬ (first :: more).isPrefixOf (a :: (s ++ (first :: more ++ r))) = true :=
      fun h => not_prefix_append hpattern (List.cons_ne_nil a s) hfree
        (List.isPrefixOf_iff_prefix.1 h)
    rw [List.cons_append, Search.replaceAll, if_neg hprefix, ih (free_tail hfree)]
    rfl

/-- Replacing the pattern leaves the pieces. -/
theorem replaceAll_of_cut (hpattern : Unbordered (first :: more))
    (h : Cut (first :: more) s pieces) :
    Search.replaceAll first more value s = Search.joinWith value pieces := by
  obtain ⟨hpieces, rfl, hfree⟩ := h
  induction pieces with
  | nil => exact absurd rfl hpieces
  | cons piece rest ih =>
    obtain ⟨hpiece, hrest⟩ := List.forall_mem_cons.1 hfree
    by_cases he : rest = []
    · subst he
      rw [joinWith_singleton, joinWith_singleton, replaceAll_of_free hpiece]
    · rw [joinWith_cons he, joinWith_cons he, replaceAll_append hpattern hpiece, ih he hrest]

end PromptLibrary.Proofs.Text.Pieces
