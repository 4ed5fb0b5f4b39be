import PromptLibrary.Template.Render
import PromptLibrary.Proofs.Template.Splice
import PromptLibrary.Proofs.Text.Points
/-!
# Where the points of a prompt come from

Nothing is in a prompt that is neither in its body nor in one of the values, so a prompt can be
written if its body and the values can.

* `mem_insertInput`, `mem_defaultOption` — the same for the steps of rendering;
* `mem_render` — for the whole of it.
-/

namespace PromptLibrary.Proofs.Template.Origin

open PromptLibrary.Template
open PromptLibrary.Proofs.Template.Splice (flatMap_spelling_segments)

variable {α : Type} [DecidableEq α] {first a : α} {more value s part : List α}
  {p : CodePoint} {body raw : Text} {values : Mapping Value} {v : Variable}

theorem mem_replaceAll (h : a ∈ Search.replaceAll first more value s) : a ∈ value ∨ a ∈ s := by
  fun_induction Search.replaceAll first more value s with
  | case1 => exact .inr h
  | case2 b s hpattern ih =>
    rcases List.mem_append.1 h with hvalue | hrest
    · exact .inl hvalue
    · have hdrop : a ∈ s.drop more.length → a ∈ b :: s := fun hs =>
        List.mem_cons_of_mem _ (List.mem_of_mem_drop hs)
      exact (ih hrest).imp_right hdrop
  | case3 b s hpattern ih =>
    rcases List.mem_cons.1 h with rfl | hrest
    · exact .inr List.mem_cons_self
    · exact (ih hrest).imp_right (List.mem_cons_of_mem _)

theorem mem_of_mem_splitOn (h : part ∈ Search.splitOn first s) (ha : a ∈ part) : a ∈ s := by
  fun_induction Search.splitOn first s generalizing part with
  | case1 =>
    obtain rfl := List.mem_singleton.1 h
    exact ha
  | case2 s ih =>
    rcases List.mem_cons.1 h with rfl | h
    · exact absurd ha List.not_mem_nil
    · exact List.mem_cons_of_mem _ (ih h ha)
  | case3 b s hb hnil ih =>
    obtain rfl := List.mem_singleton.1 h
    exact List.mem_cons.2 (.inl (List.mem_singleton.1 ha))
  | case4 b s hb front parts hparts ih =>
    rw [hparts] at ih
    rcases List.mem_cons.1 h with rfl | h
    · exact (List.mem_cons.1 ha).elim (fun he => he ▸ List.mem_cons_self)
        fun hfront => List.mem_cons_of_mem _ (ih List.mem_cons_self hfront)
    · exact List.mem_cons_of_mem _ (ih (List.mem_cons_of_mem _ h) ha)

omit [DecidableEq α] in
theorem mem_of_mem_trim {q : α → Bool} (h : a ∈ Search.trim q s) : a ∈ s := by
  unfold Search.trim at h
  have hreverse := (List.dropWhile_suffix q).subset (List.mem_reverse.1 h)
  exact (List.dropWhile_suffix q).subset (List.mem_reverse.1 hreverse)

theorem mem_defaultOption (h : p ∈ defaultOption raw) : p ∈ raw := by
  unfold defaultOption firstOption at h
  cases hoptions : splitOptions raw with
  | nil => simp [hoptions] at h
  | cons option options =>
    rw [hoptions] at h
    have hmem : option ∈ Search.splitOn (.char ',') raw := by
      show option ∈ splitOptions raw
      simp [hoptions]
    exact mem_of_mem_splitOn hmem (mem_of_mem_trim h)

theorem mem_insertInput (h : p ∈ insertInput values body) :
    p ∈ body ∨ ∃ name v, values.get? name = some v ∧ p ∈ v.display := by
  unfold insertInput at h
  split at h
  · exact .inl h
  · next v hv =>
    rcases mem_replaceAll h with hvalue | hbody
    · exact .inr ⟨inputName, v, hv, hvalue⟩
    · exact .inl hbody

theorem mem_resolve (h : p ∈ v.resolve values) :
    p ∈ v.options ∨ ∃ name v, values.get? name = some v ∧ p ∈ v.display := by
  unfold Variable.resolve at h
  split at h
  · next value hvalue => exact .inr ⟨v.name, value, hvalue, h⟩
  · exact .inl (mem_defaultOption h)

/-- **Every point of a prompt** is in its body or in a value. -/
theorem mem_render (h : p ∈ render body values) :
    p ∈ body ∨ ∃ name v, values.get? name = some v ∧ p ∈ v.display := by
  obtain ⟨segment, hsegment, hp⟩ := List.mem_flatMap.1 h
  have hspelling : segment.spelling ⊆ insertInput values body := by
    intro q hq
    rw [← @flatMap_spelling_segments (insertInput values body)]
    exact List.mem_flatMap.2 ⟨segment, hsegment, hq⟩
  cases segment with
  | point q => exact mem_insertInput (hspelling hp)
  | slot v =>
    rcases mem_resolve hp with hoptions | hvalue
    · have hwritten : p ∈ v.spelling := by simp [Variable.spelling, hoptions]
      exact mem_insertInput (hspelling hwritten)
    · exact .inr hvalue

/-- A prompt can be written if its body and the values can. -/
theorem wellFormed_render (hbody : body.WellFormed)
    (hvalues : ∀ name v, values.get? name = some v → v.display.WellFormed) :
    (render body values).WellFormed := by
  intro p hp
  rcases mem_render hp with h | ⟨name, v, hv, h⟩
  · exact hbody p h
  · exact hvalues name v hv p h

end PromptLibrary.Proofs.Template.Origin
