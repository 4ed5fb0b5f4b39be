/-!
# Longest runs

The longest run of a class of characters at the front of a text, and the text after it.  A run that
ends before the text does is not changed by text put after it.
-/

namespace PromptLibrary.Proofs.Text.Runs

variable {α : Type} {p : α → Bool} {s k r run : List α}

theorem dropWhile_append_of_stop (h : s.dropWhile p ≠ []) :
    (s ++ k).dropWhile p = s.dropWhile p ++ k := by
  rw [List.dropWhile_append, if_neg]
  rwa [List.isEmpty_iff]

theorem takeWhile_append_of_stop (h : s.dropWhile p ≠ []) :
    (s ++ k).takeWhile p = s.takeWhile p := by
  rw [List.takeWhile_append, if_neg]
  intro hlen
  have hsplit : s.takeWhile p ++ s.dropWhile p = s := List.takeWhile_append_dropWhile
  have hsum := congrArg List.length hsplit
  rw [List.length_append, hlen] at hsum
  exact h (List.eq_nil_of_length_eq_zero (by omega))

/-- A run is the longest one if the text after it does not go on with the class. -/
theorem takeWhile_eq_run (hrun : ∀ a ∈ run, p a = true) (hr : ∀ a ∈ r.head?, p a = false) :
    (run ++ r).takeWhile p = run ∧ (run ++ r).dropWhile p = r := by
  rw [List.takeWhile_append_of_pos hrun, List.dropWhile_append_of_pos hrun]
  cases r with
  | nil => exact ⟨List.append_nil run, rfl⟩
  | cons a r =>
    have ha : p a = false := hr a rfl
    rw [List.takeWhile_cons, List.dropWhile_cons, ha]
    exact ⟨List.append_nil run, rfl⟩

/-- The text after the longest run does not go on with the class. -/
theorem eq_false_of_mem_head?_dropWhile : ∀ a ∈ (s.dropWhile p).head?, p a = false := by
  intro a ha
  have h := List.head?_dropWhile_not p s
  rw [Option.mem_def.1 ha] at h
  exact h

theorem head?_append_of_ne_nil (hr : r ≠ []) : (r ++ k).head? = r.head? := by
  cases r with
  | nil => exact absurd rfl hr
  | cons c r => rfl

theorem head?_ne_of_ne_cons {a : α} (h : ∀ more, s = a :: more → False) : s.head? ≠ some a := by
  intro ha
  obtain ⟨more, hs⟩ := List.head?_eq_some_iff.1 ha
  exact h more hs

/-! ## Up to a symbol -/

section Symbol

variable [DecidableEq α] {a b : α} {more : List α}

/-- What stands in front of the first place of a symbol is free of it. -/
theorem cut_of_dropWhile_ne (h : s.dropWhile (· ≠ a) = b :: more) :
    s.takeWhile (· ≠ a) ++ a :: more = s ∧ a ∉ s.takeWhile (· ≠ a) := by
  obtain rfl : b = a := by
    have hb := eq_false_of_mem_head?_dropWhile b (by rw [h]; rfl)
    simpa using hb
  refine ⟨?_, fun hmem => ?_⟩
  · rw [← h, List.takeWhile_append_dropWhile]
  · have hne := List.all_eq_true.1 List.all_takeWhile _ hmem
    simp at hne

theorem takeWhile_ne_eq_run (h : a ∉ run) :
    (run ++ a :: r).takeWhile (· ≠ a) = run ∧ (run ++ a :: r).dropWhile (· ≠ a) = a :: r :=
  takeWhile_eq_run (fun _ hb => decide_eq_true fun he => h (he ▸ hb)) (by simp)

end Symbol

/-! ## Runs of limited length -/

variable {n : Nat}

/-- A run of at most `n` goes on until it is that long or the class ends. -/
theorem exists_takeWhile_take :
    ∃ r, s = (s.take n).takeWhile p ++ r ∧ ((s.take n).takeWhile p).length ≤ n ∧
      (((s.take n).takeWhile p).length = n ∨ ∀ a ∈ r.head?, p a = false) := by
  have hsplit : (s.take n).takeWhile p ++ ((s.take n).dropWhile p ++ s.drop n) = s := by
    rw [← List.append_assoc, List.takeWhile_append_dropWhile, List.take_append_drop]
  have hle : ((s.take n).takeWhile p).length ≤ (s.take n).length :=
    (List.takeWhile_prefix p).length_le
  rw [List.length_take] at hle
  refine ⟨_, hsplit.symm, by omega, ?_⟩
  cases hd : (s.take n).dropWhile p with
  | cons a more =>
    refine .inr fun b hb => ?_
    have hhead : b ∈ ((s.take n).dropWhile p).head? := by rwa [hd]
    exact eq_false_of_mem_head?_dropWhile b hhead
  | nil =>
    rw [hd, List.nil_append] at hsplit
    have hlen := congrArg List.length hsplit
    rw [List.length_append, List.length_drop] at hlen
    by_cases hn : n ≤ s.length
    · exact .inl (by omega)
    · refine .inr fun b hb => ?_
      rw [List.drop_eq_nil_of_le (by omega)] at hb
      simp at hb

theorem takeWhile_take_eq_run (hrun : ∀ a ∈ run, p a = true) (hlen : run.length ≤ n)
    (hend : run.length = n ∨ ∀ a ∈ r.head?, p a = false) :
    ((run ++ r).take n).takeWhile p = run := by
  rw [List.take_append, List.take_of_length_le hlen]
  refine (takeWhile_eq_run hrun fun a ha => ?_).1
  rcases hend with rfl | hr
  · simp at ha
  · rw [List.head?_take] at ha
    split at ha
    · simp at ha
    · exact hr a ha

end PromptLibrary.Proofs.Text.Runs
