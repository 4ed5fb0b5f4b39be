import PromptLibrary.Files.Action
/-!
# Trees that keep their files

A change of files that fails may leave directories behind, and nothing else.  `Kept p` says so of
two trees: the files are the same, no directory is gone, and each new one lies on the way along the
path `p`.  Such a change is invisible to what was found before: a path that led to a place still
leads there (`place_mono`), since only directories are passed on the way.
-/

namespace PromptLibrary.Proofs.Files.Tree

variable {a b c : Tree} {p : Path} {place other : Place} {parts front : List String}

/-- What is a directory in one tree is one in the other. -/
def KeepsDirectories (a b : Tree) : Prop :=
  ∀ place, a.get? place = some .directory → b.get? place = some .directory

/-- A path that leads to a place is one of the paths from the root of `p` up to `p` itself. -/
def OnTheWay (t : Tree) (p : Path) (place : Place) : Prop :=
  ∃ front, front <+: p.parts ∧ t.place { p with parts := front } = .ok place

/-- Files are the same, and new directories lie on the way along a path. -/
structure Kept (p : Path) (before after : Tree) : Prop where
  file : ∀ place content,
    after.get? place = some (.file content) ↔ before.get? place = some (.file content)
  directory : KeepsDirectories before after
  fresh : ∀ place, after.get? place = some .directory →
    before.get? place = some .directory ∨ OnTheWay after p place

/-! ## The way along a path -/

theorem walk_mono (h : KeepsDirectories a b) (hw : a.walk place parts = .ok other) :
    b.walk place parts = .ok other := by
  induction parts generalizing place with
  | nil => exact hw
  | cons part parts ih =>
    rw [Tree.walk] at hw ⊢
    split at hw
    · simp at hw
    · simp at hw
    · next hplace =>
      rw [h place hplace]
      simp only at hw ⊢
      split at hw
      · simp at hw
      · next hlength =>
        rw [if_neg hlength]
        exact ih hw

theorem place_mono (h : KeepsDirectories a b) (hp : a.place p = .ok place) :
    b.place p = .ok place := by
  unfold Tree.place at hp ⊢
  split at hp
  · simp at hp
  · exact walk_mono h hp

theorem onTheWay_mono (h : KeepsDirectories a b) (hp : OnTheWay a p place) :
    OnTheWay b p place := by
  obtain ⟨front, hfront, hplace⟩ := hp
  exact ⟨front, hfront, place_mono h hplace⟩

/-- Only the ground and what is set stands at a place. -/
theorem isGround_of_get? (h : a.get? place ≠ some .directory) : Tree.isGround place = false := by
  rw [Bool.eq_false_iff]
  intro hground
  exact h (by rw [Tree.get?, if_pos hground])

/-! ## Keeping files -/

theorem kept_refl : Kept p a a :=
  ⟨fun _ _ => Iff.rfl, fun _ h => h, fun _ h => .inl h⟩

theorem kept_trans (hab : Kept p a b) (hbc : Kept p b c) : Kept p a c := by
  refine ⟨fun place content => ?_, fun place h => ?_, fun place h => ?_⟩
  · exact (hbc.file place content).trans (hab.file place content)
  · exact hbc.directory place (hab.directory place h)
  · rcases hbc.fresh place h with h | h
    · rcases hab.fresh place h with h | h
      · exact .inl h
      · exact .inr (onTheWay_mono hbc.directory h)
    · exact .inr h

/-- Trees in which the same stands everywhere are not told apart. -/
theorem kept_of_get?_eq (h : ∀ place, b.get? place = a.get? place) : Kept p a b := by
  refine ⟨fun place content => ?_, fun place ha => ?_, fun place hb => ?_⟩
  · rw [h place]
  · rw [h place, ha]
  · rw [h place] at hb
    exact .inl hb

/-- A directory is made where nothing was. -/
theorem kept_set_directory (hplace : a.place { p with parts := front } = .ok place)
    (hfront : front <+: p.parts) (hnone : a.get? place = none) :
    Kept p a (a.set place .directory) := by
  have hne : a.get? place ≠ some .directory := by simp [hnone]
  have hground := isGround_of_get? hne
  have hset := fun other => Tree.get?_set a .directory other hground
  have hdirectories : KeepsDirectories a (a.set place .directory) := by
    intro other hother
    rw [hset]
    split
    · rfl
    · exact hother
  refine ⟨fun other content => ?_, hdirectories, fun other hother => ?_⟩
  · rw [hset]
    split
    · next he => simp [he, hnone]
    · rfl
  · rw [hset] at hother
    split at hother
    · next he =>
      subst he
      exact .inr ⟨front, hfront, place_mono hdirectories hplace⟩
    · exact .inl hother

end PromptLibrary.Proofs.Files.Tree
