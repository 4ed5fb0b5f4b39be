import PromptLibrary.Proofs.Files.Tree
/-!
# Results of file actions

What an action gives and the state it leaves are one value, its `result`, which is worked out along
the action's steps.  Making directories keeps all files whatever comes of it
(`keeps_ensureDirectories`), and writing a file either leaves everything as the directories were
made or changes one place (`written_of_writeFile`).
-/

namespace PromptLibrary.Proofs.Files.Action

open PromptLibrary.Proofs.Files.Tree

section Results

variable {ε ε' σ α β : Type} {x : ExceptT ε (StateM σ) α} {f : α → ExceptT ε (StateM σ) β}
  {handler : ε → ExceptT ε (StateM σ) α} {s : σ} {a : α} {e : ε}

/-- What an action gives, and the state afterwards. -/
def result (x : ExceptT ε (StateM σ) α) (s : σ) : Except ε α × σ :=
  x.run.run s

@[simp]
theorem result_pure : result (pure a : ExceptT ε (StateM σ) α) s = (.ok a, s) :=
  rfl

@[simp]
theorem result_throw : result (throw e : ExceptT ε (StateM σ) α) s = (.error e, s) :=
  rfl

@[simp]
theorem result_lift {y : Except ε α} :
    result (liftM y : ExceptT ε (StateM σ) α) s = (y, s) :=
  rfl

@[simp]
theorem result_get : result (get : ExceptT ε (StateM σ) σ) s = (.ok s, s) :=
  rfl

@[simp]
theorem result_set {t : σ} : result (set t : ExceptT ε (StateM σ) PUnit) s = (.ok ⟨⟩, t) :=
  rfl

@[simp]
theorem result_modify {g : σ → σ} :
    result (modify g : ExceptT ε (StateM σ) PUnit) s = (.ok ⟨⟩, g s) :=
  rfl

@[simp]
theorem result_bind : result (x >>= f) s = match result x s with
    | (.ok a, t) => result (f a) t
    | (.error e, t) => (.error e, t) := by
  unfold result
  rw [ExceptT.run_bind, StateT.run_bind]
  generalize x.run.run s = y
  obtain ⟨_ | _, t⟩ := y <;> rfl

@[simp]
theorem result_map {g : α → β} :
    result (g <$> x) s = ((result x s).1.map g, (result x s).2) := by
  rw [map_eq_pure_bind, result_bind]
  generalize result x s = y
  obtain ⟨_ | _, t⟩ := y <;> rfl

@[simp]
theorem result_tryCatch : result (tryCatch x handler) s = match result x s with
    | (.ok a, t) => (.ok a, t)
    | (.error e, t) => result (handler e) t := by
  have hrun : (tryCatch x handler).run = x.run >>= fun r => match r with
      | .ok a => pure (.ok a)
      | .error e => (handler e).run := rfl
  unfold result
  rw [hrun, StateT.run_bind]
  generalize x.run.run s = y
  obtain ⟨_ | _, t⟩ := y <;> rfl

@[simp]
theorem result_adapt {g : ε → ε'} :
    result (x.adapt g) s = ((result x s).1.mapError g, (result x s).2) :=
  rfl

end Results

variable {fs : FileSystem} {p : Path} {t : Tree} {step : FileStep} {paths : List String}

theorem allow_cases : result (fs.allow step paths) t = (.ok (), t) ∨
    ∃ e, result (fs.allow step paths) t = (.error e, t) := by
  unfold FileSystem.allow
  split
  · exact .inl rfl
  · exact .inr ⟨_, rfl⟩

/-! ## Making directories -/

theorem makeDirectory_cases : (∃ e, result (fs.makeDirectory p) t = (.error e, t)) ∨
    ∃ place, t.place p = .ok place ∧ t.get? place = none ∧
      result (fs.makeDirectory p) t = (.ok (), t.set place .directory) := by
  unfold FileSystem.makeDirectory
  rcases @allow_cases fs t (.makeDirectory p) [p.text] with h | ⟨e, h⟩
  · cases hp : t.place p with
    | error c => exact .inl ⟨⟨c, [p.text]⟩, by simp [h, hp]⟩
    | ok place =>
      cases hplace : t.get? place with
      | some x => exact .inl ⟨⟨.alreadyThere, [p.text]⟩, by simp [h, hp, hplace]⟩
      | none => exact .inr ⟨place, rfl, hplace, by simp [h, hp, hplace]⟩
  · exact .inl ⟨e, by simp [h]⟩

/-- Whatever comes of an action, files are kept. -/
def Keeps {α : Type} (p : Path) (x : FileAction α) : Prop :=
  ∀ t, Kept p t (result x t).2

section Keeps

variable {α β : Type} {x : FileAction α} {f : α → FileAction β}
  {handler : FileError → FileAction α}

theorem keeps_pure {a : α} : Keeps p (pure a : FileAction α) :=
  fun _ => kept_refl

theorem keeps_throw {e : FileError} : Keeps p (throw e : FileAction α) :=
  fun _ => kept_refl

theorem keeps_bind (hx : Keeps p x) (hf : ∀ a, Keeps p (f a)) : Keeps p (x >>= f) := by
  intro t
  have h := hx t
  rw [result_bind]
  split
  · next a u hr =>
    rw [hr] at h
    exact kept_trans h (hf a u)
  · next hr =>
    rw [hr] at h
    exact h

theorem keeps_tryCatch (hx : Keeps p x) (hh : ∀ e, Keeps p (handler e)) :
    Keeps p (tryCatch x handler) := by
  intro t
  have h := hx t
  rw [result_tryCatch]
  split
  · next hr =>
    rw [hr] at h
    exact h
  · next e u hr =>
    rw [hr] at h
    exact kept_trans h (hh e u)

theorem keeps_get_bind {f : Tree → FileAction α} (hf : ∀ t, Keeps p (f t)) :
    Keeps p (get >>= f) :=
  fun t => hf t t

end Keeps

variable {front : List String}

theorem keeps_makeDirectory (hfront : front <+: p.parts) :
    Keeps p (fs.makeDirectory { p with parts := front }) := by
  intro t
  rcases @makeDirectory_cases fs { p with parts := front } t with ⟨e, h⟩ | ⟨place, hp, hnone, h⟩
  · rw [h]
    exact kept_refl
  · rw [h]
    exact kept_set_directory hp hfront hnone

theorem keeps_ensureDirectory (hfront : front <+: p.parts) :
    Keeps p (fs.ensureDirectory { p with parts := front }) := by
  refine keeps_tryCatch (keeps_makeDirectory hfront) fun e => keeps_get_bind fun t => ?_
  split
  · exact keeps_pure
  · exact keeps_throw

/-- Making directories adds directories on the way, and keeps the rest, also if it fails. -/
theorem keeps_ensureDirectories (hfront : front <+: p.parts) :
    Keeps p (fs.ensureDirectories { p with parts := front }) := by
  -- The directories that are missing are made from the last one towards the first.
  induction hn : front.length generalizing front with
  | zero =>
    obtain rfl := List.eq_nil_of_length_eq_zero hn
    unfold FileSystem.ensureDirectories
    exact keeps_ensureDirectory hfront
  | succ n ih =>
    have hne : front ≠ [] := List.ne_nil_of_length_eq_add_one hn
    have hparent : Keeps p (fs.ensureDirectories { p with parts := front.dropLast }) := by
      refine ih ((List.dropLast_prefix front).trans hfront) ?_
      rw [List.length_dropLast, hn]
      rfl
    unfold FileSystem.ensureDirectories
    rw [dif_neg hne]
    refine keeps_tryCatch (keeps_ensureDirectory hfront) fun e => ?_
    split
    · exact keeps_bind hparent fun _ => keeps_ensureDirectory hfront
    · exact keeps_throw

/-! ## Writing a file -/

variable {source : Place} {content : List UInt8}

theorem replace_cases : (∃ e, result (fs.replace source p content) t = (.error e, t)) ∨
    ∃ place, t.place p = .ok place ∧ t.get? place ≠ some .directory ∧
      result (fs.replace source p content) t =
        (.ok (), (t.erase source).set place (.file content)) := by
  unfold FileSystem.replace
  rcases @allow_cases fs t .replace [(fs.temporary p).normal.text, p.text] with h | ⟨e, h⟩
  · by_cases hname : p.name = "" ∨ p.name = ".."
    · exact .inl ⟨⟨.busy, [(fs.temporary p).normal.text, p.text]⟩, by simp [h, hname]⟩
    · cases hp : t.place p with
      | error c =>
        exact .inl ⟨⟨c, [(fs.temporary p).normal.text, p.text]⟩, by simp [h, hname, hp]⟩
      | ok place =>
        cases hplace : t.get? place with
        | none => exact .inr ⟨place, rfl, by simp [hplace], by simp [h, hname, hp, hplace]⟩
        | some x =>
          cases x with
          | file old => exact .inr ⟨place, rfl, by simp [hplace], by simp [h, hname, hp, hplace]⟩
          | directory =>
            exact .inl ⟨⟨.isDirectory, [(fs.temporary p).normal.text, p.text]⟩,
              by simp [h, hname, hp, hplace]⟩
  · exact .inl ⟨e, by simp [h]⟩

/-- What may come of writing a file, when the directories on the way to it are there: everything
stands as before, or the file stands at the place that its path leads to. -/
inductive Written (p : Path) (content : List UInt8) (before : Tree) :
    Except FileError Unit × Tree → Prop where
  | failed {e : FileError} {after : Tree} (h : ∀ place, after.get? place = before.get? place) :
      Written p content before (.error e, after)
  | replaced {place : Place} {after : Tree} (hp : before.place p = .ok place)
      (hne : before.get? place ≠ some .directory)
      (h : ∀ other, after.get? other =
        if other = place then some (.file content) else before.get? other) :
      Written p content before (.ok (), after)

section Temporary

variable {before during : Tree} (hfree : before.get? source = none)

/-- The temporary file is all that is there beside what was there before. -/
def Beside (source : Place) (before during : Tree) : Prop :=
  ∃ content, ∀ place, during.get? place =
    if place = source then some (.file content) else before.get? place

include hfree

theorem beside_set : Beside source before (before.set source (.file content)) := by
  have hne : before.get? source ≠ some .directory := by simp [hfree]
  exact ⟨content, fun place => Tree.get?_set before _ place (isGround_of_get? hne)⟩

theorem beside_set_again (h : Beside source before during) :
    Beside source before (during.set source (.file content)) := by
  have hne : before.get? source ≠ some .directory := by simp [hfree]
  obtain ⟨old, h⟩ := h
  refine ⟨content, fun place => ?_⟩
  rw [Tree.get?_set during _ place (isGround_of_get? hne), h]
  split <;> rfl

theorem get?_erase_temporary (h : Beside source before during) (place : Place) :
    (during.erase source).get? place = before.get? place := by
  have hne : before.get? source ≠ some .directory := by simp [hfree]
  obtain ⟨old, h⟩ := h
  rw [Tree.get?_erase during place (isGround_of_get? hne), h]
  split
  · next he => rw [he, hfree]
  · rfl

/-- The temporary file is no directory, so that it makes no difference on the way along a path. -/
theorem directory_iff_of_beside (h : Beside source before during) (place : Place) :
    during.get? place = some .directory ↔ before.get? place = some .directory := by
  obtain ⟨old, h⟩ := h
  rw [h]
  split
  · next he => simp [he, hfree]
  · rfl

theorem written_of_erase {e : FileError} (h : Beside source before during) :
    Written p content before (result (do modify fun t => t.erase source; throw e) during) := by
  rw [result_bind, result_modify]
  exact .failed (get?_erase_temporary hfree h)

theorem written_of_replace (h : Beside source before during) :
    Written p content before (result (tryCatch (fs.replace source p content)
      fun e => do modify fun t => t.erase source; throw e) during) := by
  rw [result_tryCatch]
  rcases @replace_cases fs p during source content with ⟨e, hr⟩ | ⟨place, hp, hne, hr⟩
  · rw [hr]
    exact written_of_erase hfree h
  · have hdirectories : KeepsDirectories during before :=
      fun place => (directory_iff_of_beside hfree h place).1
    have hplace : before.get? place ≠ some .directory :=
      fun he => hne ((directory_iff_of_beside hfree h place).2 he)
    rw [hr]
    refine .replaced (place_mono hdirectories hp) hplace fun other => ?_
    rw [Tree.get?_set _ _ _ (isGround_of_get? hne), get?_erase_temporary hfree h]

/-- Once the temporary file is there, it is filled and moved, or else taken away. -/
theorem written_of_temporary (h : Beside source before during) :
    Written p content before (result (tryCatch
      (do
        fs.allow .writeTemporary []
        modify fun t => t.set source (.file content)
        fs.replace source p content)
      fun e => do modify fun t => t.erase source; throw e) during) := by
  have hfilled : Beside source before (during.set source (.file content)) :=
    beside_set_again hfree h
  have hreplace := @written_of_replace fs p source content before _ hfree hfilled
  rw [result_tryCatch] at hreplace ⊢
  rcases @allow_cases fs during .writeTemporary [] with ha | ⟨e, ha⟩
  · simpa only [result_bind, ha, result_modify] using hreplace
  · simp only [result_bind, ha]
    exact written_of_erase hfree h

end Temporary

/-- **A file is written whole or not at all**, once the directories on the way to it were made. -/
theorem written_of_writeFile : Written p content (result (fs.ensureDirectories p.parent) t).2
    (result (fs.writeFile p content) t) := by
  have hrefl {e : FileError} {u : Tree} : Written p content u (.error e, u) :=
    .failed fun _ => rfl
  unfold FileSystem.writeFile
  rw [result_bind]
  generalize result (fs.ensureDirectories p.parent) t = made
  obtain ⟨_ | _, u⟩ := made
  · exact hrefl
  · simp only [result_bind]
    rcases @allow_cases fs u .createTemporary [(fs.temporary p).normal.text] with ha | ⟨e, ha⟩
    · simp only [ha, result_get]
      cases hp : u.place (fs.temporary p) with
      | error c => exact hrefl
      | ok source =>
        cases hfree : u.get? source with
        | some x => simpa [hfree] using hrefl
        | none =>
          have hcreated : Beside source u (u.set source (.file [])) := beside_set hfree
          have hwritten := @written_of_temporary fs p source content u _ hfree hcreated
          simpa [hfree] using hwritten
    · simp only [ha]
      exact hrefl

end PromptLibrary.Proofs.Files.Action
