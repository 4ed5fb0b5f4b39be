import PromptLibrary.Command.Run
import PromptLibrary.Proofs.Command.Console
/-!
# Conversions that fail leave no trace in files

A conversion that succeeds has replaced one file, and one that fails has replaced none, whichever
step failed: reading the source, finding or evaluating the literal, encoding the document, making
directories, or any step on the way from the temporary file to the one that it replaces.  The
command ends with the exit code for success exactly if the conversion it carries out succeeds.
-/

namespace PromptLibrary.Proofs.Conversion.Atomic

open PromptLibrary.Command
open PromptLibrary.Conversion (document writeTemplates readSource templatesOf)
open PromptLibrary.Proofs.Command.Console
open PromptLibrary.Proofs.Files.Action
open PromptLibrary.Proofs.Files.Tree

variable {fs : FileSystem} {settings : Settings} {options : ConvertOptions} {m : Mapping Text}
  {input output : Path} {before after : Tree}

/-- The document of a mapping is the content of the file at a path.  All other files are the same,
no directory is gone, and each new one lies on the way to that file. -/
structure Stored (m : Mapping Text) (output : Path) (before after : Tree) : Prop where
  file : ∃ place text, (document m).chars? = some text ∧ after.place output = .ok place ∧
    after.get? place = some (.file (Encoding.Utf8.encode text)) ∧
    ∀ other, other ≠ place → ∀ content,
      after.get? other = some (.file content) ↔ before.get? other = some (.file content)
  directory : KeepsDirectories before after
  fresh : ∀ place, after.get? place = some .directory →
    before.get? place = some .directory ∨ OnTheWay after output.parent place

/-- What a change of files may come to, if it is to store a mapping. -/
def AllOrNothing {ε : Type} (output : Path) (before : Tree) :
    Except ε (Mapping Text) × Tree → Prop
  | (.ok m, after) => Stored m output before after
  | (.error _, after) => Kept output.parent before after

/-! ## Writing the templates -/

/-- A file that is replaced is the only one that is not kept. -/
theorem stored_of_replaced {made : Tree} {place : Place} {text : List Char}
    (hmade : Kept output.parent before made) (htext : (document m).chars? = some text)
    (hp : made.place output = .ok place) (hne : made.get? place ≠ some .directory)
    (h : ∀ other, after.get? other =
      if other = place then some (.file (Encoding.Utf8.encode text)) else made.get? other) :
    Stored m output before after := by
  have hkeeps : KeepsDirectories made after := by
    intro other hother
    have hplace : other ≠ place := by
      rintro rfl
      exact hne hother
    rw [h, if_neg hplace, hother]
  refine ⟨⟨place, text, htext, place_mono hkeeps hp, ?_, fun other hother content => ?_⟩,
    fun other hother => ?_, fun other hother => ?_⟩
  · rw [h, if_pos rfl]
  · rw [h, if_neg hother]
    exact hmade.file other content
  · exact hkeeps other (hmade.directory other hother)
  · have hplace : other ≠ place := by
      rintro rfl
      rw [h, if_pos rfl] at hother
      simp at hother
    rw [h, if_neg hplace] at hother
    rcases hmade.fresh other hother with hother | hother
    · exact .inl hother
    · exact .inr (onTheWay_mono hkeeps hother)

theorem writeTemplates_all_or_nothing :
    AllOrNothing output before (result (do writeTemplates fs m output; return m) before) := by
  unfold writeTemplates
  cases htext : (document m).chars? with
  | none => exact kept_refl
  | some text =>
    have hmade : Kept output.parent before (result (fs.ensureDirectories output.parent) before).2 :=
      keeps_ensureDirectories (List.prefix_refl _) before
    have hwritten := @written_of_writeFile fs output before (Encoding.Utf8.encode text)
    rw [result_bind, result_adapt]
    generalize result (fs.writeFile output (Encoding.Utf8.encode text)) before = r at hwritten ⊢
    cases hwritten with
    | failed h => exact kept_trans hmade (kept_of_get?_eq h)
    | replaced hp hne h => exact stored_of_replaced hmade htext hp hne h

/-- Nothing is written before the templates are evaluated. -/
theorem convert_keeps_files : AllOrNothing output before
    (result (Conversion.convert fs settings options input output) before) := by
  unfold Conversion.convert
  simp only [result_bind, result_lift, result_get]
  cases options.policy settings with
  | error e => exact kept_refl
  | ok policy =>
    simp only
    cases readSource before (options.encodingOr settings) input with
    | error e => exact kept_refl
    | ok source =>
      simp only
      cases templatesOf (options.markerOr settings).toList policy source with
      | error e => exact kept_refl
      | ok templates =>
        have h := @writeTemplates_all_or_nothing fs templates.value output before
        rwa [result_bind] at h

/-! ## The command -/

variable {env : Environment} {templates : Option Path} {request : ConvertRequest} {world : World}

theorem result_changeFiles {ε α : Type} (action : ExceptT ε (StateM Tree) α) :
    result (changeFiles action) world =
      (.ok (result action world.tree).1, { world with tree := (result action world.tree).2 }) :=
  rfl

/-- The conversion that the command carries out. -/
def conversionOf (env : Environment) (templates : Option Path) (request : ConvertRequest) :
    ExceptT ConvertError (StateM Tree) (Mapping Text) :=
  Conversion.convert env.files env.settings
    { marker := request.marker, interpolation := request.interpolation } request.input
    ((request.output.or templates).getD env.settings.templatesPath)

/-- The command changes files as its conversion does, and succeeds exactly with it. -/
theorem result_runConvert :
    (result (runConvert env templates request) world).2.tree =
        (result (conversionOf env templates request) world.tree).2 ∧
      ((result (runConvert env templates request) world).1 = .ok 0 ↔
        ∃ m, (result (conversionOf env templates request) world.tree).1 = .ok m) := by
  unfold runConvert conversionOf
  simp only [result_bind, result_changeFiles]
  generalize result (Conversion.convert _ _ _ _ _) world.tree = converted
  obtain ⟨found, tree⟩ := converted
  cases found with
  | ok found => simp [result_printString, wrote, Except.map]
  | error e =>
    by_cases hreported : isReported e = true
    · simp only [hreported, if_true, result_bind, result_failWith]
      split <;> simp [result_complain, complained, Except.map]
    · simp [hreported]

theorem runCommand_convert_iff :
    (result (runCommand env templates (.convert request)) world).2.tree =
        (result (conversionOf env templates request) world.tree).2 ∧
      ((result (runCommand env templates (.convert request)) world).1 = .ok (.exit 0) ↔
        ∃ m, (result (conversionOf env templates request) world.tree).1 = .ok m) := by
  rw [runCommand, result_map]
  refine ⟨result_runConvert.1, Iff.trans ?_ result_runConvert.2⟩
  cases (result (runConvert env templates request) world).1 with
  | error e => simp [Except.map]
  | ok code => simp [Except.map]

end PromptLibrary.Proofs.Conversion.Atomic
