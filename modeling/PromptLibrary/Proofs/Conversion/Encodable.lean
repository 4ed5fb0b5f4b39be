import PromptLibrary.Proofs.Conversion.Tail
import PromptLibrary.Proofs.Files.Action
import PromptLibrary.Proofs.Json.Written
import PromptLibrary.Proofs.Literal.Held
/-!
# What was evaluated can be stored

No surrogate half is left in what a text evaluates to, and the writer of documents puts none in, so
the document of templates that were converted always has an encoding.
-/

namespace PromptLibrary.Proofs.Conversion.Encodable

open PromptLibrary.Json
open PromptLibrary.Literal (Interpolation Evaluated evaluate parseValue)
open PromptLibrary.Conversion (document convertText writeTemplates readSource templatesOf)
open PromptLibrary.Proofs.Conversion.Tail (exists_of_convertText)
open PromptLibrary.Proofs.Files.Action
open PromptLibrary.Proofs.Json.Written
open PromptLibrary.Proofs.Literal.Evaluate
open PromptLibrary.Proofs.Literal.Held
open PromptLibrary.Proofs.Text.Points

variable {policy : Interpolation} {text source : List Char} {settings : Settings}
  {o : ConvertOptions} {m : Mapping Text} {templates : Evaluated (Mapping Text)} {t : Text}
  {fs : FileSystem} {input output : Path} {tree : Tree}

/-! ## Documents -/

theorem wellFormed_writeString (ht : t.WellFormed) : (writeString t).WellFormed := by
  have hescaped : Text.WellFormed (t.flatMap escaped) := by
    intro p hp
    obtain ⟨q, hq, hp⟩ := List.mem_flatMap.1 hp
    obtain ⟨c, rfl⟩ := ht q hq
    exact wellFormed_ofChars p hp
  simp [writeString, hescaped]

theorem wellFormed_newLine {level : Nat} : (newLine level).WellFormed :=
  wellFormed_ofChars

theorem wellFormed_colon : (Text.ofString ": ").WellFormed :=
  wellFormed_ofChars

theorem wellFormed_writeMembers (hm : AllWellFormed m) :
    (writeMembers 1 (asMembers m)).WellFormed := by
  induction m with
  | nil => exact wellFormed_nil
  | cons entry m ih =>
    obtain ⟨⟨hkey, hbody⟩, hrest⟩ := List.forall_mem_cons.1 hm
    have hmembers := ih hrest
    unfold asMembers at hmembers ⊢
    simp [writeMembers, writeAt, wellFormed_newLine, wellFormed_colon, wellFormed_writeString hkey,
      wellFormed_writeString hbody, hmembers]

/-- The document of whole templates is whole. -/
theorem wellFormed_document (hm : AllWellFormed m) : (document m).WellFormed := by
  cases m with
  | nil => exact wellFormed_ofChars
  | cons entry m =>
    obtain ⟨⟨hkey, hbody⟩, hrest⟩ := List.forall_mem_cons.1 hm
    rw [document_cons]
    simp [wellFormed_newLine, wellFormed_colon, wellFormed_writeString hkey,
      wellFormed_writeString hbody, wellFormed_writeMembers hrest]

theorem exists_chars_of_wellFormed (h : t.WellFormed) : ∃ cs, t.chars? = some cs := by
  obtain ⟨cs, rfl⟩ := exists_ofChars_of_wellFormed h
  exact ⟨cs, chars_ofChars cs⟩

/-! ## Templates -/

theorem allWellFormed_of_evaluate (h : evaluate policy text = .ok templates) :
    AllWellFormed templates.value := by
  obtain ⟨p, hparse, hvalue, _⟩ := exists_of_evaluate h
  have hwhole := whole_of_parseWithin hparse
  rw [hvalue] at hwhole
  intro entry hentry
  have hmember : (entry.1, Value.string entry.2) ∈ asMembers templates.value :=
    List.mem_map.2 ⟨entry, hentry, rfl⟩
  exact ⟨hwhole _ (.key hmember), hwhole _ (.member hmember .string)⟩

theorem exists_chars_of_evaluate (h : evaluate policy text = .ok templates) :
    ∃ cs, (document templates.value).chars? = some cs :=
  exists_chars_of_wellFormed (wellFormed_document (allWellFormed_of_evaluate h))

theorem evaluate_of_templatesOf {marker : List Char}
    (h : templatesOf marker policy source = .ok templates) :
    ∃ text, evaluate policy text = .ok templates := by
  unfold templatesOf at h
  split at h
  · simp at h
  · next found _ =>
    split at h
    · simp at h
    · next heval =>
      exact ⟨found.text, heval.trans (congrArg Except.ok (Except.ok.inj h))⟩

theorem writeTemplates_ne_unencodable {cs : List Char} (h : (document m).chars? = some cs) :
    (result (writeTemplates fs m output) tree).1 ≠ .error .unencodable := by
  unfold writeTemplates
  rw [h]
  simp only [result_adapt]
  cases (result (fs.writeFile output (Encoding.Utf8.encode cs)) tree).1 <;> simp [Except.mapError]

theorem policy_ne_unencodable : o.policy settings ≠ .error .unencodable := by
  unfold ConvertOptions.policy
  simp only
  split <;> simp

theorem readSource_ne_unencodable {encoding : String} :
    readSource tree encoding input ≠ .error .unencodable := by
  unfold readSource
  split
  · simp
  · simp
  · split
    · simp
    · split
      · simp
      · next bytes _ _ e _ => cases e.readText bytes <;> simp [Except.mapError]

theorem templatesOf_ne_unencodable {marker : List Char} :
    templatesOf marker policy source ≠ .error .unencodable := by
  unfold templatesOf
  split
  · simp
  · split <;> simp

/-- A conversion never fails because its templates have no encoding. -/
theorem convert_ne_unencodable :
    (result (Conversion.convert fs settings o input output) tree).1 ≠ .error .unencodable := by
  unfold Conversion.convert
  simp only [result_bind, result_lift, result_get]
  cases hpolicy : o.policy settings with
  | error e => exact fun he => policy_ne_unencodable (Except.error.inj he ▸ hpolicy)
  | ok policy =>
    simp only
    cases hsource : readSource tree (o.encodingOr settings) input with
    | error e => exact fun he => readSource_ne_unencodable (Except.error.inj he ▸ hsource)
    | ok source =>
      simp only
      cases htemplates : templatesOf (o.markerOr settings).toList policy source with
      | error e => exact fun he => templatesOf_ne_unencodable (Except.error.inj he ▸ htemplates)
      | ok templates =>
        -- What is left to write was evaluated, so that there are characters to write.
        obtain ⟨text, heval⟩ := evaluate_of_templatesOf htemplates
        obtain ⟨cs, hcs⟩ := exists_chars_of_evaluate heval
        have hwrite := @writeTemplates_ne_unencodable templates.value fs output tree cs hcs
        simp only
        generalize result (writeTemplates fs templates.value output) tree = x at hwrite ⊢
        obtain ⟨_ | _, _⟩ := x
        · exact fun he => hwrite (congrArg _ (Except.error.inj he))
        · simp only [result_pure]
          simp

/-- **Whatever is evaluated can be stored.**  No surrogate half stands in any text of a value that
was read, however deep, and whichever escapes it was written with.  So the document of templates
that were converted has an encoding, and no conversion fails for want of one. -/
theorem evaluated_is_encodable (policy : Interpolation) (text : List Char) (fs : FileSystem)
    (settings : Settings) (o : ConvertOptions) (source : List Char) (input output : Path)
    (tree : Tree) :
    (∀ v, parseValue policy text = .ok v → ∀ t, Holds v.value t → t.WellFormed) ∧
    (∀ templates, convertText settings o source = .ok templates →
      ∃ cs, (document templates.value).chars? = some cs) ∧
    (result (Conversion.convert fs settings o input output) tree).1 ≠ .error .unencodable := by
  refine ⟨fun v hv => ?_, fun templates h => ?_, convert_ne_unencodable⟩
  · unfold parseValue at hv
    split at hv
    · simp at hv
    · next p hp => exact Except.ok.inj hv ▸ whole_of_parseWithin hp
  · obtain ⟨policy, found, _, _, heval⟩ := exists_of_convertText h
    exact exists_chars_of_evaluate heval

/-- An object whose key and whose value are each made of two halves, escaped in different ways; the
halves of the value stand in two strings. -/
def halves : List Char :=
  ['\x7b', '"', '\\', 'u', 'd', '8', '3', 'd', '\\', 'u', '\x7b', 'd', 'e', '0', '0', '\x7d', '"',
    ':', '\'', '\\', 'u', 'd', '8', '3', 'd', '\'', '+', '\'', '\\', 'u', '\x7b', 'd', 'e', '0',
    '0', '\x7d', '\'', '\x7d']

/-- The halves are paired in the key and in the value, and the templates have an encoding. -/
theorem evaluated_is_encodable_halves :
    (∀ t, Holds (.object [([.char '😀'], .string [.char '😀'])]) t → t.WellFormed) ∧
      ∃ cs, (document [([.char '😀'], [.char '😀'])]).chars? = some cs := by
  have hvalue : parseValue .strict halves =
      .ok ⟨.object [([.char '😀'], .string [.char '😀'])], []⟩ := by
    with_unfolding_all rfl
  have hconvert : convertText { sourceMarker := "M" } {} ('M' :: '=' :: halves) =
      .ok ⟨[([.char '😀'], [.char '😀'])], []⟩ := by
    with_unfolding_all rfl
  obtain ⟨hparse, hstored, _⟩ := evaluated_is_encodable .strict halves { token := "" }
    { sourceMarker := "M" } {} ('M' :: '=' :: halves) default default {}
  exact ⟨hparse _ hvalue, hstored _ hconvert⟩

end PromptLibrary.Proofs.Conversion.Encodable
