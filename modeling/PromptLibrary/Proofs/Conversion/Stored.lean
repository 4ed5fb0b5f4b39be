import PromptLibrary.Proofs.Conversion.Atomic
import PromptLibrary.Proofs.Conversion.Cut
import PromptLibrary.Proofs.Encoding.Utf8
import PromptLibrary.Proofs.Json.Inclusion
import PromptLibrary.Proofs.Json.Written
import PromptLibrary.Store
/-!
# What is stored is read back

The file that stores a mapping is read back by a store and by a conversion.  A store reads it as a
document; a conversion finds it behind a marker in any source and reads it as a literal.  Both give
the mapping, with its keys in order.
-/

namespace PromptLibrary.Proofs.Conversion.Stored

open PromptLibrary.Literal (evaluate)
open PromptLibrary.Source (extract)
open PromptLibrary.Conversion (document writeTemplates convertText)
open PromptLibrary.Proofs.Conversion.Atomic
open PromptLibrary.Proofs.Conversion.Cut
open PromptLibrary.Proofs.Encoding.Utf8
open PromptLibrary.Proofs.Files.Action
open PromptLibrary.Proofs.Json.Grammar
open PromptLibrary.Proofs.Json.Inclusion
open PromptLibrary.Proofs.Json.Recognition (read_eq_ok_iff)
open PromptLibrary.Proofs.Json.Tokens
open PromptLibrary.Proofs.Json.Written
open PromptLibrary.Proofs.Literal.Balance (plainLexis literal_of_document)
open PromptLibrary.Proofs.Literal.Evaluate (asMembers)
open PromptLibrary.Proofs.Literal.Recognition (parseWithin_eq_ok_iff)
open PromptLibrary.Proofs.Source.Extraction (extract_of_literal)
open PromptLibrary.Proofs.Source.Place (FirstAt firstAt_zero)
open PromptLibrary.Proofs.Text.Points (eq_ofChars_of_chars)

variable {m : Mapping Text} {text : List Char} {policy : Literal.Interpolation}
  {settings : Settings} {o : ConvertOptions} {output : Path} {before after : Tree}

/-! ## The text of a document -/

/-- Members that are all strings are the templates that they were made from. -/
theorem storedTemplates_asMembers : storedTemplates (asMembers m) = .ok m := by
  induction m with
  | nil => rfl
  | cons entry m ih =>
    unfold asMembers at ih ⊢
    rw [List.map_cons, storedTemplates, ih]
    rfl

theorem templatesOf_asMembers : Literal.templatesOf (asMembers m) = .ok m := by
  induction m with
  | nil => rfl
  | cons entry m ih =>
    unfold asMembers at ih ⊢
    rw [List.map_cons, Literal.templatesOf, ih]
    rfl

theorem braces_of_document (htext : document m = Text.ofChars text) :
    text.head? = some '\x7b' ∧ text.getLast? = some '\x7d' := by
  have hdocument : (document m).head? = some (.char '\x7b') ∧
      (document m).getLast? = some (.char '\x7d') := by
    cases m with
    | nil => exact ⟨rfl, rfl⟩
    | cons entry m =>
      rw [document_cons]
      simp [List.getLast?_cons, List.getLast?_append]
  rw [htext, Text.ofChars, List.head?_map, List.getLast?_map] at hdocument
  simpa using hdocument

/-! ## The store -/

theorem read_of_stored (h : Stored m output before after) :
    ∃ text, document m = Text.ofChars text ∧ after.isThere output = .ok true ∧
      after.read output = .ok (Encoding.Utf8.encode text) := by
  obtain ⟨place, text, htext, hplace, hfile, _⟩ := h.file
  have hfind : after.find output = .ok (.file (Encoding.Utf8.encode text)) := by
    unfold Tree.find
    simp only [hplace, hfile]
  refine ⟨text, eq_ofChars_of_chars htext, ?_, ?_⟩
  · unfold Tree.isThere
    rw [hfind]
  · unfold Tree.read
    rw [hfind]

/-- A file with the document of a mapping is read as that mapping. -/
theorem readTemplates_of_document {tree : Tree} (hdocument : document m = Text.ofChars text)
    (hthere : tree.isThere output = .ok true)
    (hread : tree.read output = .ok (Encoding.Utf8.encode text)) (hkeys : m.keys.Nodup)
    (hm : AllWellFormed m) : readTemplates tree output = .ok m := by
  have hreturn : '\r' ∉ text := by
    intro hmem
    have hpoint : CodePoint.char '\r' ∈ document m := hdocument ▸ List.mem_map_of_mem hmem
    exact not_mem_document hpoint
  obtain ⟨d, hd, hder⟩ := document_of_mapping hkeys hm
  have hlimit : d ≤ Json.depthLimit := Nat.le_trans hd (by decide)
  have hjson := read_eq_ok_iff.2 ⟨d, hlimit, document_free hder⟩
  rw [hdocument] at hjson
  unfold readTemplates
  simp only [hthere, hread, readText_encode hreturn, hjson, storedTemplates_asMembers]
  rfl

/-! ## The conversion -/

theorem common_stored : Common storedLexis :=
  ⟨id, fun _ => id⟩

theorem evaluate_of_document (hdocument : document m = Text.ofChars text) (hkeys : m.keys.Nodup)
    (hm : AllWellFormed m) : evaluate policy text = .ok ⟨m, []⟩ := by
  obtain ⟨d, hd, hder⟩ := document_of_mapping hkeys hm
  rw [hdocument] at hder
  obtain ⟨p, hvalue, hduplicates, hdoc⟩ := document_of_json .free policy common_stored hder
  have hlimit : d ≤ Literal.depthLimit := Nat.le_trans hd (by decide)
  have hparse := parseWithin_eq_ok_iff.2 ⟨d, hlimit, hdoc⟩
  unfold evaluate Literal.parseValue
  rw [hparse]
  simp only [bind, Except.bind, hvalue, templatesOf_asMembers, hduplicates fun _ => id]
  rfl

/-- The document is cut out of a source in which it is assigned to a marker. -/
theorem convertText_of_document (hpolicy : o.policy settings = .ok policy)
    (hmarker : '=' ∉ (o.markerOr settings).toList) (hdocument : document m = Text.ofChars text)
    (hkeys : m.keys.Nodup) (hm : AllWellFormed m) (suffix : List Char) :
    convertText settings o ((o.markerOr settings).toList ++ " = ".toList ++ text ++ suffix) =
      .ok ⟨m, []⟩ := by
  obtain ⟨hfirst, hlast⟩ := braces_of_document hdocument
  obtain ⟨d, _, hder⟩ := document_of_mapping hkeys hm
  rw [hdocument] at hder
  obtain ⟨p, _, _, hdoc⟩ := document_of_json plainLexis policy common_stored hder
  obtain ⟨s, rfl⟩ := List.head?_eq_some_iff.1 hfirst
  obtain ⟨deepest, hliteral⟩ := literal_of_document hdoc hlast
  generalize hname : (o.markerOr settings).toList = marker at hmarker ⊢
  generalize hsource : marker ++ " = ".toList ++ '\x7b' :: s ++ suffix = source
  have hassigned : source = [] ++ marker ++ [' '] ++ ['='] ++ [' '] ++ '\x7b' :: s ++ suffix := by
    rw [← hsource]
    simp
  have hplace : FirstAt marker source 0 ([] : List Char).length :=
    firstAt_zero (by simp [hassigned])
  have hloc := located_of_assignment hplace hassigned hmarker (by decide) (by decide) rfl
  have hprefix : '\x7b' :: s <+:
      source.drop ([] ++ marker ++ [' '] ++ ['='] ++ [' '] : List Char).length := by
    rw [hassigned, List.append_assoc _ ('\x7b' :: s), List.drop_left]
    exact List.prefix_append _ _
  have hextract := extract_of_literal hloc hliteral hprefix
  rw [← hname] at hextract
  rw [convertText_of_extract hpolicy hextract, evaluate_of_document hdocument hkeys hm]
  rfl

/-- **What is stored is decoded by both readers.**  Once the file is written, a fresh store loads
the mapping from it, and its text converts to the mapping behind any marker without an equals sign,
with any text behind it and under either policy, and no key is overridden. -/
theorem stored_decoded_by_both (m : Mapping Text) (hkeys : m.keys.Nodup) (hm : AllWellFormed m)
    (fs : FileSystem) (output : Path) (before after : Tree)
    (hwrite : result (writeTemplates fs m output) before = (.ok (), after)) :
    (({ path := output } : Store).load after).1 = .ok m ∧
      ∃ text, after.read output = .ok (Encoding.Utf8.encode text) ∧
        ∀ settings o policy suffix, o.policy settings = .ok policy →
          '=' ∉ (o.markerOr settings).toList →
          convertText settings o ((o.markerOr settings).toList ++ " = ".toList ++ text ++ suffix) =
            .ok ⟨m, []⟩ := by
  have hstored : Stored m output before after := by
    have h := @writeTemplates_all_or_nothing fs m output before
    rw [result_bind, hwrite] at h
    exact h
  obtain ⟨text, hdocument, hthere, hread⟩ := read_of_stored hstored
  have hload := readTemplates_of_document hdocument hthere hread hkeys hm
  refine ⟨?_, text, hread, fun settings o policy suffix hpolicy hmarker => ?_⟩
  · simp only [Store.load, hload]
  · exact convertText_of_document hpolicy hmarker hdocument hkeys hm suffix

/-- A body with a quote, a backslash, line ends, a backtick, and braces that look like code. -/
def awkward : Mapping Text :=
  [(Text.ofString "a\u2028", Text.ofString "\"\\\r\n\x60$\x7bx\x7d\x7d"), ([], Text.ofString "😀")]

theorem writeFile_in_working_directory (content : List UInt8) : ∃ after,
    result (FileSystem.writeFile { token := "x" } ⟨"", ["t.json"]⟩ content) {} =
      (.ok (), after) := by
  have hdirectories : result (FileSystem.ensureDirectories { token := "x" }
      (Path.parent ⟨"", ["t.json"]⟩)) {} = (.ok (), {}) := by
    unfold FileSystem.ensureDirectories
    rfl
  unfold FileSystem.writeFile
  rw [result_bind, hdirectories]
  exact ⟨_, rfl⟩

theorem stored_decoded_by_both_awkward : ∃ after,
    result (writeTemplates { token := "x" } awkward ⟨"", ["t.json"]⟩) {} = (.ok (), after) ∧
      (({ path := ⟨"", ["t.json"]⟩ } : Store).load after).1 = .ok awkward := by
  obtain ⟨text, htext⟩ : ∃ text, (document awkward).chars? = some text := ⟨_, rfl⟩
  obtain ⟨after, hfile⟩ := writeFile_in_working_directory (Encoding.Utf8.encode text)
  have hwrite : result (writeTemplates { token := "x" } awkward ⟨"", ["t.json"]⟩) {} =
      (.ok (), after) := by
    unfold writeTemplates
    rw [htext]
    simp only [result_adapt, hfile]
    rfl
  have h := stored_decoded_by_both awkward (by decide) (by decide) _ _ _ _ hwrite
  exact ⟨after, hwrite, h.1⟩

end PromptLibrary.Proofs.Conversion.Stored
