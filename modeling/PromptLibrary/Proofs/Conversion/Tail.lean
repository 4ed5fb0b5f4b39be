import PromptLibrary.Conversion
import PromptLibrary.Proofs.Literal.Append
import PromptLibrary.Proofs.Literal.Evaluate
import PromptLibrary.Proofs.Source.Extraction
/-!
# Conversions read what stands in the source

Extraction knows nothing of comments, so the text that it cuts out may end too early.  Whatever it
cuts out, an object that is read from it is the object that stands in the source: the readers read
the same members from the source that goes on behind the cut.
-/

namespace PromptLibrary.Proofs.Conversion.Tail

open PromptLibrary.Literal
open PromptLibrary.Source (locate extract)
open PromptLibrary.Proofs.Source.Balanced
open PromptLibrary.Proofs.Source.Extraction
open PromptLibrary.Proofs.Source.Place
open PromptLibrary.Proofs.Literal.Append
open PromptLibrary.Proofs.Literal.Evaluate
open PromptLibrary.Proofs.Literal.Grammar
open PromptLibrary.Proofs.Literal.Readers
open PromptLibrary.Proofs.Literal.Recognition

variable {policy : Interpolation} {source marker s k : List Char} {start : Nat} {p : Parsed}
  {settings : Settings} {o : ConvertOptions} {m : Evaluated (Mapping Text)}

/-- The reader of objects, after the opening brace of an object in no other brackets. -/
def objectReader (policy : Interpolation) : Reader Char Failure Parsed :=
  bracketed (expression (operandWithin policy (depthLimit - 1))) '\x7b'

/-- An object that is a whole text is read from any longer text, with places told in that text. -/
theorem reads_object_append
    (h : parseWithin depthLimit policy ('\x7b' :: s) = .ok p) :
    ∃ r, Reads (objectReader policy) (s ++ k) (extend k p) (r ++ k) := by
  obtain ⟨d, hd, r, hlit, _⟩ := parseWithin_eq_ok_iff.1 h
  obtain ⟨e, ms, rfl, rfl, hms⟩ := members_of_literal hlit
  have hlong : Derives .free policy e (.members (ms.map (extendMember k))) (s ++ k) (r ++ k) :=
    derives_append hms trivial
  have hread := completes hlong (depthLimit - 1) (by omega)
  rw [extend_ofMembers]
  exact ⟨r, (reads_bracketed_iff (by decide)).2 (.inl ⟨rfl, _, hread, rfl⟩)⟩

theorem warningsIn_extend (text : List Char) :
    warningsIn (text ++ k) (extend k p) = warningsIn text p := by
  unfold warningsIn extend
  rw [List.map_map]
  refine List.map_congr_left fun d _ => ?_
  simp only [Function.comp_apply, extendDuplicate, List.length_append, Nat.add_sub_add_right]

/-- What a conversion that succeeded went through. -/
theorem exists_of_convertText (h : Conversion.convertText settings o source = .ok m) :
    ∃ policy found, o.policy settings = .ok policy ∧
      extract source (o.markerOr settings).toList = .ok found ∧
      evaluate policy found.text = .ok m := by
  unfold Conversion.convertText at h
  cases hpolicy : o.policy settings with
  | error e => simp [hpolicy, bind, Except.bind] at h
  | ok policy =>
    simp only [hpolicy, bind, Except.bind] at h
    unfold Conversion.templatesOf at h
    split at h
    · simp at h
    · next found hfound =>
      split at h
      · simp at h
      · next templates heval =>
        rw [Except.ok.injEq] at h
        exact ⟨policy, found, rfl, hfound, h ▸ heval⟩

theorem exists_start_of_extract {found : Source.Extracted}
    (h : extract source marker = .ok found) : ∃ start, Located source marker (.ok start) := by
  obtain ⟨r, hr⟩ := exists_located source marker
  cases r with
  | error e =>
    rw [extract_of_missing hr] at h
    exact absurd h (by simp)
  | ok start => exact ⟨start, hr⟩

/-- **No conversion reads something else than what stands in the source.**  When a conversion
succeeds, the reader of objects also succeeds on the whole source from the located brace on.  It
reads the same mapping with the same warnings, and it stops where the extracted text ends or
earlier. -/
theorem objectReader_of_convertText (settings : Settings) (o : ConvertOptions)
    (source : List Char) (m : Evaluated (Mapping Text))
    (h : Conversion.convertText settings o source = .ok m) :
    ∃ policy start found rest object after,
      o.policy settings = .ok policy ∧
      locate source (o.markerOr settings).toList = .ok start ∧
      extract source (o.markerOr settings).toList = .ok found ∧
      source.drop start = '\x7b' :: rest ∧
      Reads (objectReader policy) rest object after ∧
      object.value = .object (asMembers m.value) ∧
      warningsIn (source.drop start) object = m.warnings ∧
      source.length - after.length ≤ found.stop := by
  obtain ⟨policy, found, hpolicy, hfound, heval⟩ := exists_of_convertText h
  obtain ⟨start, hloc⟩ := exists_start_of_extract hfound
  obtain ⟨deepest, text, hliteral, ⟨k, hk⟩, rfl⟩ := (extract_eq_ok_iff hloc).1 hfound
  obtain ⟨p, hparse, hvalue, hwarnings⟩ := exists_of_evaluate heval
  -- The extracted text is `text`, and the source from the brace on is `text ++ k`.
  cases hliteral with
  | @mk d s hbody =>
    obtain ⟨r, hread⟩ := reads_object_append (k := k) hparse
    have hstart : start ≤ source.length := (fromLiteral_of_located hloc).2.1
    have hlength := congrArg List.length hk
    rw [List.length_append, List.length_drop] at hlength
    refine ⟨policy, start, _, _, _, _, hpolicy, locate_of_located hloc, hfound, ?_, hread, hvalue,
      ?_, ?_⟩
    · rw [← hk]
      rfl
    · rw [← hk, warningsIn_extend, hwarnings]
    · rw [List.length_append]
      simp only
      omega

/-- A source whose comments hold braces: the text that is cut out goes on behind the object. -/
def commented : List Char :=
  ['M', '=', '\x7b', 'a', ':', '\'', 'b', '\'', '/', '*', '\x7b', '*', '/', '\x7d', '/', '/',
    '\x7d']

/-- The object ends three characters before the extracted text does. -/
theorem objectReader_of_convertText_commented :
    ∃ object after,
      Reads (objectReader .strict) (commented.drop 3) object after ∧
      object.value = .object [([.char 'a'], .string [.char 'b'])] ∧
      commented.length - after.length ≤ 17 := by
  have hconvert : Conversion.convertText { sourceMarker := "M" } {} commented =
      .ok ⟨[([.char 'a'], [.char 'b'])], []⟩ := by
    with_unfolding_all rfl
  obtain ⟨policy, start, found, rest, object, after, hpolicy, hloc, hfound, hrest, hread, hvalue, _,
    hstop⟩ := objectReader_of_convertText _ _ _ _ hconvert
  obtain rfl : .strict = policy := Except.ok.inj hpolicy
  obtain rfl : 2 = start := Except.ok.inj hloc
  obtain rfl : commented.drop 3 = rest := (List.cons.inj hrest).2
  have hcut : 17 = found.stop := congrArg Source.Extracted.stop (Except.ok.inj hfound)
  exact ⟨object, after, hread, hvalue, hcut ▸ hstop⟩

end PromptLibrary.Proofs.Conversion.Tail
