import PromptLibrary.Command.Run
import PromptLibrary.Proofs.Conversion.Refusals
import PromptLibrary.Proofs.Literal.LineEndings
import PromptLibrary.Proofs.Literal.Suffix
import PromptLibrary.Proofs.Source.LineEndings
/-!
# Line endings of a converted source

A source whose lines end in two characters is converted like the same source with line feeds alone,
unless an interpolation that is kept as text goes over several lines.
-/

namespace PromptLibrary.Proofs.Conversion.LineEndings

open PromptLibrary.Literal
open PromptLibrary.Source (extract)
open PromptLibrary.Proofs.Text.LineEndings
open PromptLibrary.Proofs.Source.LineEndings
open PromptLibrary.Proofs.Literal.Quote
open PromptLibrary.Proofs.Literal.Suffix
open PromptLibrary.Proofs.Literal.LineQuotes
open PromptLibrary.Proofs.Literal.LineEndings
open PromptLibrary.Proofs.Conversion.Refusals

variable {policy : Interpolation} {s t source source' : List Char} {settings : Settings}
  {o : ConvertOptions}

/-- What a conversion comes to: the templates in order, or the name of the failure. -/
def answer (x : Except ConvertError (Evaluated (Mapping Text))) : Except String (Mapping Text) :=
  (x.map (·.value)).mapError Command.reportName

/-- The templates that a value stands for. -/
def mappingOf : Value → Except EvalError (Mapping Text)
  | .object members => templatesOf members
  | v => .error (.refused (.notObject v.kind) none)

theorem reportName_of_sameCause {e e' : Source.ExtractError} (h : SameCause e e') :
    Command.reportName (.extraction e) = Command.reportName (.extraction e') := by
  cases h <;> rfl

theorem reportName_of_sameClass {e e' : Failure} (h : SameClass e e') :
    Command.reportName (.evaluation (e.toError s)) =
      Command.reportName (.evaluation (e'.toError t)) := by
  cases h with
  | refused => rfl
  | @same e => cases e <;> rfl

theorem answer_evaluate : answer ((evaluate policy s).mapError .evaluation) =
    match parseWithin depthLimit policy s with
    | .error e => .error (Command.reportName (.evaluation (e.toError s)))
    | .ok p => (mappingOf p.value).mapError fun e => Command.reportName (.evaluation e) := by
  unfold evaluate parseValue
  cases parseWithin depthLimit policy s with
  | error e => rfl
  | ok p =>
    obtain ⟨v, duplicates⟩ := p
    cases v with
    | object members =>
      simp only [bind, Except.bind, mappingOf]
      cases templatesOf members <;> rfl
    | _ => rfl

theorem answer_evaluate_eq (h : WithReturns s t) (hline : OneLine policy depthLimit .literal s) :
    answer ((evaluate policy s).mapError .evaluation) =
      answer ((evaluate policy t).mapError .evaluation) := by
  have halike := alike_parseWithin h hline
  rw [answer_evaluate, answer_evaluate]
  generalize parseWithin depthLimit policy s = x at halike
  generalize parseWithin depthLimit policy t = y at halike
  cases halike with
  | ok hvalue => simp only [hvalue]
  | error hclass => exact congrArg Except.error (reportName_of_sameClass hclass)

/-- **Line endings make no difference to a conversion.**  A source without carriage returns and the
same source with carriage returns in front of some of its line feeds give the same templates in the
same order, or fail under the same name.  An interpolation that the parser comes to has to be on one
line, since it may be kept as it is written; and the marker has no line break. -/
theorem line_endings_ignored (hpolicy : o.policy settings = .ok policy)
    (hne : (o.markerOr settings).toList ≠ [])
    (hmarker : ∀ c ∈ (o.markerOr settings).toList, ¬ IsBreak c) (h : WithReturns source source')
    (hline : ∀ found, extract source (o.markerOr settings).toList = .ok found →
      OneLine policy depthLimit .literal found.text) :
    answer (Conversion.convertText settings o source) =
      answer (Conversion.convertText settings o source') := by
  rw [convertText_eq hpolicy, convertText_eq hpolicy]
  rcases extract_of_withReturns h hne hmarker with
    ⟨e, e', hs, ht, hcause⟩ | ⟨found, found', hs, ht, htext⟩
  · rw [hs, ht]
    exact congrArg Except.error (reportName_of_sameCause hcause)
  · rw [hs, ht]
    exact answer_evaluate_eq htext (hline found hs)

/-- An object of two strings.  Its three lines end in a template, in a comment and behind a
backslash. -/
def threeLines : List Char :=
  ['\x7b', 'a', ':', '\x60', '$', '\x7b', 'y', '\x7d', '\n', 'z', '\x60', ',', '/', '/', 'q',
    '\n', 'b', ':', '\'', 'p', '\\', '\n', 'r', '\'', '\x7d']

/-- The same with carriage returns at the end of the first and of the last line. -/
def mixedLines : List Char :=
  ['\x7b', 'a', ':', '\x60', '$', '\x7b', 'y', '\x7d', '\r', '\n', 'z', '\x60', ',', '/', '/', 'q',
    '\n', 'b', ':', '\'', 'p', '\\', '\r', '\n', 'r', '\'', '\x7d']

theorem withReturns_threeLines :
    WithReturns (['M', '='] ++ threeLines) (['M', '='] ++ mixedLines) := by
  repeat' first
    | exact .nil
    | refine .char (by decide) ?_
    | refine .feed ?_
    | refine .pair ?_

/-- The one interpolation is on the first line. -/
theorem oneLine_threeLines : OneLine .literal depthLimit .literal threeLines := by
  refine oneLine_of_suffix fun rest inside after hrest hspan => ?_
  have hrest : rest = threeLines.drop 6 := by
    simpa [threeLines, List.suffix_cons_iff] using hrest
  have hclose : closingBrace? 0 none (threeLines.drop 6) =
      some (['y', '\x7d'], threeLines.drop 8) :=
    rfl
  have hspan := closingBrace_of_spanBody hspan
  rw [hrest, hclose] at hspan
  obtain ⟨rfl, _⟩ := Prod.mk.inj (Option.some.inj hspan)
  decide

/-- Settings under which interpolations are kept. -/
def keeping : Settings := { sourceMarker := "M", interpolation := "literal" }

/-- Both texts are converted to the same two templates. -/
theorem line_endings_ignored_threeLines :
    ({} : ConvertOptions).policy keeping = .ok .literal ∧
      WithReturns (['M', '='] ++ threeLines) (['M', '='] ++ mixedLines) ∧
      answer (Conversion.convertText keeping {} (['M', '='] ++ mixedLines)) =
        .ok [(Text.ofChars ['a'], Text.ofChars ['$', '\x7b', 'y', '\x7d', '\n', 'z']),
          (Text.ofChars ['b'], Text.ofChars ['p', 'r'])] := by
  have hpolicy : ({} : ConvertOptions).policy keeping = .ok .literal := rfl
  have hextract : extract (['M', '='] ++ threeLines) ['M'] = .ok ⟨threeLines, 2, 27, 1⟩ := by
    with_unfolding_all rfl
  have hmarker : (({} : ConvertOptions).markerOr keeping).toList = ['M'] := rfl
  have hsame := line_endings_ignored hpolicy (by simp [hmarker]) (by simp [hmarker, IsBreak])
    withReturns_threeLines fun found hfound => by
      obtain rfl := Except.ok.inj (hextract.symm.trans hfound)
      exact oneLine_threeLines
  refine ⟨hpolicy, withReturns_threeLines, hsame.symm.trans ?_⟩
  with_unfolding_all rfl

end PromptLibrary.Proofs.Conversion.LineEndings
