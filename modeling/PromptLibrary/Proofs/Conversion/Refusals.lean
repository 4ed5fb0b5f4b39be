import PromptLibrary.Conversion
import PromptLibrary.Proofs.Literal.Reached
/-!
# Failures that are no refusals

A text that is no literal is refused for a reason, at a place.  Two kinds of tokens are not refused:
an integer beyond the limit on digits and an escape whose number does not fit 32 bits fail without a
reason and without a place.  They do so exactly where the parser comes to such a token.
-/

namespace PromptLibrary.Proofs.Conversion.Refusals

open PromptLibrary.Literal
open PromptLibrary.Source (extract)
open PromptLibrary.Proofs.Literal.Faults
open PromptLibrary.Proofs.Literal.Reached

variable {policy : Interpolation} {text source : List Char} {settings : Settings}
  {o : ConvertOptions} {e : EvalError} {f : Failure}

/-- The parser comes to a number with too many digits, or to an escape for a number that does not
fit 32 bits. -/
def Outsized (policy : Interpolation) (text : List Char) : Prop :=
  Faulty policy depthLimit .tooManyDigits .literal text ∨
    Faulty policy depthLimit .codePointTooLarge .literal text

/-- A reason is told. -/
def Refusal (e : EvalError) : Prop :=
  ∃ reason offset, e = .refused reason offset

/-- A reason and a place are told. -/
def PlacedRefusal (e : EvalError) : Prop :=
  ∃ reason offset, e = .refused reason (some offset)

/-- What a conversion may tell about a text: why nothing was extracted, or why what was extracted is
refused. -/
def Explained (e : ConvertError) : Prop :=
  (∃ cause, e = .extraction cause) ∨ ∃ refusal, e = .evaluation refusal ∧ Refusal refusal

theorem PlacedRefusal.refusal (h : PlacedRefusal e) : Refusal e := by
  obtain ⟨reason, offset, rfl⟩ := h
  exact ⟨reason, some offset, rfl⟩

/-! ## Evaluation -/

theorem outsized_iff : Outsized policy text ↔
    parseValue policy text = .error .tooManyDigits ∨
      parseValue policy text = .error .codePointTooLarge := by
  have hdigits : TokenFault .tooManyDigits := trivial
  have hlarge : TokenFault .codePointTooLarge := trivial
  rw [Outsized, ← parseWithin_eq_error_iff hdigits, ← parseWithin_eq_error_iff hlarge, parseValue]
  cases parseWithin depthLimit policy text with
  | ok p => simp
  | error f => cases f <;> simp [Failure.toError]

/-- A failure of the parser is placed, or the text is outsized. -/
theorem placedRefusal_of_parseValue (ht : ¬ Outsized policy text)
    (h : parseValue policy text = .error e) : PlacedRefusal e := by
  rw [outsized_iff, h] at ht
  unfold parseValue at h
  split at h
  · next f _ =>
    obtain rfl : f.toError text = e := Except.error.inj h
    cases f with
    | refused reason rest => exact ⟨reason, _, rfl⟩
    | tooManyDigits => exact absurd (.inl rfl) ht
    | codePointTooLarge => exact absurd (.inr rfl) ht
  · simp at h

theorem exists_not_refusal_of_outsized (h : Outsized policy text) :
    ∃ e, parseValue policy text = .error e ∧ ¬ Refusal e := by
  rcases outsized_iff.1 h with h | h
  · exact ⟨_, h, by simp [Refusal]⟩
  · exact ⟨_, h, by simp [Refusal]⟩

theorem refusal_of_templatesOf {members : List (Text × Value)}
    (h : templatesOf members = .error e) : Refusal e := by
  induction members with
  | nil => simp [templatesOf] at h
  | cons member members ih =>
    obtain ⟨key, v⟩ := member
    cases v with
    | string body =>
      rw [templatesOf] at h
      cases hm : templatesOf members with
      | ok m => simp [hm, Except.map] at h
      | error e' =>
        obtain rfl : e' = e := by simpa [hm, Except.map] using h
        exact ih hm
    | _ => exact ⟨_, _, (Except.error.inj h).symm⟩

theorem evaluate_of_parseValue (h : parseValue policy text = .error e) :
    evaluate policy text = .error e := by
  rw [evaluate, h]
  rfl

theorem refusal_of_evaluate (ht : ¬ Outsized policy text) (h : evaluate policy text = .error e) :
    Refusal e := by
  unfold evaluate at h
  cases hp : parseValue policy text with
  | error e' =>
    obtain rfl : e' = e := by simpa [hp, bind, Except.bind] using h
    exact (placedRefusal_of_parseValue ht hp).refusal
  | ok parsed =>
    simp only [hp, bind, Except.bind] at h
    split at h
    · next members _ =>
      cases hm : templatesOf members with
      | ok m => simp [hm, pure, Except.pure] at h
      | error e' =>
        obtain rfl : e' = e := by simpa [hm] using h
        exact refusal_of_templatesOf hm
    · exact ⟨_, _, (Except.error.inj h).symm⟩

/-! ## Conversion -/

theorem convertText_eq (hpolicy : o.policy settings = .ok policy) :
    Conversion.convertText settings o source =
      match extract source (o.markerOr settings).toList with
      | .error cause => .error (.extraction cause)
      | .ok found => (evaluate policy found.text).mapError .evaluation := by
  simp only [Conversion.convertText, hpolicy, bind, Except.bind, Conversion.templatesOf]
  cases extract source (o.markerOr settings).toList with
  | error cause => rfl
  | ok found => simp only; cases evaluate policy found.text <;> rfl

/-- **Everything is explained but what is too large.**  Parsing and evaluation fail with a reason,
and parsing with a place as well, exactly for the texts in which the parser comes to no token that
is too large; so conversions explain their failures exactly if what is extracted is no such text. -/
theorem explained_iff_not_outsized (policy : Interpolation) (text : List Char)
    (settings : Settings) (o : ConvertOptions) (source : List Char) :
    ((∀ e, parseValue policy text = .error e → PlacedRefusal e) ↔ ¬ Outsized policy text) ∧
    ((∀ e, evaluate policy text = .error e → Refusal e) ↔ ¬ Outsized policy text) ∧
    (o.policy settings = .ok policy →
      ((∀ e, Conversion.convertText settings o source = .error e → Explained e) ↔
        ∀ found, extract source (o.markerOr settings).toList = .ok found →
          ¬ Outsized policy found.text)) := by
  refine ⟨⟨fun h hlarge => ?_, fun h e => placedRefusal_of_parseValue h⟩,
    ⟨fun h hlarge => ?_, fun h e => refusal_of_evaluate h⟩,
    fun hpolicy => ⟨fun h => ?_, fun h => ?_⟩⟩
  · obtain ⟨e, he, hne⟩ := exists_not_refusal_of_outsized hlarge
    exact hne (h e he).refusal
  · obtain ⟨e, he, hne⟩ := exists_not_refusal_of_outsized hlarge
    exact hne (h e (evaluate_of_parseValue he))
  · intro found hfound hlarge
    obtain ⟨e, he, hne⟩ := exists_not_refusal_of_outsized hlarge
    have hconvert : Conversion.convertText settings o source = .error (.evaluation e) := by
      rw [convertText_eq hpolicy, hfound]
      simp only [evaluate_of_parseValue he]
      rfl
    rcases h _ hconvert with ⟨cause, hcause⟩ | ⟨refusal, hrefusal, hreason⟩
    · simp at hcause
    · exact hne (ConvertError.evaluation.inj hrefusal ▸ hreason)
  · intro e he
    rw [convertText_eq hpolicy] at he
    split at he
    · exact .inl ⟨_, (Except.error.inj he).symm⟩
    · next found hfound =>
      cases heval : evaluate policy found.text with
      | ok m => simp [heval, Except.mapError] at he
      | error e' =>
        obtain rfl : .evaluation e' = e := by simpa [heval, Except.mapError] using he
        exact .inr ⟨e', rfl, refusal_of_evaluate (h found hfound) heval⟩

/-- A string with one escape, whose number is the first that does not fit 32 bits. -/
def largeEscape : List Char :=
  ['\'', '\\', 'u', '\x7b', '8', '0', '0', '0', '0', '0', '0', '0', '\x7d', '\'']

/-- A source that assigns an object with that string. -/
def largeEscapeSource : List Char :=
  ['M', '=', '\x7b', 'a', ':'] ++ largeEscape ++ ['\x7d']

theorem parseValue_largeEscape :
    parseValue .strict largeEscape = .error .codePointTooLarge := by
  with_unfolding_all rfl

/-- The string fails without a reason and without a place. -/
theorem largeEscape_not_explained :
    ∃ e, parseValue .strict largeEscape = .error e ∧ ¬ Refusal e ∧ ¬ PlacedRefusal e :=
  ⟨_, parseValue_largeEscape, by simp [Refusal], by simp [PlacedRefusal]⟩

/-- Both the string and what is extracted from the source hold what is too large. -/
theorem explained_iff_not_outsized_largeEscape :
    ({} : ConvertOptions).policy { sourceMarker := "M" } = .ok .strict ∧
      Outsized .strict largeEscape ∧
      ∃ found, extract largeEscapeSource ['M'] = .ok found ∧ Outsized .strict found.text := by
  have hpolicy : ({} : ConvertOptions).policy { sourceMarker := "M" } = .ok .strict := rfl
  obtain ⟨hparse, _, hconvert⟩ := explained_iff_not_outsized .strict largeEscape
    { sourceMarker := "M" } {} largeEscapeSource
  refine ⟨hpolicy, by_contra fun ht => ?_, by_contra fun ht => ?_⟩
  · obtain ⟨reason, offset, he⟩ := hparse.2 ht _ parseValue_largeEscape
    simp at he
  · have htext : Conversion.convertText { sourceMarker := "M" } {} largeEscapeSource =
        .error (.evaluation .codePointTooLarge) := by
      with_unfolding_all rfl
    have hsmall : ∀ found, extract largeEscapeSource ['M'] = .ok found →
        ¬ Outsized .strict found.text := fun found hfound hlarge => ht ⟨found, hfound, hlarge⟩
    rcases (hconvert hpolicy).2 hsmall _ htext with ⟨cause, hcause⟩ | ⟨refusal, hrefusal, hreason⟩
    · simp at hcause
    · obtain rfl : .codePointTooLarge = refusal := ConvertError.evaluation.inj hrefusal
      obtain ⟨reason, offset, he⟩ := hreason
      simp at he

end PromptLibrary.Proofs.Conversion.Refusals
