import PromptLibrary.Conversion
import PromptLibrary.Proofs.Literal.Balance
import PromptLibrary.Proofs.Source.Extraction
/-!
# Plain literals are cut out whole

The scan for balanced braces knows nothing of comments and interpolations.  A literal that has no
delimiters in the former and no backtick in the latter is cut out of any source that it is assigned
in, and converting the source comes to evaluating the literal.
-/

namespace PromptLibrary.Proofs.Conversion.Cut

open PromptLibrary.Literal
open PromptLibrary.Source (extract)
open PromptLibrary.Proofs.Source.Balanced (delimiters quotes)
open PromptLibrary.Proofs.Source.Extraction
open PromptLibrary.Proofs.Source.Place
open PromptLibrary.Proofs.Literal.Balance
open PromptLibrary.Proofs.Literal.Grammar
open PromptLibrary.Proofs.Literal.Token
open PromptLibrary.Proofs.Literal.Trivia

/-- The parser accepts the text as an object, and the text has a derivation without delimiters in
comments and without backticks in interpolations. -/
def PlainObject (policy : Interpolation) (t : List Char) : Prop :=
  ∃ parsed d p, parseValue policy t = .ok parsed ∧ parsed.value.kind = .object ∧
    Document plainLexis policy d t p ∧ p.value = parsed.value

variable {source marker pre g₁ g₂ t post : List Char} {policy : Interpolation}

theorem located_of_assignment (hm : FirstAt marker source 0 pre.length)
    (hsource : source = pre ++ marker ++ g₁ ++ ['='] ++ g₂ ++ t ++ post)
    (hmarker : '=' ∉ marker) (hg₁ : '=' ∉ g₁) (hg₂ : '\x7b' ∉ g₂) (ht : t.head? = some '\x7b') :
    Located source marker (.ok (pre ++ marker ++ g₁ ++ ['='] ++ g₂).length) := by
  obtain ⟨s, rfl⟩ := List.head?_eq_some_iff.1 ht
  have hequals : FirstAt ['='] source pre.length (pre.length + (marker ++ g₁).length) := by
    have hfree : '=' ∉ marker ++ g₁ := by simp [hmarker, hg₁]
    have hplace := firstAt_symbol (t := pre) (r := g₂ ++ '\x7b' :: s ++ post) hfree
    rw [hsource]
    simpa using hplace
  have hbrace : FirstAt ['\x7b'] source (pre ++ marker ++ g₁).length
      ((pre ++ marker ++ g₁).length + ('=' :: g₂).length) := by
    have hfree : '\x7b' ∉ '=' :: g₂ := by simp [hg₂]
    have hplace := firstAt_symbol (t := pre ++ marker ++ g₁) (r := s ++ post) hfree
    rw [hsource]
    simpa using hplace
  rw [List.append_assoc pre, List.length_append] at hbrace
  have hloc := Located.brace hm hequals hbrace
  simpa [Nat.add_assoc] using hloc

theorem convertText_of_extract {settings : Settings} {o : ConvertOptions}
    {found : Source.Extracted} (hpolicy : o.policy settings = .ok policy)
    (hfound : extract source (o.markerOr settings).toList = .ok found) :
    Conversion.convertText settings o source =
      (evaluate policy found.text).mapError .evaluation := by
  unfold Conversion.convertText
  rw [hpolicy]
  simp only [bind, Except.bind]
  unfold Conversion.templatesOf
  rw [hfound]
  simp only
  cases evaluate policy found.text <;> rfl

/-- **A plain object is cut out whole, and converting its source is evaluating it**, whatever stands
before the marker and behind the object. -/
theorem extract_of_plainObject (settings : Settings) (o : ConvertOptions)
    (policy : Interpolation) (source pre marker g₁ g₂ t post : List Char)
    (hpolicy : o.policy settings = .ok policy) (hname : (o.markerOr settings).toList = marker)
    (hsource : source = pre ++ marker ++ g₁ ++ ['='] ++ g₂ ++ t ++ post)
    (hm : FirstAt marker source 0 pre.length)
    (hmarker : '=' ∉ marker) (hg₁ : '=' ∉ g₁) (hg₂ : '\x7b' ∉ g₂)
    (hfirst : t.head? = some '\x7b') (hlast : t.getLast? = some '\x7d')
    (ht : PlainObject policy t) :
    (∃ deepest, extract source marker =
      .ok ⟨t, (pre ++ marker ++ g₁ ++ ['='] ++ g₂).length,
        (pre ++ marker ++ g₁ ++ ['='] ++ g₂ ++ t).length, deepest⟩) ∧
    Conversion.convertText settings o source = (evaluate policy t).mapError .evaluation := by
  obtain ⟨_, d, p, _, _, hdoc, _⟩ := ht
  have hloc := located_of_assignment hm hsource hmarker hg₁ hg₂ hfirst
  obtain ⟨s, rfl⟩ := List.head?_eq_some_iff.1 hfirst
  obtain ⟨deepest, hliteral⟩ := literal_of_document hdoc hlast
  have hprefix : '\x7b' :: s <+: source.drop (pre ++ marker ++ g₁ ++ ['='] ++ g₂).length := by
    rw [hsource, List.append_assoc _ ('\x7b' :: s), List.drop_left]
    exact List.prefix_append _ _
  have hextract := extract_of_literal hloc hliteral hprefix
  rw [← List.length_append] at hextract
  subst hname
  exact ⟨⟨deepest, hextract⟩, convertText_of_extract hpolicy hextract⟩

/-- An object with a brace and an escaped quote in a string, and with a comment behind it. -/
def quotedBrace : List Char :=
  ['\x7b', 'a', ':', '\'', '\\', '\'', '\x7d', '\'', '/', '*', 'c', '*', '/', '\x7d']

theorem plainObject_quotedBrace : PlainObject .strict quotedBrace := by
  have hstring : stringBody '\'' (quotedBrace.drop 3) (quotedBrace.drop 4) =
      .ok ([.char '\'', .char '\x7d'], quotedBrace.drop 8) := by
    with_unfolding_all rfl
  have hbody : Derives plainLexis .strict 0 (.literal (.leaf (.string [.char '\'', .char '\x7d'])))
      (quotedBrace.drop 3) (quotedBrace.drop 8) := by
    refine .literal .none (.token (.string (.inl rfl) hstring)) .noMore ?_
    exact joined_one_iff.2 (.inr ⟨_, rfl, by decide, rfl⟩)
  have hcomment : Trivia plainLexis.comment ('/' :: '*' :: (['c'] ++ '*' :: '/' :: ['\x7d']))
      ['\x7d'] :=
    .block (by decide) (by simp [plainLexis, delimiters, quotes]) .none
  have hkey : Key ('a' :: ([] ++ quotedBrace.drop 2)) (Text.ofChars ['a']) (quotedBrace.drop 2) :=
    .name (by decide) (by simp) (by decide)
  have hmembers := Derives.lastMember .none hkey .none hbody hcomment
  have hparse : parseValue .strict quotedBrace =
      .ok ⟨.object [([.char 'a'], .string [.char '\'', .char '\x7d'])], []⟩ := by
    with_unfolding_all rfl
  exact ⟨_, 1, _, hparse, rfl, document_of_members hmembers .none, rfl⟩

theorem extract_of_plainObject_quotedBrace :
    (∃ deepest, extract (['x', 'M', ' ', '='] ++ quotedBrace ++ ['\x7d']) ['M'] =
      .ok ⟨quotedBrace, 4, 18, deepest⟩) ∧
    Conversion.convertText { sourceMarker := "M" } {}
        (['x', 'M', ' ', '='] ++ quotedBrace ++ ['\x7d']) =
      (evaluate .strict quotedBrace).mapError .evaluation :=
  extract_of_plainObject { sourceMarker := "M" } {} .strict _ ['x'] ['M'] [' '] [] quotedBrace
    ['\x7d'] rfl rfl rfl (firstAt_symbol (t := []) (u := ['x']) (by decide)) (by decide) (by decide)
    (by decide) rfl rfl plainObject_quotedBrace

end PromptLibrary.Proofs.Conversion.Cut
