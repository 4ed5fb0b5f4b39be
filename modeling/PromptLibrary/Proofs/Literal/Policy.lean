import PromptLibrary.Proofs.Literal.Congruence
import PromptLibrary.Proofs.Literal.Suffix
/-!
# What the policy for interpolations decides

The two policies are followed through the parser side by side.  They take the same steps up to an
interpolation, where the strict one stops; where it stops is found again from the failure.

* `agrees_templateBody` — the one reader that looks at the policy;
* `agrees_parseWithin` — agreement is kept by steps, and so by all readers that are built from it;
* `interpolatesAt_of_parseWithin`, `strict_differs_only_at_interpolations`.
-/

namespace PromptLibrary.Proofs.Literal.Policy

open PromptLibrary.Literal
open PromptLibrary.Proofs.Literal.Quote
open PromptLibrary.Proofs.Literal.Congruence
open PromptLibrary.Proofs.Literal.Faults
open PromptLibrary.Proofs.Literal.Reached
open PromptLibrary.Proofs.Literal.Suffix

/-- The first outcome is the second one, unless it is the refusal of an interpolation. -/
def Agrees {α : Type} (x y : Except Failure α) : Prop :=
  x = y ∨ ∃ span place, x = .error (.refused (.interpolation span) place)

variable {α β : Type} {x y : Except Failure α} {g g' : α → Except Failure β}
  {s start text : List Char}

theorem Agrees.refl (x : Except Failure α) : Agrees x x :=
  .inl rfl

/-- Steps that agree one by one agree together; the later ones matter only where the first ends. -/
theorem Agrees.bind (hx : Agrees x y) (hg : ∀ a, x = .ok a → Agrees (g a) (g' a)) :
    Agrees (x >>= g) (y >>= g') := by
  rcases hx with rfl | ⟨span, place, rfl⟩
  · cases x with
    | error e => exact .refl _
    | ok a => exact hg a rfl
  · exact .inr ⟨span, place, rfl⟩

theorem stepwise_agrees : Stepwise Agrees where
  refl := Agrees.refl
  bind := Agrees.bind

/-! ## Tokens -/

theorem agrees_templateBody :
    Agrees (templateBody .strict start s) (templateBody .literal start s) := by
  fun_induction templateBody .strict start s with
  | case1 | case2 =>
    rw [templateBody]
    exact .refl _
  | case3 rest e hescape =>
    rw [templateBody]
    split
    · next he => exact .inl (hescape.symm.trans he)
    · next he => simp [hescape] at he
  | case4 rest piece after hescape _ ih =>
    rw [templateBody_of_escape hescape]
    exact stepwise_agrees.map ih _
  | case5 rest ih =>
    rw [templateBody]
    exact stepwise_agrees.map ih _
  | case6 rest hne ih =>
    rw [templateBody]
    · exact stepwise_agrees.map ih _
    · exact hne
  | case7 rest hclose =>
    -- Whether an interpolation is closed does not hang on the policy.
    rw [templateBody]
    split
    · exact .refl _
    · next he => simp [hclose] at he
  | case8 rest inside after hclose => exact .inr ⟨_, _, rfl⟩
  | case9 rest inside after hclose _ _ hpolicy => cases hpolicy
  | case10 c rest hquote hbackslash _ hcr hdollar ih =>
    obtain ⟨hc, hhead⟩ := plain_of_ne hquote hbackslash hcr hdollar
    rw [templateBody_of_plain hc hhead]
    exact stepwise_agrees.map ih _

theorem agrees_scalar : Agrees (scalar .strict s) (scalar .literal s) := by
  unfold scalar
  split
  · exact .refl _
  · split
    · exact .refl _
    · split
      · exact stepwise_agrees.map agrees_templateBody _
      · exact .refl _

/-- **The parsers agree**, as they are built alike from readers of tokens that do. -/
theorem agrees_parseWithin (limit : Nat) (text : List Char) :
    Agrees (parseWithin limit .strict text) (parseWithin limit .literal text) :=
  related_parseWithin stepwise_agrees (fun _ => agrees_scalar) limit text

/-! ## Where the strict policy refuses -/

/-- At an offset in a text there is an interpolation, up to and with the brace that closes it: what
is in front of it is read, it stands in a template where a value is to come, and its dollar sign is
not escaped. -/
def InterpolatesAt (text inside : List Char) (offset : Nat) : Prop :=
  ∃ body rest after, Reaches .strict depthLimit .literal text .value ('\x60' :: body) ∧
    TemplateReaches .strict body ('$' :: '\x7b' :: rest) ∧ SpanBody 0 none rest inside after ∧
    text.drop offset = '$' :: '\x7b' :: (inside ++ after)

/-- What is told about an interpolation that is refused. -/
def refusal (span : List Char) : String :=
  s!"Template interpolation {Text.quotedString span} cannot be statically resolved"

/-- What the strict policy refuses is an interpolation of the text. -/
theorem interpolatesAt_of_parseWithin {span place : List Char}
    (h : parseWithin depthLimit .strict text = .error (.refused (.interpolation span) place)) :
    ∃ inside, span = '$' :: '\x7b' :: inside ∧
      InterpolatesAt text inside (text.length - place.length) := by
  have htoken : TokenFault (.refused (.interpolation span) place) := trivial
  obtain ⟨spot, t, hreaches, hfault⟩ := (parseWithin_eq_error_iff htoken).1 h
  generalize he : Failure.refused (.interpolation span) place = e at hfault
  cases hfault with
  | string => simp at he
  | integer => simp at he
  | marked => simp at he
  | @template _ body _ hpieces hpiece =>
    cases hpiece with
    | escape => simp at he
    | @interpolation rest inside after _ hspan =>
      simp only [Failure.refused.injEq, Reason.interpolation.injEq] at he
      obtain ⟨rfl, rfl⟩ := he
      have hsuffix := (suffix_cons (suffix_of_templateReaches hpieces)).trans
        (suffix_of_reaches hreaches)
      refine ⟨inside, rfl, body, rest, after, hreaches, hpieces, hspan, ?_⟩
      rw [← List.suffix_iff_eq_drop.1 hsuffix, eq_append_of_spanBody hspan]

theorem strict_eq_literal_or_interpolatesAt (text : List Char) :
    parseValue .strict text = parseValue .literal text ∨ ∃ inside offset,
      InterpolatesAt text inside offset ∧ parseValue .strict text =
        .error (.refused (.interpolation ('$' :: '\x7b' :: inside)) (some offset)) := by
  rcases agrees_parseWithin depthLimit text with h | ⟨span, place, h⟩
  · exact .inl (by rw [parseValue, parseValue, h])
  · obtain ⟨inside, rfl, hplace⟩ := interpolatesAt_of_parseWithin h
    refine .inr ⟨inside, _, hplace, ?_⟩
    rw [parseValue, h]
    rfl

/-- **The policies differ only at interpolations.**  The strict policy gives what the other one
gives, with the warnings or the failure and its place, or it refuses an interpolation and says where
it begins and how it reads up to its closing brace.  So a text that it accepts means the same under
both, and any other failure is the failure of both. -/
theorem strict_differs_only_at_interpolations (text : List Char) :
    (parseValue .strict text = parseValue .literal text ∨ ∃ inside offset,
      InterpolatesAt text inside offset ∧ ∃ e, parseValue .strict text = .error e ∧
        e = .refused (.interpolation ('$' :: '\x7b' :: inside)) (some offset) ∧
        e.message = "Evaluation failed: " ++ refusal ('$' :: '\x7b' :: inside) ++
          " (at offset " ++ toString offset ++ ")") ∧
    (∀ v, parseValue .strict text = .ok v → parseValue .literal text = .ok v) ∧
    ∀ e, parseValue .strict text = .error e →
      (∀ span place, e ≠ .refused (.interpolation span) place) →
        parseValue .literal text = .error e := by
  have hcases := strict_eq_literal_or_interpolatesAt text
  refine ⟨hcases.imp_right ?_, ?_, ?_⟩
  · rintro ⟨inside, offset, hplace, h⟩
    exact ⟨inside, offset, hplace, _, h, rfl, rfl⟩
  · intro v hv
    rcases hcases with h | ⟨inside, offset, _, h⟩
    · exact h ▸ hv
    · simp [hv] at h
  · intro e he hne
    rcases hcases with h | ⟨inside, offset, _, h⟩
    · exact h ▸ he
    · exact absurd (Except.error.inj (he.symm.trans h)) (hne _ _)

end PromptLibrary.Proofs.Literal.Policy
