import Mathlib.Data.List.TakeWhile
import PromptLibrary.Proofs.Literal.Cursor
/-!
# Where a refusal points

A refusal names a place, and what it complains about stands there: the symbol or the token that was
not expected, the opening quote of what is not closed, the dollar sign of an interpolation.  The
place is one that the cursor has visited, at a stage where the parser could ask for what it misses.

* `Fits` — what stands at the place, and at which stage, reason by reason;
* `points_of_scalar`, `points_of_readKey` — failures of tokens;
* `points_of_operandWithin` — failures of literals, level by level of brackets.
-/

namespace PromptLibrary.Proofs.Literal.Places

open PromptLibrary.Literal
open PromptLibrary.Proofs.Text.Runs
open PromptLibrary.Proofs.Literal.Quote
open PromptLibrary.Proofs.Literal.Token
open PromptLibrary.Proofs.Literal.Readers
open PromptLibrary.Proofs.Literal.Steps
open PromptLibrary.Proofs.Literal.Faults
open PromptLibrary.Proofs.Literal.Cursor

/-- What stands at the place of a refusal, and the stage that the parser is at.  What is told about
a whole text has no place. -/
def Fits : Reason → Point → Prop
  | .endOfInput, a => a.rest = []
  | .endInObject, a => a.stage = .key ∧ a.rest = []
  | .unexpected c, a => a.stage = .scalar ∧ a.rest.head? = some c
  | .unexpectedInKey c, a => a.stage = .key ∧ a.rest.head? = some c
  | .expected wanted found, a => a.rest.head? = found ∧ found ≠ some wanted
  | .expectedInObject found, a => a.rest.head? = found ∧ found ∉ [some ',', some '\x7d']
  | .expectedInArray found, a => a.rest.head? = found ∧ found ∉ [some ',', some ']']
  | .trailing rest, a => a.rest = rest ∧ rest ≠ []
  | .tooDeep, a => ∃ c, isOpening c = true ∧ a.stage = .inside c 0
  | .unterminatedComment, a => ['/', '*'] <+: a.rest
  | .undefinedSymbol name, a => a.stage = .scalar ∧ ∃ rest, a.rest = name ++ rest ∧
      continuesName rest = false ∧ name.head?.any isNameStart = true ∧ keyword? name = none
  | .notStrings _ _, a => ∃ room, a.stage = .literal room
  | .valueless key, a => a.stage = .key ∧
      ∃ name rest, a.rest = name ++ rest ∧ key = Text.ofChars name
  | .templateKey, a => a.stage = .key ∧ a.rest.head? = some '\x60'
  | .computedKey, a => a.stage = .key ∧ a.rest.head? = some '['
  | .spread, a => a.stage = .key ∧ ['.', '.', '.'] <+: a.rest
  | .hole, a => a.rest.head? = some ','
  | .badNumber c, a => a.stage = .number ∧ a.rest.head? = some c
  | .nameAfterNumber _, a => a.stage = .afterNumber ∧ continuesName a.rest = true
  | .unterminatedString, a => (a.stage = .scalar ∨ a.stage = .key) ∧
      (a.rest.head? = some '\'' ∨ a.rest.head? = some '"')
  | .unterminatedTemplate, a => a.stage = .scalar ∧ a.rest.head? = some '\x60'
  | .unterminatedEscape, a => (∃ inTemplate, a.stage = .escape inTemplate) ∧ a.rest = []
  | .badHex digits, a => a.stage = .digits ∧ digits <+: a.rest
  | .unterminatedCodePoint, a => a.stage = .digits ∧ a.rest.head? = some '\x7b' ∧ '\x7d' ∉ a.rest
  | .badCodePoint digits, a => a.stage = .digits ∧ '\x7b' :: (digits ++ ['\x7d']) <+: a.rest
  | .octalInTemplate, a => a.stage = .digits
  | .unpairedSurrogate, a => a.stage = .key ∨ ∃ room, a.stage = .literal room
  | .interpolation span, a => a.stage = .template ∧ ['$', '\x7b'] <+: span ∧ span <+: a.rest
  | .unterminatedInterpolation, a => a.stage = .span ∧ a.rest.head? = some '\x7b'
  | .notObject _, _ => False
  | .notTemplate _ _, _ => False

/-- A failure of what is read from a point on comes at a point that is visited, and is about what
stands there. -/
inductive Points (policy : Interpolation) (a : Point) : Failure → Prop where
  | refused {reason : Reason} {b : Point} (hplace : Visits policy a b) (hfits : Fits reason b) :
      Points policy a (.refused reason b.rest)
  | tooManyDigits : Points policy a .tooManyDigits
  | codePointTooLarge : Points policy a .codePointTooLarge

variable {policy : Interpolation} {n : Nat} {s t r start text : List Char} {e : Failure}
  {c quote : Char} {template : Bool} {left : Parsed} {a b : Point} {stage : Stage}
  {reason : Reason}

theorem Points.mono (hs : Visits policy a b) (h : Points policy b e) : Points policy a e := by
  cases h with
  | refused hplace hfits => exact .refused (hs.trans hplace) hfits
  | tooManyDigits => exact .tooManyDigits
  | codePointTooLarge => exact .codePointTooLarge

/-- A failure of what the parser is at after one move. -/
theorem Points.move (hs : Moves policy a b) (h : Points policy b e) : Points policy a e :=
  h.mono (.single hs)

theorem Points.exists_of_refused {place : List Char} (h : Points policy a (.refused reason place)) :
    ∃ b, b.rest = place ∧ Visits policy a b ∧ Fits reason b := by
  cases h with
  | @refused _ b hplace hfits => exact ⟨b, rfl, hplace, hfits⟩

/-- A refusal at the place where the reader was called. -/
theorem Points.here (h : Fits reason a) : Points policy a (.refused reason a.rest) :=
  .refused .refl h

/-! ## Trivia, escapes and numbers -/

theorem points_of_skipTrivia (h : skipTrivia s = .error e) : Points policy ⟨.trivia, s⟩ e := by
  fun_induction skipTrivia s with
  | case1 => cases h
  | case2 rest _ ih => exact (ih h).move .line
  | case3 rest _ =>
    cases h
    exact .here (List.prefix_append ['/', '*'] rest)
  | case4 rest after hafter _ ih => exact (ih h).move (.comment hafter)
  | case5 c rest _ _ hc ih => exact (ih h).move (.blank hc)
  | case6 => cases h

theorem visits_of_skipTrivia (h : skipTrivia s = .ok t) :
    Visits policy ⟨.trivia, s⟩ ⟨.trivia, t⟩ := by
  fun_induction skipTrivia s with
  | case1 =>
    cases h
    exact .refl
  | case2 rest _ ih => exact .head .line (ih h)
  | case3 rest _ => cases h
  | case4 rest after hafter _ ih => exact .head (.comment hafter) (ih h)
  | case5 c rest _ _ hc ih => exact .head (.blank hc) (ih h)
  | case6 =>
    cases h
    exact .refl

/-- A refusal behind the trivia that are read from a point on. -/
theorem Points.behind (hs : Moves policy a ⟨.trivia, s⟩) (h : skipTrivia s = .ok t)
    (hfits : Fits reason ⟨.trivia, t⟩) : Points policy a (.refused reason t) :=
  .refused (b := ⟨.trivia, t⟩) (.head hs (visits_of_skipTrivia h)) hfits

theorem points_of_hexEscape {count : Nat} (h : hexEscape count s = .error e) :
    Points policy ⟨.digits, s⟩ e := by
  unfold hexEscape at h
  simp only at h
  split at h
  · cases h
  · cases h
    exact .here ⟨rfl, List.take_prefix count s⟩

/-- The place of a fault in a number between braces is the opening brace. -/
theorem points_of_bracedEscape (h : bracedEscape s = .error e) :
    Points policy ⟨.digits, '\x7b' :: s⟩ e := by
  unfold bracedEscape at h
  split at h
  · next hd =>
    cases h
    refine .here ⟨rfl, rfl, ?_⟩
    have hfree : '\x7d' ∉ s := fun hmem => by simpa using List.dropWhile_eq_nil_iff.1 hd _ hmem
    simpa using hfree
  · next rest hd =>
    obtain ⟨hsplit, _⟩ := cut_of_dropWhile_ne hd
    have hdigits : Fits (.badCodePoint (s.takeWhile (· ≠ '\x7d'))) ⟨.digits, '\x7b' :: s⟩ := by
      refine ⟨rfl, rest, ?_⟩
      rw [List.cons_append, List.append_assoc, List.singleton_append, hsplit]
    simp only at h
    split at h
    · cases h
      exact .here hdigits
    · repeat' split at h
      all_goals cases h
      · exact .codePointTooLarge
      · exact .here hdigits
      · exact .here hdigits

theorem points_of_octalEscape (h : octalEscape template c s = .error e) :
    Points policy ⟨.digits, s⟩ e := by
  unfold octalEscape at h
  simp only at h
  split at h
  · cases h
  split at h
  · cases h
    exact .here rfl
  · cases h

theorem points_of_escape (h : escape template s = .error e) :
    Points policy ⟨.escape template, s⟩ e := by
  unfold escape at h
  split at h
  case h_1 =>
    cases h
    exact .here ⟨⟨template, rfl⟩, rfl⟩
  case h_7 | h_9 => exact (points_of_hexEscape h).move (.digits (by simp))
  case h_8 => exact (points_of_bracedEscape h).move (.digits (by simp))
  case h_10 =>
    repeat' split at h
    · cases h
    · next hoctal => exact (points_of_octalEscape h).move (.digits (.inr (.inr hoctal)))
    · cases h
  all_goals cases h

theorem points_of_number (h : Number.read c s = .error e) : Points policy ⟨.number, c :: s⟩ e := by
  unfold Number.read at h
  split at h
  · cases h
    exact .here ⟨rfl, rfl⟩
  · next m rest hlex =>
    split at h
    · next hname =>
      cases h
      exact .move (.numeral hlex) (.here ⟨rfl, hname⟩)
    · have hvalue := map_eq_error.1 h
      unfold Number.value at hvalue
      repeat' split at hvalue
      all_goals cases hvalue
      exact .tooManyDigits

theorem points_of_keyText {v : Value} (h : Number.keyText v = .error e) : Points policy a e := by
  have htext : ∀ {x : Option (List Char)},
      (x.elim (.error .tooManyDigits) (.ok ∘ Text.ofChars) : Except Failure Text) = .error e →
        Points policy a e := by
    intro x hx
    cases x with
    | none =>
      cases hx
      exact .tooManyDigits
    | some cs => cases hx
  unfold Number.keyText at h
  repeat' split at h
  · exact htext h
  · exact htext h
  · cases h
  · cases h

theorem points_of_resolve {t : Text} (h : resolve start t = .error e)
    (hstage : stage = .key ∨ ∃ room, stage = .literal room) : Points policy ⟨stage, start⟩ e := by
  unfold resolve at h
  split at h <;> cases h
  exact .here hstage

/-! ## Strings and templates -/

/-- A string fails for its opening quote, or behind it. -/
theorem points_of_stringBody (h : stringBody quote start s = .error e) :
    e = .refused .unterminatedString start ∨ Points policy ⟨.string quote, s⟩ e := by
  fun_induction stringBody quote start s with
  | case1 => exact .inl (Except.error.inj h).symm
  | case2 => exact .inl (Except.error.inj h).symm
  | case3 => cases h
  | case4 rest e' hescape =>
    obtain rfl : e' = e := Except.error.inj h
    exact .inr ((points_of_escape hescape).move .stringEscape)
  | case5 rest piece after hescape _ _ _ ih =>
    exact (ih (prepend_eq_error.1 h)).imp_right (Points.move (.afterStringEscape hescape))
  | case6 c rest hline hquote hescape ih =>
    have hc : c ∉ ['\n', '\r', quote, '\\'] := by simp_all
    exact (ih (prepend_eq_error.1 h)).imp_right (Points.move (.inString hc))

/-- A template fails for its opening backtick, or behind it. -/
theorem points_of_templateBody (h : templateBody policy start s = .error e) :
    e = .refused .unterminatedTemplate start ∨ Points policy ⟨.template, s⟩ e := by
  fun_induction templateBody policy start s with
  | case1 => exact .inl (Except.error.inj h).symm
  | case2 => cases h
  | case3 rest e' hescape =>
    obtain rfl : e' = e := Except.error.inj h
    exact .inr ((points_of_escape hescape).move .templateEscape)
  | case4 rest piece after hescape _ ih =>
    exact (ih (prepend_eq_error.1 h)).imp_right (Points.move (.afterTemplateEscape hescape))
  | case5 rest ih => exact (ih (prepend_eq_error.1 h)).imp_right (Points.move .crlf)
  | case6 rest _ ih =>
    exact (ih (prepend_eq_error.1 h)).imp_right (Points.move (.inTemplate (by decide)))
  | case7 rest _ =>
    cases h
    exact .inr (.move .span (.here ⟨rfl, rfl⟩))
  | case8 rest inside after hclose _ _ hpolicy =>
    cases h
    refine .inr (.here ⟨rfl, List.prefix_append _ _, ?_⟩)
    rw [Suffix.eq_append_of_spanBody (spanBody_of_closingBrace hclose)]
    exact List.prefix_append ('$' :: '\x7b' :: inside) after
  | case9 rest inside after hclose =>
    rename_i hpolicy ih
    subst hpolicy
    exact (ih (prepend_eq_error.1 h)).imp_right (Points.move (.interpolation rfl hclose))
  | case10 c rest hquote hescape =>
    rename_i ih
    have hc : c ∉ ['\x60', '\\'] := by simp_all
    exact (ih (prepend_eq_error.1 h)).imp_right (Points.move (.inTemplate hc))

theorem points_of_string (hstage : stage = .scalar ∨ stage = .key)
    (hq : quote = '\'' ∨ quote = '"') (h : stringBody quote (quote :: s) s = .error e) :
    Points policy ⟨stage, quote :: s⟩ e := by
  rcases points_of_stringBody h with rfl | h
  · exact .here ⟨hstage, by simpa using hq⟩
  · exact h.move (.string hstage hq)

theorem points_of_template (h : templateBody policy ('\x60' :: s) s = .error e) :
    Points policy ⟨.scalar, '\x60' :: s⟩ e := by
  rcases points_of_templateBody h with rfl | h
  · exact .here ⟨rfl, rfl⟩
  · exact h.move .template

/-! ## Values and keys -/

/-- The text of a name, cut where the name ends. -/
theorem readName_append : (readName c s).1 ++ (readName c s).2 = c :: s := by
  rw [readName, List.cons_append, List.takeWhile_append_dropWhile]

theorem points_of_scalar (h : scalar policy s = .error e) : Points policy ⟨.scalar, s⟩ e := by
  unfold scalar at h
  split at h
  · cases h
    exact .here (a := ⟨.scalar, []⟩) rfl
  next c rest =>
  split at h
  · next hq => exact points_of_string (.inl rfl) hq (map_eq_error.1 h)
  split at h
  · next hb =>
    subst hb
    exact points_of_template (map_eq_error.1 h)
  split at h
  · next hc => exact (points_of_number h).move (.number (.inl rfl) (by simpa using hc))
  split at h
  · next hc =>
    simp only at h
    split at h
    · cases h
    · next hk =>
      cases h
      exact .here (a := ⟨.scalar, c :: rest⟩)
        ⟨rfl, _, readName_append.symm, continuesName_readName, hc, hk⟩
  · cases h
    exact .here (a := ⟨.scalar, c :: rest⟩) ⟨rfl, rfl⟩

theorem points_of_readKey (h : readKey s = .error e) : Points policy ⟨.key, s⟩ e := by
  unfold readKey at h
  split at h
  · cases h
    exact .here (a := ⟨.key, []⟩) ⟨rfl, rfl⟩
  next c rest =>
  -- A refusal of the key itself is one at the place where it begins.
  have here : ∀ {reason : Reason}, Fits reason ⟨.key, c :: rest⟩ →
      Points policy ⟨.key, c :: rest⟩ (.refused reason (c :: rest)) := fun hfits => .here hfits
  split at h
  · next hq =>
    rcases bind_eq_error.1 h with h | ⟨_, _, h⟩
    · exact points_of_string (.inr rfl) hq h
    rcases bind_eq_error.1 h with h | ⟨_, _, h⟩
    · exact points_of_resolve h (.inl rfl)
    · cases h
  split at h
  · next hb =>
    cases h
    exact here ⟨rfl, congrArg some hb⟩
  split at h
  · next hb =>
    cases h
    exact here ⟨rfl, congrArg some hb⟩
  split at h
  · next hspread =>
    cases h
    exact here ⟨rfl, List.isPrefixOf_iff_prefix.1 hspread⟩
  split at h
  · next hc =>
    rcases bind_eq_error.1 h with h | ⟨_, _, h⟩
    · exact (points_of_number h).move (.number (.inr rfl) (hc.imp_right fun h => by simp [h]))
    rcases bind_eq_error.1 h with h | ⟨_, _, h⟩
    · exact points_of_keyText h
    · cases h
  split at h
  · cases h
  · cases h
    exact here ⟨rfl, rfl⟩

/-- A bare name is a key as it stands. -/
theorem exists_of_bareKey {key : Text} (h : readKey s = .ok (key, true, r)) :
    ∃ name, s = name ++ r ∧ key = Text.ofChars name := by
  unfold readKey at h
  split at h
  · cases h
  next c rest =>
  split at h
  · cases hbody : stringBody c (c :: rest) rest with
    | error e => simp [hbody, bind, Except.bind] at h
    | ok x => cases hkey : resolve (c :: rest) x.1 <;>
        simp [hbody, hkey, bind, Except.bind, pure, Except.pure] at h
  iterate 3 (split at h; · cases h)
  split at h
  · cases hread : Number.read c rest with
    | error e => simp [hread, bind, Except.bind] at h
    | ok x => cases hkey : Number.keyText x.1 <;>
        simp [hread, hkey, bind, Except.bind, pure, Except.pure] at h
  split at h
  · simp only [Except.ok.injEq, Prod.mk.injEq, true_and] at h
    obtain ⟨rfl, rfl⟩ := h
    exact ⟨_, readName_append.symm, rfl⟩
  · cases h

/-! ## Literals -/

/-- The failures of a reader point from the stage at which it is called. -/
def PointedReader (policy : Interpolation) (stage : Stage) (f : Reader Char Failure Parsed) :
    Prop :=
  ∀ ⦃s e⦄, outcome f s = .error e → Points policy ⟨stage, s⟩ e

theorem points_of_items
    (hvalue : PointedReader policy (.literal n) (expression (operandWithin policy n)))
    (h : outcome (items (expression (operandWithin policy n))) s = .error e) :
    Points policy ⟨.items n, s⟩ e := by
  induction hl : s.length using Nat.strongRecOn generalizing s with
  | _ l ih =>
  subst hl
  rw [outcome_items] at h
  rcases bind_eq_error.1 h with hs | ⟨t, hs, h⟩
  · exact (points_of_skipTrivia hs).move .beforeItem
  split at h
  · cases h
  next hclose =>
  split at h
  · next hhole =>
    cases h
    exact .behind .beforeItem hs hhole
  next hcomma =>
  rcases bind_eq_error.1 h with hp | ⟨⟨p, m⟩, hp, h⟩
  · exact (hvalue hp).move (.item hs hclose hcomma)
  rcases bind_eq_error.1 h with hu | ⟨u, hu, h⟩
  · exact (points_of_skipTrivia hu).move (.afterItem hs hp)
  split at h
  · next hcomma =>
    obtain ⟨rest, rfl⟩ := List.head?_eq_some_iff.1 hcomma
    rcases bind_eq_error.1 h with hmore | ⟨_, _, h⟩
    · exact (ih _ (length_lt_of_item hs hp hu) hmore rfl).move (.nextItem hs hp hu)
    · cases h
  split at h
  · cases h
  · next hcomma hclose =>
    cases h
    exact .behind (.afterItem hs hp) hu ⟨rfl, by simp [hcomma, hclose]⟩

theorem points_of_members
    (hvalue : PointedReader policy (.literal n) (expression (operandWithin policy n)))
    (h : outcome (members (expression (operandWithin policy n))) s = .error e) :
    Points policy ⟨.members n, s⟩ e := by
  induction hl : s.length using Nat.strongRecOn generalizing s with
  | _ l ih =>
  subst hl
  rw [outcome_members] at h
  rcases bind_eq_error.1 h with hs | ⟨t, hs, h⟩
  · exact (points_of_skipTrivia hs).move .beforeKey
  split at h
  · cases h
  next hclose =>
  rcases bind_eq_error.1 h with hkey | ⟨⟨key, bare, a⟩, hkey, h⟩
  · exact (points_of_readKey hkey).move (.key hs hclose)
  rcases bind_eq_error.1 h with hb | ⟨b, hb, h⟩
  · exact (points_of_skipTrivia hb).move (.afterKey hs hkey)
  split at h
  · next hcolon =>
    obtain ⟨afterColon, rfl⟩ := List.head?_eq_some_iff.1 hcolon
    rcases bind_eq_error.1 h with hp | ⟨⟨p, m⟩, hp, h⟩
    · exact (hvalue hp).move (.value hs hkey hb)
    have hafter : Moves policy ⟨.members n, s⟩ ⟨.trivia, m⟩ := .afterValue hs hkey hb hp
    rcases bind_eq_error.1 h with hu | ⟨u, hu, h⟩
    · exact (points_of_skipTrivia hu).move hafter
    split at h
    · next hcomma =>
      obtain ⟨rest, rfl⟩ := List.head?_eq_some_iff.1 hcomma
      rcases bind_eq_error.1 h with hmore | ⟨_, _, h⟩
      · have hlt := length_lt_of_member hs hkey hb hp hu
        exact (ih _ hlt hmore rfl).move (.nextMember hs hkey hb hp hu)
      · cases h
    split at h
    · cases h
    · next hcomma hclose =>
      cases h
      exact .behind hafter hu ⟨rfl, by simp [hcomma, hclose]⟩
  split at h
  · next hvalueless =>
    cases h
    obtain ⟨rfl, _⟩ := hvalueless
    obtain ⟨name, hname, hkey⟩ := exists_of_bareKey hkey
    exact .move (.key hs hclose) (.here (a := ⟨.key, t⟩) ⟨rfl, name, a, hname, hkey⟩)
  · next hcolon _ =>
    cases h
    exact .behind (.afterKey hs hkey) hb ⟨rfl, hcolon⟩

/-- A chain fails at its start, where the literal began, or behind it. -/
theorem points_of_chain (hoperand : PointedReader policy (.operand n) (operandWithin policy n))
    (hstart : Visits policy ⟨.literal n, start⟩ ⟨.chain n, s⟩)
    (h : chainOutcome (operandWithin policy n) start left s = .error e) :
    Points policy ⟨.literal n, start⟩ e := by
  induction hl : s.length using Nat.strongRecOn generalizing s left with
  | _ l ih =>
  subst hl
  rw [chainOutcome_eq] at h
  rcases bind_eq_error.1 h with hs | ⟨t, hs, h⟩
  · exact ((points_of_skipTrivia hs).move .beforePlus).mono hstart
  split at h
  · next hplus =>
    obtain ⟨rest, rfl⟩ := List.head?_eq_some_iff.1 hplus
    rcases bind_eq_error.1 h with hp | ⟨⟨p, m⟩, hp, h⟩
    · exact ((hoperand hp).move (.next hs)).mono hstart
    simp only at h
    split at h
    · exact ih _ (length_lt_of_operand hs hp) (.tail hstart (.afterNext hs hp)) h rfl
    · cases h
      exact .here (a := ⟨.literal n, start⟩) ⟨n, rfl⟩
  · split at h
    · exact points_of_resolve (map_eq_error.1 h) (.inr ⟨n, rfl⟩)
    · cases h

theorem points_of_expression
    (hoperand : PointedReader policy (.operand n) (operandWithin policy n)) :
    PointedReader policy (.literal n) (expression (operandWithin policy n)) := by
  intro s e h
  rw [outcome_expression] at h
  rcases bind_eq_error.1 h with hp | ⟨⟨p, m⟩, hp, h⟩
  · exact (hoperand hp).move .first
  · exact points_of_chain hoperand (.single (.afterFirst hp)) h

theorem points_of_bracketed (hc : isOpening c = true)
    (hvalue : PointedReader policy (.literal n) (expression (operandWithin policy n)))
    (h : outcome (bracketed (expression (operandWithin policy n)) c) s = .error e) :
    Points policy ⟨.inside c (n + 1), s⟩ e := by
  rw [outcome_bracketed] at h
  split at h
  · next hbrace =>
    subst hbrace
    exact (points_of_members hvalue (map_eq_error.1 h)).move .object
  split at h
  · next hbracket =>
    subst hbracket
    exact (points_of_items hvalue (map_eq_error.1 h)).move .array
  obtain rfl : c = '(' := by simpa [isOpening, *] using hc
  rw [outcome_parenthesised] at h
  rcases bind_eq_error.1 h with hp | ⟨⟨p, m⟩, hp, h⟩
  · exact (hvalue hp).move .parentheses
  rcases bind_eq_error.1 h with hu | ⟨u, hu, h⟩
  · exact (points_of_skipTrivia hu).move (.beforeClosing hp)
  split at h
  · cases h
  · next hclose =>
    cases h
    exact .behind (.beforeClosing hp) hu ⟨rfl, hclose⟩

theorem points_of_operand {inner : Option (Reader Char Failure Parsed)}
    (hnone : inner = none → n = 0)
    (hinner : ∀ c rest value, inner = some value → isOpening c = true →
      outcome (bracketed value c) rest = .error e → Points policy ⟨.inside c n, rest⟩ e)
    (h : outcome (operand policy inner) s = .error e) : Points policy ⟨.operand n, s⟩ e := by
  rw [outcome_operand] at h
  rcases bind_eq_error.1 h with hs | ⟨t, hs, h⟩
  · exact (points_of_skipTrivia hs).move .beforeOperand
  split at h
  · cases h
    exact .behind .beforeOperand hs rfl
  next c rest =>
  split at h
  · next hc =>
    cases inner with
    | none =>
      cases h
      obtain rfl := hnone rfl
      exact .move (.bracket hs hc) (.here (a := ⟨.inside c 0, rest⟩) ⟨c, hc, rfl⟩)
    | some value => exact (hinner c rest value rfl hc h).move (.bracket hs hc)
  · next hc =>
    rcases bind_eq_error.1 h with hv | ⟨_, _, h⟩
    · exact (points_of_scalar hv).move (.scalar hs (by simpa using hc))
    · cases h

/-- **Failures of operands point at what they are about**, level by level of brackets. -/
theorem points_of_operandWithin (policy : Interpolation) (n : Nat) :
    PointedReader policy (.operand n) (operandWithin policy n) := by
  induction n with
  | zero =>
    intro s e h
    exact points_of_operand (fun _ => rfl) (fun _ _ _ hnone _ _ => by simp at hnone) h
  | succ n ih =>
    intro s e h
    refine points_of_operand (fun hnone => by simp at hnone) (fun c rest value hvalue hc hb => ?_) h
    obtain rfl := Option.some.inj hvalue
    exact points_of_bracketed hc (points_of_expression ih) hb

/-- **Failures of the parser point at what they are about.** -/
theorem points_of_parseWithin {limit : Nat} (h : parseWithin limit policy text = .error e) :
    Points policy ⟨.whole limit, text⟩ e := by
  rw [parseWithin_eq] at h
  rcases bind_eq_error.1 h with hp | ⟨⟨p, m⟩, hp, h⟩
  · exact (points_of_expression (points_of_operandWithin policy limit) hp).move .whole
  rcases bind_eq_error.1 h with hu | ⟨u, hu, h⟩
  · exact (points_of_skipTrivia hu).move (.afterWhole hp)
  split at h
  · cases h
  · next hrest =>
    cases h
    exact .behind (.afterWhole hp) hu ⟨rfl, hrest⟩

/-- A text that the parser accepts has been crossed to its end. -/
theorem visits_of_parseWithin {limit : Nat} {p : Parsed}
    (h : parseWithin limit policy text = .ok p) :
    Visits policy ⟨.whole limit, text⟩ ⟨.trivia, []⟩ := by
  obtain ⟨r, hp, hr⟩ := Recognition.parseWithin_eq_ok_iff_reads.1 h
  exact .head (.afterWhole hp) (visits_of_skipTrivia hr)

end PromptLibrary.Proofs.Literal.Places
