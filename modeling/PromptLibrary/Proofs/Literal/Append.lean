import PromptLibrary.Proofs.Literal.Grammar
/-!
# Text after a phrase

A phrase that ends before its text does means the same whatever text is put after it.  Strings,
templates and bracketed phrases may also stand at the very end of their text; a number or a name at
the end would go on with what is put there.
-/

namespace PromptLibrary.Proofs.Literal.Append

open PromptLibrary.Text
open PromptLibrary.Literal
open PromptLibrary.Proofs.Text.Runs
open PromptLibrary.Proofs.Literal.Escape
open PromptLibrary.Proofs.Literal.Quote
open PromptLibrary.Proofs.Literal.Trivia
open PromptLibrary.Proofs.Literal.Token
open PromptLibrary.Proofs.Literal.Grammar

variable {policy : Interpolation} {d depth : Nat} {s r k span : List Char} {t : Text}
  {spans : List (List Char)} {key : Text} {v : Value} {p : Parsed} {ps : List Parsed}
  {ph : Phrase} {quote : Char} {mode : Option Char}

/-! ## Strings and templates -/

theorem stringBody_ne_nil (h : StringBody quote s t r) : s ≠ [] := by
  cases h <;> exact List.cons_ne_nil _ _

theorem templateBody_ne_nil (h : TemplateBody policy s spans t r) : s ≠ [] := by
  cases h <;> exact List.cons_ne_nil _ _

theorem stringBody_append (h : StringBody quote s t r) : StringBody quote (s ++ k) t (r ++ k) := by
  induction h with
  | close => exact .close
  | escaped h hrest ih => exact .escaped (escape_append h (stringBody_ne_nil hrest)) ih
  | plain hc _ ih => exact .plain hc ih

theorem spanBody_append (h : SpanBody depth mode s span r) :
    SpanBody depth mode (s ++ k) span (r ++ k) := by
  induction h with
  | last => exact .last
  | inner _ ih => exact .inner ih
  | escaped _ ih => exact .escaped ih
  | plain hc hbrace _ ih => exact .plain hc hbrace ih

theorem templateBody_append (h : TemplateBody policy s spans t r) :
    TemplateBody policy (s ++ k) spans t (r ++ k) := by
  induction h with
  | close => exact .close
  | escaped h hrest ih => exact .escaped (escape_append h (templateBody_ne_nil hrest)) ih
  | crlf _ ih => exact .crlf ih
  | cr hs hrest ih =>
    have hhead := head?_append_of_ne_nil (k := k) (templateBody_ne_nil hrest)
    exact .cr (fun he => hs (hhead.symm.trans he)) ih
  | interpolation hpolicy h _ ih => exact .interpolation hpolicy (spanBody_append h) ih
  | plain hc hs hrest ih =>
    have hhead := head?_append_of_ne_nil (k := k) (templateBody_ne_nil hrest)
    exact .plain hc (fun hd he => hs hd (hhead.symm.trans he)) ih

/-! ## Tokens -/

theorem token_append (h : Token anything policy s v r) (hr : r ≠ []) :
    Token anything policy (s ++ k) v (r ++ k) := by
  cases h with
  | string hq h =>
    have hlong := stringBody_append (k := k) (stringBody_of_read h)
    exact .string hq (read_of_stringBody hq hlong)
  | template h _ =>
    have hlong := templateBody_append (k := k) (templateBody_of_read h)
    exact .template (read_of_templateBody hlong) fun _ _ => trivial
  | number h => exact .number (Number.read_append h hr)
  | keyword h hname =>
    rw [List.append_assoc]
    exact .keyword h (by rwa [Number.continuesName_append hr])

theorem key_append (h : Key s key r) (hr : r ≠ []) : Key (s ++ k) key (r ++ k) := by
  cases h with
  | string hq h hw =>
    have hlong := stringBody_append (k := k) (stringBody_of_read h)
    exact .string hq (read_of_stringBody hq hlong) hw
  | number hc h hk => exact .number hc (Number.read_append h hr) hk
  | name hc hm hname =>
    rw [List.cons_append, List.append_assoc]
    exact .name hc hm (by rwa [Number.continuesName_append hr])

/-! ## Phrases -/

/-- The meaning of a phrase in a text that `k` was put after: places of keys are told by the text
that follows them, so the text grows there. -/
def extendDuplicate (k : List Char) (d : Duplicate) : Duplicate := ⟨d.key, d.rest ++ k⟩

@[inherit_doc extendDuplicate]
def extend (k : List Char) (p : Parsed) : Parsed :=
  ⟨p.value, p.duplicates.map (extendDuplicate k)⟩

@[inherit_doc extendDuplicate]
def extendMember (k : List Char) (m : Member) : Member := ⟨m.key, m.rest ++ k, extend k m.parsed⟩

@[inherit_doc extendDuplicate]
def extendPhrase (k : List Char) : Phrase → Phrase
  | .operand p => .operand (extend k p)
  | .more ps => .more (ps.map (extend k))
  | .literal p => .literal (extend k p)
  | .members ms => .members (ms.map (extendMember k))
  | .items ps => .items (ps.map (extend k))

theorem duplicatesAmong_extend (seen : List Text) (ms : List Member) :
    duplicatesAmong seen (ms.map (extendMember k)) =
      (duplicatesAmong seen ms).map (extendDuplicate k) := by
  induction ms generalizing seen with
  | nil => rfl
  | cons m ms ih =>
    have hagain : (if m.key ∈ seen then [(⟨m.key, m.rest ++ k⟩ : Duplicate)] else []) =
        (if m.key ∈ seen then [⟨m.key, m.rest⟩] else []).map (extendDuplicate k) := by
      split <;> rfl
    simp only [List.map_cons, duplicatesAmong, List.map_append, extendMember, extend, hagain, ih]

theorem extend_ofMembers (ms : List Member) :
    extend k (.ofMembers ms) = .ofMembers (ms.map (extendMember k)) := by
  unfold Parsed.ofMembers extend
  rw [duplicatesAmong_extend, List.map_map]
  rfl

theorem extend_ofItems (ps : List Parsed) :
    extend k (.ofItems ps) = .ofItems (ps.map (extend k)) := by
  unfold Parsed.ofItems
  simp only [extend, List.map_map, List.map_flatMap, List.flatMap_map]
  rfl

theorem joined_extend (h : Joined ps p) : Joined (ps.map (extend k)) (extend k p) := by
  cases h with
  | value h => exact .value h
  | @text _ ts hne hs hw =>
    have hvalues : (ps.map (extend k)).map (·.value) = ts.map .string := by
      rw [List.map_map, ← hs]
      rfl
    have hj := Joined.text (by simpa using hne) hvalues hw
    simpa [extend, List.map_flatMap, List.flatMap_map] using hj

theorem trivia_ne_nil {allowed : List Char → Prop} {c : Char} (h : Trivia allowed s (c :: r)) :
    s ≠ [] := by
  cases h <;> exact List.cons_ne_nil _ _

theorem trivia_cons_append {allowed : List Char → Prop} {c : Char}
    (h : Trivia allowed s (c :: r)) : Trivia allowed (s ++ k) (c :: (r ++ k)) :=
  trivia_append h (List.cons_ne_nil c r)

theorem more_ne_nil {lexis : Lexis} (h : Derives lexis policy d (.more ps) s r) (hr : r ≠ []) :
    s ≠ [] := by
  cases h with
  | noMore => exact hr
  | plus hplus _ _ _ => exact trivia_ne_nil hplus

theorem operand_ne_nil {lexis : Lexis} (h : Derives lexis policy d (.operand p) s r) : s ≠ [] := by
  obtain ⟨c, rest, rfl, _⟩ := exists_cons_of_operand h
  exact List.cons_ne_nil c rest

theorem key_ne_nil (h : Key s key r) : s ≠ [] := by
  obtain ⟨c, rest, rfl, _⟩ := exists_cons_of_key h
  exact List.cons_ne_nil c rest

/-- Whether a phrase with this rest is not changed by more text. -/
def Ended : Phrase → List Char → Prop
  | .members _, _ => True
  | .items _, _ => True
  | _, r => r ≠ []

/-- **A derivation that has ended goes through with any text put after it.** -/
theorem derives_append (h : Derives .free policy d ph s r) (hr : Ended ph r) :
    Derives .free policy d (extendPhrase k ph) (s ++ k) (r ++ k) := by
  -- Inside a phrase something always follows: a colon, a comma, an operand or a closing bracket.
  induction h with
  | token h => exact .token (token_append h hr)
  | parentheses _ hc ih => exact .parentheses (ih (trivia_ne_nil hc)) (trivia_cons_append hc)
  | @object d ms s r _ ih =>
    have hobject := Derives.object (ih trivial)
    rwa [← extend_ofMembers] at hobject
  | @array d ps s r _ ih =>
    have harray := Derives.array (ih trivial)
    rwa [← extend_ofItems] at harray
  | noMore => exact .noMore
  | plus hplus ht h hmore ih₁ ih₂ =>
    exact .plus (trivia_cons_append hplus) (trivia_append ht (operand_ne_nil h))
      (ih₁ (more_ne_nil hmore hr)) (ih₂ hr)
  | literal ht h hmore hsum ih₁ ih₂ =>
    exact .literal (trivia_append ht (operand_ne_nil h)) (ih₁ (more_ne_nil hmore hr)) (ih₂ hr)
      (joined_extend hsum)
  | noMembers hc => exact .noMembers (trivia_cons_append hc)
  | lastMember ht hk hcolon _ hc ih =>
    have hkey := key_append (k := k) hk (trivia_ne_nil hcolon)
    have hvalue := ih (trivia_ne_nil hc)
    exact .lastMember (trivia_append ht (key_ne_nil hk)) hkey (trivia_cons_append hcolon) hvalue
      (trivia_cons_append hc)
  | member ht hk hcolon _ hc _ ih₁ ih₂ =>
    have hkey := key_append (k := k) hk (trivia_ne_nil hcolon)
    have hvalue := ih₁ (trivia_ne_nil hc)
    exact .member (trivia_append ht (key_ne_nil hk)) hkey (trivia_cons_append hcolon) hvalue
      (trivia_cons_append hc) (ih₂ trivial)
  | noItems hc => exact .noItems (trivia_cons_append hc)
  | lastItem _ hc ih => exact .lastItem (ih (trivia_ne_nil hc)) (trivia_cons_append hc)
  | item _ hc _ ih₁ ih₂ =>
    exact .item (ih₁ (trivia_ne_nil hc)) (trivia_cons_append hc) (ih₂ trivial)

end PromptLibrary.Proofs.Literal.Append
