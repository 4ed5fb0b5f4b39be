import PromptLibrary.Proofs.Literal.Faults
import PromptLibrary.Proofs.Number.LineEndings
/-!
# Line endings in strings and templates

A line may end inside of quotes in three places.  Behind a backslash both endings are taken away, in
a string both are refused, and a template holds a line feed for either.  Only the text of an
interpolation that is kept would show the difference.

* `Alike` — two outcomes of one kind, whatever is told about a refusal;
* `alike_escape`, `alike_stringBody`;
* `rel_closingBrace`, `alike_templateBody` — an interpolation on one line is the same in both texts.
-/

namespace PromptLibrary.Proofs.Literal.LineQuotes

open PromptLibrary.Literal
open PromptLibrary.Proofs.Text.Runs
open PromptLibrary.Proofs.Text.LineEndings
open PromptLibrary.Proofs.Number.LineEndings
open PromptLibrary.Proofs.Literal.Escape
open PromptLibrary.Proofs.Literal.Quote
open PromptLibrary.Proofs.Literal.Faults

/-! ## Outcomes of one kind -/

/-- Failures of one class; whatever is refused for a reason makes up one of them. -/
inductive SameClass : Failure → Failure → Prop where
  | refused {reason reason' : Reason} {place place' : List Char} :
      SameClass (.refused reason place) (.refused reason' place')
  | same {e : Failure} : SameClass e e

/-- Both succeed, with results that are related, or both fail, in one class. -/
inductive Alike {α : Type} (R : α → α → Prop) : Except Failure α → Except Failure α → Prop where
  | ok {a b : α} (h : R a b) : Alike R (.ok a) (.ok b)
  | error {e e' : Failure} (h : SameClass e e') : Alike R (.error e) (.error e')

/-- The results are the same in what counts, and so are the texts behind them. -/
def Leaves {α β : Type} (f : α → β) (x y : α × List Char) : Prop :=
  f x.1 = f y.1 ∧ WithReturns x.2 y.2

section Combine

variable {α β : Type} {R : α → α → Prop} {S : β → β → Prop} {x y : Except Failure α}
  {g g' : α → Except Failure β} {k k' : α → β} {a b : Prop} [Decidable a] [Decidable b]
  {u v u' v' : Except Failure α}

theorem Alike.refused {reason reason' : Reason} {place place' : List Char} :
    Alike R (.error (.refused reason place)) (.error (.refused reason' place')) :=
  .error .refused

theorem Alike.of_ok {r : α} (h : Alike R x y) (hx : x = .ok r) : ∃ r', y = .ok r' ∧ R r r' := by
  subst hx
  cases h with
  | ok h => exact ⟨_, rfl, h⟩

theorem Alike.of_error {e : Failure} (h : Alike R x y) (hx : x = .error e) :
    ∃ e', y = .error e' ∧ SameClass e e' := by
  subst hx
  cases h with
  | error h => exact ⟨_, rfl, h⟩

theorem Alike.bind (hx : Alike R x y) (hg : ∀ a b, x = .ok a → R a b → Alike S (g a) (g' b)) :
    Alike S (x >>= g) (y >>= g') := by
  cases hx with
  | ok h => exact hg _ _ rfl h
  | error h => exact .error h

theorem Alike.map (hx : Alike R x y) (hk : ∀ a b, R a b → S (k a) (k' b)) :
    Alike S (x.map k) (y.map k') := by
  cases hx with
  | ok h => exact .ok (hk _ _ h)
  | error h => exact .error h

theorem Alike.ite (hab : a ↔ b) (hthen : a → Alike R u u') (helse : ¬ a → Alike R v v') :
    Alike R (if a then u else v) (if b then u' else v') := by
  by_cases ha : a
  · rw [if_pos ha, if_pos (hab.1 ha)]
    exact hthen ha
  · rw [if_neg ha, if_neg (mt hab.2 ha)]
    exact helse ha

end Combine

variable {s t start start' : List Char} {c quote : Char} {template : Bool} {count depth : Nat}
  {mode : Option Char} {policy : Interpolation}

/-! ## Escapes -/

theorem refused_of_hexEscape {e : Failure} (h : hexEscape count s = .error e) :
    ∃ reason place, e = .refused reason place := by
  unfold hexEscape at h
  simp only at h
  split at h
  · simp at h
  · exact ⟨_, _, (Except.error.inj h).symm⟩

theorem not_isBreak_of_hex {digits : List Char}
    (h : digits.all (Integer.isDigitOf 16) = true) : ∀ c ∈ digits, ¬ IsBreak c :=
  fun _ hc => not_isBreak_of_class (isDigitOf_break 16).1 (isDigitOf_break 16).2
    (List.all_eq_true.1 h _ hc)

theorem alike_hexEscape (h : WithReturns s t) :
    Alike (Leaves id) (hexEscape count s) (hexEscape count t) := by
  cases hs : hexEscape count s with
  | ok x =>
    obtain ⟨text, r⟩ := x
    obtain ⟨digits, rfl, hlength, hall, htext⟩ := hexEscape_eq_ok_iff.1 hs
    obtain ⟨r', rfl, hrest⟩ := exists_of_append h (not_isBreak_of_hex hall)
    rw [hexEscape_eq_ok_iff.2 ⟨digits, rfl, hlength, hall, htext⟩]
    exact .ok ⟨rfl, hrest⟩
  | error e =>
    obtain ⟨reason, place, rfl⟩ := refused_of_hexEscape hs
    cases ht : hexEscape count t with
    | ok x =>
      obtain ⟨text, r⟩ := x
      obtain ⟨digits, rfl, hlength, hall, htext⟩ := hexEscape_eq_ok_iff.1 ht
      obtain ⟨r', rfl, _⟩ := exists_of_append_right h (not_isBreak_of_hex hall)
      rw [hexEscape_eq_ok_iff.2 ⟨digits, rfl, hlength, hall, htext⟩] at hs
      simp at hs
    | error e' =>
      obtain ⟨reason', place', rfl⟩ := refused_of_hexEscape ht
      exact .refused

theorem alike_bracedEscape (h : WithReturns s t) :
    Alike (Leaves id) (bracedEscape s) (bracedEscape t) := by
  obtain ⟨hdigits, hafter⟩ := runs (p := (· ≠ '\x7d')) h rfl
  have hread := read_eq 16 hdigits
  unfold bracedEscape
  generalize s.takeWhile (· ≠ '\x7d') = digits at hread ⊢
  generalize t.takeWhile (· ≠ '\x7d') = digits' at hread ⊢
  split
  · next hs =>
    rw [hs] at hafter
    rw [(eq_nil_iff hafter).1 rfl]
    exact .refused
  · next c rest hs =>
    obtain rfl : c = '\x7d' := by
      have hc := eq_false_of_mem_head?_dropWhile c (by rw [hs]; rfl)
      simpa using hc
    rw [hs] at hafter
    obtain ⟨rest', ht, hrest⟩ := exists_of_cons hafter (by decide)
    rw [ht]
    simp only [hread]
    cases Integer.read 16 digits with
    | error e => exact .refused
    | ok n =>
      refine .ite .rfl (fun _ => .error .same) fun _ => .ite .rfl (fun _ => .refused) fun _ => ?_
      cases CodePoint.ofNat? n.toNat with
      | none => exact .refused
      | some p => exact .ok ⟨rfl, hrest⟩

theorem alike_octalEscape (h : WithReturns s t) :
    Alike (Leaves id) (octalEscape template c s) (octalEscape template c t) := by
  have hnext := any_head?_eq (p := Char.isDigit) h rfl
  obtain ⟨u, r, r', rfl, rfl, hs, ht, hrest⟩ :=
    runs_take_eq (p := isOctal) (n := octalLength c - 1) h (isDigitOf_break 8).1
      (isDigitOf_break 8).2
  unfold octalEscape
  refine .ite (by rw [hnext]) (fun _ => .ok ⟨rfl, h⟩) fun _ => ?_
  refine .ite .rfl (fun _ => .refused) fun _ => ?_
  simp only [hs, ht, List.drop_left]
  exact .ok ⟨rfl, hrest⟩

theorem escape_of_head_ne (h : s.head? ≠ some '\x7b') :
    escape template ('u' :: s) = hexEscape 4 s := by
  rw [escape]
  rintro rest rfl
  exact h rfl

theorem alike_escape (h : WithReturns s t) :
    Alike (Leaves id) (escape template s) (escape template t) := by
  cases h with
  | nil => exact .refused
  | feed h => exact .ok ⟨rfl, h⟩
  | pair h => exact .ok ⟨rfl, h⟩
  | @char c s t hc h =>
    by_cases hleader : c ∈ leaders
    · simp only [leaders, List.mem_cons, List.not_mem_nil, or_false] at hleader
      rcases hleader with rfl | rfl | rfl | rfl | rfl | rfl
      · exact absurd (.inr rfl) hc
      · exact absurd (.inl rfl) hc
      · exact .ok ⟨rfl, h⟩
      · exact .ok ⟨rfl, h⟩
      · exact alike_hexEscape h
      · by_cases hbrace : s.head? = some '\x7b'
        · obtain ⟨s, rfl⟩ := List.head?_eq_some_iff.1 hbrace
          obtain ⟨t, rfl, hrest⟩ := exists_of_cons h (by decide)
          exact alike_bracedEscape hrest
        · have hbrace' := mt (head?_eq_some_iff h (by decide)).2 hbrace
          rw [escape_of_head_ne hbrace, escape_of_head_ne hbrace']
          exact alike_hexEscape h
    · rw [escape_of_not_mem_leaders hleader, escape_of_not_mem_leaders hleader]
      cases controlEscape? c with
      | some d => exact .ok ⟨rfl, h⟩
      | none => exact .ite .rfl (fun _ => alike_octalEscape h) fun _ => .ok ⟨rfl, h⟩

/-! ## Strings -/

theorem alike_prepend {piece : Text} {x y : Except Failure (Text × List Char)}
    (h : Alike (Leaves id) x y) : Alike (Leaves id) (prepend piece x) (prepend piece y) :=
  h.map fun _ _ hleaves => ⟨congrArg (piece ++ ·) hleaves.1, hleaves.2⟩

theorem alike_stringBody (hq : quote = '\'' ∨ quote = '"') (h : WithReturns s t) :
    Alike (Leaves id) (stringBody quote start s) (stringBody quote start' t) := by
  fun_induction stringBody quote start s generalizing t with
  | case1 =>
    cases h
    rw [stringBody]
    exact .refused
  | case2 c rest hc =>
    have hfails {c : Char} {r : List Char} (hc : c = '\n' ∨ c = '\r') :
        stringBody quote start' (c :: r) = .error (.refused .unterminatedString start') := by
      rw [stringBody, if_pos hc]
    cases h with
    | char hne _ => exact absurd hc hne
    | feed _ =>
      rw [hfails (.inl rfl)]
      exact .refused
    | pair _ =>
      rw [hfails (.inr rfl)]
      exact .refused
  | case3 rest hc =>
    obtain ⟨t, rfl, hrest⟩ := exists_of_cons h hc
    rw [stringBody, if_neg hc, if_pos rfl]
    exact .ok ⟨rfl, hrest⟩
  | case4 rest e hescape =>
    obtain ⟨t, rfl, hrest⟩ := exists_of_cons h (by decide)
    obtain ⟨e', ht, he⟩ := (alike_escape hrest).of_error hescape
    rw [stringBody_of_failed hq ht]
    exact .error he
  | case5 rest piece after hescape _ _ _ ih =>
    obtain ⟨t, rfl, hrest⟩ := exists_of_cons h (by decide)
    obtain ⟨⟨_, after'⟩, ht, rfl, hafter⟩ := (alike_escape hrest).of_ok hescape
    rw [stringBody_of_escape hq ht]
    exact alike_prepend (ih hafter)
  | case6 c rest hc hquote hbackslash ih =>
    obtain ⟨t, rfl, hrest⟩ := exists_of_cons h hc
    rw [stringBody, if_neg hc, if_neg hquote, if_neg hbackslash]
    exact alike_prepend (ih hrest)

/-! ## Templates -/

/-- Spans, with the texts behind them, that differ in line endings only. -/
def SameSpan (x y : List Char × List Char) : Prop :=
  WithReturns x.1 y.1 ∧ WithReturns x.2 y.2

theorem rel_map_append {p q : List Char} {x y : Option (List Char × List Char)}
    (hp : WithReturns p q) (h : Option.Rel SameSpan x y) :
    Option.Rel SameSpan (x.map fun z => (p ++ z.1, z.2)) (y.map fun z => (q ++ z.1, z.2)) := by
  cases h with
  | none => exact .none
  | some h => exact .some ⟨withReturns_append hp h.1, h.2⟩

theorem insideQuote_of_isBreak (hc : IsBreak c) (hm : ∀ q ∈ mode, ¬ IsBreak q) :
    insideQuote mode c = mode := by
  cases mode with
  | none => rcases hc with rfl | rfl <;> rfl
  | some q =>
    have hne : c ≠ q := fun he => hm q rfl (he ▸ hc)
    rw [insideQuote, if_neg hne]

theorem closingBrace_of_isBreak (hc : IsBreak c) (hm : ∀ q ∈ mode, ¬ IsBreak q) :
    closingBrace? depth mode (c :: s) =
      (closingBrace? depth mode s).map fun x => ([c] ++ x.1, x.2) := by
  have hplain : c ≠ '\\' ∧ c ≠ '\x7b' ∧ c ≠ '\x7d' := by
    rcases hc with rfl | rfl <;> decide
  rw [closingBrace_of_plain hplain.1 fun h => hplain.2.2 h.2, if_neg fun h => hplain.2.1 h.2,
    insideQuote_of_isBreak hc hm]

theorem not_isBreak_insideQuote (hc : ¬ IsBreak c) (hm : ∀ q ∈ mode, ¬ IsBreak q) :
    ∀ q ∈ insideQuote mode c, ¬ IsBreak q := by
  unfold insideQuote
  split
  · split
    · simp
    · exact hm
  · split
    · intro q hq
      rwa [← Option.some.inj hq]
    · simp

theorem rel_closingBrace (h : WithReturns s t) (hm : ∀ q ∈ mode, ¬ IsBreak q) :
    Option.Rel SameSpan (closingBrace? depth mode s) (closingBrace? depth mode t) := by
  fun_induction closingBrace? depth mode s generalizing t with
  | case1 =>
    cases h
    exact .none
  | case2 =>
    obtain ⟨t, rfl, hrest⟩ := exists_of_cons h (by decide)
    cases hrest
    exact .none
  | case3 depth mode c rest ih =>
    obtain ⟨t, rfl, hrest⟩ := exists_of_cons h (by decide)
    cases hrest with
    | char hc hrest =>
      rw [closingBrace_escaped]
      exact rel_map_append (.char (by decide) (.char hc .nil)) (ih hrest hm)
    | feed hrest =>
      rw [closingBrace_escaped]
      exact rel_map_append (.char (by decide) (.feed .nil)) (ih hrest hm)
    | pair hrest =>
      rw [closingBrace_escaped, closingBrace_of_isBreak (.inl rfl) hm, Option.map_map]
      exact rel_map_append (.char (by decide) (.pair .nil)) (ih hrest hm)
  | case4 mode c rest _ _ hbrace =>
    obtain ⟨rfl, rfl⟩ := hbrace
    obtain ⟨t, rfl, hrest⟩ := exists_of_cons h (by decide)
    rw [closingBrace_last]
    exact .some ⟨.char (by decide) .nil, hrest⟩
  | case5 mode c rest _ _ hbrace outer ih =>
    obtain ⟨rfl, rfl⟩ := hbrace
    obtain ⟨t, rfl, hrest⟩ := exists_of_cons h (by decide)
    rw [closingBrace_inner]
    exact rel_map_append (.char (by decide) .nil) (ih hrest (by simp))
  | case6 depth mode c rest hlast hescape hbrace =>
    rename_i ih
    have hbackslash : c ≠ '\\' := by
      intro hc
      cases rest with
      | nil => exact hlast hc rfl
      | cons d more => exact hescape d more hc rfl
    cases h with
    | char hc hrest =>
      rw [closingBrace_of_plain hbackslash hbrace]
      exact rel_map_append (.char hc .nil) (ih hrest (not_isBreak_insideQuote hc hm))
    | feed hrest =>
      rw [closingBrace_of_plain hbackslash hbrace]
      have hm' := (insideQuote_of_isBreak (.inl rfl) hm).symm ▸ hm
      exact rel_map_append (.feed .nil) (ih hrest hm')
    | pair hrest =>
      rw [closingBrace_of_isBreak (.inr rfl) hm, closingBrace_of_plain hbackslash hbrace,
        Option.map_map]
      have hm' := (insideQuote_of_isBreak (.inl rfl) hm).symm ▸ hm
      exact rel_map_append (.pair .nil) (ih hrest hm')

/-- In the rest `s` of a template no interpolation that is come to goes over several lines. -/
def OneLineSpans (policy : Interpolation) (s : List Char) : Prop :=
  ∀ ⦃rest inside after : List Char⦄, TemplateReaches policy s ('$' :: '\x7b' :: rest) →
    SpanBody 0 none rest inside after → '\n' ∉ inside

theorem OneLineSpans.mono {s' : List Char}
    (hr : ∀ {u}, TemplateReaches policy s' u → TemplateReaches policy s u)
    (h : OneLineSpans policy s) : OneLineSpans policy s' :=
  fun _ _ _ hreaches => h (hr hreaches)

theorem alike_templateBody (h : WithReturns s t) (hspans : OneLineSpans policy s) :
    Alike (Leaves id) (templateBody policy start s) (templateBody policy start' t) := by
  have hnone : ∀ q ∈ (none : Option Char), ¬ IsBreak q := by simp
  fun_induction templateBody policy start s generalizing t with
  | case1 =>
    cases h
    rw [templateBody]
    exact .refused
  | case2 rest =>
    obtain ⟨t, rfl, hrest⟩ := exists_of_cons h (by decide)
    rw [templateBody]
    exact .ok ⟨rfl, hrest⟩
  | case3 rest e hescape =>
    obtain ⟨t, rfl, hrest⟩ := exists_of_cons h (by decide)
    obtain ⟨e', ht, he⟩ := (alike_escape hrest).of_error hescape
    rw [templateBody_of_failed ht]
    exact .error he
  | case4 rest piece after hescape _ ih =>
    obtain ⟨t, rfl, hrest⟩ := exists_of_cons h (by decide)
    obtain ⟨⟨_, after'⟩, ht, rfl, hafter⟩ := (alike_escape hrest).of_ok hescape
    rw [templateBody_of_escape ht]
    exact alike_prepend (ih hafter (hspans.mono (.escaped hescape)))
  | case5 rest => exact absurd h not_withReturns_return
  | case6 rest => exact absurd h not_withReturns_return
  | case7 rest hclose =>
    obtain ⟨t, rfl, hrest⟩ := exists_of_cons_cons h (by decide) (by decide)
    rcases cases_of_rel (rel_closingBrace hrest hnone) with ⟨_, ht⟩ | ⟨_, _, hs, _⟩
    · rw [templateBody_of_unclosed ht]
      exact .refused
    · cases hclose.symm.trans hs
  | case8 rest inside after hclose =>
    next hpolicy =>
    subst hpolicy
    obtain ⟨t, rfl, hrest⟩ := exists_of_cons_cons h (by decide) (by decide)
    rcases cases_of_rel (rel_closingBrace hrest hnone) with ⟨hs, _⟩ | ⟨_, y, _, ht, _⟩
    · cases hclose.symm.trans hs
    · rw [templateBody_of_refused ht]
      exact .refused
  | case9 rest inside after hclose =>
    next hpolicy ih =>
    subst hpolicy
    obtain ⟨t, rfl, hrest⟩ := exists_of_cons_cons h (by decide) (by decide)
    rcases cases_of_rel (rel_closingBrace hrest hnone) with ⟨hs, _⟩ | ⟨x, y, hs, ht, hspan⟩
    · cases hclose.symm.trans hs
    · obtain rfl : (inside, after) = x := Option.some.inj (hclose.symm.trans hs)
      have hbody := spanBody_of_closingBrace hclose
      -- The interpolation is on one line, so it reads the same in both texts.
      have hinside : y.1 = inside := eq_of_not_mem hspan.1 (hspans .here hbody)
      rw [templateBody_of_interpolation rfl ht, hinside]
      exact alike_prepend (ih hspan.2 (hspans.mono (.interpolation rfl hbody)))
  | case10 c rest hquote hbackslash _ hreturn hdollar ih =>
    obtain ⟨hplain, hhead⟩ := plain_of_ne hquote hbackslash hreturn hdollar
    have hrest := hspans.mono (.plain hplain hhead)
    cases h with
    | char hc h =>
      rw [templateBody_of_plain hplain fun hd => mt (head?_eq_some_iff h (by decide)).2 (hhead hd)]
      exact alike_prepend (ih h hrest)
    | feed h =>
      rw [templateBody_of_plain hplain (by simp)]
      exact alike_prepend (ih h hrest)
    | pair h =>
      rw [templateBody]
      exact alike_prepend (ih h hrest)

end PromptLibrary.Proofs.Literal.LineQuotes
