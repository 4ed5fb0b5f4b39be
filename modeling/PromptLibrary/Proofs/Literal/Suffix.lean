import PromptLibrary.Proofs.Literal.Balance
import PromptLibrary.Proofs.Literal.Reached
/-!
# Places are ends of the text

What follows a phrase, and what is reached in one, is an end of the text that the phrase is read
from.  A place that is named by the text after it is so a place in the text.
-/

namespace PromptLibrary.Proofs.Literal.Suffix

open PromptLibrary.Literal
open PromptLibrary.Proofs.Literal.Trivia
open PromptLibrary.Proofs.Literal.Quote
open PromptLibrary.Proofs.Literal.Token
open PromptLibrary.Proofs.Literal.Grammar
open PromptLibrary.Proofs.Literal.Balance
open PromptLibrary.Proofs.Literal.Faults
open PromptLibrary.Proofs.Literal.Spots
open PromptLibrary.Proofs.Literal.Reached

variable {allowed : List Char → Prop} {lexis : Lexis} {policy : Interpolation} {n d depth : Nat}
  {s t r inside : List Char} {c quote : Char} {piece text : Text} {template : Bool}
  {mode : Option Char} {spans : List (List Char)} {p : Char → Prop} {v : Value} {key : Text}
  {ph : Phrase} {part : Part} {spot : Spot}

theorem suffix_of_only (h : Only p s r) : r <:+ s := by
  obtain ⟨w, rfl, _⟩ := h
  exact List.suffix_append w r

theorem suffix_cons (h : r <:+ s) : r <:+ c :: s :=
  h.trans (List.suffix_cons c s)

theorem suffix_of_trivia (h : Trivia allowed s r) : r <:+ s := by
  induction h with
  | none => exact List.suffix_refl _
  | blank _ _ ih => exact suffix_cons ih
  | @line body _ _ _ _ _ ih =>
    exact suffix_cons (suffix_cons ((suffix_cons ih).trans (List.suffix_append body _)))
  | lastLine _ _ => exact List.nil_suffix
  | @block body _ _ _ _ _ ih =>
    have hend := suffix_cons (c := '*') (suffix_cons (c := '/') ih)
    exact suffix_cons (suffix_cons (hend.trans (List.suffix_append body _)))

theorem suffix_of_mark (h : Trivia allowed s (c :: r)) : r <:+ s :=
  (List.suffix_cons c r).trans (suffix_of_trivia h)

theorem suffix_of_escape (h : escape template s = .ok (piece, r)) : r <:+ s := by
  obtain ⟨c, t, rfl, ht⟩ := exists_of_escape h
  exact suffix_cons (suffix_of_only ht)

theorem suffix_of_stringBody (h : StringBody quote s text r) : r <:+ s := by
  induction h with
  | close => exact List.suffix_cons _ _
  | escaped h _ ih => exact suffix_cons (ih.trans (suffix_of_escape h))
  | plain _ _ ih => exact suffix_cons ih

/-- An interpolation is taken off the front of the text. -/
theorem eq_append_of_spanBody (h : SpanBody depth mode s inside r) : s = inside ++ r := by
  induction h with
  | last => rfl
  | inner _ ih => rw [ih, List.cons_append]
  | escaped _ ih => rw [ih, List.cons_append, List.cons_append]
  | plain _ _ _ ih => rw [ih, List.cons_append]

theorem suffix_of_spanBody (h : SpanBody depth mode s inside r) : r <:+ s :=
  eq_append_of_spanBody h ▸ List.suffix_append inside r

theorem suffix_of_templateBody (h : TemplateBody policy s spans text r) : r <:+ s := by
  induction h with
  | close => exact List.suffix_cons _ _
  | escaped h _ ih => exact suffix_cons (ih.trans (suffix_of_escape h))
  | crlf _ ih => exact suffix_cons (suffix_cons ih)
  | cr _ _ ih => exact suffix_cons ih
  | interpolation _ h _ ih => exact suffix_cons (suffix_cons (ih.trans (suffix_of_spanBody h)))
  | plain _ _ _ ih => exact suffix_cons ih

theorem suffix_of_token (h : Token allowed policy s v r) : r <:+ s := by
  cases h with
  | string _ h => exact suffix_cons (suffix_of_stringBody (stringBody_of_read h))
  | template h _ => exact suffix_cons (suffix_of_templateBody (templateBody_of_read h))
  | number h => exact suffix_of_only (only_of_read h)
  | keyword _ _ => exact List.suffix_append _ _

theorem suffix_of_key (h : Key s key r) : r <:+ s := by
  cases h with
  | string _ h _ => exact suffix_cons (suffix_of_stringBody (stringBody_of_read h))
  | number _ h _ => exact suffix_of_only (only_of_read h)
  | @name c more => exact suffix_cons (List.suffix_append more _)

/-- **What follows a phrase is an end of its text.** -/
theorem suffix_of_derives (h : Derives lexis policy d ph s r) : r <:+ s := by
  induction h with
  | token h => exact suffix_of_token h
  | parentheses _ hc ih => exact suffix_cons ((suffix_of_mark hc).trans ih)
  | object _ ih => exact suffix_cons ih
  | array _ ih => exact suffix_cons ih
  | noMore => exact List.suffix_refl _
  | plus hplus hu _ _ ih ihmore =>
    exact ((ihmore.trans ih).trans (suffix_of_trivia hu)).trans (suffix_of_mark hplus)
  | literal hu _ _ _ ih ihmore => exact (ihmore.trans ih).trans (suffix_of_trivia hu)
  | noMembers hc => exact suffix_of_mark hc
  | lastMember hk hkey hcolon _ hc ih =>
    have hliteral := ((suffix_of_mark hc).trans ih).trans (suffix_of_mark hcolon)
    exact (hliteral.trans (suffix_of_key hkey)).trans (suffix_of_trivia hk)
  | member hk hkey hcolon _ hc _ ih ihmore =>
    have hmember := (ihmore.trans (suffix_of_mark hc)).trans ih
    have hliteral := hmember.trans (suffix_of_mark hcolon)
    exact (hliteral.trans (suffix_of_key hkey)).trans (suffix_of_trivia hk)
  | noItems hc => exact suffix_of_mark hc
  | lastItem _ hc ih => exact (suffix_of_mark hc).trans ih
  | item _ hc _ ih ihmore => exact (ihmore.trans (suffix_of_mark hc)).trans ih

/-- **What is reached in a part is an end of its text.** -/
theorem suffix_of_reaches (h : Reaches policy n part s spot t) : t <:+ s := by
  induction h with
  | here => exact List.suffix_refl _
  | parentheses _ ih => exact suffix_cons ih
  | object _ ih => exact suffix_cons ih
  | array _ ih => exact suffix_cons ih
  | next hplus hu _ ih =>
    exact (ih.trans (suffix_of_trivia hu)).trans (suffix_of_mark hplus)
  | further hplus hu hp _ _ _ ih =>
    have hoperand := (ih.trans (suffix_of_derives hp)).trans (suffix_of_trivia hu)
    exact hoperand.trans (suffix_of_mark hplus)
  | first hu _ ih => exact ih.trans (suffix_of_trivia hu)
  | later hu hp _ _ ih => exact (ih.trans (suffix_of_derives hp)).trans (suffix_of_trivia hu)
  | key hk => exact suffix_of_trivia hk
  | value hk hkey hcolon _ ih =>
    have hliteral := ih.trans (suffix_of_mark hcolon)
    exact (hliteral.trans (suffix_of_key hkey)).trans (suffix_of_trivia hk)
  | member hk hkey hcolon hp _ hc _ ih =>
    have hmember := (ih.trans (suffix_of_mark hc)).trans (suffix_of_derives hp)
    have hliteral := hmember.trans (suffix_of_mark hcolon)
    exact (hliteral.trans (suffix_of_key hkey)).trans (suffix_of_trivia hk)
  | item _ ih => exact ih
  | items hp _ hc _ ih =>
    exact (ih.trans (suffix_of_mark hc)).trans (suffix_of_derives hp)

theorem suffix_of_templateReaches (h : TemplateReaches policy s t) : t <:+ s := by
  induction h with
  | here => exact List.suffix_refl _
  | escaped h _ ih => exact suffix_cons (ih.trans (suffix_of_escape h))
  | crlf _ ih => exact suffix_cons (suffix_cons ih)
  | cr _ _ ih => exact suffix_cons ih
  | interpolation _ h _ ih => exact suffix_cons (suffix_cons (ih.trans (suffix_of_spanBody h)))
  | plain _ _ _ ih => exact suffix_cons ih

end PromptLibrary.Proofs.Literal.Suffix
