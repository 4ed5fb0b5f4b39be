import PromptLibrary.Proofs.Literal.Balance
/-!
# Levels of brackets

A scan that knows nothing of the grammar counts the brackets that are open: it goes over comments,
strings and templates and takes note of each opening bracket, with the number of brackets that are
open from there on.  Between the ends of a phrase it comes to as many closing brackets as opening
ones, and the number that it starts with does not matter.

* `levels_of_trivia`, `levels_of_token`, `levels_of_key` — no brackets outside of the grammar;
* `Counts` — between the ends of a stretch of text the count comes down by a fixed number, whatever
  it starts with.
-/

namespace PromptLibrary.Proofs.Literal.Levels

open PromptLibrary.Text
open PromptLibrary.Literal
open PromptLibrary.Proofs.Text.Classes
open PromptLibrary.Proofs.Literal.Escape
open PromptLibrary.Proofs.Literal.Quote
open PromptLibrary.Proofs.Literal.Trivia
open PromptLibrary.Proofs.Literal.Token
open PromptLibrary.Proofs.Literal.Grammar
open PromptLibrary.Proofs.Literal.Balance

def isClosing (c : Char) : Bool :=
  c = '\x7d' || c = ']' || c = ')'

/-- The opening brackets in a text before which `n` brackets are open: for each one the number of
brackets open from there on, and the text after it.  Brackets in comments, strings and templates do
not count. -/
def levels (n : Nat) (s : List Char) : List (Nat × List Char) :=
  match s with
  | [] => []
  | '/' :: '/' :: rest =>
    have := length_afterLine_le rest
    levels n (afterLine rest)
  | '/' :: '*' :: rest =>
    match h : afterComment? rest with
    | none => []
    | some after =>
      have := length_afterComment_le h
      levels n after
  | c :: rest =>
    if c = '\'' ∨ c = '"' then
      match h : stringBody c (c :: rest) rest with
      | .error _ => []
      | .ok (_, after) =>
        have := length_stringBody_lt h
        levels n after
    else if c = '\x60' then
      match h : templateBody .literal (c :: rest) rest with
      | .error _ => []
      | .ok (_, after) =>
        have := length_templateBody_lt h
        levels n after
    else if isOpening c then (n + 1, rest) :: levels (n + 1) rest
    else if isClosing c then levels (n - 1) rest
    else levels n rest
termination_by s.length

/-- The same brackets with `k` more of them open. -/
def raise (k : Nat) (ls : List (Nat × List Char)) : List (Nat × List Char) :=
  ls.map fun x => (k + x.1, x.2)

/-- Between `s` and `r` stand the opening brackets `ls` and as many closing ones, and `b` more that
close what has been open before. -/
def Counts (b : Nat) (ls : List (Nat × List Char)) (s r : List Char) : Prop :=
  ∀ k, levels (k + b) s = raise (k + b) ls ++ levels k r

/-- A character that is no bracket and begins neither a comment nor something in quotes. -/
abbrev Idle (c : Char) : Prop :=
  c ∉ ['/', '\'', '"', '\x60', '\x7b', '[', '(', '\x7d', ']', ')']

variable {allowed : List Char → Prop} {lexis : Lexis} {policy : Interpolation} {b d k n : Nat}
  {s t u m r body : List Char} {c : Char} {v : Value} {key : Text} {ph : Phrase}
  {ls ls' : List (Nat × List Char)} {spans : List (List Char)} {text : Text}

/-! ## One step of the scan -/

theorem levels_nil : levels n [] = [] := by
  rw [levels]

theorem levels_line : levels n ('/' :: '/' :: s) = levels n (afterLine s) := by
  rw [levels]

theorem levels_block (h : afterComment? s = some r) :
    levels n ('/' :: '*' :: s) = levels n r := by
  rw [levels]
  split
  · next hnone => simp [h] at hnone
  · next hsome => rw [Option.some.inj (h.symm.trans hsome)]

/-- What the scan does with a character that begins no comment. -/
theorem levels_cons (hc : c ≠ '/') : levels n (c :: s) =
    if c = '\'' ∨ c = '"' then
      match stringBody c (c :: s) s with
      | .error _ => []
      | .ok (_, after) => levels n after
    else if c = '\x60' then
      match templateBody .literal (c :: s) s with
      | .error _ => []
      | .ok (_, after) => levels n after
    else if isOpening c then (n + 1, s) :: levels (n + 1) s
    else if isClosing c then levels (n - 1) s
    else levels n s := by
  rw [levels]
  · congr 1
    · split <;> simp [*]
    · congr 1
      split <;> simp [*]
  · rintro rest rfl
    exact absurd rfl hc
  · rintro rest rfl
    exact absurd rfl hc

theorem levels_string (hq : c = '\'' ∨ c = '"') (h : stringBody c (c :: s) s = .ok (text, r)) :
    levels n (c :: s) = levels n r := by
  have hslash : c ≠ '/' := by rcases hq with rfl | rfl <;> decide
  rw [levels_cons hslash, if_pos hq, h]

theorem levels_template (h : templateBody .literal ('\x60' :: s) s = .ok (text, r)) :
    levels n ('\x60' :: s) = levels n r := by
  rw [levels_cons (by decide), if_neg (by decide), if_pos rfl, h]

theorem levels_opening (hc : isOpening c = true) :
    levels n (c :: s) = (n + 1, s) :: levels (n + 1) s := by
  have hmark : c = '\x7b' ∨ c = '[' ∨ c = '(' := by simpa [isOpening, or_assoc] using hc
  have hother : c ≠ '/' ∧ ¬ (c = '\'' ∨ c = '"') ∧ c ≠ '\x60' := by
    rcases hmark with rfl | rfl | rfl <;> decide
  rw [levels_cons hother.1, if_neg hother.2.1, if_neg hother.2.2, if_pos hc]

theorem levels_closing (hc : isClosing c = true) : levels (n + 1) (c :: s) = levels n s := by
  have hmark : c = '\x7d' ∨ c = ']' ∨ c = ')' := by simpa [isClosing, or_assoc] using hc
  have hother : c ≠ '/' ∧ ¬ (c = '\'' ∨ c = '"') ∧ c ≠ '\x60' ∧ ¬ isOpening c = true := by
    rcases hmark with rfl | rfl | rfl <;> decide
  rw [levels_cons hother.1, if_neg hother.2.1, if_neg hother.2.2.1, if_neg hother.2.2.2, if_pos hc]
  rfl

theorem levels_idle (hc : Idle c) : levels n (c :: s) = levels n s := by
  simp only [Idle, List.mem_cons, List.not_mem_nil, or_false, not_or] at hc
  rw [levels_cons hc.1, if_neg (by simp [hc]), if_neg hc.2.2.2.1, if_neg (by simp [isOpening, hc]),
    if_neg (by simp [isClosing, hc])]

theorem levels_only (h : Only Idle s r) : levels n s = levels n r := by
  obtain ⟨w, rfl, hw⟩ := h
  induction w with
  | nil => rfl
  | cons c w ih =>
    obtain ⟨hc, hmore⟩ := List.forall_mem_cons.1 hw
    rw [List.cons_append, levels_idle hc, ih hmore]

/-! ## Trivia and tokens -/

theorem idle_of_isNamePart (c : Char) (h : isNamePart c = true) : Idle c :=
  not_mem_of_class h (by decide)

theorem idle_of_numberPoint (c : Char) (h : NumberPoint c) : Idle c := by
  rcases h with h | h | ⟨base, h⟩ | h
  · exact not_mem_of_class h (by decide)
  · exact idle_of_isNamePart c h
  · exact not_mem_of_isDigitOf h (by decide)
  · simp only [List.mem_cons, List.not_mem_nil, or_false] at h
    rcases h with rfl | rfl | rfl <;> decide

theorem levels_of_trivia (h : Trivia allowed s r) : levels n s = levels n r := by
  induction h with
  | none => rfl
  | blank hc _ ih => rw [levels_idle (not_mem_of_class hc (by decide)), ih]
  | line hb _ _ ih => rw [levels_line, afterLine_append hb, ih]
  | lastLine hb _ => rw [levels_line, afterLine_eq_nil hb]
  | block hb _ _ ih => rw [levels_block (afterComment_append hb), ih]

/-- A template that is read at all is read in the same way if interpolations are kept. -/
theorem templateBody_literal (h : TemplateBody policy s spans text r) :
    TemplateBody .literal s spans text r := by
  induction h with
  | close => exact .close
  | escaped h _ ih => exact .escaped h ih
  | crlf _ ih => exact .crlf ih
  | cr hs _ ih => exact .cr hs ih
  | interpolation _ h _ ih => exact .interpolation rfl h ih
  | plain hc hs _ ih => exact .plain hc hs ih

theorem levels_of_name (hc : isNameStart c = true) (hm : ∀ d ∈ m, isNamePart d = true) :
    levels n (c :: (m ++ r)) = levels n r := by
  have hstart : Idle c := not_mem_of_class hc (by decide)
  rw [levels_idle hstart, levels_only ⟨m, rfl, fun d hd => idle_of_isNamePart d (hm d hd)⟩]

theorem levels_of_token (h : Token allowed policy s v r) : levels n s = levels n r := by
  cases h with
  | string hq h => exact levels_string hq h
  | template h _ =>
    exact levels_template (read_of_templateBody (templateBody_literal (templateBody_of_read h)))
  | number h => exact levels_only ((only_of_read h).imp idle_of_numberPoint)
  | keyword h _ =>
    obtain ⟨c, more, rfl, hc, hmore⟩ := exists_cons_of_keyword h
    exact levels_of_name hc hmore

theorem levels_of_key (h : Key s key r) : levels n s = levels n r := by
  cases h with
  | string hq h _ => exact levels_string hq h
  | number _ h _ => exact levels_only ((only_of_read h).imp idle_of_numberPoint)
  | name hc hm _ => exact levels_of_name hc hm

/-! ## Stretches of text -/

theorem raise_append : raise k (ls ++ ls') = raise k ls ++ raise k ls' :=
  List.map_append

theorem raise_raise : raise k (raise n ls) = raise (k + n) ls := by
  rw [raise, raise, List.map_map]
  refine List.map_congr_left fun x _ => ?_
  simp [Nat.add_assoc]

theorem counts_of_eq (h : ∀ n, levels n s = levels n r) : Counts 0 [] s r :=
  fun k => h k

theorem counts_trans (h : Counts 0 ls s m) (h' : Counts b ls' m r) :
    Counts b (ls ++ ls') s r := by
  intro k
  have hs := h (k + b)
  rw [Nat.add_zero] at hs
  rw [hs, h' k, raise_append, List.append_assoc]

theorem counts_of_trivia (ht : Trivia allowed s t) (h : Counts b ls t r) : Counts b ls s r :=
  counts_trans (counts_of_eq fun _ => levels_of_trivia ht) h

theorem counts_idle (hc : Idle c) (h : Counts b ls s r) : Counts b ls (c :: s) r :=
  counts_trans (counts_of_eq fun _ => levels_idle hc) h

theorem counts_opening (hc : isOpening c = true) (h : Counts 1 ls s r) :
    Counts 0 ((1, s) :: raise 1 ls) (c :: s) r := by
  intro k
  rw [Nat.add_zero, levels_opening hc, h k, ← raise_raise]
  rfl

theorem counts_closing (hc : isClosing c = true) : Counts 1 [] (c :: r) r :=
  fun _ => levels_closing hc

end PromptLibrary.Proofs.Literal.Levels
