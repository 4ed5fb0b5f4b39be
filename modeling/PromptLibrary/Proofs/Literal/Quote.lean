import PromptLibrary.Literal.Quote
import PromptLibrary.Proofs.Literal.Escape
/-!
# The grammar of strings and templates

The pieces of a string or a template follow one another up to the closing quote.  The relations here
say which pieces there are; the readers are shown to read exactly these.
-/

namespace PromptLibrary.Proofs.Literal.Quote

open PromptLibrary.Literal
open PromptLibrary.Proofs.Text.Runs (head?_ne_of_ne_cons)
open PromptLibrary.Proofs.Literal.Escape

/-- The rest of a string after its opening quote: its meaning and the text behind it. -/
inductive StringBody (quote : Char) : List Char → Text → List Char → Prop where
  | close {r : List Char} : StringBody quote (quote :: r) [] r
  | escaped {s after r : List Char} {piece t : Text} (h : escape false s = .ok (piece, after))
      (hrest : StringBody quote after t r) : StringBody quote ('\\' :: s) (piece ++ t) r
  | plain {c : Char} {s r : List Char} {t : Text} (hc : c ∉ ['\n', '\r', quote, '\\'])
      (hrest : StringBody quote s t r) : StringBody quote (c :: s) (.char c :: t) r

/-- The rest of an interpolation in which `depth + 1` braces are open, and the text behind it.
Inside quotes braces mean nothing; after a backslash no character does. -/
inductive SpanBody : Nat → Option Char → List Char → List Char → List Char → Prop where
  | last {r : List Char} : SpanBody 0 none ('\x7d' :: r) ['\x7d'] r
  | inner {depth : Nat} {s span r : List Char} (hrest : SpanBody depth none s span r) :
      SpanBody (depth + 1) none ('\x7d' :: s) ('\x7d' :: span) r
  | escaped {depth : Nat} {mode : Option Char} {c : Char} {s span r : List Char}
      (hrest : SpanBody depth mode s span r) :
      SpanBody depth mode ('\\' :: c :: s) ('\\' :: c :: span) r
  | plain {depth : Nat} {mode : Option Char} {c : Char} {s span r : List Char} (hc : c ≠ '\\')
      (hbrace : ¬ (mode = none ∧ c = '\x7d'))
      (hrest : SpanBody (if mode = none ∧ c = '\x7b' then depth + 1 else depth)
        (insideQuote mode c) s span r) : SpanBody depth mode (c :: s) (c :: span) r

/-- The interpolations in a template, in order; `s` follows the opening backtick. -/
def spansOf (s : List Char) : List (List Char) :=
  match s with
  | [] => []
  | '\x60' :: _ => []
  | '\\' :: rest =>
    match h : escape true rest with
    | .error _ => []
    | .ok (_, after) =>
      have := length_escape_lt h
      spansOf after
  | '$' :: '\x7b' :: rest =>
    match h : closingBrace? 0 none rest with
    | none => []
    | some (inside, after) =>
      have := length_closingBrace_lt h
      ('$' :: '\x7b' :: inside) :: spansOf after
  | _ :: rest => spansOf rest
termination_by s.length

/-- The rest of a template after its opening backtick: its interpolations, its meaning and the text
behind it. -/
inductive TemplateBody (policy : Interpolation) :
    List Char → List (List Char) → Text → List Char → Prop where
  | close {r : List Char} : TemplateBody policy ('\x60' :: r) [] [] r
  | escaped {s after r : List Char} {spans : List (List Char)} {piece t : Text}
      (h : escape true s = .ok (piece, after)) (hrest : TemplateBody policy after spans t r) :
      TemplateBody policy ('\\' :: s) spans (piece ++ t) r
  | crlf {s r : List Char} {spans : List (List Char)} {t : Text}
      (hrest : TemplateBody policy s spans t r) :
      TemplateBody policy ('\r' :: '\n' :: s) spans (.char '\n' :: t) r
  | cr {s r : List Char} {spans : List (List Char)} {t : Text} (hs : s.head? ≠ some '\n')
      (hrest : TemplateBody policy s spans t r) :
      TemplateBody policy ('\r' :: s) spans (.char '\n' :: t) r
  | interpolation {s inside after r : List Char} {spans : List (List Char)} {t : Text}
      (hpolicy : policy = .literal) (h : SpanBody 0 none s inside after)
      (hrest : TemplateBody policy after spans t r) :
      TemplateBody policy ('$' :: '\x7b' :: s) (('$' :: '\x7b' :: inside) :: spans)
        (Text.ofChars ('$' :: '\x7b' :: inside) ++ t) r
  | plain {c : Char} {s r : List Char} {spans : List (List Char)} {t : Text}
      (hc : c ∉ ['\x60', '\\', '\r']) (hs : c = '$' → s.head? ≠ some '\x7b')
      (hrest : TemplateBody policy s spans t r) :
      TemplateBody policy (c :: s) spans (.char c :: t) r

variable {policy : Interpolation} {quote c : Char} {s after r k start inside : List Char}
  {spans : List (List Char)} {t piece : Text}

/-! ## The reader of strings -/

theorem isQuote_ne (hq : quote = '\'' ∨ quote = '"') :
    ¬ (quote = '\n' ∨ quote = '\r') ∧ quote ≠ '\\' := by
  rcases hq with rfl | rfl <;> decide

theorem stringBody_of_escape (hq : quote = '\'' ∨ quote = '"')
    (h : escape false s = .ok (piece, after)) :
    stringBody quote start ('\\' :: s) = prepend piece (stringBody quote start after) := by
  rw [stringBody, if_neg (by decide), if_neg (isQuote_ne hq).2.symm, if_pos rfl]
  split
  · next he => simp [h] at he
  · next he =>
    obtain ⟨rfl, rfl⟩ : piece = _ ∧ after = _ := by simpa using h.symm.trans he
    rfl

theorem stringBody_of_failed {e : Failure} (hq : quote = '\'' ∨ quote = '"')
    (h : escape false s = .error e) : stringBody quote start ('\\' :: s) = .error e := by
  rw [stringBody, if_neg (by decide), if_neg (isQuote_ne hq).2.symm, if_pos rfl]
  split
  · next he => exact he.symm.trans h
  · next he => simp [h] at he

theorem stringBody_of_plain (hc : c ∉ ['\n', '\r', quote, '\\']) :
    stringBody quote start (c :: s) = prepend [.char c] (stringBody quote start s) := by
  simp only [List.mem_cons, List.not_mem_nil, or_false, not_or] at hc
  rw [stringBody, if_neg (by simp [hc]), if_neg hc.2.2.1, if_neg hc.2.2.2]

theorem read_of_stringBody (hq : quote = '\'' ∨ quote = '"') (h : StringBody quote s t r) :
    stringBody quote start s = .ok (t, r) := by
  induction h with
  | close => rw [stringBody, if_neg (isQuote_ne hq).1, if_pos rfl]
  | escaped h _ ih => rw [stringBody_of_escape hq h, prepend_eq_ok.2 ⟨_, ih, rfl⟩]
  | plain hc _ ih =>
    rw [stringBody_of_plain hc, prepend_eq_ok.2 ⟨_, ih, rfl⟩]
    rfl

theorem stringBody_of_read (h : stringBody quote start s = .ok (t, r)) :
    StringBody quote s t r := by
  fun_induction stringBody quote start s generalizing t with
  | case1 => simp at h
  | case2 => simp at h
  | case3 =>
    simp only [Except.ok.injEq, Prod.mk.injEq] at h
    rw [← h.1, ← h.2]
    exact .close
  | case4 => simp at h
  | case5 rest piece after hescape _ _ _ ih =>
    obtain ⟨u, hu, rfl⟩ := prepend_eq_ok.1 h
    exact .escaped hescape (ih hu)
  | case6 c rest hline hclose hbackslash ih =>
    obtain ⟨u, hu, rfl⟩ := prepend_eq_ok.1 h
    rw [not_or] at hline
    exact .plain (by simp [hline, hclose, hbackslash]) (ih hu)

/-- **Strings are read as the grammar has them.** -/
theorem stringBody_eq_ok_iff (hq : quote = '\'' ∨ quote = '"') :
    stringBody quote start s = .ok (t, r) ↔ StringBody quote s t r :=
  ⟨stringBody_of_read, read_of_stringBody hq⟩

/-! ## The search for a closing brace -/

theorem map_eq_some_append (pre : List Char) {x : Option (List Char × List Char)}
    (h : x.map (fun (span, after) => (pre ++ span, after)) = some (inside, after)) :
    ∃ span, x = some (span, after) ∧ inside = pre ++ span := by
  obtain ⟨⟨span, after'⟩, hx, he⟩ := Option.map_eq_some_iff.1 h
  obtain ⟨rfl, rfl⟩ := Prod.mk.inj he
  exact ⟨span, hx, rfl⟩

theorem spanBody_of_closingBrace {depth : Nat} {mode : Option Char}
    (h : closingBrace? depth mode s = some (inside, after)) :
    SpanBody depth mode s inside after := by
  fun_induction closingBrace? depth mode s generalizing inside with
  | case1 => simp at h
  | case2 => simp at h
  | case3 depth mode c rest ih =>
    obtain ⟨span, hspan, rfl⟩ := map_eq_some_append ['\\', c] h
    exact .escaped (ih hspan)
  | case4 mode c rest _ _ hbrace =>
    obtain ⟨rfl, rfl⟩ := hbrace
    simp only [Option.some.injEq, Prod.mk.injEq] at h
    rw [← h.1, ← h.2]
    exact .last
  | case5 mode c rest _ _ hbrace outer ih =>
    obtain ⟨rfl, rfl⟩ := hbrace
    obtain ⟨span, hspan, rfl⟩ := map_eq_some_append ['\x7d'] h
    exact .inner (ih hspan)
  | case6 depth mode c rest h₁ h₂ hbrace =>
    rename_i ih
    obtain ⟨span, hspan, rfl⟩ := map_eq_some_append [c] h
    have hc : c ≠ '\\' := by
      intro hc
      cases rest with
      | nil => exact h₁ hc rfl
      | cons d more => exact h₂ d more hc rfl
    exact .plain hc hbrace (ih hspan)

theorem closingBrace_escaped {depth : Nat} {mode : Option Char} :
    closingBrace? depth mode ('\\' :: c :: s) =
      (closingBrace? depth mode s).map fun x => (['\\', c] ++ x.1, x.2) := by
  rw [closingBrace?]
  rfl

/-- One character that is no backslash and closes no brace. -/
theorem closingBrace_of_plain {depth : Nat} {mode : Option Char} (hc : c ≠ '\\')
    (hbrace : ¬ (mode = none ∧ c = '\x7d')) :
    closingBrace? depth mode (c :: s) =
      (closingBrace? (if mode = none ∧ c = '\x7b' then depth + 1 else depth)
        (insideQuote mode c) s).map fun x => ([c] ++ x.1, x.2) := by
  have hempty : c = '\\' → s = [] → False := fun he _ => hc he
  have hmore : ∀ d more, c = '\\' → s = d :: more → False := fun _ _ he _ => hc he
  cases depth with
  | zero =>
    rw [closingBrace?.eq_4 mode c s hempty hmore, if_neg hbrace]
    rfl
  | succ outer =>
    rw [closingBrace?.eq_5 mode c s outer hempty hmore, if_neg hbrace]
    rfl

theorem closingBrace_last : closingBrace? 0 none ('\x7d' :: s) = some (['\x7d'], s) :=
  rfl

theorem closingBrace_inner {depth : Nat} :
    closingBrace? (depth + 1) none ('\x7d' :: s) =
      (closingBrace? depth none s).map fun x => (['\x7d'] ++ x.1, x.2) := by
  rw [closingBrace?, if_pos ⟨rfl, rfl⟩]
  · rfl
  · simp
  · simp

theorem closingBrace_of_spanBody {depth : Nat} {mode : Option Char}
    (h : SpanBody depth mode s inside after) :
    closingBrace? depth mode s = some (inside, after) := by
  induction h with
  | last => exact closingBrace_last
  | inner _ ih =>
    rw [closingBrace_inner, ih]
    rfl
  | escaped _ ih =>
    rw [closingBrace_escaped, ih]
    rfl
  | plain hc hbrace _ ih =>
    rw [closingBrace_of_plain hc hbrace, ih]
    rfl

theorem closingBrace_eq_some_iff {depth : Nat} {mode : Option Char} :
    closingBrace? depth mode s = some (inside, after) ↔ SpanBody depth mode s inside after :=
  ⟨spanBody_of_closingBrace, closingBrace_of_spanBody⟩

/-! ## The reader of templates -/

theorem spansOf_of_escape (h : escape true s = .ok (piece, after)) :
    spansOf ('\\' :: s) = spansOf after := by
  rw [spansOf]
  split
  · next he => simp [h] at he
  · next he =>
    obtain ⟨_, rfl⟩ : piece = _ ∧ after = _ := by simpa using h.symm.trans he
    rfl

theorem spansOf_of_interpolation (h : closingBrace? 0 none s = some (inside, after)) :
    spansOf ('$' :: '\x7b' :: s) = ('$' :: '\x7b' :: inside) :: spansOf after := by
  rw [spansOf]
  split
  · next he => simp [h] at he
  · next he =>
    obtain ⟨rfl, rfl⟩ : inside = _ ∧ after = _ := by simpa using h.symm.trans he
    rfl

theorem spansOf_of_plain (hc : c ∉ ['\x60', '\\']) (hs : c = '$' → s.head? ≠ some '\x7b') :
    spansOf (c :: s) = spansOf s := by
  simp only [List.mem_cons, List.not_mem_nil, or_false, not_or] at hc
  rw [spansOf]
  · exact hc.1
  · exact hc.2
  · rintro rest rfl rfl
    exact hs rfl rfl

/-- What the reader of templates takes for nothing else is a character that stands for itself. -/
theorem plain_of_ne (hquote : c ≠ '\x60') (hbackslash : c ≠ '\\') (hcr : c ≠ '\r')
    (hdollar : ∀ more, c = '$' → s = '\x7b' :: more → False) :
    c ∉ ['\x60', '\\', '\r'] ∧ (c = '$' → s.head? ≠ some '\x7b') :=
  ⟨by simp [hquote, hbackslash, hcr],
    fun hc => head?_ne_of_ne_cons fun more hs => hdollar more hc hs⟩

theorem templateBody_of_read (h : templateBody policy start s = .ok (t, r)) :
    TemplateBody policy s (spansOf s) t r := by
  fun_induction templateBody policy start s generalizing t with
  | case1 => simp at h
  | case2 rest =>
    simp only [Except.ok.injEq, Prod.mk.injEq] at h
    rw [← h.1, ← h.2, spansOf]
    exact .close
  | case3 => simp at h
  | case4 rest piece after hescape _ ih =>
    obtain ⟨u, hu, rfl⟩ := prepend_eq_ok.1 h
    rw [spansOf_of_escape hescape]
    exact .escaped hescape (ih hu)
  | case5 rest ih =>
    obtain ⟨u, hu, rfl⟩ := prepend_eq_ok.1 h
    rw [spansOf_of_plain (by decide) (by simp), spansOf_of_plain (by decide) (by simp)]
    exact .crlf (ih hu)
  | case6 rest hne ih =>
    obtain ⟨u, hu, rfl⟩ := prepend_eq_ok.1 h
    rw [spansOf_of_plain (by decide) (by simp)]
    exact .cr (head?_ne_of_ne_cons hne) (ih hu)
  | case7 => simp at h
  | case8 => simp at h
  | case9 rest inside after hclose _ _ hpolicy =>
    rename_i ih
    subst hpolicy
    obtain ⟨u, hu, rfl⟩ := prepend_eq_ok.1 h
    rw [spansOf_of_interpolation hclose]
    exact .interpolation rfl (spanBody_of_closingBrace hclose) (ih hu)
  | case10 c rest hquote hbackslash _ hcr hdollar ih =>
    obtain ⟨u, hu, rfl⟩ := prepend_eq_ok.1 h
    obtain ⟨hc, hhead⟩ := plain_of_ne hquote hbackslash hcr hdollar
    rw [spansOf_of_plain (fun h => hc (List.mem_append_left ['\r'] h)) hhead]
    exact .plain hc hhead (ih hu)

theorem templateBody_of_escape (h : escape true s = .ok (piece, after)) :
    templateBody policy start ('\\' :: s) = prepend piece (templateBody policy start after) := by
  rw [templateBody]
  split
  · next he => simp [h] at he
  · next he =>
    obtain ⟨rfl, rfl⟩ : piece = _ ∧ after = _ := by simpa using h.symm.trans he
    rfl

theorem templateBody_of_failed {e : Failure} (h : escape true s = .error e) :
    templateBody policy start ('\\' :: s) = .error e := by
  rw [templateBody]
  split
  · next he => exact he.symm.trans h
  · next he => simp [h] at he

theorem templateBody_of_interpolation (hpolicy : policy = .literal)
    (h : closingBrace? 0 none s = some (inside, after)) :
    templateBody policy start ('$' :: '\x7b' :: s) =
      prepend (Text.ofChars ('$' :: '\x7b' :: inside)) (templateBody policy start after) := by
  subst hpolicy
  rw [templateBody]
  split
  · next he => simp [h] at he
  · next he =>
    obtain ⟨rfl, rfl⟩ : inside = _ ∧ after = _ := by simpa using h.symm.trans he
    rfl

theorem templateBody_of_refused (h : closingBrace? 0 none s = some (inside, after)) :
    templateBody .strict start ('$' :: '\x7b' :: s) =
      .error (.refused (.interpolation ('$' :: '\x7b' :: inside)) ('$' :: '\x7b' :: s)) := by
  rw [templateBody]
  split
  · next he => simp [h] at he
  · next he =>
    obtain ⟨rfl, rfl⟩ : inside = _ ∧ after = _ := by simpa using h.symm.trans he
    rfl

theorem templateBody_of_unclosed (h : closingBrace? 0 none s = none) :
    templateBody policy start ('$' :: '\x7b' :: s) =
      .error (.refused .unterminatedInterpolation ('\x7b' :: s)) := by
  rw [templateBody]
  split
  · rfl
  · next he => simp [h] at he

theorem templateBody_of_plain (hc : c ∉ ['\x60', '\\', '\r'])
    (hs : c = '$' → s.head? ≠ some '\x7b') :
    templateBody policy start (c :: s) = prepend [.char c] (templateBody policy start s) := by
  simp only [List.mem_cons, List.not_mem_nil, or_false, not_or] at hc
  rw [templateBody]
  · exact hc.1
  · exact hc.2.1
  · exact fun _ he _ => hc.2.2 he
  · exact hc.2.2
  · rintro rest rfl rfl
    exact hs rfl rfl

theorem read_of_templateBody (h : TemplateBody policy s spans t r) :
    templateBody policy start s = .ok (t, r) := by
  induction h with
  | close => rw [templateBody]
  | escaped h _ ih => rw [templateBody_of_escape h, prepend_eq_ok.2 ⟨_, ih, rfl⟩]
  | crlf _ ih =>
    rw [templateBody, prepend_eq_ok.2 ⟨_, ih, rfl⟩]
    rfl
  | @cr s _ _ _ hs _ ih =>
    rw [templateBody, prepend_eq_ok.2 ⟨_, ih, rfl⟩]
    · rfl
    · rintro rest rfl
      exact hs rfl
  | interpolation hpolicy h _ ih =>
    rw [templateBody_of_interpolation hpolicy (closingBrace_of_spanBody h),
      prepend_eq_ok.2 ⟨_, ih, rfl⟩]
  | plain hc hs _ ih =>
    rw [templateBody_of_plain hc hs, prepend_eq_ok.2 ⟨_, ih, rfl⟩]
    rfl

/-- **Templates are read as the grammar has them**, and their interpolations are found as well. -/
theorem templateBody_eq_ok_iff :
    templateBody policy start s = .ok (t, r) ↔ TemplateBody policy s (spansOf s) t r :=
  ⟨templateBody_of_read, read_of_templateBody⟩

end PromptLibrary.Proofs.Literal.Quote
