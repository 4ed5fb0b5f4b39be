import PromptLibrary.Literal.Evaluate
import PromptLibrary.Proofs.Literal.Quote
import PromptLibrary.Proofs.Literal.Steps
import PromptLibrary.Proofs.Literal.Trivia
import PromptLibrary.Proofs.Number.Digits
/-!
# Spelled strings

A string is written as a row of elements: characters that stand for themselves, line endings and
escapes.  Each element has a spelling and a meaning of its own, and what may follow it is told by
one character.  The readers decode a row of elements to their meanings in a row:

* `escape_of_text` — one escape, whatever follows it legally;
* `read_element` — one element of a string or a template;
* `read_spelling` — the whole row, and the literal that it makes between quotes.
-/

namespace PromptLibrary.Proofs.Literal.Spelling

open PromptLibrary.Literal
open PromptLibrary.Proofs.Literal.Escape
open PromptLibrary.Proofs.Literal.Quote
open PromptLibrary.Proofs.Literal.Steps
open PromptLibrary.Proofs.Literal.Trivia
open PromptLibrary.Proofs.Number.Digits
open PromptLibrary.Proofs.Text.Runs (head?_append_of_ne_nil)

/-! ## Escapes -/

/-- The line endings that a backslash may be put before. -/
inductive LineEnding where
  | lineFeed
  | carriageReturn
  | both
  | lineSeparator
  | paragraphSeparator
  deriving DecidableEq

def LineEnding.spelling : LineEnding → List Char
  | lineFeed => ['\n']
  | carriageReturn => ['\r']
  | both => ['\r', '\n']
  | lineSeparator => ['\u2028']
  | paragraphSeparator => ['\u2029']

/-- What may come after a backslash. -/
inductive Escape where
  /-- A letter that stands for a control character. -/
  | control (letter value : Char)
  | twoDigits (a b : Digit 16)
  | fourDigits (a b c d : Digit 16)
  /-- Digits between braces, at least one. -/
  | braced (first : Digit 16) (more : List (Digit 16))
  | continuation (e : LineEnding)
  | null
  | octal (first : Digit 8) (more : List (Digit 8))
  /-- Any other character, which stands for itself. -/
  | itself (c : Char)
  deriving DecidableEq

/-- The letters that stand for control characters. -/
def controls : List (Char × Char) :=
  [('n', '\n'), ('t', '\t'), ('r', '\r'), ('b', '\x08'), ('f', '\x0c'), ('v', '\x0b')]

def octals : List Char := "01234567".toList

/-- The characters that do not stand for themselves after a backslash. -/
def special : List Char :=
  controls.map (·.1) ++ ['x', 'u', '\n', '\r', '\u2028', '\u2029'] ++ octals

/-- How many digits an octal escape may have. -/
def mostOctal (first : Digit 8) : Nat :=
  if first.value ≤ 3 then 3 else 2

/-- The code point of a number; there is none from 0x110000 on. -/
def point (n : Nat) : Text :=
  (CodePoint.ofNat? n).toList

namespace Escape

/-- How an escape is written after its backslash. -/
def text : Escape → List Char
  | control letter _ => [letter]
  | twoDigits a b => 'x' :: spelled [a, b]
  | fourDigits a b c d => 'u' :: spelled [a, b, c, d]
  | braced first more => 'u' :: '\x7b' :: spelled (first :: more) ++ ['\x7d']
  | continuation e => e.spelling
  | null => ['0']
  | octal first more => spelled (first :: more)
  | itself c => [c]

def meaning : Escape → PromptLibrary.Text
  | control _ value => [.char value]
  | twoDigits a b => point (number [a, b])
  | fourDigits a b c d => point (number [a, b, c, d])
  | braced first more => point (number (first :: more))
  | continuation _ => []
  | null => [.char '\x00']
  | octal first more => point (number (first :: more))
  | itself c => [.char c]

/-- The escapes that there are, in a template and elsewhere. -/
def Allowed (template : Bool) : Escape → Prop
  | control letter value => (letter, value) ∈ controls
  | braced first more => number (first :: more) ≤ 0x10FFFF
  | octal first more => template = false ∧ more.length < mostOctal first
  | itself c => c ∉ special
  | _ => True

/-- The character after an escape is not one that would be read as a part of it. -/
def Before (next : Option Char) : Escape → Prop
  | continuation .carriageReturn => next ≠ some '\n'
  | null => ∀ c ∈ next, c.isDigit = false
  | octal first more => more.length + 1 = mostOctal first ∨ ∀ c ∈ next, c ∉ octals
  | _ => True

end Escape

/-! ## Elements of strings -/

/-- The styles in which a string is written. -/
inductive Style where
  | single
  | double
  | template
  deriving DecidableEq

def Style.quote : Style → Char
  | single => '\''
  | double => '"'
  | template => '\x60'

def Style.isTemplate : Style → Bool
  | template => true
  | _ => false

/-- The reader of what stands after the opening quote; `opening` is the text from that quote on. -/
def Style.read (style : Style) (policy : Interpolation) (opening s : List Char) :
    Except Failure (Text × List Char) :=
  if style.isTemplate then templateBody policy opening s else stringBody style.quote opening s

inductive Element where
  /-- A character that stands for itself. -/
  | plain (c : Char)
  /-- A line ending of a template that is not a line feed alone. -/
  | carriageReturn
  | returnAndFeed
  | escape (e : Escape)
  deriving DecidableEq

namespace Element

def spelling : Element → List Char
  | plain c => [c]
  | carriageReturn => ['\r']
  | returnAndFeed => ['\r', '\n']
  | escape e => '\\' :: e.text

def meaning : Element → PromptLibrary.Text
  | plain c => [.char c]
  | carriageReturn => [.char '\n']
  | returnAndFeed => [.char '\n']
  | escape e => e.meaning

/-- The elements of a style.  Only templates go over several lines. -/
def Allowed (style : Style) : Element → Prop
  | plain c => c ∉ [style.quote, '\\', '\r'] ∧ (c = '\n' → style = .template)
  | carriageReturn => style = .template
  | returnAndFeed => style = .template
  | escape e => e.Allowed style.isTemplate

/-- The character after an element does not make another element of it. -/
def Before (style : Style) (next : Option Char) : Element → Prop
  | plain c => style = .template → c = '$' → next ≠ some '\x7b'
  | carriageReturn => next ≠ some '\n'
  | returnAndFeed => True
  | escape e => e.Before next

end Element

/-- How elements are written. -/
def spelling (es : List Element) : List Char :=
  es.flatMap Element.spelling

/-- What elements mean, before surrogate halves are paired. -/
def meaning (es : List Element) : Text :=
  es.flatMap Element.meaning

/-- Elements that may be written between quotes, one after the other. -/
def Legal (style : Style) : List Element → Prop
  | [] => True
  | e :: es =>
    e.Allowed style ∧ e.Before style (spelling es ++ [style.quote]).head? ∧ Legal style es

/-! Whether elements are legal can be told by evaluation. -/

instance (template : Bool) : (e : Escape) → Decidable (e.Allowed template)
  | .control letter value => inferInstanceAs (Decidable ((letter, value) ∈ controls))
  | .braced first more => inferInstanceAs (Decidable (number (first :: more) ≤ 0x10FFFF))
  | .octal first more =>
    inferInstanceAs (Decidable (template = false ∧ more.length < mostOctal first))
  | .itself c => inferInstanceAs (Decidable (c ∉ special))
  | .twoDigits .. | .fourDigits .. | .continuation _ | .null => .isTrue trivial

instance (next : Option Char) : (e : Escape) → Decidable (e.Before next)
  | .continuation .carriageReturn => inferInstanceAs (Decidable (next ≠ some '\n'))
  | .null => (Option.decidableForallMem next : Decidable (∀ c ∈ next, c.isDigit = false))
  | .octal first more =>
    have : Decidable (∀ c ∈ next, c ∉ octals) := Option.decidableForallMem next
    inferInstanceAs (Decidable (more.length + 1 = mostOctal first ∨ ∀ c ∈ next, c ∉ octals))
  | .continuation .lineFeed | .continuation .both | .continuation .lineSeparator
  | .continuation .paragraphSeparator | .control .. | .twoDigits .. | .fourDigits ..
  | .braced .. | .itself _ => .isTrue trivial

instance (style : Style) : (e : Element) → Decidable (e.Allowed style)
  | .plain c => inferInstanceAs
      (Decidable (c ∉ [style.quote, '\\', '\r'] ∧ (c = '\n' → style = .template)))
  | .carriageReturn | .returnAndFeed => inferInstanceAs (Decidable (style = .template))
  | .escape e => inferInstanceAs (Decidable (e.Allowed style.isTemplate))

instance (style : Style) (next : Option Char) : (e : Element) → Decidable (e.Before style next)
  | .plain c => inferInstanceAs
      (Decidable (style = .template → c = '$' → next ≠ some '\x7b'))
  | .carriageReturn => inferInstanceAs (Decidable (next ≠ some '\n'))
  | .returnAndFeed => .isTrue trivial
  | .escape e => inferInstanceAs (Decidable (e.Before next))

instance Legal.decidable (style : Style) : (es : List Element) → Decidable (Legal style es)
  | [] => .isTrue trivial
  | e :: es =>
    have := Legal.decidable style es
    inferInstanceAs (Decidable (e.Allowed style ∧
      e.Before style (spelling es ++ [style.quote]).head? ∧ Legal style es))

/-- The literal that elements make between quotes. -/
def Style.literal (style : Style) (es : List Element) : List Char :=
  style.quote :: spelling es ++ [style.quote]

variable {s r opening : List Char} {template : Bool} {style : Style} {c : Char} {n : Nat} {t : Text}
  {policy : Interpolation} {e : Element}

/-! ## Reading an escape -/

theorem exists_point (h : n ≤ 0x10FFFF) : ∃ p, CodePoint.ofNat? n = some p ∧ point n = [p] := by
  have hpoint : (CodePoint.ofNat? n).isSome = true := by
    unfold CodePoint.ofNat?
    split
    · rfl
    · split
      · rfl
      · rw [if_pos (by omega)]
        rfl
  obtain ⟨p, hp⟩ := Option.isSome_iff_exists.1 hpoint
  exact ⟨p, hp, by rw [point, hp]; rfl⟩

theorem controlEscape_of_mem {letter value : Char} (h : (letter, value) ∈ controls) :
    controlEscape? letter = some value := by
  simp only [controls, List.mem_cons, Prod.mk.injEq, List.not_mem_nil, or_false] at h
  rcases h with ⟨rfl, rfl⟩ | ⟨rfl, rfl⟩ | ⟨rfl, rfl⟩ | ⟨rfl, rfl⟩ | ⟨rfl, rfl⟩ | ⟨rfl, rfl⟩ <;> rfl

/-- The octal digits, whose spelling has no case. -/
theorem facts_of_octal : ∀ (v : Fin 8) (u : Bool),
    Digit.char ⟨v, u⟩ ∈ octals ∧ Digit.char ⟨v, u⟩ ∉ leaders ∧
      controlEscape? (Digit.char ⟨v, u⟩) = none ∧
      octalLength (Digit.char ⟨v, u⟩) = mostOctal ⟨v, u⟩ ∧
      (Digit.char ⟨v, u⟩).isDigit = true ∧ (Digit.char ⟨v, u⟩ = '0' → v = 0) := by
  decide

theorem mem_octals_of_isOctal (h : isOctal c = true) : c ∈ octals := by
  obtain ⟨d, rfl⟩ := exists_digit_of_isDigitOf (by decide) h
  exact (facts_of_octal d.value d.upper).1

/-- A character without a meaning of its own after a backslash stands for itself. -/
theorem facts_of_not_special (h : c ∉ special) :
    c ∉ leaders ∧ controlEscape? c = none ∧ isOctal c = false := by
  have hoctal : isOctal c = false := Bool.eq_false_iff.2 fun hc =>
    h (List.mem_append_right _ (mem_octals_of_isOctal hc))
  simp only [special, controls, List.map_cons, List.map_nil, List.mem_append, List.mem_cons,
    List.not_mem_nil, or_false, not_or] at h
  refine ⟨?_, ?_, hoctal⟩
  · simp [leaders, h]
  · simp [controlEscape?, h]

theorem hexEscape_spelled (digits : List (Digit 16)) :
    hexEscape digits.length (spelled digits ++ s) = .ok (point (number digits), s) := by
  have hdigits : (spelled digits).all (Integer.isDigitOf 16) = true :=
    List.all_eq_true.2 fun _ hc => isDigitOf_of_mem_spelled (Nat.le_refl 16) hc
  refine hexEscape_eq_ok_iff.2 ⟨spelled digits, rfl, List.length_map _, hdigits, ?_⟩
  rw [ofAscii_spelled (Nat.le_refl 16)]
  rfl

theorem bracedEscape_spelled {first : Digit 16} {more : List (Digit 16)}
    (h : number (first :: more) ≤ 0x10FFFF) :
    bracedEscape (spelled (first :: more) ++ '\x7d' :: s) =
      .ok (point (number (first :: more)), s) := by
  obtain ⟨p, hp, hpoint⟩ := exists_point h
  have hread := read_spelled (Nat.le_refl 16) (List.cons_ne_nil first more) (by simp)
  have hfree : '\x7d' ∉ spelled (first :: more) := not_mem_spelled (Nat.le_refl 16) (by simp)
  have hrange : ((number (first :: more) : Nat) : Int) < Literal.codePointRange := by
    unfold Literal.codePointRange
    omega
  exact bracedEscape_eq_ok_iff.2
    ⟨_, _, p, rfl, hfree, hread, Int.natCast_nonneg _, hrange, hp, hpoint⟩

theorem octalEscape_spelled {first : Digit 8} {more : List (Digit 8)}
    (hmost : more.length < mostOctal first) (hb : (Escape.octal first more).Before s.head?) :
    octalEscape false first.char (spelled more ++ s) =
      .ok (point (number (first :: more)), s) := by
  obtain ⟨_, _, _, hoctals, _, hzero⟩ := facts_of_octal first.value first.upper
  have hlength : octalLength first.char = mostOctal first := hoctals
  have hvalue : Integer.ofAscii 8 (first.char :: spelled more) = number (first :: more) :=
    ofAscii_spelled (by decide) (first :: more)
  rw [octalEscape_eq_ok_iff]
  by_cases hnull : first.char = '0' ∧ ¬ (spelled more ++ s).head?.any Char.isDigit
  · -- A zero is read without looking for more digits, and there are none.
    obtain ⟨hfirst, hnext⟩ := hnull
    obtain rfl : more = [] := by
      cases more with
      | nil => rfl
      | cons d more =>
        refine absurd ?_ hnext
        exact (facts_of_octal d.value d.upper).2.2.2.2.1
    have hnumber : number [first] = 0 := by
      simp [number, hzero hfirst]
    exact .inl ⟨hfirst, hnext, by rw [hnumber]; rfl, rfl⟩
  · have hoctal : (spelled more).all isOctal = true :=
      List.all_eq_true.2 fun _ hc => isDigitOf_of_mem_spelled (by decide) hc
    have hend : OctalEnd first.char (spelled more) s := by
      rcases hb with hfull | hstop
      · refine .inl ?_
        rw [hlength, spelled, List.length_map]
        omega
      · exact .inr fun c hc => Bool.eq_false_iff.2 fun ho =>
          hstop c hc (mem_octals_of_isOctal ho)
    have hle : (spelled more).length ≤ octalLength first.char - 1 := by
      rw [hlength, spelled, List.length_map]
      omega
    exact .inr ⟨rfl, hnull, _, rfl, hle, hoctal, hend, by rw [hvalue]; rfl⟩

/-- **An escape is read as its meaning**, if it is allowed and the text after it does not go on
with it. -/
theorem escape_of_text {e : Escape} (ha : e.Allowed template) (hb : e.Before s.head?) :
    escape template (e.text ++ s) = .ok (e.meaning, s) := by
  cases e with
  | control letter value =>
    have hcontrol := controlEscape_of_mem ha
    have hleader : letter ∉ leaders := by
      intro h
      simp only [leaders, List.mem_cons, List.not_mem_nil, or_false] at h
      rcases h with rfl | rfl | rfl | rfl | rfl | rfl <;> simp [controlEscape?] at hcontrol
    rw [Escape.text, List.singleton_append, escape_of_not_mem_leaders hleader, hcontrol]
    rfl
  | twoDigits a b => exact hexEscape_spelled [a, b]
  | fourDigits a b c d =>
    have hbrace : a.char ≠ '\x7b' := by
      intro h
      have hdigit := isDigitOf_char (Nat.le_refl 16) a
      rw [h] at hdigit
      exact absurd hdigit (by decide)
    rw [Escape.text, List.cons_append, escape]
    · exact hexEscape_spelled [a, b, c, d]
    · rintro rest hrest
      exact hbrace (List.cons.inj hrest).1
  | braced first more =>
    have htext : (Escape.braced first more).text ++ s =
        'u' :: '\x7b' :: (spelled (first :: more) ++ '\x7d' :: s) := by
      simp [Escape.text]
    rw [htext]
    exact bracedEscape_spelled ha
  | continuation e =>
    cases e with
    | lineFeed | both | lineSeparator | paragraphSeparator => rfl
    | carriageReturn =>
      rw [Escape.text, LineEnding.spelling, List.singleton_append, escape]
      · rfl
      · rintro rest rfl
        exact hb rfl
  | null =>
    have hnext : ¬ s.head?.any Char.isDigit := by
      rw [Option.any_eq_true]
      rintro ⟨c, hc, hdigit⟩
      exact absurd hdigit (Bool.eq_false_iff.1 (hb c hc))
    exact octalEscape_eq_ok_iff.2 (.inl ⟨rfl, hnext, rfl, rfl⟩)
  | octal first more =>
    obtain ⟨rfl, hmost⟩ := ha
    obtain ⟨_, hleader, hcontrol, _⟩ := facts_of_octal first.value first.upper
    have hoctal : isOctal first.char = true := isDigitOf_char (by decide) first
    have htext : (Escape.octal first more).text ++ s = first.char :: (spelled more ++ s) := rfl
    rw [htext, escape_of_not_mem_leaders hleader, hcontrol]
    exact (if_pos hoctal).trans (octalEscape_spelled hmost hb)
  | itself c =>
    obtain ⟨hleader, hcontrol, hoctal⟩ := facts_of_not_special ha
    rw [Escape.text, List.singleton_append, escape_of_not_mem_leaders hleader, hcontrol]
    simp only [hoctal]
    rfl

/-! ## Reading a row of elements -/

theorem read_plain (ha : (Element.plain c).Allowed style)
    (hb : (Element.plain c).Before style s.head?) :
    style.read policy opening (c :: s) = prepend [.char c] (style.read policy opening s) := by
  obtain ⟨hc, hline⟩ := ha
  simp only [List.mem_cons, List.not_mem_nil, or_false, not_or] at hc
  cases style with
  | template => exact templateBody_of_plain (by simpa [Style.quote] using hc) (hb rfl)
  | single | double =>
    have hfeed : c ≠ '\n' := fun h => Style.noConfusion (hline h)
    exact stringBody_of_plain (by simp [hc, hfeed])

theorem read_escape {e : Escape} (ha : e.Allowed style.isTemplate) (hb : e.Before s.head?) :
    style.read policy opening ('\\' :: (e.text ++ s)) =
      prepend e.meaning (style.read policy opening s) := by
  have h := escape_of_text ha hb
  cases style with
  | single => exact stringBody_of_escape (.inl rfl) h
  | double => exact stringBody_of_escape (.inr rfl) h
  | template => exact templateBody_of_escape h

/-- One element is taken off whatever comes after it. -/
theorem read_element (ha : e.Allowed style) (hb : e.Before style s.head?) :
    style.read policy opening (e.spelling ++ s) =
      prepend e.meaning (style.read policy opening s) := by
  cases e with
  | plain c => exact read_plain ha hb
  | carriageReturn =>
    obtain rfl : style = .template := ha
    refine templateBody.eq_5 policy opening s ?_
    rintro rest rfl
    exact hb rfl
  | returnAndFeed =>
    obtain rfl : style = .template := ha
    exact templateBody.eq_4 policy opening s
  | escape e => exact read_escape ha hb

theorem read_quote : style.read policy opening (style.quote :: r) = .ok ([], r) := by
  cases style with
  | template => exact templateBody.eq_2 policy opening r
  | single | double => exact read_of_stringBody (by decide) .close

theorem head?_spelling_append (es : List Element) :
    (spelling es ++ style.quote :: r).head? = (spelling es ++ [style.quote]).head? := by
  cases spelling es <;> rfl

theorem read_elements (es : List Element) (h : Legal style es) :
    style.read policy opening (spelling es ++ style.quote :: r) = .ok (meaning es, r) := by
  induction es with
  | nil => exact read_quote
  | cons e es ih =>
    obtain ⟨ha, hb, hrest⟩ := h
    rw [← head?_spelling_append (r := r)] at hb
    have hsplit : spelling (e :: es) ++ style.quote :: r =
        e.spelling ++ (spelling es ++ style.quote :: r) := by
      rw [spelling, List.flatMap_cons, List.append_assoc]
      rfl
    rw [hsplit, read_element ha hb, ih hrest, prepend_eq_ok.2 ⟨meaning es, rfl, rfl⟩]
    rfl

theorem scalar_literal (es : List Element) (h : Legal style es) :
    scalar policy (style.literal es ++ r) = .ok (.string (meaning es), r) := by
  have hread : style.read policy (style.literal es ++ r) (spelling es ++ style.quote :: r) =
      .ok (meaning es, r) := read_elements es h
  have hsplit : style.literal es ++ r = style.quote :: (spelling es ++ style.quote :: r) := by
    simp [Style.literal]
  rw [hsplit] at hread ⊢
  cases style with
  | single | double | template => exact congrArg (Except.map _) hread

/-! ## Whole literals -/

theorem outcome_literal (limit : Nat) (es : List Element) (h : Legal style es) :
    outcome (operandWithin policy limit) (style.literal es) =
      .ok (.leaf (.string (meaning es)), []) := by
  obtain ⟨inner, hinner⟩ : ∃ inner, operandWithin policy limit = operand policy inner := by
    cases limit <;> exact ⟨_, rfl⟩
  have hscalar : scalar policy (style.literal es) = .ok (.string (meaning es), []) := by
    have hlonger : scalar policy (style.literal es ++ []) = .ok (.string (meaning es), []) :=
      scalar_literal es h
    rwa [List.append_nil] at hlonger
  have hskip : skipTrivia (style.literal es) = .ok (style.literal es) := by
    cases style <;> exact skipTrivia_token rfl (by decide)
  have hopening : isOpening style.quote = false := by
    cases style <;> rfl
  rw [hinner, outcome_operand, hskip]
  simp only [bind, Except.bind, Style.literal, List.cons_append, hopening,
    if_neg Bool.false_ne_true]
  rw [← List.cons_append, ← Style.literal, hscalar]

theorem chainOutcome_nil {f : Reader Char Failure Parsed} {start : List Char} :
    chainOutcome f start (.leaf (.string t)) [] =
      (resolve start t).map fun u => (Parsed.leaf (.string u), []) := by
  rw [chainOutcome_eq, skipTrivia_nil]
  rfl

theorem parseWithin_literal (limit : Nat) (es : List Element) (h : Legal style es) :
    parseWithin limit policy (style.literal es) =
      (resolve (style.literal es) (meaning es)).map fun u => Parsed.leaf (.string u) := by
  rw [parseWithin_eq, outcome_expression, outcome_literal limit es h]
  simp only [bind, Except.bind, chainOutcome_nil]
  cases resolve (style.literal es) (meaning es) with
  | error e => rfl
  | ok u => simp [Except.map, skipTrivia_nil]

/-- **Strings and templates are decoded element by element.**  Whatever elements are written between
quotes, the literal is read to its closing quote and its text is the row of their meanings.  As a
text of its own it stands for that row with surrogate halves joined, if no half is left over. -/
theorem read_spelling (style : Style) (policy : Interpolation) (es : List Element) (r : List Char)
    (h : Legal style es) :
    scalar policy (style.literal es ++ r) = .ok (.string (meaning es), r) ∧
      parseValue policy (style.literal es) =
        if (meaning es).join.WellFormed then .ok ⟨.string (meaning es).join, []⟩
        else .error (.refused .unpairedSurrogate (some 0)) := by
  refine ⟨scalar_literal es h, ?_⟩
  rw [parseValue, parseWithin_literal depthLimit es h, resolve]
  by_cases hw : (meaning es).join.WellFormed
  · rw [if_pos hw, if_pos hw]
    rfl
  · rw [if_neg hw, if_neg hw]
    simp [Except.map, Failure.toError]

/-- Elements whose extent hangs on what follows: an octal digit before an eight, a line broken by a
carriage return, a surrogate pair in two escapes and a zero before the quote. -/
theorem read_spelling_neighbours :
    scalar .strict ['"', '\\', '1', '8', '\\', '\r', '\\', 'u', 'd', '8', '3', 'D', '\\', 'u', 'd',
        'e', '0', '0', '\\', '0', '"', ','] =
      .ok (.string [.char '\x01', .char '8', .lead 0x3d, .trail 0x200, .char '\x00'], [',']) ∧
    parseValue .strict ['"', '\\', '1', '8', '\\', '\r', '\\', 'u', 'd', '8', '3', 'D', '\\', 'u',
        'd', 'e', '0', '0', '\\', '0', '"'] =
      .ok ⟨.string [.char '\x01', .char '8', .char (Char.ofNat 0x1F600), .char '\x00'], []⟩ := by
  have h := read_spelling .double .strict
    [.escape (.octal ⟨1, false⟩ []), .plain '8', .escape (.continuation .carriageReturn),
      .escape (.fourDigits ⟨13, false⟩ ⟨8, false⟩ ⟨3, false⟩ ⟨13, true⟩),
      .escape (.fourDigits ⟨13, false⟩ ⟨14, false⟩ ⟨0, false⟩ ⟨0, false⟩), .escape .null]
    [','] (by decide)
  exact ⟨h.1, h.2.trans (if_pos (by decide))⟩

end PromptLibrary.Proofs.Literal.Spelling
