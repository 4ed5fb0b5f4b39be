import PromptLibrary.Literal.Escape
/-!
# Strings and templates

Strings stand between single or double quotes on one line; templates stand between backticks and
may go over several lines. A template may hold `${...}`, which is refused or kept as it is.
-/

namespace PromptLibrary.Literal

/-- A piece of text in front of what the rest gives. -/
def prepend (piece : Text) :
    Except Failure (Text × List Char) → Except Failure (Text × List Char) :=
  Except.map fun (t, r) => (piece ++ t, r)

/-- The rest of a string after its opening quote; `opening` is the text from that quote on. -/
def stringBody (quote : Char) (opening s : List Char) : Except Failure (Text × List Char) :=
  match s with
  | [] => .error (.refused .unterminatedString opening)
  | c :: rest =>
    if c = '\n' ∨ c = '\r' then .error (.refused .unterminatedString opening)
    else if c = quote then .ok ([], rest)
    else if c = '\\' then
      match h : escape false rest with
      | .error e => .error e
      | .ok (piece, after) =>
        have := length_escape_lt h
        prepend piece (stringBody quote opening after)
    else prepend [.char c] (stringBody quote opening rest)
termination_by s.length

/-- The quotes inside a span: a quote opens, and the same quote closes. -/
def insideQuote (quote : Option Char) (c : Char) : Option Char :=
  match quote with
  | some q => if c = q then none else some q
  | none => if c = '\'' ∨ c = '"' ∨ c = '\x60' then some c else none

/--
The text up to and with the brace that closes `depth + 1` open ones, and the text after it. Braces
in quotes do not count, nor does a character after a backslash.
-/
def closingBrace? (depth : Nat) (quote : Option Char) :
    List Char → Option (List Char × List Char)
  | [] => none
  | ['\\'] => none
  | '\\' :: c :: rest =>
    (closingBrace? depth quote rest).map fun (span, after) => ('\\' :: c :: span, after)
  | c :: rest =>
    if quote = none ∧ c = '\x7d' then
      match depth with
      | 0 => some (['\x7d'], rest)
      | outer + 1 => (closingBrace? outer none rest).map fun (span, after) => (c :: span, after)
    else
      let deeper := if quote = none ∧ c = '\x7b' then depth + 1 else depth
      (closingBrace? deeper (insideQuote quote c) rest).map fun (span, after) => (c :: span, after)

theorem length_closingBrace_lt {depth : Nat} {quote : Option Char} {s span after : List Char}
    (h : closingBrace? depth quote s = some (span, after)) : after.length < s.length := by
  fun_induction closingBrace? depth quote s generalizing span <;> simp_all <;> grind

/-- The rest of a template after its opening backtick; `opening` is the text from there on. -/
def templateBody (policy : Interpolation) (opening s : List Char) :
    Except Failure (Text × List Char) :=
  match s with
  | [] => .error (.refused .unterminatedTemplate opening)
  | '\x60' :: rest => .ok ([], rest)
  | '\\' :: rest =>
    match h : escape true rest with
    | .error e => .error e
    | .ok (piece, after) =>
      have := length_escape_lt h
      prepend piece (templateBody policy opening after)
  | '\r' :: '\n' :: rest => prepend [.char '\n'] (templateBody policy opening rest)
  | '\r' :: rest => prepend [.char '\n'] (templateBody policy opening rest)
  | '$' :: '\x7b' :: rest =>
    match h : closingBrace? 0 none rest with
    | none => .error (.refused .unterminatedInterpolation ('\x7b' :: rest))
    | some (inside, after) =>
      have := length_closingBrace_lt h
      let span := '$' :: '\x7b' :: inside
      match policy with
      | .strict => .error (.refused (.interpolation span) s)
      | .literal => prepend (Text.ofChars span) (templateBody policy opening after)
  | c :: rest => prepend [.char c] (templateBody policy opening rest)
termination_by s.length

/-- Joins surrogate halves; `start` is where the text was read from. -/
def resolve (start : List Char) (t : Text) : Except Failure Text :=
  if t.join.WellFormed then .ok t.join else .error (.refused .unpairedSurrogate start)

/-! ## Progress -/

theorem prepend_eq_ok {piece t : Text} {r : List Char} {x : Except Failure (Text × List Char)} :
    prepend piece x = .ok (t, r) ↔ ∃ u, x = .ok (u, r) ∧ piece ++ u = t := by
  simp only [prepend, map_eq_ok, Prod.exists, Prod.mk.injEq]
  constructor
  · rintro ⟨u, w, h, rfl, rfl⟩; exact ⟨u, h, rfl⟩
  · rintro ⟨u, h, rfl⟩; exact ⟨u, r, h, rfl, rfl⟩

theorem length_stringBody_lt {quote : Char} {opening s r : List Char} {t : Text}
    (h : stringBody quote opening s = .ok (t, r)) : r.length < s.length := by
  fun_induction stringBody quote opening s generalizing t <;> simp_all [prepend_eq_ok]
  all_goals grind

theorem length_templateBody_lt {policy : Interpolation} {opening s r : List Char} {t : Text}
    (h : templateBody policy opening s = .ok (t, r)) : r.length < s.length := by
  fun_induction templateBody policy opening s generalizing t <;> simp_all [prepend_eq_ok]
  all_goals grind

end PromptLibrary.Literal
