import PromptLibrary.Proofs.Literal.Token
/-!
# The grammar of literals

A derivation relates a text to the text after the phrase, so that the longest name or number is
told by what really follows it.  Trivia may stand in front of every token but the first one of a
phrase, and the depth of a derivation is the greatest number of brackets that are open at once.

The rules follow the written grammar: a literal is operands joined by `+`, an operand is a token or
a literal, members or items in brackets, and members and items are separated by commas with one
more comma allowed at the end.
-/

namespace PromptLibrary.Proofs.Literal.Grammar

open PromptLibrary.Literal
open PromptLibrary.Proofs.Literal.Trivia
open PromptLibrary.Proofs.Literal.Token

/-- What the comments between tokens and the interpolations in templates may be. -/
structure Lexis where
  comment : List Char → Prop
  span : List Char → Prop

/-- Any comment and any interpolation. -/
def Lexis.free : Lexis := ⟨anything, anything⟩

/-- The kinds of phrases, each with its meaning. -/
inductive Phrase where
  | operand (p : Parsed)
  /-- Operands after the first one of a literal, each with its `+`. -/
  | more (ps : List Parsed)
  | literal (p : Parsed)
  /-- Members of an object up to its closing brace. -/
  | members (ms : List Member)
  /-- Items of an array up to its closing bracket. -/
  | items (ps : List Parsed)

/-- What operands joined by `+` mean.  One operand may be any value; more than one have to be
strings, and strings are put together before surrogate halves are paired. -/
inductive Joined : List Parsed → Parsed → Prop where
  | value {p : Parsed} (h : p.value.kind ≠ .string) : Joined [p] p
  | text {ps : List Parsed} {ts : List Text} (hne : ps ≠ [])
      (hs : ps.map (·.value) = ts.map .string) (hw : (Text.join ts.flatten).WellFormed) :
      Joined ps ⟨.string (Text.join ts.flatten), ps.flatMap (·.duplicates)⟩

/-- `Derives lexis policy d ph s r`: the text `s` is the phrase `ph` followed by `r`, and at most
`d` brackets are open at once in the phrase, `d` being reached. -/
inductive Derives (lexis : Lexis) (policy : Interpolation) :
    Nat → Phrase → List Char → List Char → Prop where
  | token {v : Value} {s r : List Char} (h : Token lexis.span policy s v r) :
      Derives lexis policy 0 (.operand (.leaf v)) s r
  | parentheses {d : Nat} {p : Parsed} {s m r : List Char}
      (h : Derives lexis policy d (.literal p) s m) (hc : Trivia lexis.comment m (')' :: r)) :
      Derives lexis policy (d + 1) (.operand p) ('(' :: s) r
  | object {d : Nat} {ms : List Member} {s r : List Char}
      (h : Derives lexis policy d (.members ms) s r) :
      Derives lexis policy (d + 1) (.operand (.ofMembers ms)) ('\x7b' :: s) r
  | array {d : Nat} {ps : List Parsed} {s r : List Char}
      (h : Derives lexis policy d (.items ps) s r) :
      Derives lexis policy (d + 1) (.operand (.ofItems ps)) ('[' :: s) r
  | noMore {s : List Char} : Derives lexis policy 0 (.more []) s s
  | plus {d e : Nat} {p : Parsed} {ps : List Parsed} {s t u m r : List Char}
      (hplus : Trivia lexis.comment s ('+' :: t)) (ht : Trivia lexis.comment t u)
      (h : Derives lexis policy d (.operand p) u m)
      (hmore : Derives lexis policy e (.more ps) m r) :
      Derives lexis policy (max d e) (.more (p :: ps)) s r
  | literal {d e : Nat} {p v : Parsed} {ps : List Parsed} {s u m r : List Char}
      (ht : Trivia lexis.comment s u) (h : Derives lexis policy d (.operand p) u m)
      (hmore : Derives lexis policy e (.more ps) m r) (hsum : Joined (p :: ps) v) :
      Derives lexis policy (max d e) (.literal v) s r
  | noMembers {s r : List Char} (hc : Trivia lexis.comment s ('\x7d' :: r)) :
      Derives lexis policy 0 (.members []) s r
  | lastMember {d : Nat} {key : Text} {p : Parsed} {s k a b m r : List Char}
      (ht : Trivia lexis.comment s k) (hk : Key k key a)
      (hcolon : Trivia lexis.comment a (':' :: b))
      (h : Derives lexis policy d (.literal p) b m) (hc : Trivia lexis.comment m ('\x7d' :: r)) :
      Derives lexis policy d (.members [⟨key, k, p⟩]) s r
  | member {d e : Nat} {key : Text} {p : Parsed} {ms : List Member}
      {s k a b m n r : List Char}
      (ht : Trivia lexis.comment s k) (hk : Key k key a)
      (hcolon : Trivia lexis.comment a (':' :: b))
      (h : Derives lexis policy d (.literal p) b m) (hc : Trivia lexis.comment m (',' :: n))
      (hmore : Derives lexis policy e (.members ms) n r) :
      Derives lexis policy (max d e) (.members (⟨key, k, p⟩ :: ms)) s r
  | noItems {s r : List Char} (hc : Trivia lexis.comment s (']' :: r)) :
      Derives lexis policy 0 (.items []) s r
  | lastItem {d : Nat} {p : Parsed} {s m r : List Char}
      (h : Derives lexis policy d (.literal p) s m) (hc : Trivia lexis.comment m (']' :: r)) :
      Derives lexis policy d (.items [p]) s r
  | item {d e : Nat} {p : Parsed} {ps : List Parsed} {s m n r : List Char}
      (h : Derives lexis policy d (.literal p) s m) (hc : Trivia lexis.comment m (',' :: n))
      (hmore : Derives lexis policy e (.items ps) n r) :
      Derives lexis policy (max d e) (.items (p :: ps)) s r

/-- A whole text that is one literal, with trivia at both ends. -/
def Document (lexis : Lexis) (policy : Interpolation) (d : Nat) (text : List Char) (p : Parsed) :
    Prop :=
  ∃ m, Derives lexis policy d (.literal p) text m ∧ Trivia lexis.comment m []

variable {lexis wider : Lexis} {policy : Interpolation} {d : Nat} {ph : Phrase} {p : Parsed}
  {s r : List Char}

/-! ## Operands joined by `+` -/

theorem joined_one_iff {left v : Parsed} :
    Joined [left] v ↔
      (left.value.kind ≠ .string ∧ v = left) ∨
      ∃ t, left.value = .string t ∧ t.join.WellFormed ∧ v = ⟨.string t.join, left.duplicates⟩ := by
  constructor
  · intro h
    cases h with
    | value h => exact .inl ⟨h, rfl⟩
    | @text _ ts _ hs hw =>
      rcases ts with _ | ⟨t, _ | ⟨u, ts⟩⟩
      · simp at hs
      · have ht : left.value = .string t := by simpa using hs
        have hflat : [t].flatten = t := by simp
        rw [hflat] at hw ⊢
        exact .inr ⟨t, ht, hw, by simp⟩
      · simp at hs
  · rintro (⟨hk, rfl⟩ | ⟨t, ht, hw, rfl⟩)
    · exact .value hk
    · have hflat : [t].flatten = t := by simp
      have hs : [left].map (·.value) = [t].map .string := by simp [ht]
      have h := Joined.text (List.cons_ne_nil _ _) hs (by rwa [hflat])
      rw [hflat] at h
      simpa using h

/-- The first two operands may be put together before the others are looked at. -/
theorem joined_cons_iff {left p v : Parsed} {ps : List Parsed} :
    Joined (left :: p :: ps) v ↔ ∃ a b, left.value = .string a ∧ p.value = .string b ∧
      Joined (⟨.string (a ++ b), left.duplicates ++ p.duplicates⟩ :: ps) v := by
  constructor
  · intro h
    cases h with
    | @text _ ts _ hs hw =>
      rcases ts with _ | ⟨a, _ | ⟨b, ts⟩⟩
      · simp at hs
      · simp at hs
      · simp only [List.map_cons, List.cons.injEq] at hs
        obtain ⟨ha, hb, hs⟩ := hs
        have hflat : (a :: b :: ts).flatten = ((a ++ b) :: ts).flatten := by simp
        rw [hflat] at hw ⊢
        have hs : (⟨.string (a ++ b), left.duplicates ++ p.duplicates⟩ :: ps).map Parsed.value =
            ((a ++ b) :: ts).map .string := by simp [hs]
        have hj := Joined.text (List.cons_ne_nil _ _) hs hw
        exact ⟨a, b, ha, hb, by simpa using hj⟩
  · rintro ⟨a, b, ha, hb, h⟩
    generalize hq : (⟨.string (a ++ b), left.duplicates ++ p.duplicates⟩ : Parsed) = q at h
    cases h with
    | value h =>
      rw [← hq] at h
      exact absurd rfl h
    | @text _ ts _ hs hw =>
      subst hq
      rcases ts with _ | ⟨t, ts⟩
      · simp at hs
      · simp only [List.map_cons, List.cons.injEq, Value.string.injEq] at hs
        obtain ⟨rfl, hs⟩ := hs
        have hflat : ((a ++ b) :: ts).flatten = (a :: b :: ts).flatten := by simp
        rw [hflat] at hw ⊢
        have hs : (left :: p :: ps).map Parsed.value = (a :: b :: ts).map .string := by
          simp [ha, hb, hs]
        have hj := Joined.text (List.cons_ne_nil _ _) hs hw
        simpa using hj

/-- An operand begins with a character that neither trivia nor the end of an array begins with. -/
theorem exists_cons_of_operand (h : Derives lexis policy d (.operand p) s r) :
    ∃ c rest, s = c :: rest ∧ isBlank c = false ∧ c ∉ ['/', ']', ','] := by
  cases h with
  | token h =>
    obtain ⟨c, rest, rfl, hb, hc⟩ := exists_cons_of_token h
    simp only [separators, List.mem_cons, List.not_mem_nil, or_false, not_or] at hc
    exact ⟨c, rest, rfl, hb, by simp [hc]⟩
  | parentheses _ _ => exact ⟨_, _, rfl, by decide, by decide⟩
  | object _ => exact ⟨_, _, rfl, by decide, by decide⟩
  | array _ => exact ⟨_, _, rfl, by decide, by decide⟩

/-! ## Texts that begin with an object -/

theorem trivia_brace {allowed : List Char → Prop} (h : Trivia allowed ('\x7b' :: s) r) :
    r = '\x7b' :: s := by
  cases h with
  | none => rfl
  | blank hc _ => exact absurd hc (by decide)

/-- More than one operand, or an operand that is a string, means a string. -/
theorem joined_object {left v : Parsed} {ps : List Parsed} (hk : left.value.kind ≠ .string)
    (h : Joined (left :: ps) v) : ps = [] ∧ v = left := by
  cases h with
  | value => exact ⟨rfl, rfl⟩
  | @text _ ts _ hs _ =>
    cases ts with
    | nil => simp at hs
    | cons t ts =>
      simp only [List.map_cons, List.cons.injEq] at hs
      rw [hs.1] at hk
      exact absurd rfl hk

/-- A literal that begins with a brace is an object and nothing else. -/
theorem members_of_literal (h : Derives lexis policy d (.literal p) ('\x7b' :: s) r) :
    ∃ e ms, d = e + 1 ∧ p = .ofMembers ms ∧ Derives lexis policy e (.members ms) s r := by
  cases h with
  | literal ht h hmore hsum =>
    obtain rfl := trivia_brace ht
    cases h with
    | token h =>
      obtain ⟨c, rest, hs, _, hc⟩ := exists_cons_of_token h
      obtain ⟨rfl, rfl⟩ := List.cons.inj hs
      exact absurd (by simp [separators]) hc
    | @object e ms _ _ h =>
      obtain ⟨rfl, rfl⟩ := joined_object (by simp [Parsed.ofMembers, Value.kind]) hsum
      cases hmore
      exact ⟨e, ms, by omega, rfl, h⟩

theorem document_of_members {ms : List Member} (h : Derives lexis policy d (.members ms) s r)
    (ht : Trivia lexis.comment r []) :
    Document lexis policy (d + 1) ('\x7b' :: s) (.ofMembers ms) :=
  ⟨r, .literal .none (.object h) .noMore (.value Kind.noConfusion), ht⟩

end PromptLibrary.Proofs.Literal.Grammar
