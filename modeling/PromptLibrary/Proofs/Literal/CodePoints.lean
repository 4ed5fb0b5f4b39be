import PromptLibrary.Proofs.Literal.Sum
import PromptLibrary.Proofs.Number.Grammar
/-!
# Escapes by a code point in braces

The text between the braces of an escape may be any integer text of base sixteen, of which a run of
hexadecimal digits is one kind.  The literal is read exactly if it denotes a character; a number
beyond 32 bits is no refusal, and everything else is one.

* `parseValue_of_escape`, `parseValue_of_escape_error` — a literal with one escape;
* `cases_of_digits` — what the text between the braces may denote;
* `parseValue_braced` — the outcome for all texts between the braces.
-/

namespace PromptLibrary.Proofs.Literal.CodePoints

open PromptLibrary.Literal
open PromptLibrary.Proofs.Literal.Quote
open PromptLibrary.Proofs.Literal.Reached
open PromptLibrary.Proofs.Literal.Spelling
open PromptLibrary.Proofs.Literal.Steps
open PromptLibrary.Proofs.Literal.Sum
open PromptLibrary.Proofs.Literal.Token
open PromptLibrary.Proofs.Number.Digits
open PromptLibrary.Proofs.Number.Grammar
open PromptLibrary.Proofs.Text.Runs (takeWhile_ne_eq_run)

/-- The literal of one escape, with this text between its braces. -/
def braced (style : Style) (digits : List Char) : List Char :=
  style.quote :: '\\' :: 'u' :: '\x7b' :: (digits ++ ['\x7d', style.quote])

/-- A run of hexadecimal digits and nothing else. -/
def HexRun (digits : List Char) (n : Nat) : Prop :=
  ∃ ds : List (Digit 16), ds ≠ [] ∧ digits = spelled ds ∧ n = number ds

/-- Integer text with something else in it than hexadecimal digits. -/
def Loose (digits : List Char) (i : Int) : Prop :=
  IntegerText 16 digits i ∧ ∀ n, ¬ HexRun digits n

/-- A number that does not fit 32 bits. -/
def Oversized (digits : List Char) : Prop :=
  ∃ i, IntegerText 16 digits i ∧ (i < -codePointRange ∨ codePointRange ≤ i)

/-- The number of half of a surrogate pair. -/
def Half (digits : List Char) : Prop :=
  ∃ i, IntegerText 16 digits i ∧ 0xD800 ≤ i ∧ i < 0xE000

/-- No number, or one of 32 bits that no code point has. -/
def Pointless (digits : List Char) : Prop :=
  ∀ i, IntegerText 16 digits i →
    (-codePointRange ≤ i ∧ i < 0) ∨ (0x110000 ≤ i ∧ i < codePointRange)

variable {policy : Interpolation} {style : Style} {s r digits opening : List Char} {t : Text}
  {e : Failure} {c : Char} {n : Nat} {i : Int}

/-! ## A literal with one escape -/

theorem read_of_escape_error (h : escape style.isTemplate s = .error e) :
    style.read policy opening ('\\' :: s) = .error e := by
  cases style with
  | template =>
    show templateBody policy opening ('\\' :: s) = .error e
    rw [templateBody]
    split <;> simp_all [Style.isTemplate]
  | single | double =>
    show stringBody _ opening ('\\' :: s) = .error e
    rw [stringBody, if_neg (by decide), if_neg (by decide), if_pos rfl]
    split <;> simp_all [Style.isTemplate]

theorem read_of_escape (h : escape style.isTemplate s = .ok (t, style.quote :: r)) :
    style.read policy opening ('\\' :: s) = .ok (t, r) := by
  have hread : style.read policy opening ('\\' :: s) =
      prepend t (style.read policy opening (style.quote :: r)) := by
    cases style with
    | single => exact stringBody_of_escape (.inl rfl) h
    | double => exact stringBody_of_escape (.inr rfl) h
    | template => exact templateBody_of_escape h
  rw [hread, read_quote]
  simp [prepend, Except.map]

theorem scalar_quote : scalar policy (style.quote :: s) =
    (style.read policy (style.quote :: s) s).map fun x => (.string x.1, x.2) := by
  cases style <;> rfl

theorem parseValue_of_escape (h : escape style.isTemplate s = .ok (t, [style.quote])) :
    parseValue policy (style.quote :: '\\' :: s) =
      match resolve (style.quote :: '\\' :: s) t with
      | .ok u => .ok ⟨.string u, []⟩
      | .error e => .error (e.toError (style.quote :: '\\' :: s)) := by
  have hscalar : scalar policy (style.quote :: '\\' :: s) = .ok (.string t, []) := by
    rw [scalar_quote, read_of_escape h]
    rfl
  have hsum : Sums policy [t] (style.quote :: '\\' :: s) :=
    ⟨0, [], by decide, .sum .none (.string (token_of_scalar hscalar)) .noMore, .none⟩
  have hparse := parseValue_of_sums hsum
  rw [List.flatten_singleton] at hparse
  exact hparse

theorem parseValue_of_escape_error (h : escape style.isTemplate s = .error e) :
    parseValue policy (style.quote :: '\\' :: s) =
      .error (e.toError (style.quote :: '\\' :: s)) := by
  have hscalar : scalar policy (style.quote :: '\\' :: s) = .error e := by
    rw [scalar_quote, read_of_escape_error h]
    rfl
  have hmark : isBlank style.quote = false ∧ style.quote ∉ separators := by
    cases style <;> decide
  rw [parseValue, parseWithin_eq, outcome_expression, outcome_token hmark.1 hmark.2 hscalar]
  rfl

/-! ## Text between braces -/

theorem integerText_of_hexRun (h : HexRun digits n) : IntegerText 16 digits n := by
  obtain ⟨ds, hne, rfl, rfl⟩ := h
  exact (read_eq_ok_iff (Nat.le_refl 16)).1 (read_spelled (Nat.le_refl 16) hne (by simp))

theorem hexRun_or_loose_iff : HexRun digits n ∨ Loose digits n ↔ IntegerText 16 digits n := by
  refine ⟨fun h => h.elim integerText_of_hexRun (·.1), fun h => ?_⟩
  by_cases hrun : ∃ m, HexRun digits m
  · obtain ⟨m, hm⟩ := hrun
    have hread := (read_eq_ok_iff (Nat.le_refl 16)).2 h
    rw [(read_eq_ok_iff (Nat.le_refl 16)).2 (integerText_of_hexRun hm), Except.ok.injEq] at hread
    obtain rfl : m = n := Int.ofNat.inj hread
    exact .inl hm
  · exact .inr ⟨h, fun m hm => hrun ⟨m, hm⟩⟩

theorem escape_braced {template : Bool} (hfree : '\x7d' ∉ digits) :
    escape template ('u' :: '\x7b' :: (digits ++ '\x7d' :: r)) =
      match Integer.read 16 digits with
      | .error _ =>
        .error (.refused (.badCodePoint digits) ('\x7b' :: (digits ++ '\x7d' :: r)))
      | .ok n =>
        if n < -codePointRange ∨ codePointRange ≤ n then .error .codePointTooLarge
        else if n < 0 then
          .error (.refused (.badCodePoint digits) ('\x7b' :: (digits ++ '\x7d' :: r)))
        else match CodePoint.ofNat? n.toNat with
          | some p => .ok ([p], r)
          | none =>
            .error (.refused (.badCodePoint digits) ('\x7b' :: (digits ++ '\x7d' :: r))) := by
  obtain ⟨htake, hdrop⟩ := takeWhile_ne_eq_run (r := r) hfree
  have hescape : escape template ('u' :: '\x7b' :: (digits ++ '\x7d' :: r)) =
      bracedEscape (digits ++ '\x7d' :: r) := by rw [escape]
  unfold bracedEscape at hescape
  rw [hdrop, htake] at hescape
  exact hescape

theorem braced_eq : braced style digits =
    style.quote :: '\\' :: 'u' :: '\x7b' :: (digits ++ '\x7d' :: [style.quote]) :=
  rfl

theorem ofNat_toNat (c : Char) : CodePoint.ofNat? c.toNat = some (.char c) := by
  have hc := Text.Units.toNat_bounds c
  unfold CodePoint.ofNat?
  rw [dif_neg (by omega), dif_neg (by omega), if_pos (by omega), Char.ofNat_toNat]

theorem exists_half (hlow : 0xD800 ≤ n) (hhigh : n < 0xE000) :
    ∃ p, CodePoint.ofNat? n = some p ∧ ¬ Text.WellFormed (Text.join [p]) := by
  unfold CodePoint.ofNat?
  by_cases hlead : n < 0xDC00
  · exact ⟨_, dif_pos ⟨hlow, hlead⟩, by simp [Text.join, Text.WellFormed]⟩
  · rw [dif_neg (by omega)]
    exact ⟨_, dif_pos ⟨by omega, hhigh⟩, by simp [Text.join, Text.WellFormed]⟩

theorem escape_of_point {p : CodePoint} (hfree : '\x7d' ∉ digits)
    (h : Integer.read 16 digits = .ok n) (hn : n < 0x110000) (hp : CodePoint.ofNat? n = some p) :
    escape style.isTemplate ('u' :: '\x7b' :: (digits ++ '\x7d' :: [style.quote])) =
      .ok ([p], [style.quote]) := by
  have hrange : ¬ ((n : Int) < -codePointRange ∨ codePointRange ≤ (n : Int)) := by
    unfold codePointRange
    omega
  rw [escape_braced hfree, h]
  simp only [if_neg hrange, if_neg (Int.not_lt.2 (Int.natCast_nonneg n)), Int.toNat_natCast, hp]

theorem parseValue_of_character (hfree : '\x7d' ∉ digits) (h : IntegerText 16 digits c.toNat) :
    parseValue policy (braced style digits) = .ok ⟨.string [.char c], []⟩ := by
  have hread := (read_eq_ok_iff (Nat.le_refl 16)).2 h
  have hc := Text.Units.toNat_bounds c
  rw [braced_eq, parseValue_of_escape (escape_of_point hfree hread (by omega) (ofNat_toNat c))]
  have hresolve {start : List Char} : resolve start [.char c] = .ok [.char c] :=
    if_pos (by simp [Text.join, Text.WellFormed])
  rw [hresolve]

theorem parseValue_of_half (hfree : '\x7d' ∉ digits) (h : Half digits) :
    parseValue policy (braced style digits) = .error (.refused .unpairedSurrogate (some 0)) := by
  obtain ⟨i, h, hlow, hhigh⟩ := h
  obtain ⟨n, rfl⟩ := Int.eq_ofNat_of_zero_le (by omega : 0 ≤ i)
  have hread := (read_eq_ok_iff (Nat.le_refl 16)).2 h
  obtain ⟨p, hp, hleft⟩ := exists_half (n := n) (by omega) (by omega)
  rw [braced_eq, parseValue_of_escape (escape_of_point hfree hread (by omega) hp)]
  have hresolve {start : List Char} :
      resolve start [p] = .error (.refused .unpairedSurrogate start) := if_neg hleft
  rw [hresolve]
  simp [Failure.toError]

theorem parseValue_of_oversized (hfree : '\x7d' ∉ digits) (h : Oversized digits) :
    parseValue policy (braced style digits) = .error .codePointTooLarge := by
  obtain ⟨i, h, hrange⟩ := h
  have hread := (read_eq_ok_iff (Nat.le_refl 16)).2 h
  have hescape : escape style.isTemplate
      ('u' :: '\x7b' :: (digits ++ '\x7d' :: [style.quote])) = .error .codePointTooLarge := by
    rw [escape_braced hfree, hread]
    exact if_pos hrange
  rw [braced_eq, parseValue_of_escape_error hescape]
  rfl

theorem parseValue_of_pointless (hfree : '\x7d' ∉ digits) (h : Pointless digits) :
    parseValue policy (braced style digits) =
      .error (.refused (.badCodePoint digits) (some 3)) := by
  have hescape : escape style.isTemplate ('u' :: '\x7b' :: (digits ++ '\x7d' :: [style.quote])) =
      .error (.refused (.badCodePoint digits) ('\x7b' :: (digits ++ '\x7d' :: [style.quote]))) := by
    rw [escape_braced hfree]
    cases hread : Integer.read 16 digits with
    | error _ => rfl
    | ok i =>
      have hi := h i ((read_eq_ok_iff (Nat.le_refl 16)).1 hread)
      have hrange : ¬ (i < -codePointRange ∨ codePointRange ≤ i) := by
        unfold codePointRange at *
        omega
      simp only [if_neg hrange]
      by_cases hneg : i < 0
      · rw [if_pos hneg]
      · have hnone : CodePoint.ofNat? i.toNat = none := by
          unfold CodePoint.ofNat?
          rw [dif_neg (by omega), dif_neg (by omega), if_neg (by omega)]
        rw [if_neg hneg, hnone]
  rw [braced_eq, parseValue_of_escape_error hescape]
  simp [Failure.toError]

/-- Text between braces denotes a character, half of a pair, a number that is too large, or no code
point. -/
theorem cases_of_digits (digits : List Char) :
    (∃ c : Char, IntegerText 16 digits c.toNat) ∨ Half digits ∨ Oversized digits ∨
      Pointless digits := by
  cases hread : Integer.read 16 digits with
  | error e =>
    refine .inr (.inr (.inr fun i hi => ?_))
    rw [(read_eq_ok_iff (Nat.le_refl 16)).2 hi] at hread
    simp at hread
  | ok i =>
    have h := (read_eq_ok_iff (Nat.le_refl 16)).1 hread
    by_cases hrange : i < -codePointRange ∨ codePointRange ≤ i
    · exact .inr (.inr (.inl ⟨i, h, hrange⟩))
    by_cases hhalf : 0xD800 ≤ i ∧ i < 0xE000
    · exact .inr (.inl ⟨i, h, hhalf⟩)
    by_cases hpoint : 0 ≤ i ∧ i < 0x110000
    · obtain ⟨n, rfl⟩ := Int.eq_ofNat_of_zero_le hpoint.1
      have hvalid : n.isValidChar := by
        unfold Nat.isValidChar
        omega
      refine .inl ⟨Char.ofNat n, ?_⟩
      rwa [Text.Points.toNat_ofNat_of_isValidChar hvalid]
    · refine .inr (.inr (.inr fun j hj => ?_))
      have hsame := (read_eq_ok_iff (Nat.le_refl 16)).2 hj
      rw [hread, Except.ok.injEq] at hsame
      omega

/-- **Escapes by a code point in braces.**  Whatever text without a brace stands between them, the
literal is read exactly if the text is a run of hexadecimal digits, or other integer text, that
denotes a character, and then it is that character.  Numbers beyond 32 bits fail without a reason.
All other text is refused: half of a pair as such, and everything else as no code point. -/
theorem parseValue_braced (policy : Interpolation) (style : Style) (digits : List Char)
    (hfree : '\x7d' ∉ digits) :
    (∀ v, parseValue policy (braced style digits) = .ok v ↔
      ∃ c : Char, (HexRun digits c.toNat ∨ Loose digits c.toNat) ∧ v = ⟨.string [.char c], []⟩) ∧
    (∀ e, parseValue policy (braced style digits) = .error e ↔
      (Half digits ∧ e = .refused .unpairedSurrogate (some 0)) ∨
      (Oversized digits ∧ e = .codePointTooLarge) ∨
      (Pointless digits ∧ e = .refused (.badCodePoint digits) (some 3))) := by
  refine ⟨fun v => ⟨fun h => ?_, ?_⟩, fun e => ⟨fun h => ?_, ?_⟩⟩
  · rcases cases_of_digits digits with ⟨c, hc⟩ | hhalf | hlarge | hnone
    · rw [parseValue_of_character hfree hc] at h
      exact ⟨c, hexRun_or_loose_iff.2 hc, (Except.ok.inj h).symm⟩
    · simp [parseValue_of_half hfree hhalf] at h
    · simp [parseValue_of_oversized hfree hlarge] at h
    · simp [parseValue_of_pointless hfree hnone] at h
  · rintro ⟨c, hc, rfl⟩
    exact parseValue_of_character hfree (hexRun_or_loose_iff.1 hc)
  · rcases cases_of_digits digits with ⟨c, hc⟩ | hhalf | hlarge | hnone
    · simp [parseValue_of_character hfree hc] at h
    · rw [parseValue_of_half hfree hhalf] at h
      exact .inl ⟨hhalf, (Except.error.inj h).symm⟩
    · rw [parseValue_of_oversized hfree hlarge] at h
      exact .inr (.inl ⟨hlarge, (Except.error.inj h).symm⟩)
    · rw [parseValue_of_pointless hfree hnone] at h
      exact .inr (.inr ⟨hnone, (Except.error.inj h).symm⟩)
  · rintro (⟨hhalf, rfl⟩ | ⟨hlarge, rfl⟩ | ⟨hnone, rfl⟩)
    · exact parseValue_of_half hfree hhalf
    · exact parseValue_of_oversized hfree hlarge
    · exact parseValue_of_pointless hfree hnone

/-- Text with a blank, the mark of base sixteen, underscores and a digit of another script. -/
theorem parseValue_braced_loose :
    '\x7d' ∉ [' ', '0', 'X', '_', '4', '_', '\u0661'] ∧
    parseValue .strict (braced .template [' ', '0', 'X', '_', '4', '_', '\u0661']) =
      .ok ⟨.string [.char 'A'], []⟩ := by
  have hfree : '\x7d' ∉ [' ', '0', 'X', '_', '4', '_', '\u0661'] := by decide
  have hgrouped : Grouped ['4', '_', '1'] [(⟨4, false⟩ : Digit 16), ⟨1, false⟩] :=
    .underscore ⟨4, false⟩ (.last ⟨1, false⟩)
  have htext : IntegerText 16 [' ', '0', 'X', '_', '4', '_', '\u0661'] ('A'.toNat : Nat) :=
    ⟨[' '], [], false, ['0', 'X', '_'], ['4', '_', '1'], [], _, by decide,
      by simp [Blanks, Text.isAsciiSpace], by decide, by decide, hgrouped, by simp [Short],
      by simp [Blanks], by decide⟩
  exact ⟨hfree, ((parseValue_braced .strict .template _ hfree).1 _).2
    ⟨'A', hexRun_or_loose_iff.2 htext, rfl⟩⟩

/-- A sign in front of the digits is taken, though the text is no run of digits. -/
theorem parseValue_signed :
    parseValue .strict (braced .single ['+', '4', '1']) = .ok ⟨.string [.char 'A'], []⟩ ∧
      ∀ n, ¬ HexRun ['+', '4', '1'] n := by
  refine ⟨by with_unfolding_all rfl, ?_⟩
  rintro n ⟨ds, _, hds, _⟩
  have hsign : '+' ∉ spelled ds := not_mem_spelled (Nat.le_refl 16) (by simp)
  exact hsign (hds ▸ List.mem_cons_self)

end PromptLibrary.Proofs.Literal.CodePoints
