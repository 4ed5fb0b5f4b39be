import PromptLibrary.Literal.Evaluate
import PromptLibrary.Proofs.Literal.Readers
/-!
# The parser recognises the grammar

* `derives_of_reads_operand`, `derives_of_reads_expression` — what is read is derived, level by
  level of brackets and, inside a level, by induction on the length of the text;
* `completes` — what is derived is read, by induction on the derivation.

A reader of literals also takes the trivia after its literal, so both say where it stops in terms of
that trivia.
-/

namespace PromptLibrary.Proofs.Literal.Recognition

open PromptLibrary.Literal
open PromptLibrary.Proofs.Literal.Trivia
open PromptLibrary.Proofs.Literal.Token
open PromptLibrary.Proofs.Literal.Grammar
open PromptLibrary.Proofs.Literal.Readers

variable {lexis : Lexis} {policy : Interpolation} {value f : Reader Char Failure Parsed}
  {limit d n : Nat} {s t m r start : List Char} {p left v : Parsed} {ps : List Parsed}
  {ms : List Member}

/-! ## What is read is derived -/

theorem derives_literal_of_trivia (ht : Trivia lexis.comment s t)
    (h : Derives lexis policy d (.literal p) t r) : Derives lexis policy d (.literal p) s r := by
  cases h with
  | literal hu h hmore hj => exact .literal (trivia_trans ht hu) h hmore hj

/-- The reader reads literals in which at most `n` brackets are open at once. -/
def ReadsLiterals (policy : Interpolation) (n : Nat) (value : Reader Char Failure Parsed) : Prop :=
  ∀ ⦃s p r⦄, Reads value s p r →
    ∃ d m, d ≤ n ∧ Derives .free policy d (.literal p) s m ∧ Trivia anything m r

/-- The reader reads operands in which at most `n` brackets are open at once. -/
def ReadsOperands (policy : Interpolation) (n : Nat) (f : Reader Char Failure Parsed) : Prop :=
  ∀ ⦃s p r⦄, Reads f s p r →
    ∃ d u, d ≤ n ∧ Trivia anything s u ∧ Derives .free policy d (.operand p) u r

theorem derives_of_reads_items (hvalue : ReadsLiterals policy n value)
    (h : Reads (items value) s ps r) : ∃ d, d ≤ n ∧ Derives .free policy d (.items ps) s r := by
  induction hl : s.length using Nat.strongRecOn generalizing s ps r with
  | _ l ih =>
  subst hl
  rcases reads_items_iff.1 h with ⟨hs, rfl⟩ | ⟨t, p, m, u, qs, hs, _, _, hp, hu, hf, rfl⟩
  · exact ⟨0, Nat.zero_le n, .noItems (trivia_of_skipTrivia hs)⟩
  · obtain ⟨d, k, hd, hk, hkm⟩ := hvalue hp
    have hliteral := derives_literal_of_trivia (trivia_of_skipTrivia hs) hk
    have hafter := trivia_trans hkm (trivia_of_skipTrivia hu)
    cases hf with
    | last => exact ⟨d, hd, .lastItem hliteral hafter⟩
    | more hmore =>
      obtain ⟨e, he, hitems⟩ := ih _ (length_lt_of_item hs hp hu) hmore rfl
      exact ⟨max d e, by omega, .item hliteral hafter hitems⟩

theorem derives_of_reads_members (hvalue : ReadsLiterals policy n value)
    (h : Reads (members value) s ms r) : ∃ d, d ≤ n ∧ Derives .free policy d (.members ms) s r := by
  induction hl : s.length using Nat.strongRecOn generalizing s ms r with
  | _ l ih =>
  subst hl
  rcases reads_members_iff.1 h with
    ⟨hs, rfl⟩ | ⟨t, key, bare, a, b, p, m, u, ks, hs, _, hkey, hcolon, hp, hu, hf, rfl⟩
  · exact ⟨0, Nat.zero_le n, .noMembers (trivia_of_skipTrivia hs)⟩
  · obtain ⟨d, k, hd, hk, hkm⟩ := hvalue hp
    have hbefore : Trivia Lexis.free.comment s t := trivia_of_skipTrivia hs
    have hbetween : Trivia Lexis.free.comment a (':' :: b) := trivia_of_skipTrivia hcolon
    have hafter := trivia_trans hkm (trivia_of_skipTrivia hu)
    cases hf with
    | last => exact ⟨d, hd, .lastMember hbefore (key_of_readKey hkey) hbetween hk hafter⟩
    | more hmore =>
      obtain ⟨e, he, hmembers⟩ := ih _ (length_lt_of_member hs hkey hcolon hp hu) hmore rfl
      exact ⟨max d e, by omega,
        .member hbefore (key_of_readKey hkey) hbetween hk hafter hmembers⟩

theorem derives_of_chains (hf : ReadsOperands policy n f) (h : Chains f start left s v r) :
    ∃ d ps m, d ≤ n ∧ Derives .free policy d (.more ps) s m ∧ Trivia anything m r ∧
      Joined (left :: ps) v := by
  induction hl : s.length using Nat.strongRecOn generalizing s left with
  | _ l ih =>
  subst hl
  rcases chains_iff.1 h with ⟨hs, _, hj⟩ | ⟨t, p, m, a, b, hs, hp, ha, hb, hc⟩
  · exact ⟨0, [], s, Nat.zero_le n, .noMore, trivia_of_skipTrivia hs, hj⟩
  · obtain ⟨d, u, hd, htu, hu⟩ := hf hp
    obtain ⟨e, ps, k, he, hmore, hkr, hj⟩ := ih _ (length_lt_of_operand hs hp) hc rfl
    exact ⟨max d e, p :: ps, k, by omega, .plus (trivia_of_skipTrivia hs) htu hu hmore, hkr,
      joined_cons_iff.2 ⟨a, b, ha, hb, hj⟩⟩

theorem derives_of_reads_expression (hf : ReadsOperands policy n f) :
    ReadsLiterals policy n (expression f) := by
  intro s v r h
  obtain ⟨p, m, hp, hc⟩ := reads_expression_iff.1 h
  obtain ⟨d, u, hd, hsu, hu⟩ := hf hp
  obtain ⟨e, ps, k, he, hmore, hkr, hj⟩ := derives_of_chains hf hc
  exact ⟨max d e, k, by omega, .literal hsu hu hmore hj, hkr⟩

/-- What an opening bracket begins is derived one level above the literals inside. -/
theorem derives_of_reads_bracketed {c : Char} (hc : isOpening c = true)
    (hvalue : ReadsLiterals policy n value) (h : Reads (bracketed value c) s p r) :
    ∃ d, d ≤ n + 1 ∧ Derives .free policy d (.operand p) (c :: s) r := by
  rcases (reads_bracketed_iff hc).1 h with ⟨rfl, ms, hms, rfl⟩ | ⟨rfl, ps, hps, rfl⟩ | ⟨rfl, hp⟩
  · obtain ⟨d, hd, hder⟩ := derives_of_reads_members hvalue hms
    exact ⟨d + 1, by omega, .object hder⟩
  · obtain ⟨d, hd, hder⟩ := derives_of_reads_items hvalue hps
    exact ⟨d + 1, by omega, .array hder⟩
  · obtain ⟨m, hv, hm⟩ := reads_parenthesised_iff.1 hp
    obtain ⟨d, k, hd, hk, hkm⟩ := hvalue hv
    exact ⟨d + 1, by omega, .parentheses hk (trivia_trans hkm (trivia_of_skipTrivia hm))⟩

theorem derives_of_reads_operand (policy : Interpolation) (n : Nat) :
    ReadsOperands policy n (operandWithin policy n) := by
  induction n with
  | zero =>
    intro s p r h
    obtain ⟨c, rest, hs, ⟨_, v, hv, rfl⟩ | ⟨_, _, hnone, _⟩⟩ := reads_operand_iff.1 h
    · exact ⟨0, _, Nat.le_refl 0, trivia_of_skipTrivia hs, .token (token_of_scalar hv)⟩
    · simp at hnone
  | succ n ih =>
    intro s p r h
    obtain ⟨c, rest, hs, ⟨_, v, hv, rfl⟩ | ⟨hc, value, hvalue, hb⟩⟩ := reads_operand_iff.1 h
    · exact ⟨0, _, Nat.zero_le _, trivia_of_skipTrivia hs, .token (token_of_scalar hv)⟩
    · rw [Option.some.injEq] at hvalue
      subst hvalue
      obtain ⟨d, hd, hder⟩ := derives_of_reads_bracketed hc (derives_of_reads_expression ih) hb
      exact ⟨d, _, hd, trivia_of_skipTrivia hs, hder⟩

/-! ## What is derived is read -/

/-- Operands are read from behind the trivia, so two texts that differ in trivia read the same. -/
theorem reads_operand_congr (hst : skipTrivia s = skipTrivia t) :
    Reads (operandWithin policy n) s p r ↔ Reads (operandWithin policy n) t p r := by
  cases n <;> rw [operandWithin, reads_operand_iff, reads_operand_iff, hst]

theorem reads_operand_of_trivia (ht : Trivia lexis.comment s t)
    (h : Reads (operandWithin policy n) t p r) : Reads (operandWithin policy n) s p r :=
  (reads_operand_congr (skipTrivia_of_trivia ht)).2 h

/-- What the reader of a phrase makes of a derivation of depth `d`. -/
def Completes (policy : Interpolation) (d : Nat) : Phrase → List Char → List Char → Prop
  | .operand p, s, r => ∀ n, d ≤ n → Reads (operandWithin policy n) s p r
  | .more ps, s, r => ∀ n, d ≤ n → ∀ start left v t, skipTrivia r = .ok t → t.head? ≠ some '+' →
      Joined (left :: ps) v → Chains (operandWithin policy n) start left s v t
  | .literal p, s, r => ∀ n, d ≤ n → ∀ u t, skipTrivia u = skipTrivia s → skipTrivia r = .ok t →
      t.head? ≠ some '+' → Reads (expression (operandWithin policy n)) u p t
  | .members ms, s, r => ∀ n, d ≤ n → Reads (members (expression (operandWithin policy n))) s ms r
  | .items ps, s, r => ∀ n, d ≤ n → Reads (items (expression (operandWithin policy n))) s ps r

theorem skipTrivia_of_trivia_token {c : Char} (h : Trivia lexis.comment s (c :: r))
    (hc : isBlank c = false) (hne : c ≠ '/') : skipTrivia s = .ok (c :: r) := by
  rw [skipTrivia_of_trivia h, skipTrivia_token hc hne]

theorem skipTrivia_of_mark {c : Char} (h : Trivia lexis.comment s (c :: r))
    (hc : c ∈ [')', ']', '\x7d', ',', ':', '+']) : skipTrivia s = .ok (c :: r) := by
  have hmark : isBlank c = false ∧ c ≠ '/' := by
    simp only [List.mem_cons, List.not_mem_nil, or_false] at hc
    rcases hc with rfl | rfl | rfl | rfl | rfl | rfl <;> decide
  exact skipTrivia_of_trivia_token h hmark.1 hmark.2

theorem skipTrivia_of_operand (ht : Trivia lexis.comment s t)
    (h : Derives lexis policy d (.operand p) t r) :
    ∃ c rest, skipTrivia s = .ok (c :: rest) ∧ c ≠ ']' ∧ c ≠ ',' := by
  obtain ⟨c, rest, rfl, hb, hc⟩ := exists_cons_of_operand h
  simp only [List.mem_cons, List.not_mem_nil, or_false, not_or] at hc
  exact ⟨c, rest, skipTrivia_of_trivia_token ht hb hc.1, hc.2⟩

theorem skipTrivia_of_literal (h : Derives lexis policy d (.literal p) s r) :
    ∃ c rest, skipTrivia s = .ok (c :: rest) ∧ c ≠ ']' ∧ c ≠ ',' := by
  cases h with
  | literal ht h _ _ => exact skipTrivia_of_operand ht h

theorem skipTrivia_of_key {key : Text} {k a : List Char} (ht : Trivia lexis.comment s k)
    (h : Key k key a) : skipTrivia s = .ok k ∧ k.head? ≠ some '\x7d' := by
  obtain ⟨c, rest, rfl, hb, hc⟩ := exists_cons_of_key h
  simp only [separators, List.mem_cons, List.not_mem_nil, or_false, not_or] at hc
  exact ⟨skipTrivia_of_trivia_token ht hb hc.1, by simp [hc]⟩

theorem reads_bracket {c : Char} (hc : isOpening c = true) (hn : d + 1 ≤ n)
    (h : ∀ k, d ≤ k → Reads (bracketed (expression (operandWithin policy k)) c) s p r) :
    Reads (operandWithin policy n) (c :: s) p r := by
  have hmark : isBlank c = false ∧ c ≠ '/' := by
    simp only [isOpening, Bool.or_eq_true, decide_eq_true_eq] at hc
    rcases hc with (rfl | rfl) | rfl <;> decide
  obtain ⟨k, rfl⟩ : ∃ k, n = k + 1 := ⟨n - 1, by omega⟩
  have hread := h k (by omega)
  exact reads_operand_iff.2 ⟨c, s, skipTrivia_token hmark.1 hmark.2, .inr ⟨hc, _, rfl, hread⟩⟩

theorem reads_token {v : Value} (h : Token lexis.span policy s v r) :
    Reads (operandWithin policy n) s (.leaf v) r := by
  have hfree : Token anything policy s v r := token_mono (fun _ _ => trivial) h
  obtain ⟨c, rest, rfl, hb, hc⟩ := exists_cons_of_token h
  simp only [separators, List.mem_cons, List.not_mem_nil, or_false, not_or] at hc
  have hopening : isOpening c = false := by simp [isOpening, hc]
  cases n <;> rw [operandWithin, reads_operand_iff] <;>
    exact ⟨c, rest, skipTrivia_token hb hc.1, .inl ⟨hopening, v, scalar_of_token hfree, rfl⟩⟩

/-- **The readers read what is derived**, whatever room for brackets there is beyond the depth. -/
theorem completes {ph : Phrase} (h : Derives lexis policy d ph s r) :
    Completes policy d ph s r := by
  -- The room for brackets is not fixed in `Completes`: inside a bracket there is one level less.
  induction h with
  | token h =>
    intro n _
    exact reads_token h
  | @parentheses d p s m r h hc ih =>
    intro n hn
    refine reads_bracket (by decide) hn fun k hk => ?_
    -- The reader of the literal has already taken the trivia in front of the parenthesis.
    have hclose := skipTrivia_of_mark hc (by decide)
    have hv := ih k hk s _ rfl hclose (by simp)
    exact (reads_bracketed_iff (by decide)).2
      (.inr (.inr ⟨rfl, reads_parenthesised_iff.2 ⟨_, hv, skipTrivia_idem hclose⟩⟩))
  | object _ ih =>
    intro n hn
    refine reads_bracket (by decide) hn fun k hk => ?_
    exact (reads_bracketed_iff (by decide)).2 (.inl ⟨rfl, _, ih k hk, rfl⟩)
  | array _ ih =>
    intro n hn
    refine reads_bracket (by decide) hn fun k hk => ?_
    exact (reads_bracketed_iff (by decide)).2 (.inr (.inl ⟨rfl, _, ih k hk, rfl⟩))
  | noMore =>
    intro n _ start left v t ht hplus hj
    exact chains_iff.2 (.inl ⟨ht, hplus, hj⟩)
  | plus hplus hu _ _ ihp ihmore =>
    intro n hn start left v t ht hhead hj
    obtain ⟨a, b, ha, hb, hj⟩ := joined_cons_iff.1 hj
    have hp := reads_operand_of_trivia hu (ihp n (by omega))
    have hmore := ihmore n (by omega) start _ v t ht hhead hj
    exact chains_iff.2 (.inr ⟨_, _, _, a, b,
      skipTrivia_of_mark hplus (by decide), hp, ha, hb, hmore⟩)
  | literal hu _ _ hj ihp ihmore =>
    intro n hn u t hut ht hhead
    have hp := (reads_operand_congr (hut.trans (skipTrivia_of_trivia hu))).2 (ihp n (by omega))
    exact reads_expression_iff.2 ⟨_, _, hp, ihmore n (by omega) u _ _ t ht hhead hj⟩
  | noMembers hc =>
    intro n _
    exact reads_members_iff.2 (.inl ⟨skipTrivia_of_mark hc (by decide), rfl⟩)
  | lastMember hk hkey hcolon _ hc ih =>
    intro n hn
    obtain ⟨hs, hhead⟩ := skipTrivia_of_key hk hkey
    obtain ⟨bare, hread⟩ := readKey_of_key hkey
    have hclose := skipTrivia_of_mark hc (by decide)
    have hv := ih n hn _ _ rfl hclose (by simp)
    exact reads_members_iff.2 (.inr ⟨_, _, bare, _, _, _, _, _, [], hs, hhead, hread,
      skipTrivia_of_mark hcolon (by decide), hv, skipTrivia_idem hclose, .last,
      rfl⟩)
  | member hk hkey hcolon _ hc _ ih ihmore =>
    intro n hn
    obtain ⟨hs, hhead⟩ := skipTrivia_of_key hk hkey
    obtain ⟨bare, hread⟩ := readKey_of_key hkey
    have hcomma := skipTrivia_of_mark hc (by decide)
    have hv := ih n (by omega) _ _ rfl hcomma (by simp)
    exact reads_members_iff.2 (.inr ⟨_, _, bare, _, _, _, _, _, _, hs, hhead, hread,
      skipTrivia_of_mark hcolon (by decide), hv, skipTrivia_idem hcomma,
      .more (ihmore n (by omega)), rfl⟩)
  | noItems hc =>
    intro n _
    exact reads_items_iff.2 (.inl ⟨skipTrivia_of_mark hc (by decide), rfl⟩)
  | lastItem h hc ih =>
    intro n hn
    -- Items are told from the end of the array by the first character of their first operand.
    obtain ⟨c, rest, hs, hclose', hcomma'⟩ := skipTrivia_of_literal h
    have hclose := skipTrivia_of_mark hc (by decide)
    have hv := ih n hn (c :: rest) _ ((skipTrivia_idem hs).trans hs.symm) hclose (by simp)
    exact reads_items_iff.2 (.inr ⟨_, _, _, _, [], hs, by simpa using hclose',
      by simpa using hcomma', hv, skipTrivia_idem hclose, .last, rfl⟩)
  | item h hc _ ih ihmore =>
    intro n hn
    obtain ⟨c, rest, hs, hclose', hcomma'⟩ := skipTrivia_of_literal h
    have hcomma := skipTrivia_of_mark hc (by decide)
    have hv := ih n (by omega) (c :: rest) _ ((skipTrivia_idem hs).trans hs.symm) hcomma (by simp)
    exact reads_items_iff.2 (.inr ⟨_, _, _, _, _, hs, by simpa using hclose',
      by simpa using hcomma', hv, skipTrivia_idem hcomma, .more (ihmore n (by omega)), rfl⟩)

/-! ## Whole texts -/

theorem parseWithin_eq_ok_iff_reads {text : List Char} :
    parseWithin limit policy text = .ok p ↔
      ∃ r, Reads (expression (operandWithin policy limit)) text p r ∧ skipTrivia r = .ok [] := by
  unfold parseWithin
  constructor
  · intro h
    split at h
    · simp at h
    · next w hw =>
      split at h
      · simp at h
      · next hr =>
        rw [Except.ok.injEq] at h
        exact ⟨w.rest, h ▸ reads_of_eq hw, hr⟩
      · simp at h
  · rintro ⟨r, hp, hr⟩
    obtain ⟨hlt, hp⟩ := reads_iff.1 hp
    rw [hp]
    simp only [hr]

/-- **The parser accepts exactly the grammar**, with values and overridden keys. -/
theorem parseWithin_eq_ok_iff {text : List Char} :
    parseWithin limit policy text = .ok p ↔
      ∃ d, d ≤ limit ∧ Document .free policy d text p := by
  rw [parseWithin_eq_ok_iff_reads]
  constructor
  · rintro ⟨r, hp, hr⟩
    obtain ⟨d, m, hd, hder, hm⟩ :=
      derives_of_reads_expression (derives_of_reads_operand policy limit) hp
    exact ⟨d, hd, m, hder, trivia_trans hm (trivia_of_skipTrivia hr)⟩
  · rintro ⟨d, hd, m, hder, hm⟩
    have hend : skipTrivia m = .ok [] := (skipTrivia_of_trivia hm).trans skipTrivia_nil
    exact ⟨[], completes hder limit hd text [] rfl hend (by simp), skipTrivia_nil⟩

/-- **Evaluation gives a value exactly to the texts that the grammar derives**, and the value is the
meaning of the derivation.  Brackets nest within the limit, and tokens mean what the readers of
strings, templates, numbers and names make of them. -/
theorem parseValue_eq_ok_iff_derives (policy : Interpolation) (text : List Char) (v : Value) :
    (∃ warnings, parseValue policy text = .ok ⟨v, warnings⟩) ↔
      ∃ d p, d ≤ depthLimit ∧ Document .free policy d text p ∧ p.value = v := by
  unfold parseValue
  constructor
  · rintro ⟨warnings, h⟩
    split at h
    · simp at h
    · next p hp =>
      obtain ⟨d, hd, hdoc⟩ := parseWithin_eq_ok_iff.1 hp
      simp only [Except.ok.injEq, Evaluated.mk.injEq] at h
      exact ⟨d, p, hd, hdoc, h.1⟩
  · rintro ⟨d, p, hd, hdoc, rfl⟩
    rw [parseWithin_eq_ok_iff.2 ⟨d, hd, hdoc⟩]
    exact ⟨_, rfl⟩

end PromptLibrary.Proofs.Literal.Recognition
