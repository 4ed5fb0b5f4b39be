import PromptLibrary.Proofs.Literal.Recognition
import PromptLibrary.Proofs.Literal.Spots
import PromptLibrary.Proofs.Literal.Steps
/-!
# Where reading fails inside a token

The parser fails for a fault of a token exactly when it comes to such a token, which it does when
everything in front of it is derived.

* `faulty_of_operand` — what fails is reached, level by level of brackets and, inside a level, by
  induction on the length of the text;
* `stops` — what is reached makes the reader fail, by induction on how it is reached; the lemmas
  before it say for each reader that it fails if a reader inside of it does.
-/

namespace PromptLibrary.Proofs.Literal.Reached

open PromptLibrary.Literal
open PromptLibrary.Proofs.Literal.Trivia
open PromptLibrary.Proofs.Literal.Token
open PromptLibrary.Proofs.Literal.Grammar
open PromptLibrary.Proofs.Literal.Readers
open PromptLibrary.Proofs.Literal.Recognition
open PromptLibrary.Proofs.Literal.Steps
open PromptLibrary.Proofs.Literal.Faults
open PromptLibrary.Proofs.Literal.Spots

/-- The parts of a literal that a reader may be in. -/
inductive Part where
  | operand
  /-- What follows the operands of a literal, when they make up a value of this kind. -/
  | more (left : Kind)
  | literal
  | members
  | items

/-- `Reaches policy n part s spot t`: the part that begins at `s` is derived up to `t`, where a
token is to come at the spot.  Inside the part at most `n` brackets are open at once. -/
inductive Reaches (policy : Interpolation) : Nat → Part → List Char → Spot → List Char → Prop where
  | here {n : Nat} {s : List Char} : Reaches policy n .operand s .value s
  | parentheses {n : Nat} {s t : List Char} {spot : Spot} (h : Reaches policy n .literal s spot t) :
      Reaches policy (n + 1) .operand ('(' :: s) spot t
  | object {n : Nat} {s t : List Char} {spot : Spot} (h : Reaches policy n .members s spot t) :
      Reaches policy (n + 1) .operand ('\x7b' :: s) spot t
  | array {n : Nat} {s t : List Char} {spot : Spot} (h : Reaches policy n .items s spot t) :
      Reaches policy (n + 1) .operand ('[' :: s) spot t
  | next {n : Nat} {left : Kind} {s m u t : List Char} {spot : Spot}
      (hplus : Trivia Lexis.free.comment s ('+' :: m)) (ht : Trivia Lexis.free.comment m u)
      (h : Reaches policy n .operand u spot t) : Reaches policy n (.more left) s spot t
  | further {n d : Nat} {p : Parsed} {s m u r t : List Char} {spot : Spot}
      (hplus : Trivia Lexis.free.comment s ('+' :: m)) (ht : Trivia Lexis.free.comment m u)
      (hp : Derives .free policy d (.operand p) u r) (hd : d ≤ n) (hk : p.value.kind = .string)
      (h : Reaches policy n (.more .string) r spot t) : Reaches policy n (.more .string) s spot t
  | first {n : Nat} {s u t : List Char} {spot : Spot} (ht : Trivia Lexis.free.comment s u)
      (h : Reaches policy n .operand u spot t) : Reaches policy n .literal s spot t
  | later {n d : Nat} {p : Parsed} {s u r t : List Char} {spot : Spot}
      (ht : Trivia Lexis.free.comment s u) (hp : Derives .free policy d (.operand p) u r)
      (hd : d ≤ n)
      (h : Reaches policy n (.more p.value.kind) r spot t) : Reaches policy n .literal s spot t
  | key {n : Nat} {s k : List Char} (ht : Trivia Lexis.free.comment s k) :
      Reaches policy n .members s .key k
  | value {n : Nat} {key : Text} {s k a b t : List Char} {spot : Spot}
      (ht : Trivia Lexis.free.comment s k) (hk : Key k key a)
      (hcolon : Trivia Lexis.free.comment a (':' :: b))
      (h : Reaches policy n .literal b spot t) : Reaches policy n .members s spot t
  | member {n d : Nat} {key : Text} {p : Parsed} {s k a b m r t : List Char} {spot : Spot}
      (ht : Trivia Lexis.free.comment s k) (hk : Key k key a)
      (hcolon : Trivia Lexis.free.comment a (':' :: b))
      (hp : Derives .free policy d (.literal p) b m) (hd : d ≤ n)
      (hc : Trivia Lexis.free.comment m (',' :: r)) (h : Reaches policy n .members r spot t) :
      Reaches policy n .members s spot t
  | item {n : Nat} {s t : List Char} {spot : Spot} (h : Reaches policy n .literal s spot t) :
      Reaches policy n .items s spot t
  | items {n d : Nat} {p : Parsed} {s m r t : List Char} {spot : Spot}
      (hp : Derives .free policy d (.literal p) s m) (hd : d ≤ n)
      (hc : Trivia Lexis.free.comment m (',' :: r)) (h : Reaches policy n .items r spot t) :
      Reaches policy n .items s spot t

/-- The part that begins at `s` is derived up to a token with the fault. -/
def Faulty (policy : Interpolation) (n : Nat) (e : Failure) (part : Part) (s : List Char) : Prop :=
  ∃ spot t, Reaches policy n part s spot t ∧ SpotFault policy e spot t

variable {policy : Interpolation} {value f : Reader Char Failure Parsed} {n d : Nat} {e : Failure}
  {s t m r u start : List Char} {p left : Parsed} {spot : Spot} {c : Char}

theorem Faulty.map {part part' : Part} {s' : List Char} {n' : Nat}
    (hr : ∀ {spot t}, Reaches policy n part s spot t → Reaches policy n' part' s' spot t)
    (h : Faulty policy n e part s) : Faulty policy n' e part' s' := by
  obtain ⟨spot, t, h, hfault⟩ := h
  exact ⟨spot, t, hr h, hfault⟩

/-! ## What fails is reached -/

/-- The reader of literals fails only where a token with the fault is reached. -/
def StopsLiterals (policy : Interpolation) (n : Nat) (e : Failure)
    (value : Reader Char Failure Parsed) : Prop :=
  ∀ ⦃s⦄, outcome value s = .error e → Faulty policy n e .literal s

/-- The reader of operands fails only where a token with the fault is reached. -/
def StopsOperands (policy : Interpolation) (n : Nat) (e : Failure)
    (f : Reader Char Failure Parsed) : Prop :=
  ∀ ⦃s⦄, outcome f s = .error e → ∃ u, Trivia anything s u ∧ Faulty policy n e .operand u

theorem not_tokenFault_of_skipTrivia (h : skipTrivia s = .error e) : ¬ TokenFault e := by
  fun_induction skipTrivia s with
  | case1 => simp at h
  | case2 _ _ ih => exact ih h
  | case3 =>
    cases h
    exact id
  | case4 _ _ _ _ ih => exact ih h
  | case5 _ _ _ _ _ ih => exact ih h
  | case6 => simp at h

theorem reaches_literal_of_trivia (ht : Trivia anything s t)
    (h : Reaches policy n .literal t spot u) : Reaches policy n .literal s spot u := by
  cases h with
  | first hu h => exact .first (trivia_trans ht hu) h
  | later hu hp hd h => exact .later (trivia_trans ht hu) hp hd h

theorem faulty_literal_of_trivia (ht : Trivia anything s t) (h : Faulty policy n e .literal t) :
    Faulty policy n e .literal s :=
  h.map (reaches_literal_of_trivia ht)

theorem faulty_of_items (he : TokenFault e) (hreads : ReadsLiterals policy n value)
    (hstops : StopsLiterals policy n e value) (h : outcome (items value) s = .error e) :
    Faulty policy n e .items s := by
  induction hl : s.length using Nat.strongRecOn generalizing s with
  | _ l ih =>
  subst hl
  rw [outcome_items] at h
  rcases bind_eq_error.1 h with hs | ⟨t, hs, h⟩
  · exact absurd he (not_tokenFault_of_skipTrivia hs)
  split at h
  · simp at h
  split at h
  · cases h
    exact he.elim
  have htrivia : Trivia anything s t := trivia_of_skipTrivia hs
  rcases bind_eq_error.1 h with hp | ⟨⟨p, m⟩, hp, h⟩
  · exact (faulty_literal_of_trivia htrivia (hstops hp)).map .item
  rcases bind_eq_error.1 h with hm | ⟨u, hm, h⟩
  · exact absurd he (not_tokenFault_of_skipTrivia hm)
  split at h
  · next hcomma =>
    obtain ⟨rest, rfl⟩ := List.head?_eq_some_iff.1 hcomma
    rcases bind_eq_error.1 h with hmore | ⟨⟨ps, r⟩, _, h⟩
    · obtain ⟨d, k, hd, hk, hkm⟩ := hreads hp
      have hitem := derives_literal_of_trivia htrivia hk
      have hrest := ih _ (length_lt_of_item hs hp hm) hmore rfl
      exact hrest.map (.items hitem hd (trivia_trans hkm (trivia_of_skipTrivia hm)))
    · simp at h
  split at h
  · simp at h
  · cases h
    exact he.elim

theorem faulty_of_members (he : TokenFault e) (hreads : ReadsLiterals policy n value)
    (hstops : StopsLiterals policy n e value) (h : outcome (members value) s = .error e) :
    Faulty policy n e .members s := by
  induction hl : s.length using Nat.strongRecOn generalizing s with
  | _ l ih =>
  subst hl
  rw [outcome_members] at h
  rcases bind_eq_error.1 h with hs | ⟨t, hs, h⟩
  · exact absurd he (not_tokenFault_of_skipTrivia hs)
  split at h
  · simp at h
  have hbefore : Trivia anything s t := trivia_of_skipTrivia hs
  rcases bind_eq_error.1 h with hkey | ⟨⟨key, bare, a⟩, hkey, h⟩
  · exact ⟨.key, t, .key hbefore, spotFault_of_readKey hkey he⟩
  rcases bind_eq_error.1 h with ha | ⟨b, ha, h⟩
  · exact absurd he (not_tokenFault_of_skipTrivia ha)
  have hk := key_of_readKey hkey
  split at h
  · next hcolon =>
    obtain ⟨afterColon, rfl⟩ := List.head?_eq_some_iff.1 hcolon
    have hbetween : Trivia anything a (':' :: afterColon) := trivia_of_skipTrivia ha
    rcases bind_eq_error.1 h with hp | ⟨⟨p, m⟩, hp, h⟩
    · exact (hstops hp).map (.value hbefore hk hbetween)
    rcases bind_eq_error.1 h with hm | ⟨u, hm, h⟩
    · exact absurd he (not_tokenFault_of_skipTrivia hm)
    split at h
    · next hcomma =>
      obtain ⟨rest, rfl⟩ := List.head?_eq_some_iff.1 hcomma
      rcases bind_eq_error.1 h with hmore | ⟨⟨ms, r⟩, _, h⟩
      · obtain ⟨d, k, hd, hder, hkm⟩ := hreads hp
        have hrest := ih _ (length_lt_of_member hs hkey ha hp hm) hmore rfl
        exact hrest.map (.member hbefore hk hbetween hder hd
          (trivia_trans hkm (trivia_of_skipTrivia hm)))
      · simp at h
    split at h
    · simp at h
    · cases h
      exact he.elim
  split at h
  · cases h
    exact he.elim
  · cases h
    exact he.elim

theorem faulty_of_chain (he : TokenFault e) (hreads : ReadsOperands policy n f)
    (hstops : StopsOperands policy n e f) (h : chainOutcome f start left s = .error e) :
    Faulty policy n e (.more left.value.kind) s := by
  induction hl : s.length using Nat.strongRecOn generalizing s left with
  | _ l ih =>
  subst hl
  rw [chainOutcome_eq] at h
  rcases bind_eq_error.1 h with hs | ⟨t, hs, h⟩
  · exact absurd he (not_tokenFault_of_skipTrivia hs)
  split at h
  · next hplus =>
    obtain ⟨rest, rfl⟩ := List.head?_eq_some_iff.1 hplus
    have hplus : Trivia anything s ('+' :: rest) := trivia_of_skipTrivia hs
    rcases bind_eq_error.1 h with hp | ⟨⟨p, m⟩, hp, h⟩
    · obtain ⟨u, hu, hfaulty⟩ := hstops hp
      exact hfaulty.map (.next hplus hu)
    simp only at h
    split at h
    · next a b ha hb =>
      -- Two strings become one, so what follows is again behind a string.
      obtain ⟨d, u, hd, hu, hder⟩ := hreads hp
      have hrest := ih _ (length_lt_of_operand hs hp) h rfl
      rw [ha]
      exact hrest.map (.further hplus hu hder hd (by rw [hb]; rfl))
    · cases h
      exact he.elim
  · split at h
    · exact absurd he (not_tokenFault_of_resolve (map_eq_error.1 h))
    · simp at h

theorem stopsLiterals_expression (he : TokenFault e) (hreads : ReadsOperands policy n f)
    (hstops : StopsOperands policy n e f) : StopsLiterals policy n e (expression f) := by
  intro s h
  rw [outcome_expression] at h
  rcases bind_eq_error.1 h with hp | ⟨⟨p, m⟩, hp, h⟩
  · obtain ⟨u, hu, hfaulty⟩ := hstops hp
    exact hfaulty.map (.first hu)
  · obtain ⟨d, u, hd, hu, hder⟩ := hreads hp
    exact (faulty_of_chain he hreads hstops h).map (.later hu hder hd)

theorem faulty_of_bracketed (hc : isOpening c = true) (he : TokenFault e)
    (hreads : ReadsLiterals policy n value) (hstops : StopsLiterals policy n e value)
    (h : outcome (bracketed value c) s = .error e) :
    Faulty policy (n + 1) e .operand (c :: s) := by
  rw [outcome_bracketed] at h
  split at h
  · next hbrace =>
    subst hbrace
    exact (faulty_of_members he hreads hstops (map_eq_error.1 h)).map .object
  split at h
  · next hbracket =>
    subst hbracket
    exact (faulty_of_items he hreads hstops (map_eq_error.1 h)).map .array
  · obtain rfl : c = '(' := by simpa [isOpening, *] using hc
    rw [outcome_parenthesised] at h
    rcases bind_eq_error.1 h with hp | ⟨⟨p, m⟩, _, h⟩
    · exact (hstops hp).map .parentheses
    rcases bind_eq_error.1 h with hm | ⟨u, _, h⟩
    · exact absurd he (not_tokenFault_of_skipTrivia hm)
    split at h
    · simp at h
    · cases h
      exact he.elim

/-- An operand is reached behind the trivia that its reader skips. -/
theorem faulty_of_operand_inner {inner : Option (Reader Char Failure Parsed)} (he : TokenFault e)
    (hinner : ∀ c rest value, inner = some value → isOpening c = true →
      outcome (bracketed value c) rest = .error e → Faulty policy n e .operand (c :: rest))
    (h : outcome (operand policy inner) s = .error e) :
    ∃ u, Trivia anything s u ∧ Faulty policy n e .operand u := by
  rw [outcome_operand] at h
  rcases bind_eq_error.1 h with hs | ⟨u, hs, h⟩
  · exact absurd he (not_tokenFault_of_skipTrivia hs)
  refine ⟨u, trivia_of_skipTrivia hs, ?_⟩
  split at h
  · cases h
    exact he.elim
  · next c rest =>
    split at h
    · next hc =>
      cases inner with
      | none =>
        cases h
        exact he.elim
      | some value => exact hinner c rest value rfl hc h
    · rcases bind_eq_error.1 h with hv | ⟨⟨v, r⟩, _, h⟩
      · exact ⟨.value, _, .here, spotFault_of_scalar hv he⟩
      · simp at h

theorem faulty_of_operand (policy : Interpolation) (n : Nat) (he : TokenFault e) :
    StopsOperands policy n e (operandWithin policy n) := by
  induction n with
  | zero =>
    intro s h
    exact faulty_of_operand_inner he (fun _ _ _ hnone => by simp at hnone) h
  | succ n ih =>
    intro s h
    have hreads := derives_of_reads_operand policy n
    refine faulty_of_operand_inner he (fun c rest value hvalue hc hb => ?_) h
    obtain rfl := Option.some.inj hvalue
    exact faulty_of_bracketed hc he (derives_of_reads_expression hreads)
      (stopsLiterals_expression he hreads ih) hb

/-! ## What is reached fails -/

/-- The reader of a part fails on a text, whatever trivia is in front of an operand. -/
def Stops (policy : Interpolation) (n : Nat) (e : Failure) : Part → List Char → Prop
  | .operand, s => outcome (operandWithin policy n) s = .error e
  | .more left, s => ∀ start p, p.value.kind = left →
      chainOutcome (operandWithin policy n) start p s = .error e
  | .literal, s => ∀ u, skipTrivia u = skipTrivia s →
      outcome (expression (operandWithin policy n)) u = .error e
  | .members, s => outcome (members (expression (operandWithin policy n))) s = .error e
  | .items, s => outcome (items (expression (operandWithin policy n))) s = .error e

theorem outcome_operand_congr (hst : skipTrivia s = skipTrivia t) :
    outcome (operandWithin policy n) s = outcome (operandWithin policy n) t := by
  cases n <;> rw [operandWithin, outcome_operand, outcome_operand, hst]

/-- What is reached in an operand shows in its first character that the operand has begun. -/
theorem exists_cons_of_reaches (h : Reaches policy n .operand s spot t)
    (ht : Breaks policy e spot t) :
    ∃ c rest, s = c :: rest ∧ isBlank c = false ∧ c ∉ ['/', ']', ','] := by
  cases h with
  | here =>
    obtain ⟨c, rest, rfl, hb, hc⟩ := ht.head
    simp only [separators, List.mem_cons, List.not_mem_nil, or_false, not_or] at hc
    exact ⟨c, rest, rfl, hb, by simp [hc]⟩
  | parentheses _ => exact ⟨_, _, rfl, by decide, by decide⟩
  | object _ => exact ⟨_, _, rfl, by decide, by decide⟩
  | array _ => exact ⟨_, _, rfl, by decide, by decide⟩

theorem skipTrivia_of_reaches (h : Reaches policy n .literal s spot t)
    (ht : Breaks policy e spot t) :
    ∃ c rest, skipTrivia s = .ok (c :: rest) ∧ c ≠ ']' ∧ c ≠ ',' := by
  cases h with
  | first hu h =>
    obtain ⟨c, rest, rfl, hb, hc⟩ := exists_cons_of_reaches h ht
    simp only [List.mem_cons, List.not_mem_nil, or_false, not_or] at hc
    exact ⟨c, rest, skipTrivia_of_trivia_token hu hb hc.1, hc.2⟩
  | later hu hp _ _ => exact skipTrivia_of_operand hu hp

theorem outcome_of_reads {α : Type} {f : Reader Char Failure α} {v : α} (h : Reads f s v r) :
    outcome f s = .ok (v, r) :=
  h

theorem exists_string_of_kind {v : Value} (h : v.kind = .string) : ∃ t, v = .string t := by
  cases v with
  | string t => exact ⟨t, rfl⟩
  | _ => simp [Value.kind] at h

theorem outcome_bracket (hc : isOpening c = true) :
    outcome (operandWithin policy (n + 1)) (c :: s) =
      outcome (bracketed (expression (operandWithin policy n)) c) s := by
  have hmark : isBlank c = false ∧ c ≠ '/' := by
    simp only [isOpening, Bool.or_eq_true, decide_eq_true_eq] at hc
    rcases hc with (rfl | rfl) | rfl <;> decide
  rw [operandWithin, outcome_operand, skipTrivia_token hmark.1 hmark.2]
  simp only [bind, Except.bind, hc, if_true]

theorem outcome_token (hb : isBlank c = false) (hc : c ∉ separators)
    (h : scalar policy (c :: s) = .error e) :
    outcome (operandWithin policy n) (c :: s) = .error e := by
  simp only [separators, List.mem_cons, List.not_mem_nil, or_false, not_or] at hc
  have hopening : isOpening c = false := by simp [isOpening, hc]
  cases n <;> rw [operandWithin, outcome_operand, skipTrivia_token hb hc.1] <;>
    simp [bind, Except.bind, hopening, h]

theorem stops_parentheses (h : Stops policy n e .literal s) :
    Stops policy (n + 1) e .operand ('(' :: s) := by
  rw [Stops, outcome_bracket (by decide), outcome_bracketed, if_neg (by decide),
    if_neg (by decide), outcome_parenthesised, h s rfl]
  rfl

theorem stops_object (h : Stops policy n e .members s) :
    Stops policy (n + 1) e .operand ('\x7b' :: s) := by
  rw [Stops] at h
  rw [Stops, outcome_bracket (by decide), outcome_bracketed, if_pos rfl, h]
  rfl

theorem stops_array (h : Stops policy n e .items s) :
    Stops policy (n + 1) e .operand ('[' :: s) := by
  rw [Stops] at h
  rw [Stops, outcome_bracket (by decide), outcome_bracketed, if_neg (by decide), if_pos rfl, h]
  rfl

theorem stops_next {left : Kind} (hplus : Trivia Lexis.free.comment s ('+' :: m))
    (hu : Trivia Lexis.free.comment m u) (h : Stops policy n e .operand u) :
    Stops policy n e (.more left) s := by
  intro start p _
  have hp := (outcome_operand_congr (skipTrivia_of_trivia hu)).trans h
  rw [chainOutcome_eq, skipTrivia_of_mark hplus (by decide)]
  simp [bind, Except.bind, hp]

theorem stops_further (hplus : Trivia Lexis.free.comment s ('+' :: m))
    (hu : Trivia Lexis.free.comment m u) (hp : Derives .free policy d (.operand p) u r)
    (hd : d ≤ n) (hk : p.value.kind = .string) (h : Stops policy n e (.more .string) r) :
    Stops policy n e (.more .string) s := by
  intro start left hleft
  have hread := reads_operand_of_trivia hu (completes hp _ hd)
  obtain ⟨a, ha⟩ := exists_string_of_kind hleft
  obtain ⟨b, hb⟩ := exists_string_of_kind hk
  have hmore := h start ⟨.string (a ++ b), left.duplicates ++ p.duplicates⟩ rfl
  rw [chainOutcome_eq, skipTrivia_of_mark hplus (by decide)]
  simp [bind, Except.bind, outcome_of_reads hread, ha, hb, hmore]

theorem stops_first (hu : Trivia Lexis.free.comment s u) (h : Stops policy n e .operand u) :
    Stops policy n e .literal s := by
  intro v hv
  have hp := (outcome_operand_congr (hv.trans (skipTrivia_of_trivia hu))).trans h
  rw [outcome_expression, hp]
  rfl

theorem stops_later (hu : Trivia Lexis.free.comment s u)
    (hp : Derives .free policy d (.operand p) u r) (hd : d ≤ n)
    (h : Stops policy n e (.more p.value.kind) r) : Stops policy n e .literal s := by
  intro v hv
  have hread := (reads_operand_congr (hv.trans (skipTrivia_of_trivia hu))).2 (completes hp _ hd)
  rw [outcome_expression, outcome_of_reads hread]
  exact h v _ rfl

theorem stops_value {key : Text} {k a b : List Char} (hk : Trivia Lexis.free.comment s k)
    (hkey : Key k key a) (hcolon : Trivia Lexis.free.comment a (':' :: b))
    (h : Stops policy n e .literal b) : Stops policy n e .members s := by
  obtain ⟨hs, hhead⟩ := skipTrivia_of_key hk hkey
  obtain ⟨bare, hread⟩ := readKey_of_key hkey
  have hliteral := h b rfl
  rw [Stops, outcome_members, hs]
  simp [bind, Except.bind, hhead, hread, skipTrivia_of_mark hcolon (by decide), hliteral]

theorem stops_member {key : Text} {k a b : List Char} (hk : Trivia Lexis.free.comment s k)
    (hkey : Key k key a) (hcolon : Trivia Lexis.free.comment a (':' :: b))
    (hp : Derives .free policy d (.literal p) b m) (hd : d ≤ n)
    (hc : Trivia Lexis.free.comment m (',' :: r)) (h : Stops policy n e .members r) :
    Stops policy n e .members s := by
  obtain ⟨hs, hhead⟩ := skipTrivia_of_key hk hkey
  obtain ⟨bare, hread⟩ := readKey_of_key hkey
  have hcomma := skipTrivia_of_mark hc (by decide)
  have hliteral := completes hp _ hd _ _ rfl hcomma (by simp)
  rw [Stops] at h
  rw [Stops, outcome_members, hs]
  simp [bind, Except.bind, hhead, hread, skipTrivia_of_mark hcolon (by decide),
    outcome_of_reads hliteral, skipTrivia_idem hcomma, h]

/-- The first character tells that the array does not end here and has no hole. -/
theorem stops_item {rest : List Char} (hs : skipTrivia s = .ok (c :: rest)) (hclose : c ≠ ']')
    (hcomma : c ≠ ',') (h : Stops policy n e .literal s) : Stops policy n e .items s := by
  have hliteral := h (c :: rest) ((skipTrivia_idem hs).trans hs.symm)
  rw [Stops, outcome_items, hs]
  simp [bind, Except.bind, hclose, hcomma, hliteral]

theorem stops_items (hp : Derives .free policy d (.literal p) s m) (hd : d ≤ n)
    (hc : Trivia Lexis.free.comment m (',' :: r)) (h : Stops policy n e .items r) :
    Stops policy n e .items s := by
  obtain ⟨c, rest, hs, hclose, hcomma'⟩ := skipTrivia_of_literal hp
  have hcomma := skipTrivia_of_mark hc (by decide)
  have hliteral := completes hp _ hd (c :: rest) _ ((skipTrivia_idem hs).trans hs.symm) hcomma
    (by simp)
  rw [Stops] at h
  rw [Stops, outcome_items, hs]
  simp [bind, Except.bind, hclose, hcomma', outcome_of_reads hliteral, skipTrivia_idem hcomma, h]

/-- **The readers fail where a token that fails is reached.** -/
theorem stops {part : Part} (h : Reaches policy n part s spot t)
    (ht : Breaks policy e spot t) : Stops policy n e part s := by
  induction h with
  | here =>
    obtain ⟨c, rest, rfl, hb, hc⟩ := ht.head
    exact outcome_token hb hc ht.fails
  | parentheses _ ih => exact stops_parentheses (ih ht)
  | object _ ih => exact stops_object (ih ht)
  | array _ ih => exact stops_array (ih ht)
  | next hplus hu _ ih => exact stops_next hplus hu (ih ht)
  | further hplus hu hp hd hk _ ih => exact stops_further hplus hu hp hd hk (ih ht)
  | first hu _ ih => exact stops_first hu (ih ht)
  | later hu hp hd _ ih => exact stops_later hu hp hd (ih ht)
  | key hk =>
    obtain ⟨c, rest, rfl, hb, hc⟩ := ht.head
    simp only [separators, List.mem_cons, List.not_mem_nil, or_false, not_or] at hc
    have hkey := ht.fails
    rw [FailsAt] at hkey
    rw [Stops, outcome_members, skipTrivia_of_trivia_token hk hb hc.1]
    simp [bind, Except.bind, hc, hkey]
  | value hk hkey hcolon _ ih => exact stops_value hk hkey hcolon (ih ht)
  | member hk hkey hcolon hp hd hc _ ih => exact stops_member hk hkey hcolon hp hd hc (ih ht)
  | item h ih =>
    obtain ⟨c, rest, hs, hclose, hcomma⟩ := skipTrivia_of_reaches h ht
    exact stops_item hs hclose hcomma (ih ht)
  | items hp hd hc _ ih => exact stops_items hp hd hc (ih ht)

theorem parseWithin_of_reaches {text : List Char} {limit : Nat}
    (h : Reaches policy limit .literal text spot t) (ht : Breaks policy e spot t) :
    parseWithin limit policy text = .error e := by
  rw [parseWithin_eq, stops h ht text rfl]
  rfl

/-- **Reading fails for a fault of a token exactly where such a token is reached.** -/
theorem parseWithin_eq_error_iff {text : List Char} {limit : Nat} (he : TokenFault e) :
    parseWithin limit policy text = .error e ↔ Faulty policy limit e .literal text := by
  constructor
  · intro h
    rw [parseWithin_eq] at h
    rcases bind_eq_error.1 h with hp | ⟨⟨p, m⟩, _, h⟩
    · exact stopsLiterals_expression he (derives_of_reads_operand policy limit)
        (faulty_of_operand policy limit he) hp
    rcases bind_eq_error.1 h with hm | ⟨r, _, h⟩
    · exact absurd he (not_tokenFault_of_skipTrivia hm)
    split at h
    · simp at h
    · cases h
      exact he.elim
  · rintro ⟨spot, t, h, ht⟩
    exact parseWithin_of_reaches h (breaks_of_spotFault ht)

end PromptLibrary.Proofs.Literal.Reached
