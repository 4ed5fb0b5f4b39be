import Mathlib.Data.List.Chain
import Mathlib.Logic.Relation
import PromptLibrary.Proofs.Literal.Suffix
/-!
# The way of the cursor

While a text is read, the cursor is a place in it, named by the text after it, and at each place the
parser is at one of a few stages.  A move is one call of a reader, one turn of a loop, or one symbol
of a token.

* `ahead_of_takes` — a reader that succeeds takes something off the front of its text;
* `forward_of_moves` — a move never goes back, and one that stays in its place goes to a stage of
  lower rank;
* `suffix_of_visits`, `length_le_of_moves` — so the cursor stays in the text, and each way comes to
  an end.
-/

namespace PromptLibrary.Proofs.Literal.Cursor

open PromptLibrary.Literal
open PromptLibrary.Proofs.Literal.Trivia
open PromptLibrary.Proofs.Literal.Quote
open PromptLibrary.Proofs.Literal.Token
open PromptLibrary.Proofs.Literal.Readers
open PromptLibrary.Proofs.Literal.Recognition
open PromptLibrary.Proofs.Literal.Steps
open PromptLibrary.Proofs.Literal.Balance
open PromptLibrary.Proofs.Literal.Suffix

/-- A reader succeeds in front of the first text and leaves the second. -/
inductive Takes (policy : Interpolation) : List Char → List Char → Prop where
  | operand {n : Nat} {s r : List Char} {p : Parsed}
      (h : outcome (operandWithin policy n) s = .ok (p, r)) : Takes policy s r
  | literal {n : Nat} {s r : List Char} {p : Parsed}
      (h : outcome (expression (operandWithin policy n)) s = .ok (p, r)) : Takes policy s r
  | key {s r : List Char} {key : Text} {bare : Bool} (h : readKey s = .ok (key, bare, r)) :
      Takes policy s r
  | scalar {s r : List Char} {v : Value} (h : scalar policy s = .ok (v, r)) : Takes policy s r
  | string {quote : Char} {s r : List Char} {t : Text}
      (h : stringBody quote (quote :: s) s = .ok (t, r)) : Takes policy (quote :: s) r
  | template {s r : List Char} {t : Text} (h : templateBody policy ('\x60' :: s) s = .ok (t, r)) :
      Takes policy ('\x60' :: s) r
  | number {c : Char} {s r : List Char} {v : Value} (h : Number.read c s = .ok (v, r)) :
      Takes policy (c :: s) r
  | name {c : Char} {s : List Char} : Takes policy (c :: s) (readName c s).2
  | escape {inTemplate : Bool} {s r : List Char} {piece : Text}
      (h : escape inTemplate s = .ok (piece, r)) : Takes policy s r
  | span {s inside r : List Char} (h : closingBrace? 0 none s = some (inside, r)) : Takes policy s r

/-- What the parser is about to read; `room` is how many more brackets may open. -/
inductive Stage where
  | whole (limit : Nat)
  | literal (room : Nat)
  /-- Behind an operand, where a `+` may follow. -/
  | chain (room : Nat)
  | operand (room : Nat)
  /-- Behind an opening bracket. -/
  | inside (bracket : Char) (room : Nat)
  | items (room : Nat)
  | members (room : Nat)
  | key
  | scalar
  | string (quote : Char)
  | template
  /-- The braces behind the dollar sign of an interpolation. -/
  | span
  /-- Behind a backslash. -/
  | escape (inTemplate : Bool)
  /-- Where an escape holds a number. -/
  | digits
  | number
  | afterNumber
  | name
  | trivia

/-- A place of the cursor, with the stage that the parser is at. -/
structure Point where
  stage : Stage
  rest : List Char

/-- One move of the cursor. -/
inductive Moves (policy : Interpolation) : Point → Point → Prop where
  -- Trivia, piece by piece.
  | blank {c : Char} {s : List Char} (hc : isBlank c = true) :
      Moves policy ⟨.trivia, c :: s⟩ ⟨.trivia, s⟩
  | line {s : List Char} : Moves policy ⟨.trivia, '/' :: '/' :: s⟩ ⟨.trivia, afterLine s⟩
  | comment {s r : List Char} (h : afterComment? s = some r) :
      Moves policy ⟨.trivia, '/' :: '*' :: s⟩ ⟨.trivia, r⟩
  -- Literals.  Each loop is one move from turn to turn, beside the moves to what it reads.
  | whole {n : Nat} {s : List Char} : Moves policy ⟨.whole n, s⟩ ⟨.literal n, s⟩
  | afterWhole {n : Nat} {s m : List Char} {p : Parsed}
      (hp : outcome (expression (operandWithin policy n)) s = .ok (p, m)) :
      Moves policy ⟨.whole n, s⟩ ⟨.trivia, m⟩
  | first {n : Nat} {s : List Char} : Moves policy ⟨.literal n, s⟩ ⟨.operand n, s⟩
  | afterFirst {n : Nat} {s m : List Char} {p : Parsed}
      (hp : outcome (operandWithin policy n) s = .ok (p, m)) :
      Moves policy ⟨.literal n, s⟩ ⟨.chain n, m⟩
  | beforePlus {n : Nat} {s : List Char} : Moves policy ⟨.chain n, s⟩ ⟨.trivia, s⟩
  | next {n : Nat} {s r : List Char} (hs : skipTrivia s = .ok ('+' :: r)) :
      Moves policy ⟨.chain n, s⟩ ⟨.operand n, r⟩
  | afterNext {n : Nat} {s r m : List Char} {p : Parsed} (hs : skipTrivia s = .ok ('+' :: r))
      (hp : outcome (operandWithin policy n) r = .ok (p, m)) :
      Moves policy ⟨.chain n, s⟩ ⟨.chain n, m⟩
  | beforeOperand {n : Nat} {s : List Char} : Moves policy ⟨.operand n, s⟩ ⟨.trivia, s⟩
  | scalar {n : Nat} {c : Char} {s r : List Char} (hs : skipTrivia s = .ok (c :: r))
      (hc : isOpening c = false) : Moves policy ⟨.operand n, s⟩ ⟨.scalar, c :: r⟩
  | bracket {n : Nat} {c : Char} {s r : List Char} (hs : skipTrivia s = .ok (c :: r))
      (hc : isOpening c = true) : Moves policy ⟨.operand n, s⟩ ⟨.inside c n, r⟩
  | parentheses {n : Nat} {s : List Char} : Moves policy ⟨.inside '(' (n + 1), s⟩ ⟨.literal n, s⟩
  | beforeClosing {n : Nat} {s m : List Char} {p : Parsed}
      (hp : outcome (expression (operandWithin policy n)) s = .ok (p, m)) :
      Moves policy ⟨.inside '(' (n + 1), s⟩ ⟨.trivia, m⟩
  | array {n : Nat} {s : List Char} : Moves policy ⟨.inside '[' (n + 1), s⟩ ⟨.items n, s⟩
  | object {n : Nat} {s : List Char} : Moves policy ⟨.inside '\x7b' (n + 1), s⟩ ⟨.members n, s⟩
  -- Arrays and objects.
  | beforeItem {n : Nat} {s : List Char} : Moves policy ⟨.items n, s⟩ ⟨.trivia, s⟩
  | item {n : Nat} {s t : List Char} (hs : skipTrivia s = .ok t) (hclose : t.head? ≠ some ']')
      (hcomma : t.head? ≠ some ',') : Moves policy ⟨.items n, s⟩ ⟨.literal n, t⟩
  | afterItem {n : Nat} {s t m : List Char} {p : Parsed} (hs : skipTrivia s = .ok t)
      (hp : outcome (expression (operandWithin policy n)) t = .ok (p, m)) :
      Moves policy ⟨.items n, s⟩ ⟨.trivia, m⟩
  | nextItem {n : Nat} {s t m r : List Char} {p : Parsed} (hs : skipTrivia s = .ok t)
      (hp : outcome (expression (operandWithin policy n)) t = .ok (p, m))
      (hm : skipTrivia m = .ok (',' :: r)) : Moves policy ⟨.items n, s⟩ ⟨.items n, r⟩
  | beforeKey {n : Nat} {s : List Char} : Moves policy ⟨.members n, s⟩ ⟨.trivia, s⟩
  | key {n : Nat} {s t : List Char} (hs : skipTrivia s = .ok t)
      (hclose : t.head? ≠ some '\x7d') : Moves policy ⟨.members n, s⟩ ⟨.key, t⟩
  | afterKey {n : Nat} {s t a : List Char} {key : Text} {bare : Bool} (hs : skipTrivia s = .ok t)
      (hk : readKey t = .ok (key, bare, a)) : Moves policy ⟨.members n, s⟩ ⟨.trivia, a⟩
  | value {n : Nat} {s t a b : List Char} {key : Text} {bare : Bool} (hs : skipTrivia s = .ok t)
      (hk : readKey t = .ok (key, bare, a)) (ha : skipTrivia a = .ok (':' :: b)) :
      Moves policy ⟨.members n, s⟩ ⟨.literal n, b⟩
  | afterValue {n : Nat} {s t a b m : List Char} {key : Text} {bare : Bool} {p : Parsed}
      (hs : skipTrivia s = .ok t) (hk : readKey t = .ok (key, bare, a))
      (ha : skipTrivia a = .ok (':' :: b))
      (hp : outcome (expression (operandWithin policy n)) b = .ok (p, m)) :
      Moves policy ⟨.members n, s⟩ ⟨.trivia, m⟩
  | nextMember {n : Nat} {s t a b m r : List Char} {key : Text} {bare : Bool} {p : Parsed}
      (hs : skipTrivia s = .ok t) (hk : readKey t = .ok (key, bare, a))
      (ha : skipTrivia a = .ok (':' :: b))
      (hp : outcome (expression (operandWithin policy n)) b = .ok (p, m))
      (hm : skipTrivia m = .ok (',' :: r)) : Moves policy ⟨.members n, s⟩ ⟨.members n, r⟩
  -- Tokens, symbol by symbol.
  | string {stage : Stage} {quote : Char} {s : List Char} (hstage : stage = .scalar ∨ stage = .key)
      (hq : quote = '\'' ∨ quote = '"') : Moves policy ⟨stage, quote :: s⟩ ⟨.string quote, s⟩
  | template {s : List Char} : Moves policy ⟨.scalar, '\x60' :: s⟩ ⟨.template, s⟩
  | number {stage : Stage} {c : Char} {s : List Char} (hstage : stage = .scalar ∨ stage = .key)
      (hc : Text.isDigit c = true ∨ c ∈ ['+', '-', '.']) :
      Moves policy ⟨stage, c :: s⟩ ⟨.number, c :: s⟩
  | numeral {s r : List Char} {number : Number} (h : Number.lex? s = some (number, r)) :
      Moves policy ⟨.number, s⟩ ⟨.afterNumber, r⟩
  | name {stage : Stage} {c : Char} {s : List Char} (hstage : stage = .scalar ∨ stage = .key)
      (hc : isNameStart c = true) : Moves policy ⟨stage, c :: s⟩ ⟨.name, s⟩
  | namePart {c : Char} {s : List Char} (hc : isNamePart c = true) :
      Moves policy ⟨.name, c :: s⟩ ⟨.name, s⟩
  | inString {quote c : Char} {s : List Char} (hc : c ∉ ['\n', '\r', quote, '\\']) :
      Moves policy ⟨.string quote, c :: s⟩ ⟨.string quote, s⟩
  | stringEscape {quote : Char} {s : List Char} :
      Moves policy ⟨.string quote, '\\' :: s⟩ ⟨.escape false, s⟩
  | afterStringEscape {quote : Char} {s r : List Char} {piece : Text}
      (h : escape false s = .ok (piece, r)) :
      Moves policy ⟨.string quote, '\\' :: s⟩ ⟨.string quote, r⟩
  | inTemplate {c : Char} {s : List Char} (hc : c ∉ ['\x60', '\\']) :
      Moves policy ⟨.template, c :: s⟩ ⟨.template, s⟩
  | crlf {s : List Char} : Moves policy ⟨.template, '\r' :: '\n' :: s⟩ ⟨.template, s⟩
  | templateEscape {s : List Char} : Moves policy ⟨.template, '\\' :: s⟩ ⟨.escape true, s⟩
  | afterTemplateEscape {s r : List Char} {piece : Text} (h : escape true s = .ok (piece, r)) :
      Moves policy ⟨.template, '\\' :: s⟩ ⟨.template, r⟩
  | span {s : List Char} : Moves policy ⟨.template, '$' :: '\x7b' :: s⟩ ⟨.span, '\x7b' :: s⟩
  | interpolation {s inside r : List Char} (hpolicy : policy = .literal)
      (h : closingBrace? 0 none s = some (inside, r)) :
      Moves policy ⟨.template, '$' :: '\x7b' :: s⟩ ⟨.template, r⟩
  | digits {inTemplate : Bool} {c : Char} {s : List Char}
      (hc : c = 'x' ∨ c = 'u' ∨ isOctal c = true) :
      Moves policy ⟨.escape inTemplate, c :: s⟩ ⟨.digits, s⟩

/-- The points that the cursor comes to from a point. -/
def Visits (policy : Interpolation) : Point → Point → Prop :=
  Relation.ReflTransGen (Moves policy)

variable {policy : Interpolation} {n : Nat} {s t r : List Char} {c : Char} {p : Parsed}
  {a b : Point}

/-! ## Readers take something -/

/-- A place further on in the text. -/
def Ahead (s r : List Char) : Prop :=
  r <:+ s ∧ r.length < s.length

theorem Ahead.suffix (h : Ahead s r) : r <:+ s := h.1

theorem ahead_of_cons (h : r <:+ s) : Ahead (c :: s) r :=
  ⟨suffix_cons h, Nat.lt_succ_of_le h.length_le⟩

theorem Ahead.of_suffix (h : Ahead t r) (ht : t <:+ s) : Ahead s r :=
  ⟨h.1.trans ht, Nat.lt_of_lt_of_le h.2 ht.length_le⟩

theorem Ahead.to_suffix (h : Ahead s t) (hr : r <:+ t) : Ahead s r :=
  ⟨hr.trans h.1, Nat.lt_of_le_of_lt hr.length_le h.2⟩

theorem suffix_of_operand (h : outcome (operandWithin policy n) s = .ok (p, r)) : r <:+ s := by
  obtain ⟨_, _, _, hu, hder⟩ := derives_of_reads_operand policy n h
  exact (suffix_of_derives hder).trans (suffix_of_trivia hu)

theorem suffix_of_literal (h : outcome (expression (operandWithin policy n)) s = .ok (p, r)) :
    r <:+ s := by
  obtain ⟨_, _, _, hder, hr⟩ := derives_of_reads_expression (derives_of_reads_operand policy n) h
  exact (suffix_of_trivia hr).trans (suffix_of_derives hder)

theorem ahead_of_readKey {key : Text} {bare : Bool} (h : readKey s = .ok (key, bare, r)) :
    Ahead s r :=
  ⟨suffix_of_key (key_of_readKey h), length_readKey_lt h⟩

/-- **What a reader leaves is an end of its text, and lacks at least one character.** -/
theorem ahead_of_takes (h : Takes policy s r) : Ahead s r := by
  cases h with
  | operand h => exact ⟨suffix_of_operand h, length_lt_of_reads h⟩
  | literal h => exact ⟨suffix_of_literal h, length_lt_of_reads h⟩
  | key h => exact ahead_of_readKey h
  | scalar h => exact ⟨suffix_of_token (token_of_scalar h), length_scalar_lt h⟩
  | string h => exact ahead_of_cons (suffix_of_stringBody (stringBody_of_read h))
  | template h => exact ahead_of_cons (suffix_of_templateBody (templateBody_of_read h))
  | number h => exact ⟨suffix_of_only (only_of_read h), length_readNumber_lt h⟩
  | name => exact ahead_of_cons (List.dropWhile_suffix isNamePart)
  | escape h => exact ⟨suffix_of_escape h, length_escape_lt h⟩
  | span h => exact ⟨suffix_of_spanBody (spanBody_of_closingBrace h), length_closingBrace_lt h⟩

/-! ## Moves go forward -/

theorem suffix_of_skipTrivia (h : skipTrivia s = .ok t) : t <:+ s :=
  suffix_of_trivia (trivia_of_skipTrivia h)

theorem ahead_of_skipTrivia (h : skipTrivia s = .ok (c :: r)) : Ahead s r :=
  (ahead_of_cons (List.suffix_refl r)).of_suffix (suffix_of_skipTrivia h)

/-- The value of a member is ahead of where the member begins. -/
theorem ahead_of_colon {key : Text} {bare : Bool} {k m : List Char} (hs : skipTrivia s = .ok k)
    (hk : readKey k = .ok (key, bare, m)) (hm : skipTrivia m = .ok (':' :: r)) : Ahead s r :=
  have hkey := (ahead_of_readKey hk).of_suffix (suffix_of_skipTrivia hs)
  hkey.to_suffix (ahead_of_skipTrivia hm).suffix

theorem suffix_of_afterLine : afterLine s <:+ s := by
  fun_induction afterLine s with
  | case1 => exact List.suffix_refl _
  | case2 rest => exact List.suffix_cons _ rest
  | case3 c rest _ ih => exact suffix_cons ih

theorem suffix_of_afterComment (h : afterComment? s = some r) : r <:+ s := by
  obtain ⟨body, _, rfl⟩ := exists_comment h
  exact suffix_cons (suffix_cons (List.suffix_refl r)) |>.trans (List.suffix_append body _)

/-- How many stages the parser may still go through without going on in the text. -/
def Stage.rank : Stage → Nat
  | .whole _ => 7
  | .inside _ _ => 6
  | .items _ => 5
  | .members _ => 5
  | .literal _ => 4
  | .operand _ => 3
  | .scalar => 2
  | .key => 2
  | .chain _ => 1
  | .number => 1
  | _ => 0

theorem Stage.rank_lt (stage : Stage) : stage.rank < 8 := by
  cases stage <;> simp [Stage.rank]

/-- The cursor goes on in the text, or it stays and the parser goes to a stage of lower rank. -/
def Forward (a b : Point) : Prop :=
  b.rest <:+ a.rest ∧ (b.rest.length < a.rest.length ∨ b.stage.rank < a.stage.rank)

theorem Forward.of_ahead (h : Ahead a.rest b.rest) : Forward a b :=
  ⟨h.1, .inl h.2⟩

theorem Forward.of_rank (h : b.rest <:+ a.rest) (hrank : b.stage.rank < a.stage.rank) :
    Forward a b :=
  ⟨h, .inr hrank⟩

/-- **Each move is forward.** -/
theorem forward_of_moves (h : Moves policy a b) : Forward a b := by
  cases h with
  | blank => exact .of_ahead (ahead_of_cons (List.suffix_refl _))
  | line => exact .of_ahead (ahead_of_cons (suffix_cons suffix_of_afterLine))
  | comment h => exact .of_ahead (ahead_of_cons (suffix_cons (suffix_of_afterComment h)))
  | whole | first | beforePlus | beforeOperand | parentheses | array | object | beforeItem
  | beforeKey => exact .of_rank (List.suffix_refl _) (by simp [Stage.rank])
  | afterWhole hp => exact .of_ahead (ahead_of_takes (.literal hp))
  | afterFirst hp => exact .of_ahead (ahead_of_takes (.operand hp))
  | next hs => exact .of_ahead (ahead_of_skipTrivia hs)
  | afterNext hs hp => exact .of_ahead ((ahead_of_skipTrivia hs).to_suffix (suffix_of_operand hp))
  | scalar hs _ => exact .of_rank (suffix_of_skipTrivia hs) (by simp [Stage.rank])
  | bracket hs _ => exact .of_ahead (ahead_of_skipTrivia hs)
  | beforeClosing hp => exact .of_ahead (ahead_of_takes (.literal hp))
  | item hs _ _ => exact .of_rank (suffix_of_skipTrivia hs) (by simp [Stage.rank])
  | afterItem hs hp =>
    exact .of_ahead ((ahead_of_takes (.literal hp)).of_suffix (suffix_of_skipTrivia hs))
  | nextItem hs hp hm =>
    have hitem := (ahead_of_takes (.literal hp)).of_suffix (suffix_of_skipTrivia hs)
    exact .of_ahead (hitem.to_suffix (ahead_of_skipTrivia hm).suffix)
  | key hs _ => exact .of_rank (suffix_of_skipTrivia hs) (by simp [Stage.rank])
  | afterKey hs hk => exact .of_ahead ((ahead_of_readKey hk).of_suffix (suffix_of_skipTrivia hs))
  | value hs hk ha => exact .of_ahead (ahead_of_colon hs hk ha)
  | afterValue hs hk ha hp =>
    exact .of_ahead ((ahead_of_colon hs hk ha).to_suffix (suffix_of_literal hp))
  | nextMember hs hk ha hp hm =>
    have hvalue := (ahead_of_colon hs hk ha).to_suffix (suffix_of_literal hp)
    exact .of_ahead (hvalue.to_suffix (ahead_of_skipTrivia hm).suffix)
  | number hstage _ =>
    refine .of_rank (List.suffix_refl _) ?_
    rcases hstage with rfl | rfl <;> simp [Stage.rank]
  | numeral h => exact .of_ahead ⟨suffix_of_only (only_of_lex h), length_lex_lt h⟩
  | string | template | name | namePart | inString | stringEscape | inTemplate | templateEscape
  | span | digits => exact .of_ahead (ahead_of_cons (List.suffix_refl _))
  | afterStringEscape h => exact .of_ahead (ahead_of_cons (suffix_of_escape h))
  | afterTemplateEscape h => exact .of_ahead (ahead_of_cons (suffix_of_escape h))
  | crlf => exact .of_ahead (ahead_of_cons (List.suffix_cons _ _))
  | interpolation _ h =>
    have hspan := suffix_of_spanBody (spanBody_of_closingBrace h)
    exact .of_ahead (ahead_of_cons (suffix_cons hspan))

/-- **The cursor never goes back, and never leaves the text.** -/
theorem suffix_of_visits (h : Visits policy a b) : b.rest <:+ a.rest := by
  induction h with
  | refl => exact List.suffix_refl _
  | tail _ hmove ih => exact (forward_of_moves hmove).1.trans ih

/-- The rest of a text from a point that is visited on, as what is left behind an offset. -/
theorem drop_of_visits (h : Visits policy a b) :
    a.rest.drop (a.rest.length - b.rest.length) = b.rest :=
  (List.suffix_iff_eq_drop.1 (suffix_of_visits h)).symm

/-! ## Every way ends -/

/-- More than the moves that a way from the point can have. -/
def Point.weight (a : Point) : Nat := 8 * a.rest.length + a.stage.rank

theorem weight_lt_of_moves (h : Moves policy a b) : b.weight < a.weight := by
  obtain ⟨hsuffix, hlt⟩ := forward_of_moves h
  have hle := hsuffix.length_le
  have hb := b.stage.rank_lt
  unfold Point.weight
  omega

/-- **A way of the cursor has at most as many moves as its first point has weight.** -/
theorem length_le_of_moves {points : List Point} (h : List.IsChain (Moves policy) (a :: points)) :
    points.length ≤ a.weight := by
  induction points generalizing a with
  | nil => exact Nat.zero_le _
  | cons point points ih =>
    obtain ⟨hfirst, hrest⟩ := List.isChain_cons_cons.1 h
    have hlt := weight_lt_of_moves hfirst
    have hle := ih hrest
    rw [List.length_cons]
    omega

end PromptLibrary.Proofs.Literal.Cursor
