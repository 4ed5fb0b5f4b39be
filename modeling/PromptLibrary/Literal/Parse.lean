import PromptLibrary.Literal.Number
import PromptLibrary.Literal.Quote
import PromptLibrary.Literal.Trivia
/-!
# Reading literals

A literal is an object, an array, a string, a template, a number, a keyword or a literal in
parentheses; strings may be joined by `+`. Brackets nest at most as deep as a limit allows: the
reader for one level of brackets is built from the reader for the levels inside.
-/

namespace PromptLibrary.Literal

/-- A key that came again in its object, and the text from its later place on. -/
structure Duplicate where
  key : Text
  rest : List Char
  deriving DecidableEq, Repr

/-- A value, and the keys that were overridden while it was read. -/
structure Parsed where
  value : Value
  duplicates : List Duplicate

/-- A member of an object, with the text from its key on. -/
structure Member where
  key : Text
  rest : List Char
  parsed : Parsed

/-- The keys that come again among members, when some keys have been seen before. -/
def duplicatesAmong (seen : List Text) : List Member → List Duplicate
  | [] => []
  | m :: more =>
    m.parsed.duplicates ++ (if m.key ∈ seen then [⟨m.key, m.rest⟩] else []) ++
      duplicatesAmong (m.key :: seen) more

/-- The object that members make. -/
def Parsed.ofMembers (members : List Member) : Parsed :=
  ⟨.object (Mapping.ofEntries (members.map fun m => (m.key, m.parsed.value))),
    duplicatesAmong [] members⟩

def Parsed.ofItems (items : List Parsed) : Parsed :=
  ⟨.array (items.map (·.value)), items.flatMap (·.duplicates)⟩

/-- A value that holds no other value. -/
def Parsed.leaf (v : Value) : Parsed := ⟨v, []⟩

/-! ## Tokens -/

/-- The value of a keyword. -/
def keyword? (name : List Char) : Option Value :=
  if name = "true".toList then some (.bool true)
  else if name = "false".toList then some (.bool false)
  else if name = "null".toList then some .null
  else none

/-- The name that begins with `first`, and the text after it. -/
def readName (first : Char) (more : List Char) : List Char × List Char :=
  (first :: more.takeWhile isNamePart, more.dropWhile isNamePart)

/-- A value without brackets. A string may end in a surrogate half, which a `+` may complete. -/
def scalar (policy : Interpolation) (s : List Char) : Except Failure (Value × List Char) :=
  match s with
  | [] => .error (.refused .endOfInput [])
  | c :: rest =>
    if c = '\'' ∨ c = '"' then (stringBody c s rest).map fun (t, r) => (.string t, r)
    else if c = '\x60' then (templateBody policy s rest).map fun (t, r) => (.string t, r)
    else if Text.isDigit c ∨ c = '+' ∨ c = '-' ∨ c = '.' then Number.read c rest
    else if isNameStart c then
      let (name, after) := readName c rest
      match keyword? name with
      | some v => .ok (v, after)
      | none => .error (.refused (.undefinedSymbol name) s)
    else .error (.refused (.unexpected c) s)

/-- A key of an object, whether it is a bare name, and the text after it. -/
def readKey (s : List Char) : Except Failure (Text × Bool × List Char) :=
  match s with
  | [] => .error (.refused .endInObject [])
  | c :: rest =>
    if c = '\'' ∨ c = '"' then do
      let (t, after) ← stringBody c s rest
      let key ← resolve s t
      return (key, false, after)
    else if c = '\x60' then .error (.refused .templateKey s)
    else if c = '[' then .error (.refused .computedKey s)
    else if ['.', '.', '.'].isPrefixOf s then .error (.refused .spread s)
    else if Text.isDigit c ∨ c = '.' then do
      let (n, after) ← Number.read c rest
      let key ← Number.keyText n
      return (key, false, after)
    else if isNameStart c then
      let (name, after) := readName c rest
      .ok (Text.ofChars name, true, after)
    else .error (.refused (.unexpectedInKey c) s)

/-- Whether a bare name that is followed by this text stands for a member without a value. -/
def isValueless (rest : List Char) : Bool :=
  rest.head?.any fun c => c = ',' || c = '\x7d' || c = '('

/-! ## Progress of tokens -/

theorem length_readName_lt (first : Char) (more : List Char) :
    (readName first more).2.length < (first :: more).length := by
  have := (List.dropWhile_suffix (l := more) isNamePart).length_le
  simp [readName]; omega

theorem length_scalar_lt {policy : Interpolation} {s r : List Char} {v : Value}
    (h : scalar policy s = .ok (v, r)) : r.length < s.length := by
  unfold scalar at h
  split at h
  · simp at h
  · next c rest =>
    split at h
    · obtain ⟨⟨t, w⟩, ht, he⟩ := map_eq_ok.1 h
      have := length_stringBody_lt ht
      simp at he
      simp [← he.2]; omega
    split at h
    · obtain ⟨⟨t, w⟩, ht, he⟩ := map_eq_ok.1 h
      have := length_templateBody_lt ht
      simp at he
      simp [← he.2]; omega
    split at h
    · exact length_readNumber_lt h
    split at h
    · have := length_readName_lt c rest
      simp only at h
      split at h
      · simp only [Except.ok.injEq, Prod.mk.injEq] at h
        rw [← h.2]; exact this
      · simp at h
    · simp at h

theorem length_readKey_lt {s r : List Char} {key : Text} {bare : Bool}
    (h : readKey s = .ok (key, bare, r)) : r.length < s.length := by
  unfold readKey at h
  split at h
  · simp at h
  · next c rest =>
    split at h
    · cases hb : stringBody c (c :: rest) rest with
      | error e => simp [hb, bind, Except.bind] at h
      | ok q =>
        obtain ⟨t, w⟩ := q
        have := length_stringBody_lt hb
        cases hr : resolve (c :: rest) t with
        | error e => simp [hb, hr, bind, Except.bind] at h
        | ok k =>
          simp [hb, hr, bind, Except.bind, pure, Except.pure] at h
          simp [← h.2.2]; omega
    repeat (split at h; · simp at h)
    split at h
    · cases hb : Number.read c rest with
      | error e => simp [hb, bind, Except.bind] at h
      | ok q =>
        obtain ⟨n, w⟩ := q
        have := length_readNumber_lt hb
        cases hr : Number.keyText n with
        | error e => simp [hb, hr, bind, Except.bind] at h
        | ok k =>
          simp [hb, hr, bind, Except.bind, pure, Except.pure] at h
          rw [← h.2.2]; exact this
    split at h
    · have := length_readName_lt c rest
      simp only [Except.ok.injEq, Prod.mk.injEq] at h
      rw [← h.2.2]; exact this
    · simp at h

/-! ## Literals -/

/--
The rest of a chain of strings after its first operand, which began at `start`. The halves of a
surrogate pair may come from neighbouring operands.
-/
def chain (operand : Reader Char Failure Parsed) (start : List Char) (left : Parsed)
    (s : List Char) : Except Failure (Parsed × { r : List Char // r.length ≤ s.length }) :=
  match h : skipTrivia s with
  | .error e => .error e
  | .ok ('+' :: rest) =>
    match operand rest with
    | .error e => .error e
    | .ok right =>
      have hr := Nat.lt_trans right.shorter (length_skipTrivia_lt h)
      match left.value, right.value.value with
      | .string a, .string b =>
        let joined := ⟨.string (a ++ b), left.duplicates ++ right.value.duplicates⟩
        (chain operand start joined right.rest).map fun (p, r) => 
          (p, ⟨r.1, Nat.le_trans r.2 (Nat.le_of_lt hr)⟩)
      | a, b => .error (.refused (.notStrings a.kind b.kind) start)
  | .ok rest =>
    let done (v : Value) := (⟨v, left.duplicates⟩, ⟨rest, length_skipTrivia_le h⟩)
    match left.value with
    | .string t => (resolve start t).map fun u => done (.string u)
    | v => .ok (done v)
termination_by s.length

/-- Operands joined by `+`. -/
def expression (operand : Reader Char Failure Parsed) (s : List Char) :
    Except Failure (Taken Parsed s) :=
  match operand s with
  | .error e => .error e
  | .ok first =>
    (chain operand s first.value first.rest).map fun (p, r) =>
      ⟨p, r.1, Nat.lt_of_le_of_lt r.2 first.shorter⟩

/-- The items of an array after its opening bracket. -/
def items (value : Reader Char Failure Parsed) (s : List Char) :
    Except Failure (Taken (List Parsed) s) :=
  match h : skipTrivia s with
  | .error e => .error e
  | .ok (']' :: rest) => .ok ⟨[], rest, length_skipTrivia_lt h⟩
  | .ok (',' :: rest) => .error (.refused .hole (',' :: rest))
  | .ok t =>
    match value t with
    | .error e => .error e
    | .ok v =>
      have hv := Nat.lt_of_lt_of_le v.shorter (length_skipTrivia_le h)
      match hn : skipTrivia v.rest with
      | .error e => .error e
      | .ok (',' :: rest) =>
        have hr := Nat.lt_trans (length_skipTrivia_lt hn) hv
        (items value rest).map (.lift (v.value :: ·) (Nat.le_of_lt hr))
      | .ok (']' :: rest) => .ok ⟨[v.value], rest, Nat.lt_trans (length_skipTrivia_lt hn) hv⟩
      | .ok rest => .error (.refused (.expectedInArray rest.head?) rest)
termination_by s.length

/-- The members of an object after its opening brace. -/
def members (value : Reader Char Failure Parsed) (s : List Char) :
    Except Failure (Taken (List Member) s) :=
  match h : skipTrivia s with
  | .error e => .error e
  | .ok ('\x7d' :: rest) => .ok ⟨[], rest, length_skipTrivia_lt h⟩
  | .ok t =>
    match hk : readKey t with
    | .error e => .error e
    | .ok (key, bare, afterKey) =>
      match hc : skipTrivia afterKey with
      | .error e => .error e
      | .ok (':' :: afterColon) =>
        match value afterColon with
        | .error e => .error e
        | .ok v =>
          have hv := calc v.rest.length
            _ < afterColon.length := v.shorter
            _ < afterKey.length := length_skipTrivia_lt hc
            _ < t.length := length_readKey_lt hk
            _ ≤ s.length := length_skipTrivia_le h
          match hn : skipTrivia v.rest with
          | .error e => .error e
          | .ok (',' :: rest) =>
            have hr := Nat.lt_trans (length_skipTrivia_lt hn) hv
            (members value rest).map (.lift (⟨key, t, v.value⟩ :: ·) (Nat.le_of_lt hr))
          | .ok ('\x7d' :: rest) =>
            .ok ⟨[⟨key, t, v.value⟩], rest, Nat.lt_trans (length_skipTrivia_lt hn) hv⟩
          | .ok rest => .error (.refused (.expectedInObject rest.head?) rest)
      | .ok next =>
        if bare ∧ isValueless next then .error (.refused (.valueless key) t)
        else .error (.refused (.expected ':' next.head?) next)
termination_by s.length

/-- A literal in parentheses, after the opening one. -/
def parenthesised (value : Reader Char Failure Parsed) (s : List Char) :
    Except Failure (Taken Parsed s) :=
  match value s with
  | .error e => .error e
  | .ok v =>
    match h : skipTrivia v.rest with
    | .error e => .error e
    | .ok (')' :: rest) =>
      .ok ⟨v.value, rest, Nat.lt_trans (length_skipTrivia_lt h) v.shorter⟩
    | .ok rest => .error (.refused (.expected ')' rest.head?) rest)

/-- What an opening bracket begins; `value` reads the literals inside. -/
def bracketed (value : Reader Char Failure Parsed) (bracket : Char) (s : List Char) :
    Except Failure (Taken Parsed s) :=
  if bracket = '\x7b' then (members value s).map (.lift .ofMembers (Nat.le_refl _))
  else if bracket = '[' then (items value s).map (.lift .ofItems (Nat.le_refl _))
  else parenthesised value s

def isOpening (c : Char) : Bool :=
  c = '\x7b' || c = '[' || c = '('

/-- One operand; `inner` reads the literals inside its brackets, unless none may open any more. -/
def operand (policy : Interpolation) (inner : Option (Reader Char Failure Parsed)) (s : List Char) :
    Except Failure (Taken Parsed s) :=
  match h : skipTrivia s with
  | .error e => .error e
  | .ok t =>
    have ht := length_skipTrivia_le h
    match t with
    | [] => .error (.refused .endOfInput [])
    | c :: rest =>
      if isOpening c then
        match inner with
        | none => .error (.refused .tooDeep rest)
        | some value => (bracketed value c rest).map (.lift id (Nat.le_of_lt ht))
      else
        match hv : scalar policy (c :: rest) with
        | .error e => .error e
        | .ok (v, after) => .ok ⟨.leaf v, after, Nat.lt_of_lt_of_le (length_scalar_lt hv) ht⟩

/-- The reader of operands in which brackets nest at most `room` deep. -/
def operandWithin (policy : Interpolation) : (room : Nat) → Reader Char Failure Parsed
  | 0 => operand policy none
  | room + 1 => operand policy (some (expression (operandWithin policy room)))

/-- Reads a whole text in which brackets nest at most `limit` deep. -/
def parseWithin (limit : Nat) (policy : Interpolation) (text : List Char) :
    Except Failure Parsed :=
  match expression (operandWithin policy limit) text with
  | .error e => .error e
  | .ok p =>
    match skipTrivia p.rest with
    | .error e => .error e
    | .ok [] => .ok p.value
    | .ok rest => .error (.refused (.trailing rest) rest)

end PromptLibrary.Literal
