import PromptLibrary.Text.Reader
import PromptLibrary.Value.Basic
/-!
# Reading JSON

A reader of JSON documents that also takes `NaN`, `Infinity` and `-Infinity`. In an object the last
value of a repeated key counts. A document is decoded text: surrogate halves may stand in its
strings. A fault is placed by the text that follows it, and told to the user by line, column and
offset.
-/

namespace PromptLibrary.Json

/-- What is wrong with a document. -/
inductive Fault where
  | expectedValue
  | expectedName
  | expectedColon
  | expectedComma
  | unterminatedString
  | controlCharacter
  | badEscape
  | badNumberEscape
  | extraData
  | byteOrderMark
  deriving DecidableEq, Repr

def Fault.message : Fault → String
  | expectedValue => "Expecting value"
  | expectedName => "Expecting property name enclosed in double quotes"
  | expectedColon => "Expecting ':' delimiter"
  | expectedComma => "Expecting ',' delimiter"
  | unterminatedString => "Unterminated string starting at"
  | controlCharacter => "Invalid control character at"
  | badEscape => "Invalid \\escape"
  | badNumberEscape => "Invalid \\uXXXX escape"
  | extraData => "Extra data"
  | byteOrderMark => "Unexpected UTF-8 BOM (decode using utf-8-sig)"

/-- Why reading stopped. -/
inductive Failure where
  /-- The document is malformed where `rest` begins. -/
  | malformed (fault : Fault) (rest : Text)
  /-- An integer has more digits than the limit allows. -/
  | tooManyDigits (count : Nat)
  /-- Brackets nest too deep, the last of them those of an array or an object. -/
  | tooDeep (kind : Kind)
  deriving DecidableEq, Repr

/-! ## Tokens -/

def isBlank : CodePoint → Bool
  | .char c => c = ' ' || c = '\t' || c = '\n' || c = '\r'
  | _ => false

def skipBlanks (s : Text) : Text :=
  s.dropWhile isBlank

/-- The code point that four hexadecimal digits denote. -/
def fourDigits? (digits : Text) : Option CodePoint :=
  match digits.chars? with
  | none => none
  | some cs =>
    if cs.all (Integer.isDigitOf 16) then CodePoint.ofNat? (Integer.ofAscii 16 cs) else none

/-- The character that follows a backslash, and what the two stand for. -/
def simpleEscape? : CodePoint → Option Char
  | .char '"' => some '"'
  | .char '\\' => some '\\'
  | .char '/' => some '/'
  | .char 'b' => some '\x08'
  | .char 'f' => some '\x0c'
  | .char 'n' => some '\n'
  | .char 'r' => some '\r'
  | .char 't' => some '\t'
  | _ => none

/-- A code point in a string, and whether it is written by its number. -/
structure Spelled where
  point : CodePoint
  byNumber : Bool
  deriving DecidableEq, Repr

/-- What spelled code points stand for: two halves written by number, one after the other, are one
character. -/
def joinSpelled : List Spelled → Text
  | ⟨.lead a, true⟩ :: ⟨.trail b, true⟩ :: rest => .char (surrogatePair a b) :: joinSpelled rest
  | p :: rest => p.point :: joinSpelled rest
  | [] => []

/--
The rest of a string after its opening quote; `opening` is the text from that quote on. An escape
by number is refused at the very end of a document.
-/
def stringBody (opening : Text) : Text → Except Failure (List Spelled × Text)
  | [] => .error (.malformed .unterminatedString opening)
  | .char '"' :: rest => .ok ([], rest)
  | [.char '\\'] => .error (.malformed .unterminatedString opening)
  | .char '\\' :: .char 'u' :: a :: b :: c :: d :: rest =>
    match fourDigits? [a, b, c, d] with
    | some p =>
      if rest = [] then .error (.malformed .badNumberEscape [.char 'u', a, b, c, d])
      else (stringBody opening rest).map fun (t, r) => (⟨p, true⟩ :: t, r)
    | none => .error (.malformed .badNumberEscape (.char 'u' :: a :: b :: c :: d :: rest))
  | .char '\\' :: .char 'u' :: rest => .error (.malformed .badNumberEscape (.char 'u' :: rest))
  | .char '\\' :: p :: rest =>
    match simpleEscape? p with
    | some c => (stringBody opening rest).map fun (t, r) => (⟨.char c, false⟩ :: t, r)
    | none => .error (.malformed .badEscape (.char '\\' :: p :: rest))
  | p :: rest =>
    if p.toNat < 0x20 then .error (.malformed .controlCharacter (p :: rest))
    else (stringBody opening rest).map fun (t, r) => (⟨p, false⟩ :: t, r)

/-- A string after its opening quote. -/
def stringAfter (opening s : Text) : Except Failure (Text × Text) :=
  (stringBody opening s).map fun (t, r) => (joinSpelled t, r)

/-- The digit that a code point is. -/
def digit? : CodePoint → Option Char
  | .char c => if c.isDigit then some c else none
  | _ => none

/-- The digits at the front of a text. -/
def digitRun : Text → List Char × Text
  | [] => ([], [])
  | p :: rest =>
    match digit? p with
    | some c => let (run, after) := digitRun rest; (c :: run, after)
    | none => ([], p :: rest)

/-- The digits of a whole part: a zero alone, or digits that begin with another one. -/
def wholePart? : Text → Option (List Char × Text)
  | .char '0' :: rest => some (['0'], rest)
  | s =>
    match digitRun s with
    | ([], _) => none
    | run => some run

/-- The digits after a point, if there are any; else nothing is taken. -/
def fractionPart : Text → List Char × Text
  | .char '.' :: rest =>
    match digitRun rest with
    | ([], _) => ([], .char '.' :: rest)
    | run => run
  | s => ([], s)

/-- A sign; the first part tells whether it was a minus. -/
def takeSign : Text → Bool × Text
  | .char '-' :: rest => (true, rest)
  | .char '+' :: rest => (false, rest)
  | s => (false, s)

/-- An exponent, if a digit follows its mark and sign; else nothing is taken. -/
def exponentPart : Text → Option Int × Text
  | [] => (none, [])
  | e :: rest =>
    let (negative, more) := takeSign rest
    let (digits, after) := digitRun more
    if (e = .char 'e' ∨ e = .char 'E') ∧ digits ≠ [] then
      (some (Integer.withSign negative (Integer.ofAscii 10 digits)), after)
    else (none, e :: rest)

/-- A number without its sign: an integer unless it has a fraction or an exponent. -/
def unsignedNumber (negative : Bool) (start s : Text) : Except Failure (Value × Text) :=
  match wholePart? s with
  | none => .error (.malformed .expectedValue start)
  | some (whole, afterWhole) =>
    let (part, afterPart) := fractionPart afterWhole
    let (power, rest) := exponentPart afterPart
    if part = [] ∧ power = none then
      if Integer.digitLimit < whole.length then .error (.tooManyDigits whole.length)
      else .ok (.int (Integer.withSign negative (Integer.ofAscii 10 whole)), rest)
    else
      let x := Double.ofDecimal (Integer.ofAscii 10 (whole ++ part)) (power.getD 0 - part.length)
      .ok (.float (x.withSign negative), rest)

/-- What stands behind a word at the front of a text. -/
def afterWord? : List Char → Text → Option Text
  | [], s => some s
  | c :: word, .char d :: s => if c = d then afterWord? word s else none
  | _ :: _, _ => none

/-- The words that are values. -/
def constants : List (List Char × Value) :=
  [("null".toList, .null), ("true".toList, .bool true), ("false".toList, .bool false),
    ("NaN".toList, .float .nan), ("Infinity".toList, .float .infinity),
    ("-Infinity".toList, .float Double.infinity.neg)]

/-- The constant at the front of a text. -/
def constant? (s : Text) : Option (Value × Text) :=
  constants.findSome? fun (word, v) => (afterWord? word s).map fun rest => (v, rest)

/-- A value that holds no other value. -/
def scalar (s : Text) : Except Failure (Value × Text) :=
  match s with
  | .char '"' :: rest => (stringAfter s rest).map fun (t, r) => (.string t, r)
  | _ =>
    match constant? s with
    | some found => .ok found
    | none =>
      match s with
      | .char '-' :: rest => unsignedNumber true s rest
      | _ => unsignedNumber false s s

/-! ## Progress of tokens -/

theorem length_skipBlanks_le (s : Text) : (skipBlanks s).length ≤ s.length :=
  (List.dropWhile_suffix _).length_le

theorem length_stringBody_lt (opening : Text) {s : Text} {t : List Spelled} {r : Text}
    (h : stringBody opening s = .ok (t, r)) : r.length < s.length := by
  fun_induction stringBody opening s generalizing t <;> simp_all [map_eq_ok]
  all_goals grind

theorem length_stringAfter_lt (opening : Text) {s : Text} {t : Text} {r : Text}
    (h : stringAfter opening s = .ok (t, r)) : r.length < s.length := by
  simp only [stringAfter, map_eq_ok] at h
  obtain ⟨⟨u, w⟩, hu, he⟩ := h
  simp only [Prod.mk.injEq] at he
  exact he.2 ▸ length_stringBody_lt opening hu

theorem length_digitRun (s : Text) :
    (digitRun s).1.length + (digitRun s).2.length = s.length := by
  induction s with
  | nil => rfl
  | cons p rest ih =>
    unfold digitRun
    split
    · simp only [List.length_cons]; omega
    · simp

theorem length_wholePart_lt {s r : Text} {d : List Char} (h : wholePart? s = some (d, r)) :
    r.length < s.length := by
  have hs := length_digitRun s
  unfold wholePart? at h
  split at h
  · simp only [Option.some.injEq, Prod.mk.injEq] at h
    simp [← h.2]
  · split at h
    · cases h
    · next hne =>
      rw [Option.some.inj h] at hs hne
      have := List.length_pos_iff.2 fun hd : d = [] => hne r (by rw [hd])
      simp only at hs; omega

theorem length_fractionPart_le (s : Text) : (fractionPart s).2.length ≤ s.length := by
  unfold fractionPart
  split
  · next rest =>
    have hs := length_digitRun rest
    split
    · exact Nat.le_refl _
    · simp only [List.length_cons]; omega
  · exact Nat.le_refl _

theorem length_takeSign_le (s : Text) : (takeSign s).2.length ≤ s.length := by
  unfold takeSign; split <;> simp

theorem length_exponentPart_le (s : Text) : (exponentPart s).2.length ≤ s.length := by
  unfold exponentPart
  split
  · simp
  · next e rest =>
    have h1 := length_takeSign_le rest
    have h2 := length_digitRun (takeSign rest).2
    simp only
    split <;> simp <;> omega

theorem length_unsignedNumber_lt {negative : Bool} {start s : Text} {v : Value} {r : Text}
    (h : unsignedNumber negative start s = .ok (v, r)) : r.length < s.length := by
  unfold unsignedNumber at h
  split at h
  · simp at h
  · next whole after hw =>
    have h1 := length_wholePart_lt hw
    have h2 := length_fractionPart_le after
    have h3 := length_exponentPart_le (fractionPart after).2
    simp only at h
    split at h
    · split at h
      · simp at h
      · simp only [Except.ok.injEq, Prod.mk.injEq] at h
        rw [← h.2]; omega
    · simp only [Except.ok.injEq, Prod.mk.injEq] at h
      rw [← h.2]; omega

theorem length_of_afterWord {word : List Char} {s r : Text} (h : afterWord? word s = some r) :
    s.length = word.length + r.length := by
  fun_induction afterWord? word s <;> grind

theorem length_constant_lt {s : Text} {v : Value} {r : Text}
    (h : constant? s = some (v, r)) : r.length < s.length := by
  obtain ⟨⟨word, w⟩, hw, he⟩ := List.exists_of_findSome?_eq_some h
  obtain ⟨rest, hr, hp⟩ := Option.map_eq_some_iff.1 he
  have hl := length_of_afterWord hr
  have hn : 0 < word.length := by
    simp only [constants, List.mem_cons, Prod.mk.injEq, List.not_mem_nil, or_false] at hw
    rcases hw with ⟨rfl, _⟩ | ⟨rfl, _⟩ | ⟨rfl, _⟩ | ⟨rfl, _⟩ | ⟨rfl, _⟩ | ⟨rfl, _⟩ <;> decide
  cases hp
  omega

theorem length_scalar_lt {s : Text} {v : Value} {r : Text}
    (h : scalar s = .ok (v, r)) : r.length < s.length := by
  unfold scalar at h
  split at h
  · next rest =>
    obtain ⟨⟨t, w⟩, ht, he⟩ := map_eq_ok.1 h
    have := length_stringAfter_lt _ ht
    simp at he
    simp [← he.2]; omega
  · split at h
    · next found hc =>
      cases h
      exact length_constant_lt hc
    · split at h
      · have := length_unsignedNumber_lt h
        simp; omega
      · exact length_unsignedNumber_lt h

/-! ## Documents -/

/-- Array items after the opening bracket, where an item is due. -/
def items (value : Reader CodePoint Failure Value) (s : Text) :
    Except Failure (Taken (List Value) s) :=
  match value s with
  | .error e => .error e
  | .ok v =>
    match h : skipBlanks v.rest with
    | .char ']' :: rest => .ok ⟨[v.value], rest, by
        have := v.shorter; have := length_skipBlanks_le v.rest; simp [h] at this; omega⟩
    | .char ',' :: rest =>
      have hs : (skipBlanks rest).length < s.length := by
        have := v.shorter; have := length_skipBlanks_le v.rest
        have := length_skipBlanks_le rest; simp [h] at *; omega
      (items value (skipBlanks rest)).map (.lift (v.value :: ·) (Nat.le_of_lt hs))
    | rest => .error (.malformed .expectedComma rest)
termination_by s.length

/-- Object members after the opening brace, where a name is due. -/
def members (value : Reader CodePoint Failure Value) (s : Text) :
    Except Failure (Taken (List (Text × Value)) s) :=
  match hs : s with
  | .char '"' :: afterQuote =>
    match hn : stringAfter s afterQuote with
    | .error e => .error e
    | .ok (name, afterName) =>
      match hc : skipBlanks afterName with
      | .char ':' :: afterColon =>
        match value (skipBlanks afterColon) with
        | .error e => .error e
        | .ok v =>
          have hv : v.rest.length < s.length := by
            have := v.shorter; have := length_stringAfter_lt s hn
            have := length_skipBlanks_le afterName; have := length_skipBlanks_le afterColon
            simp [hc, hs] at *; omega
          match h : skipBlanks v.rest with
          | .char '\x7d' :: rest => .ok ⟨[(name, v.value)], rest, by
              have := length_skipBlanks_le v.rest; simp [h, hs] at *; omega⟩
          | .char ',' :: rest =>
            have hr : (skipBlanks rest).length < s.length := by
              have := length_skipBlanks_le v.rest; have := length_skipBlanks_le rest
              simp [h] at *; omega
            (members value (skipBlanks rest)).map
              (.lift ((name, v.value) :: ·) (by simp [hs] at *; omega))
          | rest => .error (.malformed .expectedComma rest)
      | rest => .error (.malformed .expectedColon rest)
  | rest => .error (.malformed .expectedName rest)
termination_by s.length
decreasing_by exact hs ▸ hr

/-- A value that holds no other value, as a reader. -/
def readScalar (s : Text) : Except Failure (Taken Value s) :=
  match h : scalar s with
  | .error e => .error e
  | .ok (v, rest) => .ok ⟨v, rest, length_scalar_lt h⟩

/-- A value in which brackets may nest; `inner` reads the values inside, unless none may follow. -/
def readNested (inner : Option (Reader CodePoint Failure Value)) : Reader CodePoint Failure Value
  | .char '[' :: afterBracket =>
    match inner with
    | none => .error (.tooDeep .array)
    | some value =>
      have h := length_skipBlanks_le afterBracket
      match hs : skipBlanks afterBracket with
      | .char ']' :: rest => .ok ⟨.array [], rest, by simp [hs] at h ⊢; omega⟩
      | next => (items value next).map (.lift .array (by rw [hs] at h; simp; omega))
  | .char '\x7b' :: afterBrace =>
    match inner with
    | none => .error (.tooDeep .object)
    | some value =>
      have h := length_skipBlanks_le afterBrace
      match hs : skipBlanks afterBrace with
      | .char '\x7d' :: rest => .ok ⟨.object [], rest, by simp [hs] at h ⊢; omega⟩
      | next => (members value next).map
          (.lift (fun ms => .object (Mapping.ofEntries ms)) (by rw [hs] at h; simp; omega))
  | s => readScalar s

/-- A value in which brackets nest at most `room` deep. -/
def readValue : (room : Nat) → Reader CodePoint Failure Value
  | 0 => readNested none
  | room + 1 => readNested (some (readValue room))

/-- The deepest nesting of brackets that is read. -/
def depthLimit : Nat := 985

/-- Reads a document: one value, with blanks around it. -/
def readDocument (text : Text) : Except Failure Value :=
  match readValue depthLimit (skipBlanks text) with
  | .error e => .error e
  | .ok v =>
    match skipBlanks v.rest with
    | [] => .ok v.value
    | rest => .error (.malformed .extraData rest)

/-- Reads a document that has no byte order mark in front. -/
def read (text : Text) : Except Failure Value :=
  match text with
  | .char '\uFEFF' :: _ => .error (.malformed .byteOrderMark text)
  | _ => readDocument text

/-! ## Places -/

/-- What the user is told about a fault: its place counts lines and columns from one. -/
def describe (text : Text) (fault : Fault) (rest : Text) : String :=
  let offset := text.length - rest.length
  let before := text.take offset
  let line := before.count (.char '\n') + 1
  let column := (before.reverse.takeWhile (· ≠ .char '\n')).length + 1
  s!"{fault.message}: line {line} column {column} (char {offset})"

/-- The name of a kind in messages about documents. -/
def bracketName : Kind → String
  | .object => "object"
  | _ => "array"

def Failure.message (text : Text) : Failure → String
  | malformed fault rest => describe text fault rest
  | tooManyDigits count =>
    "Exceeds the limit (4300 digits) for integer string conversion: " ++
      s!"value has {count} digits; use sys.set_int_max_str_digits() to increase the limit"
  | tooDeep kind =>
    s!"maximum recursion depth exceeded while decoding a JSON {bracketName kind} " ++
      "from a unicode string"

end PromptLibrary.Json
