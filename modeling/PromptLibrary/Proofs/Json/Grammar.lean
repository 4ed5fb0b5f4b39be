import PromptLibrary.Json.Reader
/-!
# The grammar of JSON documents

A derivation relates a text to the text after the phrase, as in the grammar of literals.  The rules
are those of the standard and one more, for the constants `NaN`, `Infinity` and `-Infinity`.  The
depth of a derivation is the greatest number of brackets that are open at once.
-/

namespace PromptLibrary.Proofs.Json.Grammar

open PromptLibrary.Json

/-- Blanks at the front of a text, and the text after them. -/
def Blanks (s r : Text) : Prop :=
  ∃ b, s = b ++ r ∧ ∀ p ∈ b, isBlank p = true

/-- What a document may hold: constants beyond the standard, strings of a kind, and objects whose
keys are of a kind, in the order in which they are written. -/
structure Lexis where
  constant : Prop
  string : Text → Prop
  keys : List Text → Prop

/-- Whatever is read. -/
def Lexis.free : Lexis := ⟨True, fun _ => True, fun _ => True⟩

/-- No constant beyond the standard, and no surrogate half without the other one. -/
def Lexis.plain : Lexis := ⟨False, Text.WellFormed, fun _ => True⟩

/-- The words of the standard. -/
def words : List (List Char × Value) :=
  [("null".toList, .null), ("true".toList, .bool true), ("false".toList, .bool false)]

/-- The words beyond the standard. -/
def extremes : List (List Char × Value) :=
  [("NaN".toList, .float .nan), ("Infinity".toList, .float .infinity),
    ("-Infinity".toList, .float Double.infinity.neg)]

/-- A token that is a value, its meaning, and the text after it. -/
inductive Token (lexis : Lexis) : Text → Value → Text → Prop where
  | string {s r t : Text} (h : stringAfter (.char '"' :: s) s = .ok (t, r))
      (ha : lexis.string t) : Token lexis (.char '"' :: s) (.string t) r
  | word {w : List Char} {v : Value} {r : Text} (hw : (w, v) ∈ words) :
      Token lexis (Text.ofChars w ++ r) v r
  | extreme {w : List Char} {v : Value} {r : Text} (hw : (w, v) ∈ extremes)
      (ha : lexis.constant) : Token lexis (Text.ofChars w ++ r) v r
  | number {s r : Text} {v : Value} (h : unsignedNumber false s s = .ok (v, r)) :
      Token lexis s v r
  | negative {s r : Text} {v : Value} (h : unsignedNumber true (.char '-' :: s) s = .ok (v, r)) :
      Token lexis (.char '-' :: s) v r

/-- The kinds of phrases, each with its meaning. -/
inductive Phrase where
  | value (v : Value)
  /-- Items of an array, at least one, up to its closing bracket. -/
  | items (vs : List Value)
  /-- Members of an object, at least one, up to its closing brace. -/
  | members (ms : List (Text × Value))

/-- `Derives lexis d ph s r`: the text `s` is the phrase `ph` followed by `r`, and at most `d`
brackets are open at once in the phrase, `d` being reached. -/
inductive Derives (lexis : Lexis) : Nat → Phrase → Text → Text → Prop where
  | token {s r : Text} {v : Value} (h : Token lexis s v r) : Derives lexis 0 (.value v) s r
  | emptyArray {s r : Text} (hc : Blanks s (.char ']' :: r)) :
      Derives lexis 1 (.value (.array [])) (.char '[' :: s) r
  | array {d : Nat} {vs : List Value} {s t r : Text} (hb : Blanks s t)
      (h : Derives lexis d (.items vs) t r) :
      Derives lexis (d + 1) (.value (.array vs)) (.char '[' :: s) r
  | emptyObject {s r : Text} (hc : Blanks s (.char '\x7d' :: r)) (hk : lexis.keys []) :
      Derives lexis 1 (.value (.object [])) (.char '\x7b' :: s) r
  | object {d : Nat} {ms : List (Text × Value)} {s t r : Text} (hb : Blanks s t)
      (h : Derives lexis d (.members ms) t r) (hk : lexis.keys (ms.map (·.1))) :
      Derives lexis (d + 1) (.value (.object (Mapping.ofEntries ms))) (.char '\x7b' :: s) r
  | lastItem {d : Nat} {v : Value} {s m r : Text} (h : Derives lexis d (.value v) s m)
      (hc : Blanks m (.char ']' :: r)) : Derives lexis d (.items [v]) s r
  | item {d e : Nat} {v : Value} {vs : List Value} {s m n t r : Text}
      (h : Derives lexis d (.value v) s m) (hc : Blanks m (.char ',' :: n)) (hb : Blanks n t)
      (hmore : Derives lexis e (.items vs) t r) : Derives lexis (max d e) (.items (v :: vs)) s r
  | lastMember {d : Nat} {key : Text} {v : Value} {s a b c m r : Text}
      (hk : stringAfter (.char '"' :: s) s = .ok (key, a)) (ha : lexis.string key)
      (hcolon : Blanks a (.char ':' :: b)) (hb : Blanks b c) (h : Derives lexis d (.value v) c m)
      (hc : Blanks m (.char '\x7d' :: r)) :
      Derives lexis d (.members [(key, v)]) (.char '"' :: s) r
  | member {d e : Nat} {key : Text} {v : Value} {ms : List (Text × Value)}
      {s a b c m n t r : Text} (hk : stringAfter (.char '"' :: s) s = .ok (key, a))
      (ha : lexis.string key) (hcolon : Blanks a (.char ':' :: b)) (hb : Blanks b c)
      (h : Derives lexis d (.value v) c m) (hc : Blanks m (.char ',' :: n)) (hn : Blanks n t)
      (hmore : Derives lexis e (.members ms) t r) :
      Derives lexis (max d e) (.members ((key, v) :: ms)) (.char '"' :: s) r

/-- A whole text that is one value, with blanks around it. -/
def Document (lexis : Lexis) (d : Nat) (text : Text) (v : Value) : Prop :=
  ∃ s r, Blanks text s ∧ Derives lexis d (.value v) s r ∧ Blanks r []

variable {lexis : Lexis} {d : Nat} {s t r : Text} {v : Value} {p : CodePoint} {w : List Char}

/-! ## Blanks -/

theorem blanks_refl : Blanks s s :=
  ⟨[], rfl, by simp⟩

theorem blanks_skipBlanks : Blanks s (skipBlanks s) :=
  ⟨s.takeWhile isBlank, List.takeWhile_append_dropWhile.symm, List.all_eq_true.1 List.all_takeWhile⟩

theorem skipBlanks_of_blanks (h : Blanks s r) : skipBlanks s = skipBlanks r := by
  obtain ⟨b, rfl, hb⟩ := h
  exact List.dropWhile_append_of_pos hb

theorem skipBlanks_cons (hp : isBlank p = false) : skipBlanks (p :: r) = p :: r := by
  rw [skipBlanks, List.dropWhile_cons_of_neg (Bool.eq_false_iff.1 hp)]

/-- Blanks end where something else begins. -/
theorem skipBlanks_eq (h : Blanks s (p :: r)) (hp : isBlank p = false) :
    skipBlanks s = p :: r := by
  rw [skipBlanks_of_blanks h, skipBlanks_cons hp]

theorem blanks_of_skipBlanks (h : skipBlanks s = r) : Blanks s r :=
  h ▸ blanks_skipBlanks

theorem skipBlanks_eq_nil_iff : skipBlanks s = [] ↔ Blanks s [] := by
  constructor
  · exact blanks_of_skipBlanks
  · intro h
    rw [skipBlanks_of_blanks h]
    rfl

/-! ## Words and numbers -/

theorem afterWord_eq_some_iff : afterWord? w s = some r ↔ s = Text.ofChars w ++ r := by
  constructor
  · intro h
    fun_induction afterWord? w s with
    | case1 s => exact Option.some.inj h
    | case2 c w s ih =>
      rw [ih h]
      rfl
    | case3 => simp at h
    | case4 => simp at h
  · rintro rfl
    induction w with
    | nil => rfl
    | cons c w ih => simpa [Text.ofChars, afterWord?] using ih

theorem constants_eq : constants = words ++ extremes :=
  rfl

theorem constant_of_mem (hw : (w, v) ∈ constants) :
    constant? (Text.ofChars w ++ r) = some (v, r) := by
  simp only [constants, List.mem_cons, Prod.mk.injEq, List.not_mem_nil, or_false] at hw
  rcases hw with ⟨rfl, rfl⟩ | ⟨rfl, rfl⟩ | ⟨rfl, rfl⟩ | ⟨rfl, rfl⟩ | ⟨rfl, rfl⟩ | ⟨rfl, rfl⟩ <;> rfl

theorem exists_word_of_constant (h : constant? s = some (v, r)) :
    ∃ w, (w, v) ∈ constants ∧ s = Text.ofChars w ++ r := by
  obtain ⟨⟨w, u⟩, hw, he⟩ := List.exists_of_findSome?_eq_some h
  obtain ⟨rest, hrest, hp⟩ := Option.map_eq_some_iff.1 he
  obtain ⟨rfl, rfl⟩ := Prod.mk.inj hp
  exact ⟨w, hw, afterWord_eq_some_iff.1 hrest⟩

theorem digitRun_of_not_digit (h : digit? p = none) : digitRun (p :: s) = ([], p :: s) := by
  rw [digitRun, h]

theorem exists_digit_of_wholePart {run : List Char} (h : wholePart? s = some (run, r)) :
    ∃ c rest, s = .char c :: rest ∧ c.isDigit = true := by
  unfold wholePart? at h
  split at h
  · exact ⟨'0', _, rfl, by decide⟩
  · cases s with
    | nil => simp [digitRun] at h
    | cons p rest =>
      cases hp : digit? p with
      | none => simp [digitRun_of_not_digit hp] at h
      | some c =>
        unfold digit? at hp
        split at hp
        · split at hp
          · next hc => exact ⟨_, rest, rfl, hc⟩
          · simp at hp
        · simp at hp

/-- A number without its sign begins with a digit. -/
theorem exists_digit_of_unsignedNumber {negative : Bool} {start : Text}
    (h : unsignedNumber negative start s = .ok (v, r)) :
    ∃ c rest, s = .char c :: rest ∧ c.isDigit = true := by
  unfold unsignedNumber at h
  split at h
  · simp at h
  · next hw => exact exists_digit_of_wholePart hw

theorem constant_of_digit {c : Char} (hc : c.isDigit = true) :
    constant? (.char c :: s) = none ∧ constant? (.char '-' :: .char c :: s) = none := by
  have hne : ∀ d : Char, d.isDigit = false → d ≠ c := by
    rintro d hd rfl
    exact absurd (hc.symm.trans hd) (by simp)
  simp [constant?, constants, afterWord?, hne 'n' (by decide), hne 't' (by decide),
    hne 'f' (by decide), hne 'N' (by decide), hne 'I' (by decide), hne '-' (by decide)]

/-! ## Tokens -/

theorem scalar_of_constant (h : constant? s = some (v, r)) : scalar s = .ok (v, r) := by
  have hs : ∀ rest, s ≠ .char '"' :: rest := by
    rintro rest rfl
    obtain ⟨w, hw, he⟩ := exists_word_of_constant h
    simp only [constants, List.mem_cons, Prod.mk.injEq, List.not_mem_nil, or_false] at hw
    rcases hw with ⟨rfl, _⟩ | ⟨rfl, _⟩ | ⟨rfl, _⟩ | ⟨rfl, _⟩ | ⟨rfl, _⟩ | ⟨rfl, _⟩ <;>
      simp [Text.ofChars] at he
  unfold scalar
  split
  · next rest => exact absurd rfl (hs rest)
  · rw [h]

theorem scalar_of_token (h : Token lexis s v r) : scalar s = .ok (v, r) := by
  cases h with
  | string h _ => rw [scalar, h]; rfl
  | word hw => exact scalar_of_constant (constant_of_mem (List.mem_append_left extremes hw))
  | extreme hw _ => exact scalar_of_constant (constant_of_mem (List.mem_append_right words hw))
  | number h =>
    obtain ⟨c, rest, rfl, hc⟩ := exists_digit_of_unsignedNumber h
    have hquote : c ≠ '"' := by rintro rfl; simp at hc
    have hminus : c ≠ '-' := by rintro rfl; simp at hc
    unfold scalar
    split
    · next heq => exact absurd (CodePoint.char.inj (List.cons.inj heq).1) hquote
    · rw [(constant_of_digit hc).1]
      simp only
      split
      · next heq => exact absurd (CodePoint.char.inj (List.cons.inj heq).1) hminus
      · exact h
  | negative h =>
    obtain ⟨c, rest, rfl, hc⟩ := exists_digit_of_unsignedNumber h
    unfold scalar
    simp only [(constant_of_digit hc).2]
    exact h

theorem token_of_scalar (h : scalar s = .ok (v, r)) : Token .free s v r := by
  unfold scalar at h
  split at h
  · simp only [map_eq_ok, Prod.exists, Prod.mk.injEq] at h
    obtain ⟨t, rest, ht, rfl, rfl⟩ := h
    exact .string ht trivial
  · split at h
    · next found hfound =>
      obtain rfl := Except.ok.inj h
      obtain ⟨w, hw, rfl⟩ := exists_word_of_constant hfound
      rcases List.mem_append.1 (constants_eq ▸ hw) with hw | hw
      · exact .word hw
      · exact .extreme hw trivial
    · split at h
      · exact .negative h
      · exact .number h

/-- **The reader of scalars reads exactly the tokens.** -/
theorem scalar_eq_ok_iff : scalar s = .ok (v, r) ↔ Token .free s v r :=
  ⟨token_of_scalar, scalar_of_token⟩

/-! ## Documents of any kind -/

theorem token_free (h : Token lexis s v r) : Token .free s v r := by
  cases h with
  | string h _ => exact .string h trivial
  | word hw => exact .word hw
  | extreme hw _ => exact .extreme hw trivial
  | number h => exact .number h
  | negative h => exact .negative h

theorem derives_free {ph : Phrase} (h : Derives lexis d ph s r) : Derives .free d ph s r := by
  induction h with
  | token h => exact .token (token_free h)
  | emptyArray hc => exact .emptyArray hc
  | array hb _ ih => exact .array hb ih
  | emptyObject hc _ => exact .emptyObject hc trivial
  | object hb _ _ ih => exact .object hb ih trivial
  | lastItem _ hc ih => exact .lastItem ih hc
  | item _ hc hb _ ih ihmore => exact .item ih hc hb ihmore
  | lastMember hk _ hcolon hb _ hc ih => exact .lastMember hk trivial hcolon hb ih hc
  | member hk _ hcolon hb _ hc hn _ ih ihmore =>
    exact .member hk trivial hcolon hb ih hc hn ihmore

theorem document_free {text : Text} (h : Document lexis d text v) : Document .free d text v := by
  obtain ⟨s, r, hs, hder, hr⟩ := h
  exact ⟨s, r, hs, derives_free hder, hr⟩

/-! ## First characters -/

/-- What a value may begin with: no blank, no mark that ends an item or a member, and no byte order
mark. -/
def Begins (p : CodePoint) : Prop :=
  isBlank p = false ∧ p ∉ ([.char ']', .char '\x7d', .char '\uFEFF'] : Text)

instance : Decidable (Begins p) :=
  inferInstanceAs (Decidable (_ ∧ _))

/-- What a value without brackets may begin with. -/
def BeginsToken (p : CodePoint) : Prop :=
  Begins p ∧ p ≠ .char '[' ∧ p ≠ .char '\x7b'

instance : Decidable (BeginsToken p) :=
  inferInstanceAs (Decidable (_ ∧ _))

theorem beginsToken_of_digit {c : Char} (hc : c.isDigit = true) : BeginsToken (.char c) := by
  have hne : ∀ d : Char, d.isDigit = false → c ≠ d := by
    rintro d hd rfl
    exact absurd (hc.symm.trans hd) (by simp)
  simp [BeginsToken, Begins, isBlank, hne ' ' (by decide), hne '\t' (by decide),
    hne '\n' (by decide), hne '\r' (by decide), hne ']' (by decide), hne '\x7d' (by decide),
    hne '\uFEFF' (by decide), hne '[' (by decide), hne '\x7b' (by decide)]

theorem exists_cons_of_constant (hw : (w, v) ∈ constants) :
    ∃ c more, w = c :: more ∧ BeginsToken (.char c) := by
  have hall : ∀ x ∈ constants, ∃ c more, x.1 = c :: more ∧ BeginsToken (.char c) := by
    simp only [constants, List.mem_cons, List.not_mem_nil, or_false]
    rintro x (rfl | rfl | rfl | rfl | rfl | rfl) <;> exact ⟨_, _, rfl, by decide⟩
  exact hall _ hw

theorem exists_cons_of_token (h : Token lexis s v r) :
    ∃ p rest, s = p :: rest ∧ BeginsToken p := by
  cases h with
  | string _ _ => exact ⟨_, _, rfl, by decide⟩
  | word hw =>
    obtain ⟨c, more, rfl, hc⟩ := exists_cons_of_constant (List.mem_append_left extremes hw)
    exact ⟨_, _, rfl, hc⟩
  | extreme hw _ =>
    obtain ⟨c, more, rfl, hc⟩ := exists_cons_of_constant (List.mem_append_right words hw)
    exact ⟨_, _, rfl, hc⟩
  | number h =>
    obtain ⟨c, rest, rfl, hc⟩ := exists_digit_of_unsignedNumber h
    exact ⟨_, _, rfl, beginsToken_of_digit hc⟩
  | negative _ => exact ⟨_, _, rfl, by decide⟩

theorem exists_cons_of_value (h : Derives lexis d (.value v) s r) :
    ∃ p rest, s = p :: rest ∧ Begins p := by
  cases h with
  | token h =>
    obtain ⟨p, rest, rfl, hp⟩ := exists_cons_of_token h
    exact ⟨p, rest, rfl, hp.1⟩
  | emptyArray _ => exact ⟨_, _, rfl, by decide⟩
  | array _ _ => exact ⟨_, _, rfl, by decide⟩
  | emptyObject _ _ => exact ⟨_, _, rfl, by decide⟩
  | object _ _ _ => exact ⟨_, _, rfl, by decide⟩

/-- The blanks in front of a value end where it begins. -/
theorem skipBlanks_of_value (hb : Blanks s t) (h : Derives lexis d (.value v) t r) :
    skipBlanks s = t := by
  obtain ⟨p, rest, rfl, hp⟩ := exists_cons_of_value h
  exact skipBlanks_eq hb hp.1

end PromptLibrary.Proofs.Json.Grammar
