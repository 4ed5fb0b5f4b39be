import PromptLibrary.Proofs.Json.Recognition
import PromptLibrary.Proofs.Json.Tokens
import PromptLibrary.Proofs.Literal.Recognition
/-!
# Documents are literals

Each rule of the grammar of documents has one of the grammar of literals that derives the same text
with the same meaning, so a document within the limit on nesting of literals evaluates to what the
reader of documents reads.  Keys that come again mean the last of their values in both; a document
that has none leaves no warning.

A token of a literal ends where nothing goes on with it, and so a value of a document is a literal
only in front of a text that may follow it in a document (`Ends`).
-/

namespace PromptLibrary.Proofs.Json.Inclusion

open PromptLibrary.Json
open PromptLibrary.Literal (Parsed Member Interpolation duplicatesAmong parseWithin parseValue)
open PromptLibrary.Proofs.Json.Grammar
open PromptLibrary.Proofs.Json.Recognition (read_eq_ok_iff)
open PromptLibrary.Proofs.Json.Tokens
open PromptLibrary.Proofs.Literal.Trivia (Trivia trivia_trans)
open PromptLibrary.Proofs.Literal.Recognition (derives_literal_of_trivia parseWithin_eq_ok_iff)
open PromptLibrary.Proofs.Text.Points

variable {lexis : Lexis} {literal : Literal.Grammar.Lexis} {policy : Interpolation}
  {cs more : List Char} {r : Text} {d : Nat} {v w : Value} {ph : Phrase}
  {ps : List Parsed} {ks : List Member} {allowed : List Char → Prop}

/-! ## Blanks -/

theorem mem_of_isBlank {c : Char} (h : isBlank (.char c) = true) :
    c ∈ [' ', '\t', '\n', '\r'] := by
  simpa [isBlank, or_assoc] using h

theorem isBlank_literal {c : Char} (h : isBlank (.char c) = true) : Literal.isBlank c = true := by
  have hmem := mem_of_isBlank h
  simp only [List.mem_cons, List.not_mem_nil, or_false] at hmem
  rcases hmem with rfl | rfl | rfl | rfl <;> decide

theorem trivia_of_blanks (h : Blanks (Text.ofChars cs) r) :
    ∃ more, r = Text.ofChars more ∧ Trivia allowed cs more := by
  obtain ⟨b, hs, hb⟩ := h
  obtain ⟨front, more, rfl, rfl, rfl⟩ := ofChars_eq_append hs
  refine ⟨more, rfl, ?_⟩
  clear hs
  induction front with
  | nil => exact .none
  | cons c front ih =>
    rw [Text.ofChars, List.map_cons, List.forall_mem_cons] at hb
    exact .blank (isBlank_literal hb.1) (ih hb.2)

/-- Blanks up to a mark. -/
theorem trivia_of_mark {m : Char} (h : Blanks (Text.ofChars cs) (.char m :: r)) :
    ∃ more, r = Text.ofChars more ∧ Trivia allowed cs (m :: more) := by
  obtain ⟨front, hfront, ht⟩ := trivia_of_blanks h
  obtain ⟨_, more, rfl, hm, hr⟩ := ofChars_eq_cons hfront.symm
  obtain rfl := CodePoint.char.inj hm
  exact ⟨more, hr, ht⟩

/-- A token may end in front of blanks, if it may end in front of what follows them. -/
theorem ends_of_blanks (h : Blanks (Text.ofChars cs) r)
    (hr : ∀ p ∈ r.head?, p ∈ ([.char ',', .char ']', .char '\x7d'] : Text)) : Ends cs := by
  intro c hc
  cases cs with
  | nil => simp at hc
  | cons d cs =>
    obtain rfl := Option.some.inj hc
    obtain ⟨b, hs, hb⟩ := h
    cases b with
    | nil =>
      have hhead := congrArg List.head? hs
      have hmark := hr (.char d) hhead.symm
      simp only [List.mem_cons, CodePoint.char.injEq, List.not_mem_nil, or_false] at hmark
      rcases hmark with rfl | rfl | rfl <;> decide
    | cons q b =>
      obtain ⟨hq, _⟩ := List.cons.inj hs
      have hblank := mem_of_isBlank (hq ▸ hb q List.mem_cons_self)
      exact List.mem_append_left [',', ']', '\x7d'] hblank

/-! ## Trivia in front of phrases of literals -/

section Trivia

variable {n m k : List Char}

theorem derives_items_of_trivia (ht : Trivia literal.comment n m)
    (h : Literal.Grammar.Derives literal policy d (.items ps) m k) :
    Literal.Grammar.Derives literal policy d (.items ps) n k := by
  cases h with
  | noItems hc => exact .noItems (trivia_trans ht hc)
  | lastItem h hc => exact .lastItem (derives_literal_of_trivia ht h) hc
  | item h hc hmore => exact .item (derives_literal_of_trivia ht h) hc hmore

theorem derives_members_of_trivia (ht : Trivia literal.comment n m)
    (h : Literal.Grammar.Derives literal policy d (.members ks) m k) :
    Literal.Grammar.Derives literal policy d (.members ks) n k := by
  cases h with
  | noMembers hc => exact .noMembers (trivia_trans ht hc)
  | lastMember hu hk hcolon h hc => exact .lastMember (trivia_trans ht hu) hk hcolon h hc
  | member hu hk hcolon h hc hmore => exact .member (trivia_trans ht hu) hk hcolon h hc hmore

end Trivia

/-! ## Keys that come again -/

theorem duplicatesAmong_eq_nil {seen : List Text} (hnodup : (ks.map Member.key).Nodup)
    (hseen : ∀ k ∈ ks, k.key ∉ seen) (hks : ∀ k ∈ ks, k.parsed.duplicates = []) :
    duplicatesAmong seen ks = [] := by
  induction ks generalizing seen with
  | nil => rfl
  | cons k ks ih =>
    rw [List.map_cons, List.nodup_cons] at hnodup
    rw [List.forall_mem_cons] at hseen hks
    have hrest : ∀ j ∈ ks, j.key ∉ k.key :: seen := by
      intro j hj hmem
      rcases List.mem_cons.1 hmem with he | hmem
      · exact hnodup.1 (he ▸ List.mem_map_of_mem hj)
      · exact hseen.2 j hj hmem
    rw [duplicatesAmong, hks.1, if_neg hseen.1, ih hnodup.2 hrest hks.2]
    rfl

/-! ## Phrases -/

/-- No object has a key that comes again. -/
def Distinct (lexis : Lexis) : Prop :=
  ∀ keys, lexis.keys keys → keys.Nodup

/-- What a phrase of a document is in a literal: the same text, with the same meaning. -/
def Includes (lexis : Lexis) (literal : Literal.Grammar.Lexis) (policy : Interpolation) (d : Nat)
    (cs more : List Char) : Phrase → Prop
  | .value v => Ends more → ∃ p, p.value = v ∧ (Distinct lexis → p.duplicates = []) ∧
      Literal.Grammar.Derives literal policy d (.literal p) cs more
  | .items vs => ∃ ps, ps.map Parsed.value = vs ∧
      (Distinct lexis → ∀ p ∈ ps, p.duplicates = []) ∧
      Literal.Grammar.Derives literal policy d (.items ps) cs more
  | .members ms => ∃ ks, ks.map (fun k => (k.key, k.parsed.value)) = ms ∧
      (Distinct lexis → ∀ k ∈ ks, k.parsed.duplicates = []) ∧
      Literal.Grammar.Derives literal policy d (.members ks) cs more

theorem includes_array (h : Literal.Grammar.Derives literal policy d (.items ps) cs more)
    (hps : Distinct lexis → ∀ p ∈ ps, p.duplicates = []) :
    Includes lexis literal policy (d + 1) ('[' :: cs) more (.value (.array (ps.map (·.value)))) :=
  fun _ => ⟨.ofItems ps, rfl, fun hd => List.flatMap_eq_nil_iff.2 (hps hd),
    .literal .none (.array h) .noMore (.value Kind.noConfusion)⟩

theorem includes_object (h : Literal.Grammar.Derives literal policy d (.members ks) cs more)
    (hks : Distinct lexis → ∀ k ∈ ks, k.parsed.duplicates = [])
    (hkeys : lexis.keys (ks.map (·.key))) :
    Includes lexis literal policy (d + 1) ('\x7b' :: cs) more
      (.value (.object (Mapping.ofEntries (ks.map fun k => (k.key, k.parsed.value))))) :=
  fun _ => ⟨.ofMembers ks, rfl,
    fun hd => duplicatesAmong_eq_nil (hd _ hkeys) (fun _ _ => List.not_mem_nil) (hks hd),
    .literal .none (.object h) .noMore (.value Kind.noConfusion)⟩

/-- **Each phrase of a document is one of a literal.** -/
theorem includes_of_derives (hl : Common lexis) (h : Derives lexis d ph (Text.ofChars cs) r) :
    ∃ more, r = Text.ofChars more ∧ Includes lexis literal policy d cs more ph := by
  generalize hs : Text.ofChars cs = s at h
  induction h generalizing cs with
  | token h =>
    subst hs
    obtain ⟨more, hr, htoken⟩ := token_of_json hl h
    refine ⟨more, hr, fun hends => ?_⟩
    obtain ⟨u, hu, hjoined⟩ := htoken hends
    exact ⟨.leaf _, rfl, fun _ => rfl, .literal .none (.token hu) .noMore hjoined⟩
  | emptyArray hc =>
    obtain ⟨_, cs, rfl, hbracket, rfl⟩ := ofChars_eq_cons hs
    obtain rfl := CodePoint.char.inj hbracket
    obtain ⟨more, hr, hclose⟩ := trivia_of_mark hc
    exact ⟨more, hr, includes_array (.noItems hclose) (by simp)⟩
  | array hb _ ih =>
    obtain ⟨_, cs, rfl, hbracket, rfl⟩ := ofChars_eq_cons hs
    obtain rfl := CodePoint.char.inj hbracket
    obtain ⟨front, rfl, hfront⟩ := trivia_of_blanks hb
    obtain ⟨more, hr, ps, rfl, hps, hitems⟩ := ih rfl
    exact ⟨more, hr, includes_array (derives_items_of_trivia hfront hitems) hps⟩
  | emptyObject hc hk =>
    obtain ⟨_, cs, rfl, hbrace, rfl⟩ := ofChars_eq_cons hs
    obtain rfl := CodePoint.char.inj hbrace
    obtain ⟨more, hr, hclose⟩ := trivia_of_mark hc
    exact ⟨more, hr, includes_object (.noMembers hclose) (by simp) hk⟩
  | object hb _ hk ih =>
    obtain ⟨_, cs, rfl, hbrace, rfl⟩ := ofChars_eq_cons hs
    obtain rfl := CodePoint.char.inj hbrace
    obtain ⟨front, rfl, hfront⟩ := trivia_of_blanks hb
    obtain ⟨more, hr, ks, rfl, hks, hmembers⟩ := ih rfl
    rw [List.map_map] at hk
    exact ⟨more, hr, includes_object (derives_members_of_trivia hfront hmembers) hks hk⟩
  | lastItem _ hc ih =>
    obtain ⟨m, rfl, hvalue⟩ := ih hs
    obtain ⟨more, hr, hclose⟩ := trivia_of_mark hc
    obtain ⟨p, rfl, hp, hliteral⟩ := hvalue (ends_of_blanks hc (by simp))
    exact ⟨more, hr, [p], rfl, by simpa using hp, .lastItem hliteral hclose⟩
  | item _ hc hb _ ih ihmore =>
    obtain ⟨m, rfl, hvalue⟩ := ih hs
    obtain ⟨n, rfl, hcomma⟩ := trivia_of_mark hc
    obtain ⟨front, rfl, hfront⟩ := trivia_of_blanks hb
    obtain ⟨p, rfl, hp, hliteral⟩ := hvalue (ends_of_blanks hc (by simp))
    obtain ⟨more, hr, ps, rfl, hps, hitems⟩ := ihmore rfl
    exact ⟨more, hr, p :: ps, rfl, fun hd => List.forall_mem_cons.2 ⟨hp hd, hps hd⟩,
      .item hliteral hcomma (derives_items_of_trivia hfront hitems)⟩
  | lastMember hk ha hcolon hb _ hc ih =>
    obtain ⟨_, cs, rfl, hquote, rfl⟩ := ofChars_eq_cons hs
    obtain rfl := CodePoint.char.inj hquote
    obtain ⟨a, rfl, hkey⟩ := key_of_json hl hk ha
    obtain ⟨b, rfl, hcolon⟩ := trivia_of_mark hcolon
    obtain ⟨front, rfl, hfront⟩ := trivia_of_blanks hb
    obtain ⟨m, rfl, hvalue⟩ := ih rfl
    obtain ⟨more, hr, hclose⟩ := trivia_of_mark hc
    obtain ⟨p, rfl, hp, hliteral⟩ := hvalue (ends_of_blanks hc (by simp))
    exact ⟨more, hr, [⟨_, _, p⟩], rfl, by simpa using hp,
      .lastMember .none hkey hcolon (derives_literal_of_trivia hfront hliteral) hclose⟩
  | member hk ha hcolon hb _ hc hn _ ih ihmore =>
    obtain ⟨_, cs, rfl, hquote, rfl⟩ := ofChars_eq_cons hs
    obtain rfl := CodePoint.char.inj hquote
    obtain ⟨a, rfl, hkey⟩ := key_of_json hl hk ha
    obtain ⟨b, rfl, hcolon⟩ := trivia_of_mark hcolon
    obtain ⟨front, rfl, hfront⟩ := trivia_of_blanks hb
    obtain ⟨m, rfl, hvalue⟩ := ih rfl
    obtain ⟨n, rfl, hcomma⟩ := trivia_of_mark hc
    obtain ⟨next, rfl, hnext⟩ := trivia_of_blanks hn
    obtain ⟨p, rfl, hp, hliteral⟩ := hvalue (ends_of_blanks hc (by simp))
    obtain ⟨more, hr, ks, rfl, hks, hmembers⟩ := ihmore rfl
    exact ⟨more, hr, ⟨_, _, p⟩ :: ks, rfl, fun hd => List.forall_mem_cons.2 ⟨hp hd, hks hd⟩,
      .member .none hkey hcolon (derives_literal_of_trivia hfront hliteral) hcomma
        (derives_members_of_trivia hnext hmembers)⟩

/-! ## Whole texts -/

/-- **A document is a literal with the same value.** -/
theorem document_of_json (literal : Literal.Grammar.Lexis) (policy : Interpolation)
    (hl : Common lexis) (h : Document lexis d (Text.ofChars cs) v) :
    ∃ p, p.value = v ∧ (Distinct lexis → p.duplicates = []) ∧
      Literal.Grammar.Document literal policy d cs p := by
  obtain ⟨s, r, hs, hder, hr⟩ := h
  obtain ⟨front, rfl, hfront⟩ := trivia_of_blanks hs
  obtain ⟨more, rfl, hvalue⟩ := includes_of_derives hl hder
  obtain ⟨p, hv, hp, hliteral⟩ := hvalue (ends_of_blanks hr (by simp))
  obtain ⟨rest, hrest, ht⟩ := trivia_of_blanks hr
  obtain rfl : [] = rest := ofChars_inj hrest
  exact ⟨p, hv, hp, more, derives_literal_of_trivia hfront hliteral, ht⟩

theorem common_plain : Common .plain :=
  ⟨id, fun _ => id⟩

/-- A document with a key that comes again, a negative number, and halves written by number. -/
def repeatedKey : List Char :=
  "\x7b \"a\": -0, \"a\": [true, \"\\ud83d\\ude00\"]\x7d".toList

def repeatedKeyItems : List Value :=
  [.bool true, .string (Text.ofString "😀")]

theorem document_repeatedKey : Document .plain 2 (Text.ofChars repeatedKey)
    (.object [(Text.ofString "a", .array repeatedKeyItems)]) := by
  have hblank : ∀ s, Blanks (.char ' ' :: s) s := fun s => ⟨[.char ' '], rfl, by simp [isBlank]⟩
  have hkey : Lexis.plain.string (Text.ofString "a") := wellFormed_ofChars
  have hmember : ("true".toList, Value.bool true) ∈ words := .tail _ (.head _)
  have htrue : Derives .plain 0 (.value (.bool true))
      (Text.ofString "true, \"\\ud83d\\ude00\"]\x7d")
      (Text.ofString ", \"\\ud83d\\ude00\"]\x7d") := .token (.word hmember)
  have hhalves : Derives .plain 0 (.value (.string (Text.ofString "😀")))
      (Text.ofString "\"\\ud83d\\ude00\"]\x7d") (Text.ofString "]\x7d") :=
    .token (.string (by decide +kernel) wellFormed_ofChars)
  have harray : Derives .plain 1 (.value (.array repeatedKeyItems))
      (Text.ofString "[true, \"\\ud83d\\ude00\"]\x7d") (Text.ofString "\x7d") :=
    .array blanks_refl (.item htrue blanks_refl (hblank _) (.lastItem hhalves blanks_refl))
  have hzero : Derives .plain 0 (.value (.int 0))
      (Text.ofString "-0, \"a\": [true, \"\\ud83d\\ude00\"]\x7d")
      (Text.ofString ", \"a\": [true, \"\\ud83d\\ude00\"]\x7d") := .token (.negative rfl)
  have hlast : Derives .plain 1 (.members [(Text.ofString "a", .array repeatedKeyItems)])
      (Text.ofString "\"a\": [true, \"\\ud83d\\ude00\"]\x7d") [] :=
    .lastMember rfl hkey blanks_refl (hblank _) harray blanks_refl
  have hmembers : Derives .plain 1
      (.members [(Text.ofString "a", .int 0), (Text.ofString "a", .array repeatedKeyItems)])
      (Text.ofString "\"a\": -0, \"a\": [true, \"\\ud83d\\ude00\"]\x7d") [] :=
    .member rfl hkey blanks_refl (hblank _) hzero blanks_refl (hblank _) hlast
  exact ⟨_, _, blanks_refl, .object (hblank _) hmembers trivial, blanks_refl⟩

end PromptLibrary.Proofs.Json.Inclusion
