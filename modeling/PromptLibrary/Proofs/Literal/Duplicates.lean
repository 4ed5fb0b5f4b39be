import PromptLibrary.Proofs.Literal.Overrides
import PromptLibrary.Proofs.Literal.Suffix
import Mathlib.Data.List.Forall2
/-!
# Duplicate keys

What a text is written with is read off its grammar, with the members that are overridden.  Its
value and its warnings are then told by that: the value is what the last members leave, and there is
one warning for each repeated member, in the order in which the members end.

* `Spells` — what a text is written with;
* `exists_spelled`, `agrees_of_spelled` — what is derived is spelled by something, and means
  whatever it is spelled by;
* `stands_of_spells`, `ends_of_spells` — the members as they stand in the text;
* `duplicates_warned`.
-/

namespace PromptLibrary.Proofs.Literal.Duplicates

open PromptLibrary.Literal
open PromptLibrary.Proofs.Literal.Trivia
open PromptLibrary.Proofs.Literal.Token
open PromptLibrary.Proofs.Literal.Grammar
open PromptLibrary.Proofs.Literal.Recognition
open PromptLibrary.Proofs.Literal.Suffix
open PromptLibrary.Proofs.Literal.Overrides

/-- The phrases that objects and arrays stand in, each with what it is written with. -/
inductive Form where
  | literal (t : Shape)
  /-- An object or an array, or one of them in parentheses. -/
  | bracket (t : Shape)
  /-- Members of an object up to its closing brace. -/
  | members (es : List (Binding Shape))
  /-- Items of an array up to its closing bracket. -/
  | items (ts : List Shape)

/-- The value is an array or an object. -/
def Composite (v : Value) : Prop :=
  v.kind = .array ∨ v.kind = .object

/-- `Spells policy f s r`: the text `s` is the phrase `f` followed by `r`. -/
inductive Spells (policy : Interpolation) : Form → List Char → List Char → Prop where
  | scalar {d : Nat} {p : Parsed} {s r : List Char} (h : Derives .free policy d (.literal p) s r)
      (hp : ¬ Composite p.value) : Spells policy (.literal (.leaf p.value)) s r
  | container {t : Shape} {s u r : List Char} (ht : Trivia anything s u)
      (h : Spells policy (.bracket t) u r) : Spells policy (.literal t) s r
  | parentheses {t : Shape} {s u m r : List Char} (ht : Trivia anything s u)
      (h : Spells policy (.bracket t) u m) (hc : Trivia anything m (')' :: r)) :
      Spells policy (.bracket t) ('(' :: s) r
  | object {es : List (Binding Shape)} {s r : List Char} (h : Spells policy (.members es) s r) :
      Spells policy (.bracket (.object es)) ('\x7b' :: s) r
  | array {ts : List Shape} {s r : List Char} (h : Spells policy (.items ts) s r) :
      Spells policy (.bracket (.array ts)) ('[' :: s) r
  | noMembers {s r : List Char} (hc : Trivia anything s ('\x7d' :: r)) :
      Spells policy (.members []) s r
  | lastMember {key : Text} {t : Shape} {s k a b m r : List Char} (ht : Trivia anything s k)
      (hk : Key k key a) (hcolon : Trivia anything a (':' :: b))
      (h : Spells policy (.literal t) b m) (hc : Trivia anything m ('\x7d' :: r)) :
      Spells policy (.members [⟨key, k, t, m⟩]) s r
  | member {key : Text} {t : Shape} {es : List (Binding Shape)} {s k a b m n r : List Char}
      (ht : Trivia anything s k) (hk : Key k key a) (hcolon : Trivia anything a (':' :: b))
      (h : Spells policy (.literal t) b m) (hc : Trivia anything m (',' :: n))
      (hmore : Spells policy (.members es) n r) :
      Spells policy (.members (⟨key, k, t, m⟩ :: es)) s r
  | noItems {s r : List Char} (hc : Trivia anything s (']' :: r)) : Spells policy (.items []) s r
  | lastItem {t : Shape} {s m r : List Char} (h : Spells policy (.literal t) s m)
      (hc : Trivia anything m (']' :: r)) : Spells policy (.items [t]) s r
  | item {t : Shape} {ts : List Shape} {s m n r : List Char} (h : Spells policy (.literal t) s m)
      (hc : Trivia anything m (',' :: n)) (hmore : Spells policy (.items ts) n r) :
      Spells policy (.items (t :: ts)) s r

/-- A whole text that is written with `t`, with trivia at both ends. -/
def Spelled (policy : Interpolation) (text : List Char) (t : Shape) : Prop :=
  ∃ m, Spells policy (.literal t) text m ∧ Trivia anything m []

/-- The member stands in the text: its key, a colon, and then its value. -/
structure Stands (policy : Interpolation) (text : List Char) (e : Binding Shape) : Prop where
  suffix : e.rest <:+ text
  spelled : ∃ a b, Key e.rest e.key a ∧ Trivia anything a (':' :: b) ∧
    Spells policy (.literal e.literal) b e.after

/-- The warning about a member of a text: its key, and the offset at which the key begins. -/
def warning (text : List Char) (e : Binding Shape) : DuplicateKey :=
  ⟨e.key, text.length - e.rest.length⟩

variable {lexis : Lexis} {policy : Interpolation} {limit d : Nat} {s t r text : List Char}
  {shape : Shape} {ts : List Shape} {e x : Binding Shape} {es : List (Binding Shape)} {form : Form}
  {ph : Phrase} {p v : Parsed} {ps : List Parsed} {m : Member} {ms : List Member}
  {seen : List Text}

/-! ## Every derivation is spelled by something -/

theorem not_composite_of_read {c : Char} {v : Value} (h : Number.read c s = .ok (v, r)) :
    ¬ Composite v := by
  unfold Number.read at h
  split at h
  · simp at h
  split at h
  · simp at h
  obtain ⟨w, hw, he⟩ := map_eq_ok.1 h
  obtain ⟨rfl, -⟩ := Prod.mk.inj he
  unfold Number.value at hw
  split at hw
  · obtain rfl := Except.ok.inj hw
    simp [Composite, Value.kind]
  split at hw
  · obtain rfl := Except.ok.inj hw
    simp [Composite, Value.kind]
  split at hw
  · simp at hw
  · obtain rfl := Except.ok.inj hw
    simp [Composite, Value.kind]

theorem not_composite_of_keyword {name : List Char} {v : Value} (h : keyword? name = some v) :
    ¬ Composite v := by
  unfold keyword? at h
  split at h
  · obtain rfl := Option.some.inj h
    simp [Composite, Value.kind]
  split at h
  · obtain rfl := Option.some.inj h
    simp [Composite, Value.kind]
  split at h
  · obtain rfl := Option.some.inj h
    simp [Composite, Value.kind]
  · simp at h

/-- A token is neither an array nor an object. -/
theorem not_composite_of_token {allowed : List Char → Prop} {v : Value}
    (h : Token allowed policy s v r) : ¬ Composite v := by
  cases h with
  | string => simp [Composite, Value.kind]
  | template => simp [Composite, Value.kind]
  | number h => exact not_composite_of_read h
  | keyword h _ => exact not_composite_of_keyword h

/-- Operands that are joined to something else than a string are a single one. -/
theorem eq_of_joined (h : Joined (p :: ps) v) (hv : v.value.kind ≠ .string) :
    ps = [] ∧ v = p := by
  cases h with
  | value => exact ⟨rfl, rfl⟩
  | text => exact absurd rfl hv

theorem kind_ne_string_of_composite {v : Value} (h : Composite v) : v.kind ≠ .string := by
  rcases h with h | h <;> rw [h] <;> exact Kind.noConfusion

/-- What a derived phrase is spelled by.  Of literals and operands only those are spelled by
themselves that are arrays or objects. -/
def Spellable (policy : Interpolation) : Phrase → List Char → List Char → Prop
  | .operand p, s, r => Composite p.value → ∃ t, Spells policy (.bracket t) s r
  | .more ps, s, r => ps = [] → s = r
  | .literal p, s, r => Composite p.value →
      ∃ t u, Trivia anything s u ∧ Spells policy (.bracket t) u r
  | .members _, s, r => ∃ es, Spells policy (.members es) s r
  | .items _, s, r => ∃ ts, Spells policy (.items ts) s r

theorem exists_spells_literal (h : Derives .free policy d (.literal p) s r)
    (hspell : Spellable policy (.literal p) s r) : ∃ t, Spells policy (.literal t) s r := by
  by_cases hp : Composite p.value
  · obtain ⟨t, u, hu, ht⟩ := hspell hp
    exact ⟨t, .container hu ht⟩
  · exact ⟨_, .scalar h hp⟩

theorem spellable_of_derives (h : Derives .free policy d ph s r) : Spellable policy ph s r := by
  induction h with
  | token h => exact fun hp => absurd hp (not_composite_of_token h)
  | parentheses _ hc ih =>
    intro hp
    obtain ⟨t, u, hu, ht⟩ := ih hp
    exact ⟨t, .parentheses hu ht hc⟩
  | object _ ih =>
    intro _
    obtain ⟨es, hes⟩ := ih
    exact ⟨_, .object hes⟩
  | array _ ih =>
    intro _
    obtain ⟨ts, hts⟩ := ih
    exact ⟨_, .array hts⟩
  | noMore => exact fun _ => rfl
  | plus => exact fun h => absurd h (List.cons_ne_nil _ _)
  | literal hu _ _ hsum ih ihmore =>
    intro hv
    obtain ⟨hps, rfl⟩ := eq_of_joined hsum (kind_ne_string_of_composite hv)
    obtain rfl := ihmore hps
    obtain ⟨t, ht⟩ := ih hv
    exact ⟨t, _, hu, ht⟩
  | noMembers hc => exact ⟨_, .noMembers hc⟩
  | lastMember ht hk hcolon h hc ih =>
    obtain ⟨t, h⟩ := exists_spells_literal h ih
    exact ⟨_, .lastMember ht hk hcolon h hc⟩
  | member ht hk hcolon h hc _ ih ihmore =>
    obtain ⟨t, h⟩ := exists_spells_literal h ih
    obtain ⟨es, hes⟩ := ihmore
    exact ⟨_, .member ht hk hcolon h hc hes⟩
  | noItems hc => exact ⟨_, .noItems hc⟩
  | lastItem h hc ih =>
    obtain ⟨t, h⟩ := exists_spells_literal h ih
    exact ⟨_, .lastItem h hc⟩
  | item h hc _ ih ihmore =>
    obtain ⟨t, h⟩ := exists_spells_literal h ih
    obtain ⟨ts, hts⟩ := ihmore
    exact ⟨_, .item h hc hts⟩

/-! ## What is spelled is derived -/

/-- A shape is what something that has been read was written with. -/
structure Agrees (t : Shape) (p : Parsed) : Prop where
  means : Means t p.value
  duplicates : p.duplicates = t.repeats.map fun e => ⟨e.key, e.rest⟩

structure AgreesBinding (e : Binding Shape) (m : Member) : Prop where
  key : m.key = e.key
  rest : m.rest = e.rest
  parsed : Agrees e.literal m.parsed

/-- Strings joined to one, and the values of tokens, have no duplicates of their own. -/
def Plain : Phrase → Prop
  | .operand p => ¬ Composite p.value → p.duplicates = []
  | .more ps => ∀ p ∈ ps, ¬ Composite p.value → p.duplicates = []
  | .literal p => ¬ Composite p.value → p.duplicates = []
  | .members _ => True
  | .items _ => True

theorem plain_of_derives (h : Derives lexis policy d ph s r) : Plain ph := by
  induction h with
  | token => exact fun _ => rfl
  | parentheses _ _ ih => exact ih
  | object => exact fun h => absurd (.inr rfl) h
  | array => exact fun h => absurd (.inl rfl) h
  | noMore => exact List.forall_mem_nil _
  | plus _ _ _ _ ih ihmore => exact List.forall_mem_cons.2 ⟨ih, ihmore⟩
  | @literal _ _ p v ps _ _ _ _ _ _ _ hsum ih ihmore =>
    intro hv
    cases hsum with
    | value => exact ih hv
    | @text _ ts _ hs _ =>
      refine List.flatMap_eq_nil_iff.2 fun q hq => ?_
      have hall : ∀ q ∈ p :: ps, ¬ Composite q.value → q.duplicates = [] :=
        List.forall_mem_cons.2 ⟨ih, ihmore⟩
      have hvalue : q.value ∈ ts.map Value.string := hs ▸ List.mem_map_of_mem hq
      obtain ⟨t, _, ht⟩ := List.mem_map.1 hvalue
      exact hall q hq (by rw [← ht]; simp [Composite, Value.kind])
  | noMembers => exact trivial
  | lastMember => exact trivial
  | member => exact trivial
  | noItems => exact trivial
  | lastItem => exact trivial
  | item => exact trivial

theorem keys_of_agrees (h : List.Forall₂ AgreesBinding es ms) :
    ms.map (·.key) = keysOf es := by
  induction h with
  | nil => rfl
  | cons h _ ih => rw [List.map_cons, ih, h.key]; rfl

/-- A member in the middle of others is read between what the others are read as. -/
theorem exists_split {front back : List (Binding Shape)}
    (h : List.Forall₂ AgreesBinding (front ++ e :: back) ms) :
    ∃ ms₁ m ms₂, ms = ms₁ ++ m :: ms₂ ∧ AgreesBinding e m ∧
      List.Forall₂ AgreesBinding back ms₂ := by
  induction front generalizing ms with
  | nil =>
    obtain ⟨m, ms₂, hm, hback, rfl⟩ := List.forall₂_cons_left_iff.1 h
    exact ⟨[], m, ms₂, rfl, hm, hback⟩
  | cons first front ih =>
    obtain ⟨m, rest, -, hrest, rfl⟩ := List.forall₂_cons_left_iff.1 h
    obtain ⟨ms₁, m', ms₂, rfl, hm, hback⟩ := ih hrest
    exact ⟨m :: ms₁, m', ms₂, rfl, hm, hback⟩

theorem means_ofMembers (h : List.Forall₂ AgreesBinding es ms) :
    Means (.object es) (Parsed.ofMembers ms).value := by
  have hlast : ∀ e, LastIn es e → ∃ m : Member, AgreesBinding e m ∧
      (Mapping.ofEntries (ms.map fun m => (m.key, m.parsed.value))).get? e.key =
        some m.parsed.value := by
    rintro e ⟨front, back, rfl, hback⟩
    obtain ⟨ms₁, m, ms₂, rfl, hm, hrest⟩ := exists_split h
    refine ⟨m, hm, ?_⟩
    rw [List.map_append, List.map_cons, hm.key]
    refine get?_ofEntries_last ?_
    rw [List.map_map]
    exact keys_of_agrees hrest ▸ hback
  let m := Mapping.ofEntries (ms.map fun m => (m.key, m.parsed.value))
  refine .object (fun e => (m.get? e.key).getD .null) ?_ (fun e he => ?_) fun e he => ?_
  · rw [keys_ofEntries, List.map_map]
    exact congrArg List.eraseDups (keys_of_agrees h)
  · obtain ⟨m, _, hget⟩ := hlast e he
    rw [hget]
    rfl
  · obtain ⟨m, hm, hget⟩ := hlast e he
    rw [hget]
    exact hm.parsed.means

theorem duplicatesAmong_of_agrees (h : List.Forall₂ AgreesBinding es ms) :
    duplicatesAmong seen ms = (repeatsAmong seen es).map fun e => ⟨e.key, e.rest⟩ := by
  induction h generalizing seen with
  | nil => rfl
  | @cons e m es ms h _ ih =>
    have hself : (if m.key ∈ seen then [(⟨m.key, m.rest⟩ : Duplicate)] else []) =
        (if e.key ∈ seen then [e] else []).map fun e => ⟨e.key, e.rest⟩ := by
      rw [h.key, h.rest]
      split <;> rfl
    rw [duplicatesAmong, repeatsAmong_cons, List.map_append, List.map_append, ih,
      h.parsed.duplicates, hself, h.key, List.append_assoc]

theorem agrees_ofMembers (h : List.Forall₂ AgreesBinding es ms) :
    Agrees (.object es) (.ofMembers ms) :=
  ⟨means_ofMembers h, duplicatesAmong_of_agrees h⟩

theorem agrees_ofItems (h : List.Forall₂ Agrees ts ps) : Agrees (.array ts) (.ofItems ps) := by
  constructor
  · refine .array ?_ fun i t v ht hv => ?_
    · rw [List.length_map]
      exact h.length_eq
    · rw [List.getElem?_map, Option.map_eq_some_iff] at hv
      obtain ⟨p, hp, rfl⟩ := hv
      obtain ⟨hi, rfl⟩ := List.getElem?_eq_some_iff.1 ht
      obtain ⟨hj, rfl⟩ := List.getElem?_eq_some_iff.1 hp
      exact (h.get hi hj).means
  · induction h with
    | nil => rfl
    | cons h _ ih =>
      have hrest : _ = (repeatsOfItems _).map _ := ih
      rw [Parsed.ofItems, List.flatMap_cons, h.duplicates, Shape.repeats, repeatsOfItems,
        List.map_append, ← hrest]
      rfl

/-- What a spelled phrase is derived as. -/
def Derived (policy : Interpolation) : Form → List Char → List Char → Prop
  | .literal t, s, r => ∃ d p, Derives .free policy d (.literal p) s r ∧ Agrees t p
  | .bracket t, s, r => ∃ d p, Derives .free policy d (.operand p) s r ∧ Agrees t p ∧
      p.value.kind ≠ .string
  | .members es, s, r => ∃ d ms, Derives .free policy d (.members ms) s r ∧
      List.Forall₂ AgreesBinding es ms
  | .items ts, s, r => ∃ d ps, Derives .free policy d (.items ps) s r ∧ List.Forall₂ Agrees ts ps

theorem derived_of_spells (h : Spells policy form s r) : Derived policy form s r := by
  induction h with
  | scalar h hp => exact ⟨_, _, h, .leaf, plain_of_derives h hp⟩
  | container ht _ ih =>
    obtain ⟨d, p, h, hp, hk⟩ := ih
    exact ⟨_, p, .literal ht h .noMore (.value hk), hp⟩
  | parentheses ht _ hc ih =>
    obtain ⟨d, p, h, hp, hk⟩ := ih
    exact ⟨_, p, .parentheses (.literal ht h .noMore (.value hk)) hc, hp, hk⟩
  | object _ ih =>
    obtain ⟨d, ms, h, hms⟩ := ih
    exact ⟨_, _, .object h, agrees_ofMembers hms, Kind.noConfusion⟩
  | array _ ih =>
    obtain ⟨d, ps, h, hps⟩ := ih
    exact ⟨_, _, .array h, agrees_ofItems hps, Kind.noConfusion⟩
  | noMembers hc => exact ⟨_, _, .noMembers hc, .nil⟩
  | lastMember ht hk hcolon _ hc ih =>
    obtain ⟨d, p, h, hp⟩ := ih
    exact ⟨_, _, .lastMember ht hk hcolon h hc, .cons ⟨rfl, rfl, hp⟩ .nil⟩
  | member ht hk hcolon _ hc _ ih ihmore =>
    obtain ⟨d, p, h, hp⟩ := ih
    obtain ⟨e, ms, hmore, hms⟩ := ihmore
    exact ⟨_, _, .member ht hk hcolon h hc hmore, .cons ⟨rfl, rfl, hp⟩ hms⟩
  | noItems hc => exact ⟨_, _, .noItems hc, .nil⟩
  | lastItem _ hc ih =>
    obtain ⟨d, p, h, hp⟩ := ih
    exact ⟨_, _, .lastItem h hc, .cons hp .nil⟩
  | item _ hc _ ih ihmore =>
    obtain ⟨d, p, h, hp⟩ := ih
    obtain ⟨e, ps, hmore, hps⟩ := ihmore
    exact ⟨_, _, .item h hc hmore, .cons hp hps⟩

/-! ## Members in their places -/

/-- The members of all object literals in a phrase. -/
def Has : Form → Binding Shape → Prop
  | .literal t, e => ∃ es ∈ t.objects, e ∈ es
  | .bracket t, e => ∃ es ∈ t.objects, e ∈ es
  | .members es, e => ∃ es' ∈ (Shape.object es).objects, e ∈ es'
  | .items ts, e => ∃ es ∈ (Shape.array ts).objects, e ∈ es

theorem has_members_cons : Has (.members (e :: es)) x ↔
    x = e ∨ Has (.literal e.literal) x ∨ Has (.members es) x := by
  simp only [Has, Shape.objects, objectsOfEntries_cons, List.mem_cons, List.mem_append,
    or_and_right, exists_or, exists_eq_left, or_assoc]
  rw [or_left_comm (a := x ∈ es)]

theorem has_items_cons {shape : Shape} : Has (.items (shape :: ts)) x ↔
    Has (.literal shape) x ∨ Has (.items ts) x := by
  simp only [Has, Shape.objects, objectsOfItems_cons, List.mem_append, or_and_right, exists_or]

theorem not_has_noMembers : ¬ Has (.members []) x := by
  simp [Has, Shape.objects, objectsOfEntries]

theorem not_has_noItems : ¬ Has (.items []) x := by
  simp [Has, Shape.objects, objectsOfItems]

theorem suffix_of_spells (h : Spells policy form s r) : r <:+ s := by
  have hderived := derived_of_spells h
  cases form with
  | literal t =>
    obtain ⟨d, p, h, -⟩ := hderived
    exact suffix_of_derives h
  | bracket t =>
    obtain ⟨d, p, h, -⟩ := hderived
    exact suffix_of_derives h
  | members es =>
    obtain ⟨d, ms, h, -⟩ := hderived
    exact suffix_of_derives h
  | items ts =>
    obtain ⟨d, ps, h, -⟩ := hderived
    exact suffix_of_derives h

theorem Stands.mono (h : Stands policy s e) (ht : s <:+ t) : Stands policy t e :=
  ⟨h.suffix.trans ht, h.spelled⟩

/-- **Every member stands in the text.** -/
theorem stands_of_spells (h : Spells policy form s r) (he : Has form e) : Stands policy s e := by
  induction h with
  | scalar => simp [Has, Shape.objects] at he
  | container ht _ ih => exact (ih he).mono (suffix_of_trivia ht)
  | parentheses ht _ _ ih => exact (ih he).mono (suffix_cons (suffix_of_trivia ht))
  | object _ ih => exact (ih he).mono (List.suffix_cons _ _)
  | array _ ih => exact (ih he).mono (List.suffix_cons _ _)
  | noMembers => exact absurd he not_has_noMembers
  | lastMember ht hk hcolon h _ ih =>
    have hvalue := (suffix_of_mark hcolon).trans (suffix_of_key hk)
    rcases has_members_cons.1 he with rfl | he | he
    · exact ⟨suffix_of_trivia ht, _, _, hk, hcolon, h⟩
    · exact (ih he).mono (hvalue.trans (suffix_of_trivia ht))
    · exact absurd he not_has_noMembers
  | member ht hk hcolon h hc _ ih ihmore =>
    have hvalue := (suffix_of_mark hcolon).trans (suffix_of_key hk)
    rcases has_members_cons.1 he with rfl | he | he
    · exact ⟨suffix_of_trivia ht, _, _, hk, hcolon, h⟩
    · exact (ih he).mono (hvalue.trans (suffix_of_trivia ht))
    · have hmore := (suffix_of_mark hc).trans (suffix_of_spells h)
      exact (ihmore he).mono ((hmore.trans hvalue).trans (suffix_of_trivia ht))
  | noItems => exact absurd he not_has_noItems
  | lastItem _ _ ih =>
    rcases has_items_cons.1 he with he | he
    · exact ih he
    · exact absurd he not_has_noItems
  | item h hc _ ih ihmore =>
    rcases has_items_cons.1 he with he | he
    · exact ih he
    · exact (ihmore he).mono ((suffix_of_mark hc).trans (suffix_of_spells h))

theorem length_lt_of_mark {c : Char} (h : Trivia anything s (c :: r)) : r.length < s.length :=
  (suffix_of_trivia h).length_le

/-- The value of a member is shorter than the members from that one on. -/
theorem length_lt_of_value {key : Text} {k a b : List Char} (ht : Trivia anything s k)
    (hk : Key k key a) (hcolon : Trivia anything a (':' :: b)) : b.length < s.length := by
  have hkey := (suffix_of_trivia ht).length_le
  have hafter := (suffix_of_key hk).length_le
  have hvalue := length_lt_of_mark hcolon
  omega

/-- A member ends inside the phrase that it is in. -/
theorem ends_of_spells (h : Spells policy form s r) (he : Has form e) :
    r.length < e.after.length ∧ e.after.length < s.length := by
  induction h with
  | scalar => simp [Has, Shape.objects] at he
  | container ht _ ih =>
    have hbounds := ih he
    have hlength := (suffix_of_trivia ht).length_le
    omega
  | parentheses ht _ hc ih =>
    have hbounds := ih he
    have hlength := (suffix_of_trivia ht).length_le
    have hclose := length_lt_of_mark hc
    rw [List.length_cons]
    omega
  | object _ ih =>
    have hbounds := ih he
    rw [List.length_cons]
    omega
  | array _ ih =>
    have hbounds := ih he
    rw [List.length_cons]
    omega
  | noMembers => exact absurd he not_has_noMembers
  | lastMember ht hk hcolon h hc ih =>
    have hvalue := length_lt_of_value ht hk hcolon
    have hlength := (suffix_of_spells h).length_le
    have hclose := length_lt_of_mark hc
    rcases has_members_cons.1 he with rfl | he | he
    · exact ⟨hclose, hlength.trans_lt hvalue⟩
    · have hbounds := ih he
      omega
    · exact absurd he not_has_noMembers
  | member ht hk hcolon h hc hmore ih ihmore =>
    have hvalue := length_lt_of_value ht hk hcolon
    have hlength := (suffix_of_spells h).length_le
    have hcomma := length_lt_of_mark hc
    have hrest := (suffix_of_spells hmore).length_le
    rcases has_members_cons.1 he with rfl | he | he
    · exact ⟨hrest.trans_lt hcomma, hlength.trans_lt hvalue⟩
    · have hbounds := ih he
      omega
    · have hbounds := ihmore he
      omega
  | noItems => exact absurd he not_has_noItems
  | lastItem _ hc ih =>
    have hclose := length_lt_of_mark hc
    rcases has_items_cons.1 he with he | he
    · have hbounds := ih he
      omega
    · exact absurd he not_has_noItems
  | item h hc hmore ih ihmore =>
    have hlength := (suffix_of_spells h).length_le
    have hcomma := length_lt_of_mark hc
    have hrest := (suffix_of_spells hmore).length_le
    rcases has_items_cons.1 he with he | he
    · have hbounds := ih he
      omega
    · have hbounds := ihmore he
      omega

/-! ## The order of warnings -/

theorem mem_of_repeatedIn (h : RepeatedIn es e) : e ∈ es :=
  mem_of_repeatedAfter (repeatedAfter_nil.2 h)

theorem has_of_mem_repeats (h : e ∈ shape.repeats) : Has (.literal shape) e := by
  obtain ⟨es, hes, he⟩ := mem_repeats_iff.1 h
  exact ⟨es, hes, mem_of_repeatedIn he⟩

theorem has_of_mem_repeatsAmong (h : e ∈ repeatsAmong seen es) : Has (.members es) e := by
  rcases (mem_repeatsAmong_iff fun _ _ => mem_repeats_iff).1 h with ⟨o, ho, he⟩ | he
  · exact ⟨o, List.mem_cons_of_mem _ ho, mem_of_repeatedIn he⟩
  · exact ⟨es, List.mem_cons_self, mem_of_repeatedAfter he⟩

/-- Members that end one after the other. -/
def Successive (es : List (Binding Shape)) : Prop :=
  es.Pairwise fun e e' => e'.after.length < e.after.length

theorem successive_append {es es' : List (Binding Shape)} {n : Nat} (h : Successive es)
    (h' : Successive es') (hes : ∀ e ∈ es, n < e.after.length)
    (hes' : ∀ e ∈ es', e.after.length ≤ n) : Successive (es ++ es') :=
  List.pairwise_append.2 ⟨h, h', fun e he e' he' => (hes' e' he').trans_lt (hes e he)⟩

/-- The repeated members of a phrase. -/
def repeatsOf (seen : List Text) : Form → List (Binding Shape)
  | .literal t => t.repeats
  | .bracket t => t.repeats
  | .members es => repeatsAmong seen es
  | .items ts => repeatsOfItems ts

/-- The repeated members inside a member come first, then perhaps the member itself. -/
theorem successive_member (hvalue : Spells policy (.literal e.literal) s e.after)
    (h : Successive e.literal.repeats) (hes : Successive (repeatsAmong (e.key :: seen) es))
    (hafter : ∀ x, Has (.members es) x → x.after.length < e.after.length) :
    Successive (repeatsAmong seen (e :: es)) := by
  have hself : Successive (if e.key ∈ seen then [e] else []) := by
    split
    · exact List.pairwise_singleton _ _
    · exact .nil
  have hmem : ∀ x ∈ (if e.key ∈ seen then [e] else []), x = e := by
    split <;> simp
  have hrest : Successive ((if e.key ∈ seen then [e] else []) ++
      repeatsAmong (e.key :: seen) es) := by
    refine List.pairwise_append.2 ⟨hself, hes, fun x hx x' hx' => ?_⟩
    rw [hmem x hx]
    exact hafter x' (has_of_mem_repeatsAmong hx')
  rw [repeatsAmong_cons]
  refine successive_append (n := e.after.length) h hrest
    (fun x hx => (ends_of_spells hvalue (has_of_mem_repeats hx)).1) fun x hx => ?_
  rcases List.mem_append.1 hx with hx | hx
  · rw [hmem x hx]
  · exact (hafter x (has_of_mem_repeatsAmong hx)).le

/-- **Repeated members are listed in the order in which they end.** -/
theorem successive_of_spells (h : Spells policy form s r) : Successive (repeatsOf seen form) := by
  induction h generalizing seen with
  | scalar => exact .nil
  | container _ _ ih => exact @ih []
  | parentheses _ _ _ ih => exact @ih []
  | object _ ih => exact ih
  | array _ ih => exact @ih []
  | noMembers => exact .nil
  | lastMember _ _ _ h _ ih =>
    exact successive_member (e := ⟨_, _, _, _⟩) h (@ih []) .nil fun x hx =>
      absurd hx not_has_noMembers
  | member _ _ _ h hc hmore ih ihmore =>
    refine successive_member (e := ⟨_, _, _, _⟩) h (@ih []) ihmore fun x hx => ?_
    exact (ends_of_spells hmore hx).2.trans (length_lt_of_mark hc)
  | noItems => exact .nil
  | lastItem _ _ ih =>
    have hitem := @ih []
    rwa [repeatsOf, repeatsOfItems, repeatsOfItems, List.append_nil]
  | item h hc hmore ih ihmore =>
    refine successive_append (@ih []) (@ihmore [])
      (fun x hx => (ends_of_spells h (has_of_mem_repeats hx)).1) fun x hx => ?_
    have hitems : Has (.literal (.array _)) x := has_of_mem_repeats hx
    exact ((ends_of_spells hmore hitems).2.trans (length_lt_of_mark hc)).le

/-! ## Whole texts -/

theorem exists_spelled (h : Document .free policy d text p) : ∃ t, Spelled policy text t := by
  obtain ⟨m, hder, hm⟩ := h
  obtain ⟨t, ht⟩ := exists_spells_literal hder (spellable_of_derives hder)
  exact ⟨t, m, ht, hm⟩

/-- The parser reads what the text is written with, whatever that is. -/
theorem agrees_of_spelled (hp : parseWithin limit policy text = .ok p)
    (h : Spelled policy text shape) : Agrees shape p := by
  obtain ⟨m, hspells, hm⟩ := h
  obtain ⟨e, q, hq, hagrees⟩ := derived_of_spells hspells
  obtain ⟨d, _, hdoc⟩ := parseWithin_eq_ok_iff.1 hp
  -- With room for both derivations the parser gives what each of them means.
  have hd := parseWithin_eq_ok_iff.2 ⟨d, Nat.le_max_left d e, hdoc⟩
  have he := parseWithin_eq_ok_iff.2 ⟨e, Nat.le_max_right d e, m, hq, hm⟩
  obtain rfl : p = q := Except.ok.inj (hd.symm.trans he)
  exact hagrees

/-- **Duplicate keys lose nothing but the overridden values.**  A text that is accepted is written
with something, and whatever it is written with tells its value and its warnings.  Each object of
the value has the different keys of the members it is written with, in the order in which they first
come, and each has the value of its last member.  There is one warning for each member whose key has
come before in the same object literal; it names the key, as it is decoded from the text that the
member begins with, and the offset at which that text begins.  Warnings come in the order in which
the members end, and what stands inside of a member ends before it.  So there are as many warnings
as there are members besides the first ones of their keys, over all object literals together. -/
theorem duplicates_warned (policy : Interpolation) (text : List Char) (value : Value)
    (warnings : List DuplicateKey) (h : parseValue policy text = .ok ⟨value, warnings⟩) :
    (∃ t, Spelled policy text t) ∧
    ∀ t, Spelled policy text t →
      Means t value ∧
      (∀ es ∈ t.objects, ∀ e ∈ es, Stands policy text e ∧
        ∀ es' ∈ e.literal.objects, ∀ e' ∈ es', e.after.length < e'.after.length) ∧
      (∃ repeated, warnings = repeated.map (warning text) ∧ Successive repeated ∧
        ∀ e, e ∈ repeated ↔ ∃ es ∈ t.objects, RepeatedIn es e) ∧
      warnings.length + keyCount t.objects = memberCount t.objects := by
  unfold parseValue at h
  split at h
  · simp at h
  · next p hp =>
    obtain ⟨rfl, rfl⟩ := Evaluated.mk.inj (Except.ok.inj h)
    obtain ⟨d, _, hdoc⟩ := parseWithin_eq_ok_iff.1 hp
    refine ⟨exists_spelled hdoc, fun t ht => ?_⟩
    have hagrees := agrees_of_spelled hp ht
    obtain ⟨m, hspells, hm⟩ := ht
    have hwarnings : (p.duplicates.map fun d => (⟨d.key, text.length - d.rest.length⟩ :
        DuplicateKey)) = t.repeats.map (warning text) := by
      rw [hagrees.duplicates, List.map_map]
      rfl
    rw [hwarnings]
    refine ⟨hagrees.means, fun es hes e he => ?_,
      ⟨t.repeats, rfl, ?_, fun e => mem_repeats_iff⟩, ?_⟩
    · have hstands := stands_of_spells hspells ⟨es, hes, he⟩
      obtain ⟨a, b, _, _, hvalue⟩ := hstands.spelled
      exact ⟨hstands, fun es' hes' e' he' => (ends_of_spells hvalue ⟨es', hes', he'⟩).1⟩
    · exact @successive_of_spells _ _ _ _ [] hspells
    · rw [List.length_map]
      exact length_repeats

/-- Keys spelled in different ways, and an object with a repeated key that is overridden. -/
def respelled : List Char :=
  ['\x7b', 'a', ':', '\x7b', 'b', ':', '\'', '\'', ',', '"', 'b', '"', ':', '\'', '\'', '\x7d',
    ',', '\'', '\\', 'x', '6', '1', '\'', ':', '[', ']', ',', '1', '6', ':', '\'', '\'', ',',
    '0', 'x', '1', '0', ':', '\'', '\'', '\x7d']

/-- The inner object warns first, although nothing is left of it. -/
theorem duplicates_warned_respelled :
    ∃ t, Spelled .strict respelled t ∧
      Means t (.object [([.char 'a'], .array []), ([.char '1', .char '6'], .string [])]) ∧
      3 + keyCount t.objects = memberCount t.objects := by
  have hparse : parseValue .strict respelled =
      .ok ⟨.object [([.char 'a'], .array []), ([.char '1', .char '6'], .string [])],
        [⟨[.char 'b'], 9⟩, ⟨[.char 'a'], 17⟩, ⟨[.char '1', .char '6'], 33⟩]⟩ := by
    with_unfolding_all rfl
  obtain ⟨⟨t, ht⟩, hall⟩ := duplicates_warned _ _ _ _ hparse
  obtain ⟨hmeans, _, _, hcount⟩ := hall t ht
  exact ⟨t, ht, hmeans, hcount⟩

end PromptLibrary.Proofs.Literal.Duplicates
