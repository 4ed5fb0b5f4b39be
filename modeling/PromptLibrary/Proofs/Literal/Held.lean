import PromptLibrary.Proofs.Literal.Recognition
import PromptLibrary.Proofs.Text.Points
/-!
# No halves in what is read

Halves of surrogate pairs may stand in an operand, where a neighbour may complete them.  By the time
a text has become a key or the value of a literal the halves are paired, so that none is left in
what a derivation means, however deep it stands there.
-/

namespace PromptLibrary.Proofs.Literal.Held

open PromptLibrary.Literal
open PromptLibrary.Proofs.Text.Points
open PromptLibrary.Proofs.Literal.Token
open PromptLibrary.Proofs.Literal.Grammar
open PromptLibrary.Proofs.Literal.Recognition

/-- A text stands in a value, as a string or as a key of an object. -/
inductive Holds : Value → Text → Prop where
  | string {t : Text} : Holds (.string t) t
  | item {items : List Value} {v : Value} {t : Text} (hv : v ∈ items) (h : Holds v t) :
      Holds (.array items) t
  | key {members : List (Text × Value)} {key : Text} {v : Value} (hm : (key, v) ∈ members) :
      Holds (.object members) key
  | member {members : List (Text × Value)} {key : Text} {v : Value} {t : Text}
      (hm : (key, v) ∈ members) (h : Holds v t) : Holds (.object members) t

/-- No surrogate half stands in any text of the value. -/
def Whole (v : Value) : Prop :=
  ∀ t, Holds v t → t.WellFormed

variable {allowed : List Char → Prop} {lexis : Lexis} {policy : Interpolation} {d limit : Nat}
  {s r text : List Char} {c : Char} {v : Value} {t key : Text} {ph : Phrase} {p left : Parsed}
  {ps : List Parsed} {ms : List Member}

/-! ## Values made of values -/

theorem whole_string (h : t.WellFormed) : Whole (.string t) := by
  intro u hu
  cases hu
  exact h

theorem whole_array {vs : List Value} (h : ∀ v ∈ vs, Whole v) : Whole (.array vs) := by
  intro t ht
  cases ht with
  | item hv ht => exact h _ hv t ht

theorem whole_object {members : List (Text × Value)}
    (h : ∀ m ∈ members, m.1.WellFormed ∧ Whole m.2) : Whole (.object members) := by
  intro t ht
  cases ht with
  | key hm => exact (h _ hm).1
  | member hm ht => exact (h _ hm).2 t ht

theorem mem_put {α : Type} {key : Text} {value : α} {m : Mapping α} {entry : Text × α}
    (h : entry ∈ m.put key value) : entry = (key, value) ∨ entry ∈ m := by
  induction m with
  | nil => exact .inl (List.mem_singleton.1 h)
  | cons first m ih =>
    obtain ⟨k, v⟩ := first
    rw [Mapping.put] at h
    split at h
    · next hk =>
      subst hk
      exact (List.mem_cons.1 h).imp_right (List.mem_cons_of_mem _)
    · rcases List.mem_cons.1 h with rfl | h
      · exact .inr List.mem_cons_self
      · exact (ih h).imp_right (List.mem_cons_of_mem _)

theorem mem_foldl_put {α : Type} {entries : List (Text × α)} {m : Mapping α} {entry : Text × α}
    (h : entry ∈ entries.foldl (fun m e => m.put e.1 e.2) m) : entry ∈ m ∨ entry ∈ entries := by
  induction entries generalizing m with
  | nil => exact .inl h
  | cons first entries ih =>
    rcases ih h with hput | hrest
    · rcases mem_put hput with rfl | hm
      · exact .inr List.mem_cons_self
      · exact .inl hm
    · exact .inr (List.mem_cons_of_mem _ hrest)

/-- A mapping has no entries but those that were set. -/
theorem mem_of_mem_ofEntries {α : Type} {entries : List (Text × α)} {entry : Text × α}
    (h : entry ∈ Mapping.ofEntries entries) : entry ∈ entries :=
  (mem_foldl_put h).resolve_left List.not_mem_nil

theorem whole_ofItems (h : ∀ p ∈ ps, Whole p.value) : Whole (Parsed.ofItems ps).value := by
  refine whole_array fun v hv => ?_
  obtain ⟨p, hp, rfl⟩ := List.mem_map.1 hv
  exact h p hp

theorem whole_ofMembers (h : ∀ m ∈ ms, m.key.WellFormed ∧ Whole m.parsed.value) :
    Whole (Parsed.ofMembers ms).value := by
  refine whole_object fun entry hentry => ?_
  obtain ⟨m, hm, rfl⟩ := List.mem_map.1 (mem_of_mem_ofEntries hentry)
  exact h m hm

/-! ## Tokens -/

/-- Numbers hold no text. -/
theorem whole_of_number {n : Number} (h : n.value = .ok v) : Whole v := by
  intro t ht
  unfold Number.value at h
  split at h
  · obtain rfl := Except.ok.inj h
    cases ht
  split at h
  · obtain rfl := Except.ok.inj h
    cases ht
  split at h
  · simp at h
  · obtain rfl := Except.ok.inj h
    cases ht

theorem whole_of_read (h : Number.read c s = .ok (v, r)) : Whole v := by
  unfold Number.read at h
  split at h
  · simp at h
  · split at h
    · simp at h
    · obtain ⟨w, hw, he⟩ := map_eq_ok.1 h
      obtain ⟨rfl, _⟩ := Prod.mk.inj he
      exact whole_of_number hw

theorem whole_of_keyword {name : List Char} (h : keyword? name = some v) : Whole v := by
  intro t ht
  unfold keyword? at h
  split at h
  · obtain rfl := Option.some.inj h
    cases ht
  split at h
  · obtain rfl := Option.some.inj h
    cases ht
  split at h
  · obtain rfl := Option.some.inj h
    cases ht
  · simp at h

/-- Among tokens only strings and templates may hold halves. -/
theorem whole_of_token (h : Token allowed policy s v r) (hv : v.kind ≠ .string) : Whole v := by
  cases h with
  | string => exact absurd rfl hv
  | template => exact absurd rfl hv
  | number h => exact whole_of_read h
  | keyword h _ => exact whole_of_keyword h

theorem wellFormed_keyText (h : Number.keyText v = .ok key) : key.WellFormed := by
  have htext : ∀ {x : Option (List Char)},
      (x.elim (.error .tooManyDigits) (.ok ∘ Text.ofChars) : Except Failure Text) = .ok key →
        key.WellFormed := by
    intro x hx
    cases x with
    | none => simp at hx
    | some cs => exact Except.ok.inj hx ▸ wellFormed_ofChars
  unfold Number.keyText at h
  split at h
  · exact htext h
  · split at h
    · exact htext h
    · exact Except.ok.inj h ▸ wellFormed_ofChars
  · obtain rfl := Except.ok.inj h
    exact fun p hp => absurd hp List.not_mem_nil

/-- Keys are whole, strings in quotes among them. -/
theorem wellFormed_of_key (h : Key s key r) : key.WellFormed := by
  cases h with
  | string _ _ hw => exact hw
  | number _ _ hk => exact wellFormed_keyText hk
  | name _ _ _ => exact wellFormed_ofChars

/-! ## Phrases -/

/-- What a phrase means is whole.  Of operands this is known only if they are no strings, since a
string may still wait for its neighbour. -/
def WholePhrase : Phrase → Prop
  | .operand p => p.value.kind ≠ .string → Whole p.value
  | .more _ => True
  | .literal p => Whole p.value
  | .members ms => ∀ m ∈ ms, m.key.WellFormed ∧ Whole m.parsed.value
  | .items ps => ∀ p ∈ ps, Whole p.value

/-- Operands that are joined are strings, and they are paired; a single one has its own value. -/
theorem whole_of_joined (hleft : WholePhrase (.operand left)) (h : Joined (left :: ps) p) :
    Whole p.value := by
  cases h with
  | value hk => exact hleft hk
  | text _ _ hw => exact whole_string hw

/-- **No half is left in a phrase.** -/
theorem wholePhrase_of_derives (h : Derives lexis policy d ph s r) : WholePhrase ph := by
  induction h with
  | token h => exact whole_of_token h
  | parentheses _ _ ih => exact fun _ => ih
  | object _ ih => exact fun _ => whole_ofMembers ih
  | array _ ih => exact fun _ => whole_ofItems ih
  | noMore => exact trivial
  | plus => exact trivial
  | literal _ _ _ hsum ih _ => exact whole_of_joined ih hsum
  | noMembers _ => exact List.forall_mem_nil _
  | lastMember _ hk _ _ _ ih => exact List.forall_mem_singleton.2 ⟨wellFormed_of_key hk, ih⟩
  | member _ hk _ _ _ _ ih ihmore =>
    exact List.forall_mem_cons.2 ⟨⟨wellFormed_of_key hk, ih⟩, ihmore⟩
  | noItems _ => exact List.forall_mem_nil _
  | lastItem _ _ ih => exact List.forall_mem_singleton.2 ih
  | item _ _ _ ih ihmore => exact List.forall_mem_cons.2 ⟨ih, ihmore⟩

theorem whole_of_parseWithin (h : parseWithin limit policy text = .ok p) : Whole p.value := by
  obtain ⟨d, _, m, hder, _⟩ := parseWithin_eq_ok_iff.1 h
  exact wholePhrase_of_derives hder

end PromptLibrary.Proofs.Literal.Held
