import PromptLibrary.Proofs.Literal.Grammar
/-!
# What the readers of literals read

One statement for each reader says what it takes off the front of a text, in terms of the readers it
is built from.  The proofs that something was taken, which the readers carry along so that they end,
are left out here.
-/

namespace PromptLibrary.Proofs.Literal.Readers

open PromptLibrary.Literal
open PromptLibrary.Proofs.Literal.Grammar

/-- The reader takes `v` off the front of `s` and leaves `r`. -/
def Reads {σ ε α : Type} (f : Reader σ ε α) (s : List σ) (v : α) (r : List σ) : Prop :=
  (f s).map Taken.pair = .ok (v, r)

/-- The rest of a chain after `left` is read from `s`, which leaves `r`. -/
def Chains (f : Reader Char Failure Parsed) (start : List Char) (left : Parsed) (s : List Char)
    (v : Parsed) (r : List Char) : Prop :=
  (chain f start left s).map (fun x => (x.1, x.2.1)) = .ok (v, r)

section Taken

variable {σ ε α β : Type} {f : Reader σ ε α} {s t r r' : List σ} {v v' : α} {w : β}

theorem reads_iff : Reads f s v r ↔ ∃ h, f s = .ok ⟨v, r, h⟩ := by
  unfold Reads
  rw [map_eq_ok]
  constructor
  · rintro ⟨⟨v', r', h⟩, hf, he⟩
    simp only [Taken.pair, Prod.mk.injEq] at he
    obtain ⟨rfl, rfl⟩ := he
    exact ⟨h, hf⟩
  · rintro ⟨h, hf⟩
    exact ⟨_, hf, rfl⟩

theorem reads_of_eq {x : Taken α s} (h : f s = .ok x) : Reads f s x.value x.rest := by
  unfold Reads
  rw [h]
  rfl

theorem length_lt_of_reads (h : Reads f s v r) : r.length < s.length := by
  obtain ⟨hlt, _⟩ := reads_iff.1 h
  exact hlt

/-- What a reader takes off a shorter list, put into a value for a longer one. -/
theorem map_lift_iff {g : α → β} {h : s.length ≤ t.length} :
    ((f s).map (.lift g h : Taken α s → Taken β t)).map Taken.pair = .ok (w, r) ↔
      ∃ v, Reads f s v r ∧ g v = w := by
  unfold Reads
  cases f s with
  | error e => simp [Except.map]
  | ok x =>
    simp only [Except.map, Taken.pair, Taken.lift, Except.ok.injEq, Prod.mk.injEq]
    constructor
    · rintro ⟨rfl, rfl⟩
      exact ⟨_, ⟨rfl, rfl⟩, rfl⟩
    · rintro ⟨_, ⟨rfl, rfl⟩, rfl⟩
      exact ⟨rfl, rfl⟩

end Taken

variable {policy : Interpolation} {value f : Reader Char Failure Parsed}
  {inner : Option (Reader Char Failure Parsed)} {s t m n r rest start : List Char} {c : Char}
  {p left v : Parsed} {ps : List Parsed} {ms : List Member}

/-! ## Operands -/

theorem reads_bracketed_iff (hc : isOpening c = true) :
    Reads (bracketed value c) s p r ↔
      (c = '\x7b' ∧ ∃ ms, Reads (members value) s ms r ∧ .ofMembers ms = p) ∨
      (c = '[' ∧ ∃ ps, Reads (items value) s ps r ∧ .ofItems ps = p) ∨
      (c = '(' ∧ Reads (parenthesised value) s p r) := by
  simp only [isOpening, Bool.or_eq_true, decide_eq_true_eq] at hc
  have hmembers := map_lift_iff (f := members value) (g := Parsed.ofMembers) (s := s) (w := p)
    (r := r) (h := Nat.le_refl _)
  have hitems := map_lift_iff (f := items value) (g := Parsed.ofItems) (s := s) (w := p)
    (r := r) (h := Nat.le_refl _)
  rcases hc with (rfl | rfl) | rfl
  · rw [← hmembers]
    simp [Reads, bracketed]
  · rw [← hitems]
    simp [Reads, bracketed]
  · simp [Reads, bracketed]

theorem reads_operand_iff :
    Reads (operand policy inner) s p r ↔ ∃ c rest, skipTrivia s = .ok (c :: rest) ∧
      ((isOpening c = false ∧ ∃ v, scalar policy (c :: rest) = .ok (v, r) ∧ .leaf v = p) ∨
        (isOpening c = true ∧
          ∃ value, inner = some value ∧ Reads (bracketed value c) rest p r)) := by
  constructor
  · intro he
    unfold Reads operand at he
    split at he
    · simp [Except.map] at he
    · next t ht =>
      cases t with
      | nil => simp [Except.map] at he
      | cons c rest =>
        refine ⟨c, rest, ht, ?_⟩
        by_cases hc : isOpening c = true
        · simp only [hc, if_true] at he
          cases inner with
          | none => simp [Except.map] at he
          | some value =>
            obtain ⟨w, hw, rfl⟩ := map_lift_iff.1 he
            exact .inr ⟨hc, value, rfl, hw⟩
        · simp only [hc, Bool.false_eq_true, if_false] at he
          split at he
          · simp [Except.map] at he
          · next v after hv =>
            simp only [Except.map, Taken.pair, Except.ok.injEq, Prod.mk.injEq] at he
            obtain ⟨rfl, rfl⟩ := he
            exact .inl ⟨Bool.eq_false_iff.2 hc, v, hv, rfl⟩
  · rintro ⟨c, rest, ht, hcase⟩
    unfold Reads operand
    split
    · next he => simp [ht] at he
    · next t ht' =>
      obtain rfl : c :: rest = t := by
        rw [ht] at ht'
        exact Except.ok.inj ht'
      rcases hcase with ⟨hc, v, hv, rfl⟩ | ⟨hc, value, rfl, hb⟩
      · simp only [hc, Bool.false_eq_true, if_false]
        split
        · next he => simp [hv] at he
        · next v' after hv' =>
          rw [hv] at hv'
          simp only [Except.ok.injEq, Prod.mk.injEq] at hv'
          obtain ⟨rfl, rfl⟩ := hv'
          rfl
      · simp only [hc, if_true]
        exact map_lift_iff.2 ⟨p, hb, rfl⟩

theorem reads_parenthesised_iff :
    Reads (parenthesised value) s p r ↔
      ∃ m, Reads value s p m ∧ skipTrivia m = .ok (')' :: r) := by
  constructor
  · intro he
    unfold Reads parenthesised at he
    split at he
    · simp [Except.map] at he
    · next w hw =>
      refine ⟨w.rest, ?_⟩
      split at he
      · simp [Except.map] at he
      · next rest hm =>
        simp only [Except.map, Taken.pair, Except.ok.injEq, Prod.mk.injEq] at he
        obtain ⟨rfl, rfl⟩ := he
        exact ⟨reads_of_eq hw, hm⟩
      · simp [Except.map] at he
  · rintro ⟨m, hv, hm⟩
    obtain ⟨hlt, hv⟩ := reads_iff.1 hv
    unfold Reads parenthesised
    rw [hv]
    simp only
    split
    · next he => simp [hm] at he
    · next rest he =>
      rw [hm, Except.ok.injEq, List.cons.injEq] at he
      obtain ⟨_, rfl⟩ := he
      rfl
    · next rest hne he =>
      rw [hm, Except.ok.injEq] at he
      exact absurd he.symm (hne _)

/-! ## Items and members -/

/-- What may come after an item or a member: the closing bracket, or a comma and more of them. -/
inductive Follows {α : Type} (close : Char) (more : Reader Char Failure (List α)) :
    List Char → List α → List Char → Prop where
  | last {r : List Char} : Follows close more (close :: r) [] r
  | more {n r : List Char} {as : List α} (h : Reads more n as r) :
      Follows close more (',' :: n) as r

theorem reads_items_iff :
    Reads (items value) s ps r ↔
      (skipTrivia s = .ok (']' :: r) ∧ ps = []) ∨
      ∃ t p m n qs, skipTrivia s = .ok t ∧ t.head? ≠ some ']' ∧ t.head? ≠ some ',' ∧
        Reads value t p m ∧ skipTrivia m = .ok n ∧ Follows ']' (items value) n qs r ∧
        ps = p :: qs := by
  constructor
  · intro he
    unfold Reads items at he
    split at he
    · simp [Except.map] at he
    · next rest hs =>
      simp only [Except.map, Taken.pair, Except.ok.injEq, Prod.mk.injEq] at he
      obtain ⟨rfl, rfl⟩ := he
      exact .inl ⟨hs, rfl⟩
    · simp [Except.map] at he
    · next t hclose hcomma hs =>
      refine .inr ?_
      have hhead : t.head? ≠ some ']' ∧ t.head? ≠ some ',' := by
        cases t with
        | nil => simp
        | cons c t =>
          simp only [List.head?_cons, ne_eq, Option.some.injEq]
          exact ⟨fun h => hclose t (by rw [h]), fun h => hcomma t (by rw [h])⟩
      split at he
      · simp [Except.map] at he
      · next w hw =>
        split at he
        · simp [Except.map] at he
        · next rest hn =>
          obtain ⟨qs, hqs, rfl⟩ := map_lift_iff.1 he
          exact ⟨t, w.value, w.rest, _, qs, hs, hhead.1, hhead.2, reads_of_eq hw, hn, .more hqs,
            rfl⟩
        · next rest hn =>
          simp only [Except.map, Taken.pair, Except.ok.injEq, Prod.mk.injEq] at he
          obtain ⟨rfl, rfl⟩ := he
          exact ⟨t, w.value, w.rest, _, [], hs, hhead.1, hhead.2, reads_of_eq hw, hn, .last, rfl⟩
        · simp [Except.map] at he
  · rintro (⟨hs, rfl⟩ | ⟨t, p, m, n, qs, hs, hclose, hcomma, hv, hn, hf, rfl⟩)
    · unfold Reads items
      split <;> simp_all [Except.map, Taken.pair]
    · obtain ⟨hlt, hv⟩ := reads_iff.1 hv
      unfold Reads items
      split
      · next he => simp [hs] at he
      · next rest he => simp [Except.ok.inj (hs.symm.trans he)] at hclose
      · next rest he => simp [Except.ok.inj (hs.symm.trans he)] at hcomma
      · next t' _ _ he =>
        obtain rfl : t = t' := Except.ok.inj (hs.symm.trans he)
        rw [hv]
        simp only
        cases hf with
        | last => split <;> simp_all [Except.map, Taken.pair]
        | more hmore =>
          split
          · next he => simp [hn] at he
          · next rest he =>
            obtain ⟨_, rfl⟩ := List.cons.inj (Except.ok.inj (hn.symm.trans he))
            exact map_lift_iff.2 ⟨_, hmore, rfl⟩
          · next rest he => simp [hn] at he
          · next rest hne _ he => exact absurd (Except.ok.inj (hn.symm.trans he)).symm (hne _)

theorem reads_members_iff :
    Reads (members value) s ms r ↔
      (skipTrivia s = .ok ('\x7d' :: r) ∧ ms = []) ∨
      ∃ t key bare a b p m n ks, skipTrivia s = .ok t ∧ t.head? ≠ some '\x7d' ∧
        readKey t = .ok (key, bare, a) ∧ skipTrivia a = .ok (':' :: b) ∧ Reads value b p m ∧
        skipTrivia m = .ok n ∧ Follows '\x7d' (members value) n ks r ∧ ms = ⟨key, t, p⟩ :: ks := by
  constructor
  · intro he
    unfold Reads members at he
    split at he
    · simp [Except.map] at he
    · next rest hs =>
      simp only [Except.map, Taken.pair, Except.ok.injEq, Prod.mk.injEq] at he
      obtain ⟨rfl, rfl⟩ := he
      exact .inl ⟨hs, rfl⟩
    · next t hclose hs =>
      refine .inr ?_
      have hhead : t.head? ≠ some '\x7d' := by
        cases t with
        | nil => simp
        | cons c t =>
          simp only [List.head?_cons, ne_eq, Option.some.injEq]
          exact fun h => hclose t (by rw [h])
      split at he
      · simp [Except.map] at he
      · next key bare a hk =>
        split at he
        · simp [Except.map] at he
        · next b hcolon =>
          split at he
          · simp [Except.map] at he
          · next w hw =>
            split at he
            · simp [Except.map] at he
            · next rest hn =>
              obtain ⟨ks, hks, rfl⟩ := map_lift_iff.1 he
              exact ⟨t, key, bare, a, b, w.value, w.rest, _, ks, hs, hhead, hk, hcolon,
                reads_of_eq hw, hn, .more hks, rfl⟩
            · next rest hn =>
              simp only [Except.map, Taken.pair, Except.ok.injEq, Prod.mk.injEq] at he
              obtain ⟨rfl, rfl⟩ := he
              exact ⟨t, key, bare, a, b, w.value, w.rest, _, [], hs, hhead, hk, hcolon,
                reads_of_eq hw, hn, .last, rfl⟩
            · simp [Except.map] at he
        · split at he <;> simp [Except.map] at he
  · rintro (⟨hs, rfl⟩ | ⟨t, key, bare, a, b, p, m, n, ks, hs, hclose, hk, hcolon, hv, hn, hf, rfl⟩)
    · unfold Reads members
      split <;> simp_all [Except.map, Taken.pair]
    · obtain ⟨hlt, hv⟩ := reads_iff.1 hv
      unfold Reads members
      split
      · next he => simp [hs] at he
      · next rest he => simp [Except.ok.inj (hs.symm.trans he)] at hclose
      · next t' _ he =>
        obtain rfl : t = t' := Except.ok.inj (hs.symm.trans he)
        split
        · next he => simp [hk] at he
        · next he =>
          obtain ⟨rfl, rfl, rfl⟩ : key = _ ∧ bare = _ ∧ a = _ := by
            simpa using hk.symm.trans he
          split
          · next he => simp [hcolon] at he
          · next he =>
            obtain ⟨_, rfl⟩ := List.cons.inj (Except.ok.inj (hcolon.symm.trans he))
            rw [hv]
            simp only
            cases hf with
            | last => split <;> simp_all [Except.map, Taken.pair]
            | more hmore =>
              split
              · next he => simp [hn] at he
              · next rest he =>
                obtain ⟨_, rfl⟩ := List.cons.inj (Except.ok.inj (hn.symm.trans he))
                exact map_lift_iff.2 ⟨_, hmore, rfl⟩
              · next rest he => simp [hn] at he
              · next rest hne _ he => exact absurd (Except.ok.inj (hn.symm.trans he)).symm (hne _)
          · next hne he => exact absurd (Except.ok.inj (hcolon.symm.trans he)).symm (hne _)

/-! ## Chains -/

/-- A chain read from the end of a text, as read from the whole text. -/
theorem map_chain_iff {x : Except Failure (Parsed × { r : List Char // r.length ≤ m.length })}
    {hle : ∀ r : { r : List Char // r.length ≤ m.length }, r.1.length ≤ s.length} :
    (x.map fun (p, r) => (p, (⟨r.1, hle r⟩ : { r : List Char // r.length ≤ s.length }))).map
        (fun x => (x.1, x.2.1)) = .ok (v, r) ↔
      x.map (fun x => (x.1, x.2.1)) = .ok (v, r) := by
  cases x <;> exact Iff.rfl

theorem chains_iff :
    Chains f start left s v r ↔
      (skipTrivia s = .ok r ∧ r.head? ≠ some '+' ∧ Joined [left] v) ∨
      ∃ t p m a b, skipTrivia s = .ok ('+' :: t) ∧ Reads f t p m ∧ left.value = .string a ∧
        p.value = .string b ∧
        Chains f start ⟨.string (a ++ b), left.duplicates ++ p.duplicates⟩ m v r := by
  rw [joined_one_iff]
  constructor
  · intro he
    unfold Chains chain at he
    split at he
    · simp [Except.map] at he
    · next t hs =>
      split at he
      · simp [Except.map] at he
      · next w hw =>
        split at he
        · next a b ha hb =>
          exact .inr ⟨t, w.value, w.rest, a, b, hs, reads_of_eq hw, ha, hb, map_chain_iff.1 he⟩
        · simp [Except.map] at he
    · next t hplus hs =>
      refine .inl ?_
      have hhead : t.head? ≠ some '+' := by
        cases t with
        | nil => simp
        | cons c t =>
          simp only [List.head?_cons, ne_eq, Option.some.injEq]
          exact fun h => hplus t (by rw [h])
      simp only at he
      split at he
      · next a ha =>
        unfold resolve at he
        split at he
        · next hw =>
          simp only [Except.map, Except.ok.injEq, Prod.mk.injEq] at he
          obtain ⟨rfl, rfl⟩ := he
          exact ⟨hs, hhead, .inr ⟨a, ha, hw, rfl⟩⟩
        · simp [Except.map] at he
      · next hne =>
        simp only [Except.map, Except.ok.injEq, Prod.mk.injEq] at he
        obtain ⟨rfl, rfl⟩ := he
        refine ⟨hs, hhead, .inl ⟨?_, rfl⟩⟩
        intro hk
        cases hv : left.value <;> simp [hv, Value.kind] at hk
        exact hne _ hv
  · rintro (⟨hs, hhead, hj⟩ | ⟨t, p, m, a, b, hs, hp, ha, hb, hc⟩)
    · unfold Chains chain
      split
      · next he => simp [hs] at he
      · next t he => simp [Except.ok.inj (hs.symm.trans he)] at hhead
      · next t _ he =>
        obtain rfl : r = t := Except.ok.inj (hs.symm.trans he)
        rcases hj with ⟨hk, rfl⟩ | ⟨t, ht, hw, rfl⟩
        · simp only
          split
          · next u hu => simp [hu, Value.kind] at hk
          · rfl
        · simp only
          split
          · next u hu =>
            obtain rfl : t = u := by simpa using ht.symm.trans hu
            rw [resolve, if_pos hw]
            rfl
          · next hne => exact absurd ht (hne t)
    · obtain ⟨hlt, hp⟩ := reads_iff.1 hp
      unfold Chains chain
      split
      · next he => simp [hs] at he
      · next t' he =>
        obtain ⟨_, rfl⟩ := List.cons.inj (Except.ok.inj (hs.symm.trans he))
        rw [hp]
        simp only [ha, hb]
        exact map_chain_iff.2 hc
      · next t' hne he => exact absurd (Except.ok.inj (hs.symm.trans he)).symm (hne _)

theorem reads_expression_iff :
    Reads (expression f) s v r ↔ ∃ p m, Reads f s p m ∧ Chains f s p m v r := by
  constructor
  · intro he
    unfold Reads expression at he
    split at he
    · simp [Except.map] at he
    · next w hw =>
      refine ⟨w.value, w.rest, reads_of_eq hw, ?_⟩
      unfold Chains
      cases hc : chain f s w.value w.rest with
      | error e => simp [hc, Except.map] at he
      | ok x => simpa [hc, Except.map, Taken.pair] using he
  · rintro ⟨p, m, hp, hc⟩
    obtain ⟨hlt, hp⟩ := reads_iff.1 hp
    unfold Reads expression
    rw [hp]
    unfold Chains at hc
    cases hx : chain f s p m with
    | error e => simp [hx, Except.map] at hc
    | ok x => simpa [hx, Except.map, Taken.pair] using hc

/-! ## Progress of the readers

What is left behind a mark is shorter than what an item, a member or an operand was read from, so
that the rest may be left to an induction on the length of the text. -/

theorem length_lt_of_operand (hs : skipTrivia s = .ok (c :: rest)) (hp : Reads f rest p m) :
    m.length < s.length :=
  calc
    m.length < rest.length := length_lt_of_reads hp
    _ < s.length := length_skipTrivia_lt hs

theorem length_lt_of_item (hs : skipTrivia s = .ok t) (hp : Reads value t p m)
    (hn : skipTrivia m = .ok (c :: rest)) : rest.length < s.length :=
  calc
    rest.length < m.length := length_skipTrivia_lt hn
    _ < t.length := length_lt_of_reads hp
    _ ≤ s.length := length_skipTrivia_le hs

theorem length_lt_of_member {key : Text} {bare : Bool} {a b : List Char} {colon : Char}
    (hs : skipTrivia s = .ok t) (hkey : readKey t = .ok (key, bare, a))
    (ha : skipTrivia a = .ok (colon :: b)) (hp : Reads value b p m)
    (hn : skipTrivia m = .ok (c :: rest)) : rest.length < s.length :=
  calc
    rest.length < m.length := length_skipTrivia_lt hn
    _ < b.length := length_lt_of_reads hp
    _ < a.length := length_skipTrivia_lt ha
    _ < t.length := length_readKey_lt hkey
    _ ≤ s.length := length_skipTrivia_le hs

end PromptLibrary.Proofs.Literal.Readers
