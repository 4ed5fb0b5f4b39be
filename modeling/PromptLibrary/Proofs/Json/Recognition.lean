import PromptLibrary.Proofs.Json.Grammar
import PromptLibrary.Proofs.Literal.Readers
/-!
# The reader of documents recognises the grammar

* `derives_of_reads` — what is read is derived, level by level of brackets and, inside a level, by
  induction on the length of the text;
* `completes` — what is derived is read, by induction on the derivation.
-/

namespace PromptLibrary.Proofs.Json.Recognition

open PromptLibrary.Json
open PromptLibrary.Proofs.Json.Grammar
open PromptLibrary.Proofs.Text.Runs (head?_ne_of_ne_cons)
open PromptLibrary.Proofs.Literal.Readers (Reads reads_iff reads_of_eq length_lt_of_reads
  map_lift_iff)

variable {lexis : Lexis} {value : Reader CodePoint Failure Value}
  {inner : Option (Reader CodePoint Failure Value)} {d n : Nat} {s t m r : Text} {v : Value}
  {vs : List Value} {ms : List (Text × Value)}

/-! ## The readers, each in terms of those that it is built from -/

/-- What may come after an item or a member: the closing bracket, or a comma and more of them. -/
inductive Follows {α : Type} (close : Char) (more : Reader CodePoint Failure (List α)) :
    Text → List α → Text → Prop where
  | last {r : Text} : Follows close more (.char close :: r) [] r
  | more {n r : Text} {as : List α} (h : Reads more (skipBlanks n) as r) :
      Follows close more (.char ',' :: n) as r

theorem reads_items_iff :
    Reads (items value) s vs r ↔
      ∃ v m n ws, Reads value s v m ∧ skipBlanks m = n ∧ Follows ']' (items value) n ws r ∧
        vs = v :: ws := by
  constructor
  · intro h
    unfold Reads items at h
    split at h
    · simp [Except.map] at h
    · next w hw =>
      refine ⟨w.value, w.rest, skipBlanks w.rest, ?_⟩
      split at h
      · next rest hm =>
        simp only [Except.map, Taken.pair, Except.ok.injEq, Prod.mk.injEq] at h
        obtain ⟨rfl, rfl⟩ := h
        exact ⟨[], reads_of_eq hw, rfl, hm ▸ .last, rfl⟩
      · next rest hm =>
        obtain ⟨ws, hws, rfl⟩ := map_lift_iff.1 h
        exact ⟨ws, reads_of_eq hw, rfl, hm ▸ .more hws, rfl⟩
      · simp [Except.map] at h
  · rintro ⟨v, m, n, ws, hv, hm, hf, rfl⟩
    obtain ⟨hlt, hv⟩ := reads_iff.1 hv
    unfold Reads items
    rw [hv]
    simp only
    cases hf with
    | last => split <;> simp_all [Except.map, Taken.pair]
    | more hmore =>
      split
      · next he => simp [hm] at he
      · next rest he =>
        obtain ⟨_, rfl⟩ := List.cons.inj (hm.symm.trans he)
        exact map_lift_iff.2 ⟨_, hmore, rfl⟩
      · next hne => exact absurd hm (hne _)

theorem reads_members_iff :
    Reads (members value) s ms r ↔
      ∃ u key a b v m n ks, s = .char '"' :: u ∧ stringAfter s u = .ok (key, a) ∧
        skipBlanks a = .char ':' :: b ∧ Reads value (skipBlanks b) v m ∧
        skipBlanks m = n ∧ Follows '\x7d' (members value) n ks r ∧ ms = (key, v) :: ks := by
  constructor
  · intro h
    unfold Reads members at h
    split at h
    · next u =>
      split at h
      · simp [Except.map] at h
      · next key a hk =>
        split at h
        · next b hcolon =>
          split at h
          · simp [Except.map] at h
          · next w hw =>
            refine ⟨u, key, a, b, w.value, w.rest, skipBlanks w.rest, ?_⟩
            split at h
            · next rest hm =>
              simp only [Except.map, Taken.pair, Except.ok.injEq, Prod.mk.injEq] at h
              obtain ⟨rfl, rfl⟩ := h
              exact ⟨[], rfl, hk, hcolon, reads_of_eq hw, rfl, hm ▸ .last, rfl⟩
            · next rest hm =>
              obtain ⟨ks, hks, rfl⟩ := map_lift_iff.1 h
              exact ⟨ks, rfl, hk, hcolon, reads_of_eq hw, rfl, hm ▸ .more hks,
                rfl⟩
            · simp [Except.map] at h
        · simp [Except.map] at h
    · simp [Except.map] at h
  · rintro ⟨u, key, a, b, v, m, n, ks, rfl, hk, hcolon, hv, hm, hf, rfl⟩
    obtain ⟨hlt, hv⟩ := reads_iff.1 hv
    unfold Reads members
    simp only
    split
    · next he => simp [hk] at he
    · next he =>
      obtain ⟨rfl, rfl⟩ : key = _ ∧ a = _ := by simpa using hk.symm.trans he
      split
      · next b' he =>
        obtain ⟨_, rfl⟩ := List.cons.inj (hcolon.symm.trans he)
        rw [hv]
        simp only
        cases hf with
        | last => split <;> simp_all [Except.map, Taken.pair]
        | more hmore =>
          split
          · next he => simp [hm] at he
          · next rest he =>
            obtain ⟨_, rfl⟩ := List.cons.inj (hm.symm.trans he)
            exact map_lift_iff.2 ⟨_, hmore, rfl⟩
          · next hne => exact absurd hm (hne _)
      · next hne => exact absurd hcolon (hne _)

theorem reads_readScalar_iff : Reads readScalar s v r ↔ scalar s = .ok (v, r) := by
  unfold Reads readScalar
  constructor
  · intro h
    split at h
    · simp [Except.map] at h
    · next w rest hw =>
      simp only [Except.map, Taken.pair, Except.ok.injEq, Prod.mk.injEq] at h
      rw [hw, h.1, h.2]
  · intro h
    split
    · next he => simp [h] at he
    · next w rest hw =>
      obtain ⟨rfl, rfl⟩ : v = w ∧ r = rest := by simpa using h.symm.trans hw
      rfl

/-- What an opening bracket begins. -/
inductive Opens (value : Reader CodePoint Failure Value) : CodePoint → Text → Value → Text → Prop
  | emptyArray {s r : Text} (h : skipBlanks s = .char ']' :: r) :
      Opens value (.char '[') s (.array []) r
  | array {s r : Text} {vs : List Value} (hs : (skipBlanks s).head? ≠ some (.char ']'))
      (h : Reads (items value) (skipBlanks s) vs r) : Opens value (.char '[') s (.array vs) r
  | emptyObject {s r : Text} (h : skipBlanks s = .char '\x7d' :: r) :
      Opens value (.char '\x7b') s (.object []) r
  | object {s r : Text} {ms : List (Text × Value)}
      (hs : (skipBlanks s).head? ≠ some (.char '\x7d'))
      (h : Reads (members value) (skipBlanks s) ms r) :
      Opens value (.char '\x7b') s (.object (Mapping.ofEntries ms)) r

theorem reads_readNested_iff :
    Reads (readNested inner) s v r ↔
      (∃ p t value, s = p :: t ∧ inner = some value ∧ Opens value p t v r) ∨
      (s.head? ≠ some (.char '[') ∧ s.head? ≠ some (.char '\x7b') ∧ scalar s = .ok (v, r)) := by
  constructor
  · intro h
    unfold Reads readNested at h
    split at h
    · next t =>
      split at h
      · simp [Except.map] at h
      · next value =>
        refine .inl ⟨_, t, value, rfl, rfl, ?_⟩
        simp only at h
        split at h
        · next rest ht =>
          simp only [Except.map, Taken.pair, Except.ok.injEq, Prod.mk.injEq] at h
          obtain ⟨rfl, rfl⟩ := h
          exact .emptyArray ht
        · next hne =>
          obtain ⟨vs, hvs, rfl⟩ := map_lift_iff.1 h
          exact .array (head?_ne_of_ne_cons hne) hvs
    · next t =>
      split at h
      · simp [Except.map] at h
      · next value =>
        refine .inl ⟨_, t, value, rfl, rfl, ?_⟩
        simp only at h
        split at h
        · next rest ht =>
          simp only [Except.map, Taken.pair, Except.ok.injEq, Prod.mk.injEq] at h
          obtain ⟨rfl, rfl⟩ := h
          exact .emptyObject ht
        · next hne =>
          obtain ⟨ms, hms, rfl⟩ := map_lift_iff.1 h
          exact .object (head?_ne_of_ne_cons hne) hms
    · next hbracket hbrace =>
      exact .inr ⟨head?_ne_of_ne_cons hbracket, head?_ne_of_ne_cons hbrace,
        reads_readScalar_iff.1 h⟩
  · rintro (⟨p, t, value, rfl, rfl, ho⟩ | ⟨hbracket, hbrace, hs⟩)
    · unfold Reads readNested
      cases ho with
      | emptyArray ht =>
        simp only
        split
        · next he =>
          obtain ⟨_, rfl⟩ := List.cons.inj (ht.symm.trans he)
          rfl
        · next hne => exact absurd ht (hne _)
      | array hs h =>
        simp only
        split
        · next he => simp [he] at hs
        · exact map_lift_iff.2 ⟨_, h, rfl⟩
      | emptyObject ht =>
        simp only
        split
        · next he =>
          obtain ⟨_, rfl⟩ := List.cons.inj (ht.symm.trans he)
          rfl
        · next hne => exact absurd ht (hne _)
      | object hs h =>
        simp only
        split
        · next he => simp [he] at hs
        · exact map_lift_iff.2 ⟨_, h, rfl⟩
    · unfold Reads readNested
      split
      · simp at hbracket
      · simp at hbrace
      · exact reads_readScalar_iff.2 hs

/-! ## What is read is derived -/

/-- The reader reads values in which at most `n` brackets are open at once. -/
def ReadsValues (n : Nat) (value : Reader CodePoint Failure Value) : Prop :=
  ∀ ⦃s v r⦄, Reads value s v r → ∃ d, d ≤ n ∧ Derives .free d (.value v) s r

theorem length_after_comma (hv : Reads value s v m) (hm : skipBlanks m = .char ',' :: t) :
    (skipBlanks t).length < s.length := by
  have hblank := length_skipBlanks_le m
  have hnext := length_skipBlanks_le t
  have hread := length_lt_of_reads hv
  rw [hm, List.length_cons] at hblank
  omega

theorem length_after_colon {opening key a b : Text} (hk : stringAfter opening s = .ok (key, a))
    (hcolon : skipBlanks a = .char ':' :: b) : (skipBlanks b).length < s.length := by
  have hkey := length_stringAfter_lt _ hk
  have hbefore := length_skipBlanks_le a
  have hbetween := length_skipBlanks_le b
  rw [hcolon, List.length_cons] at hbefore
  omega

theorem derives_of_reads_items (hvalue : ReadsValues n value) (h : Reads (items value) s vs r) :
    ∃ d, d ≤ n ∧ Derives .free d (.items vs) s r := by
  induction hl : s.length using Nat.strongRecOn generalizing s vs r with
  | _ l ih =>
  subst hl
  obtain ⟨v, m, u, ws, hv, hm, hf, rfl⟩ := reads_items_iff.1 h
  obtain ⟨d, hd, hder⟩ := hvalue hv
  cases hf with
  | last => exact ⟨d, hd, .lastItem hder (blanks_of_skipBlanks hm)⟩
  | @more w _ _ hmore =>
    obtain ⟨e, he, hitems⟩ := ih _ (length_after_comma hv hm) hmore rfl
    exact ⟨max d e, by omega, .item hder (blanks_of_skipBlanks hm) blanks_skipBlanks hitems⟩

theorem derives_of_reads_members (hvalue : ReadsValues n value)
    (h : Reads (members value) s ms r) : ∃ d, d ≤ n ∧ Derives .free d (.members ms) s r := by
  induction hl : s.length using Nat.strongRecOn generalizing s ms r with
  | _ l ih =>
  subst hl
  obtain ⟨u, key, a, b, v, m, w, ks, rfl, hk, hcolon, hv, hm, hf, rfl⟩ := reads_members_iff.1 h
  obtain ⟨d, hd, hder⟩ := hvalue hv
  have hc := blanks_of_skipBlanks hcolon
  cases hf with
  | last =>
    exact ⟨d, hd, .lastMember hk trivial hc blanks_skipBlanks hder (blanks_of_skipBlanks hm)⟩
  | @more w _ _ hmore =>
    have hlt := Nat.lt_trans (length_after_comma hv hm) (length_after_colon hk hcolon)
    obtain ⟨e, he, hmembers⟩ := ih _ (Nat.lt_succ_of_lt hlt) hmore rfl
    exact ⟨max d e, by omega, .member hk trivial hc blanks_skipBlanks hder
      (blanks_of_skipBlanks hm) blanks_skipBlanks hmembers⟩

/-- What an opening bracket begins is derived one level above the values inside. -/
theorem derives_of_opens {p : CodePoint} (hvalue : ReadsValues n value) (h : Opens value p s v r) :
    ∃ d, d ≤ n + 1 ∧ Derives .free d (.value v) (p :: s) r := by
  cases h with
  | emptyArray h => exact ⟨1, by omega, .emptyArray (blanks_of_skipBlanks h)⟩
  | array _ h =>
    obtain ⟨d, hd, hder⟩ := derives_of_reads_items hvalue h
    exact ⟨d + 1, by omega, .array blanks_skipBlanks hder⟩
  | emptyObject h => exact ⟨1, by omega, .emptyObject (blanks_of_skipBlanks h) trivial⟩
  | object _ h =>
    obtain ⟨d, hd, hder⟩ := derives_of_reads_members hvalue h
    exact ⟨d + 1, by omega, .object blanks_skipBlanks hder trivial⟩

theorem derives_of_reads (n : Nat) : ReadsValues n (readValue n) := by
  induction n with
  | zero =>
    intro s v r h
    rcases reads_readNested_iff.1 h with ⟨_, _, _, _, hnone, _⟩ | ⟨_, _, hs⟩
    · simp at hnone
    · exact ⟨0, Nat.le_refl 0, .token (token_of_scalar hs)⟩
  | succ n ih =>
    intro s v r h
    rcases reads_readNested_iff.1 h with ⟨p, t, value, rfl, hvalue, ho⟩ | ⟨_, _, hs⟩
    · rw [Option.some.injEq] at hvalue
      subst hvalue
      exact derives_of_opens ih ho
    · exact ⟨0, Nat.zero_le _, .token (token_of_scalar hs)⟩

/-! ## What is derived is read -/

/-- What the reader of a phrase makes of a derivation of depth `d`. -/
def Completes (d : Nat) : Phrase → Text → Text → Prop
  | .value v, s, r => ∀ n, d ≤ n → Reads (readValue n) s v r
  | .items vs, s, r => ∀ n, d ≤ n → Reads (items (readValue n)) s vs r
  | .members ms, s, r => ∀ n, d ≤ n → Reads (members (readValue n)) s ms r

theorem reads_token (h : Token lexis s v r) : Reads (readValue n) s v r := by
  have hread := scalar_of_token h
  obtain ⟨p, rest, rfl, hp⟩ := exists_cons_of_token h
  have hne : (p :: rest).head? ≠ some (.char '[') ∧ (p :: rest).head? ≠ some (.char '\x7b') := by
    simpa using hp.2
  cases n <;> exact reads_readNested_iff.2 (.inr ⟨hne.1, hne.2, hread⟩)

theorem reads_opens {p : CodePoint} (hn : d + 1 ≤ n)
    (h : ∀ k, d ≤ k → Opens (readValue k) p s v r) : Reads (readValue n) (p :: s) v r := by
  obtain ⟨k, rfl⟩ : ∃ k, n = k + 1 := ⟨n - 1, by omega⟩
  exact reads_readNested_iff.2 (.inl ⟨p, s, _, rfl, rfl, h k (by omega)⟩)

theorem skipBlanks_of_mark {c : Char} (h : Blanks s (.char c :: r))
    (hc : c ∈ [']', '\x7d', ',', ':']) : skipBlanks s = .char c :: r := by
  refine skipBlanks_eq h ?_
  simp only [List.mem_cons, List.not_mem_nil, or_false] at hc
  rcases hc with rfl | rfl | rfl | rfl <;> decide

theorem skipBlanks_of_items (hb : Blanks s t) (h : Derives lexis d (.items vs) t r) :
    skipBlanks s = t ∧ t.head? ≠ some (.char ']') := by
  have hvalue : ∃ e v m, Derives lexis e (.value v) t m := by
    cases h with
    | lastItem h _ => exact ⟨_, _, _, h⟩
    | item h _ _ _ => exact ⟨_, _, _, h⟩
  obtain ⟨e, v, m, h⟩ := hvalue
  obtain ⟨p, rest, rfl, hp⟩ := exists_cons_of_value h
  have hne : p ≠ .char ']' := fun he => hp.2 (by simp [he])
  exact ⟨skipBlanks_eq hb hp.1, by simpa using hne⟩

theorem skipBlanks_of_members (hb : Blanks s t) (h : Derives lexis d (.members ms) t r) :
    skipBlanks s = t ∧ t.head? ≠ some (.char '\x7d') := by
  cases h <;> exact ⟨skipBlanks_eq hb (by decide), by simp⟩

/-- **The reader reads what is derived**, whatever room for brackets there is beyond the depth. -/
theorem completes {ph : Phrase} (h : Derives lexis d ph s r) : Completes d ph s r := by
  -- The room for brackets is not fixed in `Completes`: inside a bracket there is one level less.
  induction h with
  | token h =>
    intro n _
    exact reads_token h
  | emptyArray hc =>
    intro n hn
    exact reads_opens hn fun k _ => .emptyArray (skipBlanks_of_mark hc (by decide))
  | array hb h ih =>
    intro n hn
    obtain ⟨hs, hne⟩ := skipBlanks_of_items hb h
    refine reads_opens hn fun k hk => .array (hs ▸ hne) ?_
    rw [hs]
    exact ih k hk
  | emptyObject hc _ =>
    intro n hn
    exact reads_opens hn fun k _ => .emptyObject (skipBlanks_of_mark hc (by decide))
  | object hb h _ ih =>
    intro n hn
    obtain ⟨hs, hne⟩ := skipBlanks_of_members hb h
    refine reads_opens hn fun k hk => .object (hs ▸ hne) ?_
    rw [hs]
    exact ih k hk
  | lastItem _ hc ih =>
    intro n hn
    have hclose := skipBlanks_of_mark hc (by decide)
    exact reads_items_iff.2 ⟨_, _, _, [], ih n hn, hclose, .last, rfl⟩
  | item _ hc hb hmore ih ihmore =>
    intro n hn
    have hcomma := skipBlanks_of_mark hc (by decide)
    have hrest := ihmore n (by omega)
    rw [← (skipBlanks_of_items hb hmore).1] at hrest
    exact reads_items_iff.2 ⟨_, _, _, _, ih n (by omega), hcomma, .more hrest, rfl⟩
  | lastMember hk _ hcolon hb h hc ih =>
    intro n hn
    have hclose := skipBlanks_of_mark hc (by decide)
    have hv := ih n hn
    rw [← skipBlanks_of_value hb h] at hv
    exact reads_members_iff.2 ⟨_, _, _, _, _, _, _, [], rfl, hk,
      skipBlanks_of_mark hcolon (by decide), hv, hclose, .last, rfl⟩
  | member hk _ hcolon hb h hc hn' hmore ih ihmore =>
    intro n hn
    have hcomma := skipBlanks_of_mark hc (by decide)
    have hv := ih n (by omega)
    rw [← skipBlanks_of_value hb h] at hv
    have hrest := ihmore n (by omega)
    rw [← (skipBlanks_of_members hn' hmore).1] at hrest
    exact reads_members_iff.2 ⟨_, _, _, _, _, _, _, _, rfl, hk,
      skipBlanks_of_mark hcolon (by decide), hv, hcomma, .more hrest, rfl⟩

/-! ## Whole texts -/

theorem readDocument_eq_ok_iff {text : Text} :
    readDocument text = .ok v ↔ ∃ d, d ≤ depthLimit ∧ Document .free d text v := by
  unfold readDocument
  constructor
  · intro h
    split at h
    · simp at h
    · next w hw =>
      split at h
      · next hend =>
        obtain rfl := Except.ok.inj h
        obtain ⟨d, hd, hder⟩ := derives_of_reads depthLimit (reads_of_eq hw)
        exact ⟨d, hd, _, _, blanks_skipBlanks, hder, blanks_of_skipBlanks hend⟩
      · simp at h
  · rintro ⟨d, hd, s, r, hs, hder, hr⟩
    have hread := completes hder depthLimit hd
    rw [← skipBlanks_of_value hs hder] at hread
    obtain ⟨_, hv⟩ := reads_iff.1 hread
    rw [hv]
    simp only [skipBlanks_eq_nil_iff.2 hr]

/-- A byte order mark is no blank, and nothing begins with it. -/
theorem not_begins_of_byteOrderMark {p : CodePoint} (hb : Blanks (.char '\uFEFF' :: s) (p :: r)) :
    ¬ Begins p := by
  intro hp
  have hstay := skipBlanks_eq hb hp.1
  rw [skipBlanks_cons (by decide)] at hstay
  obtain ⟨rfl, _⟩ := List.cons.inj hstay
  exact absurd hp (by decide)

theorem not_document_of_byteOrderMark : ¬ Document lexis d (.char '\uFEFF' :: s) v := by
  rintro ⟨t, r, ht, hder, _⟩
  obtain ⟨p, rest, rfl, hp⟩ := exists_cons_of_value hder
  exact not_begins_of_byteOrderMark ht hp

/-- **A text is read exactly if the grammar derives it** within the limit on nesting, and it means
what the derivation says. -/
theorem read_eq_ok_iff {text : Text} :
    Json.read text = .ok v ↔ ∃ d, d ≤ depthLimit ∧ Document .free d text v := by
  rw [← readDocument_eq_ok_iff]
  unfold Json.read
  split
  · next rest =>
    constructor
    · intro h
      simp at h
    · intro h
      obtain ⟨d, _, hdoc⟩ := readDocument_eq_ok_iff.1 h
      exact absurd hdoc not_document_of_byteOrderMark
  · rfl

end PromptLibrary.Proofs.Json.Recognition
