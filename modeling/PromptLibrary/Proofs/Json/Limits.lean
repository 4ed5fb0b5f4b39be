import PromptLibrary.Proofs.Json.LongInteger
import PromptLibrary.Proofs.Json.Recognition
/-!
# The limits of the reader of documents

Two failures say nothing about what is wrong with a document: an integer has more digits than are
converted, or brackets are open too deep.  Each is told here by the place that the reader comes to.

* `Exceeds` — a phrase is derived up to an integer that is too long, or to a bracket without room;
* `meets_readValue` — a reader fails in this way only there;
* `failsWith_of_exceeds` — there it fails, whatever comes after.
-/

namespace PromptLibrary.Proofs.Json.Limits

open PromptLibrary.Json
open PromptLibrary.Proofs.Json.Grammar
open PromptLibrary.Proofs.Json.LongInteger
open PromptLibrary.Proofs.Json.Recognition
open PromptLibrary.Proofs.Text.Runs (head?_ne_of_ne_cons)
open PromptLibrary.Proofs.Literal.Readers (Reads reads_iff reads_of_eq)

variable {value : Reader CodePoint Failure Value} {inner : Option (Reader CodePoint Failure Value)}
  {n count : Nat} {e : Failure} {s t opening : Text}

/-! ## Readers that fail -/

/-- A string has no limit. -/
theorem not_limit_of_stringBody (h : stringBody opening s = .error e) : ¬ Limit e := by
  fun_induction stringBody opening s
  case case2 => simp at h
  case case5 ih | case8 ih | case11 ih => exact ih (map_eq_error.1 h)
  all_goals
    obtain rfl := Except.error.inj h
    exact id

theorem not_limit_of_stringAfter (h : stringAfter opening s = .error e) : ¬ Limit e :=
  not_limit_of_stringBody (map_eq_error.1 h)

theorem scalar_of_longInteger (h : LongInteger s count) :
    scalar s = .error (.tooManyDigits count) ∧
      scalar (.char '-' :: s) = .error (.tooManyDigits count) := by
  have hlimit : Limit (.tooManyDigits count) := trivial
  have hnumber (negative : Bool) (start : Text) :
      unsignedNumber negative start s = .error (.tooManyDigits count) :=
    (unsignedNumber_eq_error_iff hlimit).2 ⟨count, rfl, h⟩
  obtain ⟨c, rest, rfl, hc⟩ := exists_digit_of_longInteger h
  have hne : c ≠ '"' ∧ c ≠ '-' := by
    constructor <;> rintro rfl <;> simp at hc
  constructor
  · unfold scalar
    split
    · next heq => exact absurd (CodePoint.char.inj (List.cons.inj heq).1) hne.1
    rw [(constant_of_digit hc).1]
    simp only
    split
    · next heq => exact absurd (CodePoint.char.inj (List.cons.inj heq).1) hne.2
    · exact hnumber false _
  · unfold scalar
    simp only [(constant_of_digit hc).2]
    exact hnumber true _

theorem scalar_eq_error_iff (he : Limit e) : scalar s = .error e ↔
    ∃ count, e = .tooManyDigits count ∧
      (LongInteger s count ∨ ∃ t, s = .char '-' :: t ∧ LongInteger t count) := by
  constructor
  · intro h
    unfold scalar at h
    split at h
    · exact absurd he (not_limit_of_stringAfter (map_eq_error.1 h))
    split at h
    · simp at h
    split at h
    · obtain ⟨count, rfl, hlong⟩ := (unsignedNumber_eq_error_iff he).1 h
      exact ⟨count, rfl, .inr ⟨_, rfl, hlong⟩⟩
    · obtain ⟨count, rfl, hlong⟩ := (unsignedNumber_eq_error_iff he).1 h
      exact ⟨count, rfl, .inl hlong⟩
  · rintro ⟨count, rfl, hlong | ⟨t, rfl, hlong⟩⟩
    · exact (scalar_of_longInteger hlong).1
    · exact (scalar_of_longInteger hlong).2

theorem readScalar_eq_error_iff : readScalar s = .error e ↔ scalar s = .error e := by
  unfold readScalar
  split <;> simp_all

theorem items_eq_error_iff (he : Limit e) : items value s = .error e ↔
    value s = .error e ∨ ∃ v m t, Reads value s v m ∧ skipBlanks m = .char ',' :: t ∧
      items value (skipBlanks t) = .error e := by
  constructor
  · intro h
    unfold items at h
    split at h
    · next hv =>
      obtain rfl := Except.error.inj h
      exact .inl hv
    next hw =>
    split at h
    · simp at h
    · next rest hm => exact .inr ⟨_, _, rest, reads_of_eq hw, hm, map_eq_error.1 h⟩
    · obtain rfl := Except.error.inj h
      exact he.elim
  · rintro (h | ⟨v, m, t, hv, hm, hrest⟩)
    · unfold items
      rw [h]
    · obtain ⟨hlt, hv⟩ := reads_iff.1 hv
      unfold items
      rw [hv]
      simp only
      split
      · next he => simp [hm] at he
      · next he =>
        obtain ⟨_, rfl⟩ := List.cons.inj (hm.symm.trans he)
        exact map_eq_error.2 hrest
      · next hne => exact absurd hm (hne _)

theorem members_eq_error_iff (he : Limit e) : members value s = .error e ↔
    ∃ u key a b, s = .char '"' :: u ∧ stringAfter s u = .ok (key, a) ∧
      skipBlanks a = .char ':' :: b ∧
        (value (skipBlanks b) = .error e ∨
          ∃ v m t, Reads value (skipBlanks b) v m ∧ skipBlanks m = .char ',' :: t ∧
            members value (skipBlanks t) = .error e) := by
  constructor
  · intro h
    unfold members at h
    split at h
    · next u =>
      split at h
      · next hk =>
        obtain rfl := Except.error.inj h
        exact absurd he (not_limit_of_stringAfter hk)
      next key a hk =>
      split at h
      · next b hcolon =>
        refine ⟨u, key, a, b, rfl, hk, hcolon, ?_⟩
        split at h
        · next hv =>
          obtain rfl := Except.error.inj h
          exact .inl hv
        next hw =>
        simp only at h
        split at h
        · simp at h
        · next rest hm => exact .inr ⟨_, _, rest, reads_of_eq hw, hm, map_eq_error.1 h⟩
        · obtain rfl := Except.error.inj h
          exact he.elim
      · obtain rfl := Except.error.inj h
        exact he.elim
    · obtain rfl := Except.error.inj h
      exact he.elim
  · rintro ⟨u, key, a, b, rfl, hk, hcolon, h⟩
    unfold members
    simp only
    split
    · next he => simp [hk] at he
    next he =>
    obtain ⟨rfl, rfl⟩ : key = _ ∧ a = _ := by simpa using hk.symm.trans he
    split
    · next b' he =>
      obtain ⟨_, rfl⟩ := List.cons.inj (hcolon.symm.trans he)
      rcases h with h | ⟨v, m, t, hv, hm, hrest⟩
      · rw [h]
      · obtain ⟨hlt, hv⟩ := reads_iff.1 hv
        rw [hv]
        simp only
        split
        · next he => simp [hm] at he
        · next he =>
          obtain ⟨_, rfl⟩ := List.cons.inj (hm.symm.trans he)
          exact map_eq_error.2 hrest
        · next hne => exact absurd hm (hne _)
    · next hne => exact absurd hcolon (hne _)

/-- How the reader of values fails. -/
inductive Fails (inner : Option (Reader CodePoint Failure Value)) : Text → Failure → Prop where
  | noArray {t : Text} (hi : inner = none) : Fails inner (.char '[' :: t) (.tooDeep .array)
  | array {value : Reader CodePoint Failure Value} {t : Text} {e : Failure}
      (hi : inner = some value) (ht : (skipBlanks t).head? ≠ some (.char ']'))
      (h : items value (skipBlanks t) = .error e) : Fails inner (.char '[' :: t) e
  | noObject {t : Text} (hi : inner = none) : Fails inner (.char '\x7b' :: t) (.tooDeep .object)
  | object {value : Reader CodePoint Failure Value} {t : Text} {e : Failure}
      (hi : inner = some value) (ht : (skipBlanks t).head? ≠ some (.char '\x7d'))
      (h : members value (skipBlanks t) = .error e) : Fails inner (.char '\x7b' :: t) e
  | scalar {s : Text} {e : Failure} (hbracket : s.head? ≠ some (.char '['))
      (hbrace : s.head? ≠ some (.char '\x7b')) (h : Json.scalar s = .error e) : Fails inner s e

theorem readNested_eq_error_iff : readNested inner s = .error e ↔ Fails inner s e := by
  constructor
  · intro h
    unfold readNested at h
    split at h
    · split at h
      · obtain rfl := Except.error.inj h
        exact .noArray rfl
      · simp only at h
        split at h
        · simp at h
        · next hne => exact .array rfl (head?_ne_of_ne_cons hne) (map_eq_error.1 h)
    · split at h
      · obtain rfl := Except.error.inj h
        exact .noObject rfl
      · simp only at h
        split at h
        · simp at h
        · next hne => exact .object rfl (head?_ne_of_ne_cons hne) (map_eq_error.1 h)
    · next hbracket hbrace =>
      exact .scalar (head?_ne_of_ne_cons hbracket) (head?_ne_of_ne_cons hbrace)
        (readScalar_eq_error_iff.1 h)
  · intro h
    unfold readNested
    cases h with
    | noArray hi | noObject hi =>
      subst hi
      rfl
    | array hi ht h =>
      subst hi
      simp only
      split
      · next he => simp [he] at ht
      · exact map_eq_error.2 h
    | object hi ht h =>
      subst hi
      simp only
      split
      · next he => simp [he] at ht
      · exact map_eq_error.2 h
    | scalar hbracket hbrace h =>
      split
      · simp at hbracket
      · simp at hbrace
      · exact readScalar_eq_error_iff.2 h

/-! ## Where a limit is met -/

/-- What is due where reading goes on. -/
inductive Due where
  | value
  | items
  | members

/-- `Exceeds n due s e`: on its way through `s` a reader meets the limit that `e` tells of, with
room for `n` brackets inside each other.  What stands before that place is derived, and what comes
after it does not matter. -/
inductive Exceeds : Nat → Due → Text → Failure → Prop where
  | digits {n count : Nat} {s : Text} (h : LongInteger s count) :
      Exceeds n .value s (.tooManyDigits count)
  | negative {n count : Nat} {s : Text} (h : LongInteger s count) :
      Exceeds n .value (.char '-' :: s) (.tooManyDigits count)
  | noArray {s : Text} : Exceeds 0 .value (.char '[' :: s) (.tooDeep .array)
  | noObject {s : Text} : Exceeds 0 .value (.char '\x7b' :: s) (.tooDeep .object)
  | array {n : Nat} {s t : Text} {e : Failure} (hb : Blanks s t) (h : Exceeds n .items t e) :
      Exceeds (n + 1) .value (.char '[' :: s) e
  | object {n : Nat} {s t : Text} {e : Failure} (hb : Blanks s t) (h : Exceeds n .members t e) :
      Exceeds (n + 1) .value (.char '\x7b' :: s) e
  | item {n : Nat} {s : Text} {e : Failure} (h : Exceeds n .value s e) : Exceeds n .items s e
  | items {n d : Nat} {s m u t : Text} {v : Value} {e : Failure} (hd : d ≤ n)
      (hv : Derives .free d (.value v) s m) (hc : Blanks m (.char ',' :: u)) (hb : Blanks u t)
      (h : Exceeds n .items t e) : Exceeds n .items s e
  | member {n : Nat} {s a b c key : Text} {e : Failure}
      (hk : stringAfter (.char '"' :: s) s = .ok (key, a)) (hcolon : Blanks a (.char ':' :: b))
      (hb : Blanks b c) (h : Exceeds n .value c e) : Exceeds n .members (.char '"' :: s) e
  | members {n d : Nat} {s a b c m u t key : Text} {v : Value} {e : Failure} (hd : d ≤ n)
      (hk : stringAfter (.char '"' :: s) s = .ok (key, a)) (hcolon : Blanks a (.char ':' :: b))
      (hb : Blanks b c) (hv : Derives .free d (.value v) c m) (hc : Blanks m (.char ',' :: u))
      (hu : Blanks u t) (h : Exceeds n .members t e) : Exceeds n .members (.char '"' :: s) e

variable {due : Due}

theorem limit_of_exceeds (h : Exceeds n due s e) : Limit e := by
  induction h with
  | digits | negative | noArray | noObject => trivial
  | array _ _ ih | object _ _ ih | item _ ih => exact ih
  | items _ _ _ _ _ ih => exact ih
  | member _ _ _ _ ih => exact ih
  | members _ _ _ _ _ _ _ _ ih => exact ih

/-- A reader that meets a limit begins as one that reads a value, an item or a member. -/
theorem exists_cons_of_exceeds (h : Exceeds n due s e) : ∃ p rest, s = p :: rest ∧ Begins p := by
  induction h with
  | digits h =>
    obtain ⟨c, rest, rfl, hc⟩ := exists_digit_of_longInteger h
    exact ⟨_, _, rfl, (beginsToken_of_digit hc).1⟩
  | item _ ih => exact ih
  | items _ hv => exact exists_cons_of_value hv
  | negative | noArray | noObject | array | object | member | members =>
    exact ⟨_, _, rfl, by decide⟩

theorem skipBlanks_of_exceeds (hb : Blanks s t) (h : Exceeds n due t e) : skipBlanks s = t := by
  obtain ⟨p, rest, rfl, hp⟩ := exists_cons_of_exceeds h
  exact skipBlanks_eq hb hp.1

theorem head?_of_exceeds (h : Exceeds n due s e) :
    s.head? ≠ some (.char ']') ∧ s.head? ≠ some (.char '\x7d') := by
  obtain ⟨p, rest, rfl, _, hp⟩ := exists_cons_of_exceeds h
  constructor <;> rintro ⟨⟩ <;> simp at hp

/-! ### A reader fails only there -/

/-- The reader fails for a limit only where one is met, with room for `n` brackets. -/
def Meets (n : Nat) (value : Reader CodePoint Failure Value) : Prop :=
  ∀ ⦃s e⦄, Limit e → value s = .error e → Exceeds n .value s e

theorem exceeds_of_items (hread : ReadsValues n value) (hvalue : Meets n value) (he : Limit e)
    (h : items value s = .error e) : Exceeds n .items s e := by
  induction hl : s.length using Nat.strongRecOn generalizing s with
  | _ l ih =>
  subst hl
  rcases (items_eq_error_iff he).1 h with h | ⟨v, m, t, hv, hm, hrest⟩
  · exact .item (hvalue he h)
  · obtain ⟨d, hd, hder⟩ := hread hv
    have hitems := ih _ (length_after_comma hv hm) hrest rfl
    exact .items hd hder (blanks_of_skipBlanks hm) blanks_skipBlanks hitems

theorem exceeds_of_members (hread : ReadsValues n value) (hvalue : Meets n value) (he : Limit e)
    (h : members value s = .error e) : Exceeds n .members s e := by
  induction hl : s.length using Nat.strongRecOn generalizing s with
  | _ l ih =>
  subst hl
  obtain ⟨u, key, a, b, rfl, hk, hcolon, h⟩ := (members_eq_error_iff he).1 h
  have hc := blanks_of_skipBlanks hcolon
  rcases h with h | ⟨v, m, t, hv, hm, hrest⟩
  · exact .member hk hc blanks_skipBlanks (hvalue he h)
  · obtain ⟨d, hd, hder⟩ := hread hv
    have hlt := Nat.lt_trans (length_after_comma hv hm) (length_after_colon hk hcolon)
    have hmembers := ih _ (Nat.lt_succ_of_lt hlt) hrest rfl
    exact .members hd hk hc blanks_skipBlanks hder (blanks_of_skipBlanks hm) blanks_skipBlanks
      hmembers

theorem exceeds_of_scalar (he : Limit e) (h : scalar s = .error e) : Exceeds n .value s e := by
  obtain ⟨count, rfl, hlong | ⟨t, rfl, hlong⟩⟩ := (scalar_eq_error_iff he).1 h
  · exact .digits hlong
  · exact .negative hlong

theorem meets_readValue (n : Nat) : Meets n (readValue n) := by
  induction n with
  | zero =>
    intro s e he h
    cases readNested_eq_error_iff.1 h with
    | noArray => exact .noArray
    | noObject => exact .noObject
    | array hi | object hi => simp at hi
    | scalar _ _ h => exact exceeds_of_scalar he h
  | succ n ih =>
    intro s e he h
    cases readNested_eq_error_iff.1 h with
    | noArray hi | noObject hi => simp at hi
    | array hi _ h =>
      obtain rfl := Option.some.inj hi
      exact .array blanks_skipBlanks (exceeds_of_items (derives_of_reads n) ih he h)
    | object hi _ h =>
      obtain rfl := Option.some.inj hi
      exact .object blanks_skipBlanks (exceeds_of_members (derives_of_reads n) ih he h)
    | scalar _ _ h => exact exceeds_of_scalar he h

/-! ### There it fails -/

/-- How the reader of what is due fails. -/
def FailsWith (n : Nat) (s : Text) (e : Failure) : Due → Prop
  | .value => readValue n s = .error e
  | .items => Json.items (readValue n) s = .error e
  | .members => Json.members (readValue n) s = .error e

theorem readValue_of_scalar (hbracket : s.head? ≠ some (.char '['))
    (hbrace : s.head? ≠ some (.char '\x7b')) (h : scalar s = .error e) :
    readValue n s = .error e := by
  cases n <;> exact readNested_eq_error_iff.2 (.scalar hbracket hbrace h)

theorem failsWith_of_exceeds (h : Exceeds n due s e) : FailsWith n s e due := by
  induction h with
  | digits h =>
    have hscalar := (scalar_of_longInteger h).1
    obtain ⟨c, rest, rfl, hc⟩ := exists_digit_of_longInteger h
    have hne := (beginsToken_of_digit hc).2
    exact readValue_of_scalar (by simpa using hne.1) (by simpa using hne.2) hscalar
  | negative h =>
    exact readValue_of_scalar (by simp) (by simp) (scalar_of_longInteger h).2
  | noArray => exact readNested_eq_error_iff.2 (.noArray rfl)
  | noObject => exact readNested_eq_error_iff.2 (.noObject rfl)
  | array hb h ih =>
    refine readNested_eq_error_iff.2 (.array rfl ?_ ?_) <;> rw [skipBlanks_of_exceeds hb h]
    · exact (head?_of_exceeds h).1
    · exact ih
  | object hb h ih =>
    refine readNested_eq_error_iff.2 (.object rfl ?_ ?_) <;> rw [skipBlanks_of_exceeds hb h]
    · exact (head?_of_exceeds h).2
    · exact ih
  | item h ih => exact (items_eq_error_iff (limit_of_exceeds h)).2 (.inl ih)
  | items hd hv hc hb h ih =>
    refine (items_eq_error_iff (limit_of_exceeds h)).2 (.inr ⟨_, _, _, completes hv _ hd,
      skipBlanks_of_mark hc (by decide), ?_⟩)
    rw [skipBlanks_of_exceeds hb h]
    exact ih
  | member hk hcolon hb h ih =>
    refine (members_eq_error_iff (limit_of_exceeds h)).2 ⟨_, _, _, _, rfl, hk,
      skipBlanks_of_mark hcolon (by decide), .inl ?_⟩
    rw [skipBlanks_of_exceeds hb h]
    exact ih
  | members hd hk hcolon hb hv hc hu h ih =>
    have hread := completes hv _ hd
    rw [← skipBlanks_of_value hb hv] at hread
    refine (members_eq_error_iff (limit_of_exceeds h)).2 ⟨_, _, _, _, rfl, hk,
      skipBlanks_of_mark hcolon (by decide), .inr ⟨_, _, _, hread,
        skipBlanks_of_mark hc (by decide), ?_⟩⟩
    rw [skipBlanks_of_exceeds hu h]
    exact ih

/-! ## Whole texts -/

/-- A whole text in which a limit is met, with room for `n` brackets. -/
def Oversize (n : Nat) (text : Text) (e : Failure) : Prop :=
  ∃ s, Blanks text s ∧ Exceeds n .value s e

theorem readDocument_eq_error_iff {text : Text} (he : Limit e) :
    readDocument text = .error e ↔ Oversize depthLimit text e := by
  unfold readDocument
  constructor
  · intro h
    split at h
    · next hv =>
      obtain rfl := Except.error.inj h
      exact ⟨_, blanks_skipBlanks, meets_readValue depthLimit he hv⟩
    · split at h
      · simp at h
      · obtain rfl := Except.error.inj h
        exact he.elim
  · rintro ⟨s, hs, h⟩
    have hv : readValue depthLimit s = .error e := failsWith_of_exceeds h
    rw [← skipBlanks_of_exceeds hs h] at hv
    rw [hv]

theorem not_oversize_of_byteOrderMark : ¬ Oversize n (.char '\uFEFF' :: s) e := by
  rintro ⟨t, ht, h⟩
  obtain ⟨p, rest, rfl, hp⟩ := exists_cons_of_exceeds h
  exact not_begins_of_byteOrderMark ht hp

/-- **Reading fails for a limit exactly where the text goes on beyond one**, up to which it is a
document. -/
theorem read_eq_error_iff {text : Text} (he : Limit e) :
    Json.read text = .error e ↔ Oversize depthLimit text e := by
  rw [← readDocument_eq_error_iff he]
  unfold Json.read
  split
  · next rest =>
    refine iff_of_false (fun h => ?_) fun h => ?_
    · obtain rfl := Except.error.inj h
      exact he
    · exact not_oversize_of_byteOrderMark ((readDocument_eq_error_iff he).1 h)
  · rfl

end PromptLibrary.Proofs.Json.Limits
