import PromptLibrary.Literal.Evaluate
import Mathlib.Data.List.Basic
import Mathlib.Data.List.Induction
/-!
# Members that override others

An object literal may have members of one key.  Its object has each key once, in the place of the
first such member and with the value of the last one, and all members but the first ones are
repeated.

* `Shape`, `Means` — the objects and arrays that a literal is written with, those that are
  overridden included, and the value that is left of them;
* `keys_ofEntries`, `get?_ofEntries_last` — what setting entries one after the other gives;
* `mem_repeats_iff`, `length_repeats` — which members are repeated, and how many.
-/

namespace PromptLibrary.Proofs.Literal.Overrides

open PromptLibrary.Literal

/-- A member as it is written: its decoded key, the text from the key on, its value, and the text
after the value. -/
structure Binding (α : Type) where
  key : Text
  rest : List Char
  literal : α
  after : List Char

/-- What a literal is written with; values other than objects and arrays have no parts. -/
inductive Shape where
  | leaf (v : Value)
  | array (items : List Shape)
  | object (entries : List (Binding Shape))

def keysOf (es : List (Binding Shape)) : List Text :=
  es.map (·.key)

/-- A member after which no member has its key. -/
def LastIn (es : List (Binding Shape)) (e : Binding Shape) : Prop :=
  ∃ front back, es = front ++ e :: back ∧ e.key ∉ keysOf back

/-- A member before which some member has its key. -/
def RepeatedIn (es : List (Binding Shape)) (e : Binding Shape) : Prop :=
  ∃ front back, es = front ++ e :: back ∧ e.key ∈ keysOf front

/-- The value of a literal: an object has the different keys of the members in the order in which
they first come, each with the value of its last member. -/
inductive Means : Shape → Value → Prop where
  | leaf {v : Value} : Means (.leaf v) v
  | array {ts : List Shape} {vs : List Value} (hlength : ts.length = vs.length)
      (h : ∀ (i : Nat) t v, ts[i]? = some t → vs[i]? = some v → Means t v) :
      Means (.array ts) (.array vs)
  | object {es : List (Binding Shape)} {m : Mapping Value} (value : Binding Shape → Value)
      (hkeys : m.keys = (keysOf es).eraseDups)
      (hlast : ∀ e, LastIn es e → m.get? e.key = some (value e))
      (h : ∀ e, LastIn es e → Means e.literal (value e)) : Means (.object es) (.object m)

mutual

/-- The members of every object literal, each object before those inside of it. -/
def Shape.objects : Shape → List (List (Binding Shape))
  | .leaf _ => []
  | .array ts => objectsOfItems ts
  | .object es => es :: objectsOfEntries es

def objectsOfItems : List Shape → List (List (Binding Shape))
  | [] => []
  | t :: ts => t.objects ++ objectsOfItems ts

def objectsOfEntries : List (Binding Shape) → List (List (Binding Shape))
  | [] => []
  | ⟨_, _, t, _⟩ :: es => t.objects ++ objectsOfEntries es

end

mutual

/-- The repeated members of every object literal, those inside a member before the member. -/
def Shape.repeats : Shape → List (Binding Shape)
  | .leaf _ => []
  | .array ts => repeatsOfItems ts
  | .object es => repeatsAmong [] es

def repeatsOfItems : List Shape → List (Binding Shape)
  | [] => []
  | t :: ts => t.repeats ++ repeatsOfItems ts

def repeatsAmong (seen : List Text) : List (Binding Shape) → List (Binding Shape)
  | [] => []
  | ⟨key, rest, t, after⟩ :: es =>
    t.repeats ++ ((if seen.contains key then [⟨key, rest, t, after⟩] else []) ++
      repeatsAmong (key :: seen) es)

end

variable {t : Shape} {ts : List Shape} {e x : Binding Shape} {es front back : List (Binding Shape)}
  {seen keys : List Text} {key : Text}

/-- Induction on what a literal is written with. -/
theorem Shape.induct {motive : Shape → Prop} (leaf : ∀ v, motive (.leaf v))
    (array : ∀ ts, (∀ t ∈ ts, motive t) → motive (.array ts))
    (object : ∀ es, (∀ e ∈ es, motive e.literal) → motive (.object es)) (t : Shape) : motive t :=
  @Shape.rec motive (fun ts => ∀ t ∈ ts, motive t) (fun es => ∀ e ∈ es, motive e.literal)
    (fun e => motive e.literal) leaf array object (List.forall_mem_nil _)
    (fun _ _ ht hts => List.forall_mem_cons.2 ⟨ht, hts⟩) (List.forall_mem_nil _)
    (fun _ _ he hes => List.forall_mem_cons.2 ⟨he, hes⟩) (fun _ _ _ _ ht => ht) t

theorem objectsOfItems_cons : objectsOfItems (t :: ts) = t.objects ++ objectsOfItems ts :=
  rfl

theorem objectsOfEntries_cons :
    objectsOfEntries (e :: es) = e.literal.objects ++ objectsOfEntries es :=
  rfl

theorem repeatsAmong_cons : repeatsAmong seen (e :: es) =
    e.literal.repeats ++ ((if e.key ∈ seen then [e] else []) ++
      repeatsAmong (e.key :: seen) es) := by
  simp [repeatsAmong]

/-! ## Entries set one after the other -/

section Entries

variable {α : Type} {entries : List (Text × α)} {entry : Text × α} {value : α}

theorem ofEntries_append_singleton :
    Mapping.ofEntries (entries ++ [entry]) = (Mapping.ofEntries entries).put entry.1 entry.2 := by
  rw [Mapping.ofEntries, List.foldl_append]
  rfl

theorem eraseDups_append_singleton :
    (keys ++ [key]).eraseDups = if key ∈ keys then keys.eraseDups else keys.eraseDups ++ [key] := by
  rw [List.eraseDups_append]
  by_cases h : key ∈ keys
  · simp [List.removeAll, h]
  · simp [List.removeAll, h, List.eraseDups_cons]

/-- Keys keep the order in which they first came. -/
theorem keys_ofEntries :
    (Mapping.ofEntries entries).keys = (entries.map (·.1)).eraseDups := by
  induction entries using List.reverseRecOn with
  | nil => rfl
  | append_singleton entries entry ih =>
    rw [ofEntries_append_singleton, Mapping.keys_put, ih, List.map_append, List.map_singleton,
      eraseDups_append_singleton]
    simp only [List.mem_eraseDups]

/-- The last value for a key counts. -/
theorem get?_ofEntries_last {front back : List (Text × α)} (h : key ∉ back.map (·.1)) :
    (Mapping.ofEntries (front ++ (key, value) :: back)).get? key = some value := by
  induction back using List.reverseRecOn with
  | nil => rw [ofEntries_append_singleton, Mapping.get?_put, if_pos rfl]
  | append_singleton back entry ih =>
    simp only [List.map_append, List.map_singleton, List.mem_append, List.mem_singleton,
      not_or] at h
    rw [← List.cons_append, ← List.append_assoc, ofEntries_append_singleton, Mapping.get?_put,
      if_neg h.2, ih h.1]

theorem mem_of_get?_ofEntries (h : (Mapping.ofEntries entries).get? key = some value) :
    (key, value) ∈ entries := by
  induction entries using List.reverseRecOn with
  | nil => cases h
  | append_singleton entries entry ih =>
    rw [ofEntries_append_singleton, Mapping.get?_put] at h
    split at h
    · next hkey =>
      cases h
      subst hkey
      simp
    · exact List.mem_append_left _ (ih h)

end Entries

/-! ## Repeated members -/

/-- A member whose key is among those seen before, or has come before it. -/
def RepeatedAfter (seen : List Text) (es : List (Binding Shape)) (e : Binding Shape) : Prop :=
  ∃ front back, es = front ++ e :: back ∧ (e.key ∈ seen ∨ e.key ∈ keysOf front)

theorem repeatedAfter_nil : RepeatedAfter [] es e ↔ RepeatedIn es e := by
  simp [RepeatedAfter, RepeatedIn]

theorem mem_of_repeatedAfter (h : RepeatedAfter seen es e) : e ∈ es := by
  obtain ⟨front, back, rfl, -⟩ := h
  exact List.mem_append_right _ List.mem_cons_self

theorem repeatedAfter_cons : RepeatedAfter seen (e :: es) x ↔
    e.key ∈ seen ∧ x = e ∨ RepeatedAfter (e.key :: seen) es x := by
  constructor
  · rintro ⟨_ | ⟨first, front⟩, back, h, hkey⟩
    · obtain ⟨rfl, rfl⟩ := List.cons.inj h
      exact .inl ⟨by simpa [keysOf] using hkey, rfl⟩
    · obtain ⟨rfl, rfl⟩ := List.cons.inj h
      refine .inr ⟨front, back, rfl, ?_⟩
      rw [keysOf, List.map_cons, List.mem_cons] at hkey
      rw [List.mem_cons, keysOf]
      tauto
  · rintro (⟨hkey, rfl⟩ | ⟨front, back, rfl, hkey⟩)
    · exact ⟨[], es, rfl, .inl hkey⟩
    · refine ⟨e :: front, back, rfl, ?_⟩
      rw [List.mem_cons, keysOf] at hkey
      rw [keysOf, List.map_cons, List.mem_cons]
      tauto

theorem mem_repeatsAmong_iff
    (h : ∀ e ∈ es, x ∈ e.literal.repeats ↔ ∃ o ∈ e.literal.objects, RepeatedIn o x) :
    x ∈ repeatsAmong seen es ↔
      (∃ o ∈ objectsOfEntries es, RepeatedIn o x) ∨ RepeatedAfter seen es x := by
  induction es generalizing seen with
  | nil => simp [repeatsAmong, objectsOfEntries, RepeatedAfter]
  | cons e es ih =>
    obtain ⟨he, hes⟩ := List.forall_mem_cons.1 h
    have hself : x ∈ (if e.key ∈ seen then [e] else []) ↔ e.key ∈ seen ∧ x = e := by
      split <;> simp [*]
    rw [repeatsAmong_cons, List.mem_append, List.mem_append, he, hself, ih hes,
      objectsOfEntries_cons, repeatedAfter_cons]
    simp only [List.mem_append, or_and_right, exists_or]
    rw [← or_assoc, or_or_or_comm]

/-- The repeated members are those of which the key has come before in their object literal. -/
theorem mem_repeats_iff : x ∈ t.repeats ↔ ∃ es ∈ t.objects, RepeatedIn es x := by
  induction t using Shape.induct with
  | leaf v => simp [Shape.repeats, Shape.objects]
  | array ts ih =>
    rw [Shape.repeats, Shape.objects]
    induction ts with
    | nil => simp [repeatsOfItems, objectsOfItems]
    | cons t ts ihts =>
      obtain ⟨ht, hts⟩ := List.forall_mem_cons.1 ih
      rw [repeatsOfItems, objectsOfItems, List.mem_append, ht, ihts hts]
      simp only [List.mem_append, or_and_right, exists_or]
  | object es ih =>
    rw [Shape.repeats, Shape.objects, mem_repeatsAmong_iff ih, repeatedAfter_nil,
      List.exists_mem_cons_iff, or_comm]

/-! ## How many members are repeated -/

/-- The number of members in some object literals. -/
def memberCount (objects : List (List (Binding Shape))) : Nat :=
  objects.flatten.length

/-- The number of different keys in each of some object literals, added up. -/
def keyCount (objects : List (List (Binding Shape))) : Nat :=
  (objects.flatMap fun es => (keysOf es).eraseDups).length

theorem memberCount_append {l r : List (List (Binding Shape))} :
    memberCount (l ++ r) = memberCount l + memberCount r := by
  rw [memberCount, List.flatten_append, List.length_append]
  rfl

theorem keyCount_append {l r : List (List (Binding Shape))} :
    keyCount (l ++ r) = keyCount l + keyCount r := by
  rw [keyCount, List.flatMap_append, List.length_append]
  rfl

theorem memberCount_cons {l : List (List (Binding Shape))} :
    memberCount (es :: l) = es.length + memberCount l := by
  rw [memberCount, List.flatten_cons, List.length_append]
  rfl

theorem keyCount_cons {l : List (List (Binding Shape))} :
    keyCount (es :: l) = (keysOf es).eraseDups.length + keyCount l := by
  rw [keyCount, List.flatMap_cons, List.length_append]
  rfl

/-- Keys that have been seen before do not count. -/
def newKeys (seen keys : List Text) : List Text :=
  (keys.filter (!seen.contains ·)).eraseDups

theorem newKeys_nil : newKeys [] keys = keys.eraseDups := by
  have hall : ∀ k ∈ keys, (!([] : List Text).contains k) = true := by simp
  rw [newKeys, List.filter_eq_self.2 hall]

theorem length_newKeys_cons : (newKeys seen (key :: keys)).length =
    (if key ∈ seen then 0 else 1) + (newKeys (key :: seen) keys).length := by
  unfold newKeys
  by_cases h : key ∈ seen
  · have hsame : ∀ k ∈ keys, (!seen.contains k) = !(key :: seen).contains k := by
      intro k _
      by_cases hk : k = key
      · simp [hk, h]
      · simp [hk]
    rw [List.filter_cons_of_neg (by simpa using h), if_pos h, Nat.zero_add,
      List.filter_congr hsame]
  · rw [List.filter_cons_of_pos (by simpa using h), List.eraseDups_cons, if_neg h,
      List.length_cons, List.filter_filter, Nat.add_comm 1]
    congr 3
    refine List.filter_congr fun k _ => ?_
    by_cases hk : k = key <;> simp [hk]

theorem length_repeatsAmong
    (h : ∀ e ∈ es, e.literal.repeats.length + keyCount e.literal.objects =
      memberCount e.literal.objects) :
    (repeatsAmong seen es).length + ((newKeys seen (keysOf es)).length +
      keyCount (objectsOfEntries es)) = es.length + memberCount (objectsOfEntries es) := by
  induction es generalizing seen with
  | nil => rfl
  | cons e es ih =>
    obtain ⟨he, hes⟩ := List.forall_mem_cons.1 h
    have hrest := @ih (e.key :: seen) hes
    have hself : (if e.key ∈ seen then [e] else []).length +
        (if e.key ∈ seen then 0 else 1) = 1 := by
      split <;> rfl
    have hkeys : (newKeys seen (keysOf (e :: es))).length =
        (if e.key ∈ seen then 0 else 1) + (newKeys (e.key :: seen) (keysOf es)).length :=
      length_newKeys_cons
    rw [repeatsAmong_cons, objectsOfEntries_cons, keyCount_append, memberCount_append, hkeys]
    simp only [List.length_append, List.length_cons]
    omega

/-- **Every member is repeated or is the first of its key.** -/
theorem length_repeats : t.repeats.length + keyCount t.objects = memberCount t.objects := by
  induction t using Shape.induct with
  | leaf v => rfl
  | array ts ih =>
    rw [Shape.repeats, Shape.objects]
    induction ts with
    | nil => rfl
    | cons t ts ihts =>
      obtain ⟨ht, hts⟩ := List.forall_mem_cons.1 ih
      have hrest := ihts hts
      rw [repeatsOfItems, objectsOfItems, keyCount_append, memberCount_append, List.length_append]
      omega
  | object es ih =>
    have hes := @length_repeatsAmong es [] ih
    rw [newKeys_nil] at hes
    rw [Shape.repeats, Shape.objects, keyCount_cons, memberCount_cons]
    exact hes

end PromptLibrary.Proofs.Literal.Overrides
