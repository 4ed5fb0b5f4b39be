import PromptLibrary.Text.CodePoint
/-!
# Ordered mappings

A mapping keeps its entries in the order in which their keys first came. Setting a key again
replaces the value and leaves the place.
-/

namespace PromptLibrary

/-- Entries in order; no key twice when built by `put`. -/
abbrev Mapping (α : Type) := List (Text × α)

namespace Mapping

variable {α : Type}

/-- Sets a key: in its place if it is there, else at the end. -/
def put (key : Text) (value : α) : Mapping α → Mapping α
  | [] => [(key, value)]
  | (k, v) :: rest => if k = key then (k, value) :: rest else (k, v) :: put key value rest

/-- The mapping that the entries give when they are set one after the other. -/
def ofEntries (entries : List (Text × α)) : Mapping α :=
  entries.foldl (fun m entry => put entry.1 entry.2 m) []

def get? (key : Text) : Mapping α → Option α
  | [] => none
  | (k, v) :: rest => if k = key then some v else get? key rest

def contains (m : Mapping α) (key : Text) : Bool :=
  (m.get? key).isSome

def keys (m : Mapping α) : List Text :=
  m.map (·.1)

/-- Setting a key changes what that key gives, and nothing else. -/
theorem get?_put (key other : Text) (value : α) (m : Mapping α) :
    (put key value m).get? other = if other = key then some value else m.get? other := by
  induction m with
  | nil => simp [put, get?, eq_comm]
  | cons entry rest ih =>
    obtain ⟨k, v⟩ := entry
    by_cases hk : k = key
    · subst hk
      by_cases ho : k = other
      · simp [put, get?, ho]
      · simp [put, get?, ho, Ne.symm ho]
    · by_cases ho : k = other
      · subst ho
        simp [put, get?, hk]
      · simpa [put, get?, hk, ho] using ih

/-- A new key comes last; a key that is there keeps its place. -/
theorem keys_put (key : Text) (value : α) (m : Mapping α) :
    (put key value m).keys = if key ∈ m.keys then m.keys else m.keys ++ [key] := by
  induction m with
  | nil => simp [put, keys]
  | cons entry rest ih =>
    obtain ⟨k, v⟩ := entry
    by_cases hk : k = key
    · subst hk
      simp [put, keys]
    · simp only [keys] at ih
      simp only [put, hk, if_false, keys, List.map_cons, ih, List.mem_cons, Ne.symm hk, false_or]
      split <;> simp_all

theorem put_of_not_mem {m : Mapping α} {key : Text} {value : α} (h : key ∉ m.keys) :
    put key value m = m ++ [(key, value)] := by
  induction m with
  | nil => rfl
  | cons entry m ih =>
    obtain ⟨k, v⟩ := entry
    rw [keys, List.map_cons, List.mem_cons, not_or] at h
    rw [put, if_neg (Ne.symm h.1), ih h.2]
    rfl

theorem foldl_put {entries : List (Text × α)} {m : Mapping α}
    (h : ((m ++ entries).map (·.1)).Nodup) :
    entries.foldl (fun m entry => put entry.1 entry.2 m) m = m ++ entries := by
  induction entries generalizing m with
  | nil => rw [List.foldl_nil, List.append_nil]
  | cons entry entries ih =>
    have hentry : entry.1 ∉ m.keys := by
      rw [List.map_append, List.nodup_append] at h
      intro hmem
      exact h.2.2 entry.1 hmem entry.1 (by simp) rfl
    have happend : m ++ entry :: entries = m ++ [(entry.1, entry.2)] ++ entries := by simp
    rw [happend] at h ⊢
    rw [List.foldl_cons, put_of_not_mem hentry]
    exact ih h

/-- Entries with different keys are the mapping that they give. -/
theorem ofEntries_of_nodup {entries : List (Text × α)} (h : (entries.map (·.1)).Nodup) :
    ofEntries entries = entries :=
  @foldl_put α entries [] h

end Mapping

end PromptLibrary
