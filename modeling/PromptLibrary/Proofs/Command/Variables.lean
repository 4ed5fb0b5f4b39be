import PromptLibrary.Command.Run
import PromptLibrary.Proofs.Files.Action
import PromptLibrary.Proofs.Literal.Overrides
import PromptLibrary.Proofs.Text.Points
import PromptLibrary.Proofs.Text.Runs
/-!
# Variables

Variables are given as pairs of a name and a value.  The last value of a name counts, and the input
counts before all values that are given under its name.

* `assignment_text`, `assignments_texts` — a pair is cut at its first equals sign;
* `holds_renderVariables` — the values that pairs and an input give.
-/

namespace PromptLibrary.Proofs.Command.Variables

open PromptLibrary.Command
open PromptLibrary.Proofs.Files.Action
open PromptLibrary.Proofs.Literal.Overrides
open PromptLibrary.Proofs.Text.Points
open PromptLibrary.Proofs.Text.Runs (takeWhile_ne_eq_run)

/-- A pair of a name and a value.  The name ends at the first equals sign. -/
structure Pair where
  name : String
  value : String
  nonempty : name ≠ ""
  clear : '=' ∉ name.toList

def Pair.text (p : Pair) : String :=
  p.name ++ "=" ++ p.value

/-- The values that variables and an input give: the input under its own name, and under any other
name what is assigned to it last. -/
structure Holds (values : Mapping Value) (input : String) (pairs : List Pair) : Prop where
  input : values.get? Template.inputName = some (.string (Text.ofString input))
  last : ∀ front (pair : Pair) back, pairs = front ++ pair :: back →
    pair.name ≠ "input" → (∀ other ∈ back, other.name ≠ pair.name) →
    values.get? (Text.ofString pair.name) = some (.string (Text.ofString pair.value))
  none : ∀ name, name ≠ Template.inputName →
    (∀ pair ∈ pairs, Text.ofString pair.name ≠ name) → values.get? name = none

variable {pairs : List Pair} {pair : Pair} {input : String} {name t : Text} {m : Mapping Text}

/-! ## Pairs as they are given -/

/-- What a pair assigns. -/
def entry (pair : Pair) : Text × Text :=
  (Text.ofString pair.name, Text.ofString pair.value)

theorem ofString_text : Text.ofString pair.text =
    Text.ofString pair.name ++ .char '=' :: Text.ofString pair.value := by
  simp [Pair.text, Text.ofString, Text.ofChars]

/-- A pair is cut at its first equals sign. -/
theorem assignment_text : assignment? (Text.ofString pair.text) = some (entry pair) := by
  have hclear : CodePoint.char '=' ∉ Text.ofString pair.name := not_mem_ofChars pair.clear
  have hname : Text.ofString pair.name ≠ [] := mt ofString_eq_nil_iff.1 pair.nonempty
  obtain ⟨htake, hdrop⟩ := @takeWhile_ne_eq_run _ (Text.ofString pair.value) _ _ _ hclear
  rw [ofString_text]
  unfold assignment?
  simp only [htake, hdrop]
  rfl

theorem assignments_texts : assignments (pairs.map (Text.ofString ·.text)) =
    .ok (Mapping.ofEntries (pairs.map entry)) := by
  induction pairs using List.reverseRecOn with
  | nil => rfl
  | append_singleton pairs pair ih =>
    unfold assignments at ih ⊢
    rw [List.map_append, List.map_append, List.foldlM_append, ih, List.map_singleton,
      List.map_singleton, ofEntries_append_singleton]
    simp only [bind, Except.bind, List.foldlM_cons, assignment_text]
    rfl

theorem result_withPairs {next : Mapping Text → Run Outcome} {world : World} :
    result (withPairs (pairs.map (some ·.text)) next) world =
      result (next (Mapping.ofEntries (pairs.map entry))) world := by
  have hall : (pairs.map (some ·.text)).all Option.isSome = true := by
    simp
  have htexts : (((pairs.map (some ·.text)).takeWhile Option.isSome).filterMap id).map
      Text.ofString = pairs.map (Text.ofString ·.text) := by
    induction pairs with
    | nil => rfl
    | cons pair pairs ih => simpa using ih (by simp)
  unfold withPairs
  rw [htexts, assignments_texts]
  simp only [hall, if_true]

/-! ## The values that they give -/

theorem get?_map {α β : Type} {f : α → β} {m : Mapping α} :
    Mapping.get? name (m.map fun (k, a) => (k, f a)) = (m.get? name).map f := by
  induction m with
  | nil => rfl
  | cons e m ih =>
    obtain ⟨k, a⟩ := e
    rw [List.map_cons, Mapping.get?, Mapping.get?, ih]
    split <;> rfl

theorem get?_renderVariables :
    (renderVariables m (some t)).get? name =
      if name = Template.inputName then some (.string t) else (m.get? name).map .string := by
  unfold renderVariables
  rw [Mapping.get?_put, get?_map]

theorem holds_renderVariables : Holds
    (renderVariables (Mapping.ofEntries (pairs.map entry)) (some (Text.ofString input))) input
      pairs where
  input := by rw [get?_renderVariables, if_pos rfl]
  last front pair back hpairs hname hback := by
    have hinput : Text.ofString pair.name ≠ Template.inputName := fun h => hname (ofString_inj h)
    have hlater : Text.ofString pair.name ∉ (back.map entry).map (·.1) := by
      simp only [List.map_map, List.mem_map, not_exists, not_and]
      exact fun other hother hsame => hback other hother (ofString_inj hsame)
    rw [get?_renderVariables, if_neg hinput, hpairs, List.map_append, List.map_cons, entry,
      get?_ofEntries_last hlater]
    rfl
  none name hname hpairs := by
    rw [get?_renderVariables, if_neg hname, Option.map_eq_none_iff]
    apply Option.eq_none_iff_forall_ne_some.2
    intro t ht
    obtain ⟨pair, hpair, hentry⟩ := List.mem_map.1 (mem_of_get?_ofEntries ht)
    exact hpairs pair hpair (congrArg Prod.fst hentry)

theorem wellFormed_renderVariables {v : Value}
    (hv : (renderVariables (Mapping.ofEntries (pairs.map entry))
      (some (Text.ofString input))).get? name = some v) : v.display.WellFormed := by
  rw [get?_renderVariables] at hv
  split at hv
  · cases hv
    exact wellFormed_ofString input
  · obtain ⟨t, ht, rfl⟩ := Option.map_eq_some_iff.1 hv
    obtain ⟨pair, _, hpair⟩ := List.mem_map.1 (mem_of_get?_ofEntries ht)
    cases hpair
    exact wellFormed_ofString pair.value

end PromptLibrary.Proofs.Command.Variables
