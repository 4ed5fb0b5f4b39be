import PromptLibrary.Proofs.Source.Place
import PromptLibrary.Proofs.Template.Insert
import PromptLibrary.Proofs.Template.Splice
import Mathlib.Data.List.Pairwise
/-!
# The list of placeholders

Markers and variables are looked for apart from each other and then put together by their places.
What is listed is told by the body alone: every occurrence of the marker, and the occurrences of
variables that do not begin inside a variable before them.

* `mem_inputsFrom_iff` — the marker is listed wherever it stands;
* `exists_of_mem_variablesFrom`, `mem_variablesFrom_segments` — only what is written as a variable
  is listed, and all of it but what lies inside a listed variable;
* `not_inside_input`, `stop_eq_of_inside_named` — the ways in which placeholders do not overlap, and
  the one in which they do;
* `placeholders_exact`.
-/

namespace PromptLibrary.Proofs.Template.Listing

open PromptLibrary.Template
open PromptLibrary.Proofs.Source.Place (fromFirst_eq_none_iff)
open PromptLibrary.Proofs.Text.Pieces
open PromptLibrary.Proofs.Text.Runs
open PromptLibrary.Proofs.Template.Insert
open PromptLibrary.Proofs.Template.Splice

/-- A variable is written at a place of a body. -/
structure VariableAt (body : Text) (v : Variable) (i : Nat) : Prop where
  wellformed : Wellformed v
  occurs : v.spelling <+: body.drop i

/-- A place behind the beginning of a placeholder and before its end. -/
def Inside (p : Placeholder) (i : Nat) : Prop :=
  p.start < i ∧ i < p.stop

variable {body s r : Text} {v w : Variable} {c : CodePoint} {p q : Placeholder}
  {ps : List Placeholder} {segs : List Segment} {i j k n stop : Nat}

/-! ## Placeholders that are apart -/

theorem Apart.le (h : Apart stop n ps) : n ≤ stop := by
  induction ps generalizing n with
  | nil => exact h
  | cons p ps ih => exact h.1.trans (h.2.1.le.trans (ih h.2.2))

theorem Apart.bounds (h : Apart stop n ps) (hp : p ∈ ps) :
    n ≤ p.start ∧ p.start < p.stop ∧ p.stop ≤ stop := by
  induction ps generalizing n with
  | nil => simp at hp
  | cons q ps ih =>
    obtain ⟨hstart, hlt, hrest⟩ := h
    rcases List.mem_cons.1 hp with rfl | hp
    · exact ⟨hstart, hlt, Apart.le hrest⟩
    · obtain ⟨hstop, h⟩ := ih hrest hp
      exact ⟨by omega, h⟩

theorem Apart.pairwise (h : Apart stop n ps) : ps.Pairwise (·.stop ≤ ·.start) := by
  induction ps generalizing n with
  | nil => exact .nil
  | cons p ps ih => exact .cons (fun q hq => (Apart.bounds h.2.2 hq).1) (ih h.2.2)

theorem Apart.pairwise_start_lt (h : Apart stop n ps) : ps.Pairwise (·.start < ·.start) :=
  (Apart.pairwise h).imp_of_mem fun hp _ hle => (Apart.bounds h hp).2.1.trans_le hle

/-- Of placeholders that are apart, none begins inside another. -/
theorem Apart.not_inside (h : Apart stop n ps) (hp : p ∈ ps) (hq : q ∈ ps) :
    ¬ Inside p q.start := by
  have hpairs : ps.Pairwise fun a b => ¬ Inside a b.start ∧ ¬ Inside b a.start := by
    refine (Apart.pairwise h).imp_of_mem fun ha hb hle => ?_
    have hlt := (Apart.bounds h hb).2.1
    have hlt' := (Apart.bounds h ha).2.1
    unfold Inside
    omega
  have : Std.Symm fun a b : Placeholder => ¬ Inside a b.start ∧ ¬ Inside b a.start :=
    ⟨fun _ _ hab => hab.symm⟩
  refine (hpairs.forall_of_forall (fun a _ => ?_) hp hq).1
  unfold Inside
  omega

/-! ## Occurrences of the marker -/

theorem not_inputMarker_prefix_drop (hi : 0 < i) (hlt : i < inputMarker.length) :
    ¬ inputMarker <+: (inputMarker ++ r).drop i := by
  intro h
  have hlength : (inputMarker.drop i).length = inputMarker.length - i := List.length_drop
  have hne : inputMarker.drop i ≠ [] := fun he => by
    rw [he, List.length_nil] at hlength
    omega
  rw [List.drop_append_of_le_length hlt.le] at h
  have hfront : inputMarker.drop i <+: inputMarker :=
    List.prefix_of_prefix_length_le (List.prefix_append _ r) h (by omega)
  have hwhole := unbordered_inputMarker _ ((List.mem_tails _ _).2 (List.drop_suffix i _)) hne
    hfront
  rw [hwhole] at hlength
  omega

/-- The marker is listed wherever it stands. -/
theorem mem_inputsFrom_iff :
    p ∈ inputsFrom n s ↔ ∃ k, inputMarker <+: s.drop k ∧ p = inputPlaceholder (n + k) := by
  fun_induction inputsFrom n s with
  | case1 n =>
    have hnil : ¬ inputMarker <+: [] := by decide
    simp [hnil]
  | case2 n c rest hmarker ih =>
    obtain ⟨r, hr⟩ := List.isPrefixOf_iff_prefix.1 hmarker
    have hdrop : rest.drop (inputMarker.length - 1) = r := by
      have hdrop' := congrArg (List.drop inputMarker.length) hr
      rw [List.drop_left] at hdrop'
      exact hdrop'.symm
    rw [hdrop] at ih ⊢
    rw [List.mem_cons, ih, ← hr]
    constructor
    · rintro (rfl | ⟨k, hk, rfl⟩)
      · exact ⟨0, List.prefix_append _ _, rfl⟩
      · exact ⟨inputMarker.length + k, by rwa [List.drop_length_add_append], by rw [Nat.add_assoc]⟩
    · rintro ⟨k, hk, rfl⟩
      rcases Nat.eq_zero_or_pos k with rfl | hpos
      · exact .inl rfl
      · have hle : inputMarker.length ≤ k :=
          Nat.le_of_not_lt fun hlt => not_inputMarker_prefix_drop hpos hlt hk
        obtain ⟨k, rfl⟩ := Nat.exists_eq_add_of_le hle
        rw [List.drop_length_add_append] at hk
        exact .inr ⟨k, hk, by rw [Nat.add_assoc]⟩
  | case3 n c rest hmarker ih =>
    rw [ih]
    constructor
    · rintro ⟨k, hk, rfl⟩
      exact ⟨k + 1, hk, by rw [Nat.add_assoc, Nat.add_comm 1]⟩
    · rintro ⟨k, hk, rfl⟩
      cases k with
      | zero => exact absurd (List.isPrefixOf_iff_prefix.2 hk) hmarker
      | succ k => exact ⟨k, hk, by rw [Nat.add_assoc, Nat.add_comm 1]⟩

/-! ## Occurrences of variables -/

theorem VariableAt.exists_rest (h : VariableAt body v i) :
    ∃ r, variableAt? (body.drop i) = some (v, r) := by
  obtain ⟨r, hr⟩ := h.occurs
  exact ⟨r, variableAt?_eq_some_iff.2 ⟨h.wellformed, hr.symm⟩⟩

theorem variableAt_append_iff :
    VariableAt (s ++ r) v (s.length + k) ↔ VariableAt r v k := by
  constructor
  · rintro ⟨hv, h⟩
    rw [List.drop_length_add_append] at h
    exact ⟨hv, h⟩
  · rintro ⟨hv, h⟩
    exact ⟨hv, by rwa [List.drop_length_add_append]⟩

theorem variableAt_cons_iff : VariableAt (c :: s) v (k + 1) ↔ VariableAt s v k :=
  ⟨fun ⟨hv, h⟩ => ⟨hv, h⟩, fun ⟨hv, h⟩ => ⟨hv, h⟩⟩

/-- What is listed as a variable is written as one, in its place. -/
theorem exists_of_mem_variablesFrom (h : p ∈ variablesFrom n (segments s)) :
    ∃ v k, VariableAt s v k ∧ p = v.placeholder (n + k) := by
  fun_induction segments s generalizing n with
  | case1 => simp [variablesFrom] at h
  | case2 c rest v after hv ih =>
    obtain ⟨hwell, hs⟩ := variableAt?_eq_some_iff.1 hv
    rw [hs]
    rcases List.mem_cons.1 h with rfl | h
    · exact ⟨v, 0, ⟨hwell, List.prefix_append _ _⟩, rfl⟩
    · obtain ⟨w, k, hw, rfl⟩ := ih h
      exact ⟨w, v.spelling.length + k, variableAt_append_iff.2 hw, by rw [Nat.add_assoc]⟩
  | case3 c rest hnone ih =>
    obtain ⟨w, k, hw, rfl⟩ := ih h
    exact ⟨w, k + 1, variableAt_cons_iff.2 hw, by rw [Nat.add_assoc, Nat.add_comm 1]⟩

/-- A variable is listed unless it begins inside a listed one. -/
theorem mem_variablesFrom_segments (hv : VariableAt s v k)
    (h : ∀ q ∈ variablesFrom n (segments s), ¬ Inside q (n + k)) :
    v.placeholder (n + k) ∈ variablesFrom n (segments s) := by
  fun_induction segments s generalizing n k with
  | case1 =>
    obtain ⟨r, hr⟩ := hv.exists_rest
    have hlt := length_variableAt_lt hr
    simp at hlt
  | case2 c rest w after hw ih =>
    obtain ⟨hwell, hs⟩ := variableAt?_eq_some_iff.1 hw
    rw [hs] at hv
    rw [variablesFrom, List.forall_mem_cons] at h
    obtain ⟨hinside, h⟩ := h
    rw [variablesFrom]
    rcases Nat.eq_zero_or_pos k with rfl | hpos
    · -- Only one variable is written at a place.
      obtain ⟨r, hr⟩ := hv.exists_rest
      rw [List.drop_zero, ← hs, hw] at hr
      simp only [Option.some.injEq, Prod.mk.injEq] at hr
      rw [hr.1]
      exact List.mem_cons_self
    · have hle : w.spelling.length ≤ k := by
        by_contra hlt
        exact hinside ⟨show n < n + k by omega, show n + k < n + w.spelling.length by omega⟩
      obtain ⟨k, rfl⟩ := Nat.exists_eq_add_of_le hle
      rw [← Nat.add_assoc] at h ⊢
      exact List.mem_cons_of_mem _ (ih (variableAt_append_iff.1 hv) h)
  | case3 c rest hnone ih =>
    cases k with
    | zero =>
      obtain ⟨r, hr⟩ := hv.exists_rest
      rw [List.drop_zero, hnone] at hr
      simp at hr
    | succ k =>
      rw [Nat.add_comm k 1, ← Nat.add_assoc] at h ⊢
      exact ih (variableAt_cons_iff.1 hv) h

/-! ## Markers and variables -/

theorem VariableAt.opening (h : VariableAt body v i) : variableOpening <+: body.drop i := by
  refine .trans ?_ h.occurs
  rw [Variable.spelling, List.append_assoc, List.append_assoc]
  exact List.prefix_append _ _

/-- No variable begins where a marker begins or inside it. -/
theorem length_le_of_variableAt (hmarker : inputMarker <+: body.drop i)
    (hv : VariableAt body v (i + k)) : inputMarker.length ≤ k := by
  by_contra hlt
  have hending : inputMarker.drop k <+: body.drop (i + k) := by
    have hdrop := hmarker.drop k
    rwa [List.drop_drop] at hdrop
  have hne : inputMarker.drop k ≠ [] := fun he => hlt (List.drop_eq_nil_iff.1 he)
  obtain ⟨hshort, hlong⟩ := inert_inputMarker.unopened (inputMarker.drop k)
    ((List.mem_tails _ _).2 (List.drop_suffix _ _)) hne
  rcases List.prefix_or_prefix_of_prefix hv.opening hending with h | h
  · exact hlong h
  · exact hshort h

theorem not_inside_input (hmarker : inputMarker <+: body.drop i) (hv : VariableAt body v j) :
    ¬ Inside (inputPlaceholder i) j := by
  rintro ⟨hij : i < j, hj : j < i + inputMarker.length⟩
  obtain ⟨k, rfl⟩ := Nat.exists_eq_add_of_le hij.le
  have hle := length_le_of_variableAt hmarker hv
  omega

/-- A marker inside a variable has the closing braces of the variable. -/
theorem stop_eq_of_inside_named (hv : VariableAt body v i) (hmarker : inputMarker <+: body.drop j)
    (h : Inside (v.placeholder i) j) : (inputPlaceholder j).stop = (v.placeholder i).stop := by
  obtain ⟨hij : i < j, hj : j < i + v.spelling.length⟩ := h
  obtain ⟨inner, hinner, hfree, -⟩ := exists_inner hv.wellformed
  obtain ⟨r, hr⟩ := hv.occurs
  obtain ⟨t, ht⟩ := hmarker
  obtain ⟨k, rfl⟩ := Nat.exists_eq_add_of_le hij.le
  have hlength : v.spelling.length = inner.length + 2 := by rw [hinner, List.length_append]; rfl
  rw [hinner, List.append_assoc] at hr
  rw [← List.drop_drop, ← hr] at ht
  have hhead : inputMarker = Text.ofString "\x7b\x7bINPUT" ++ variableClosing := rfl
  by_cases hk : k ≤ inner.length
  · rw [List.drop_append_of_le_length hk] at ht
    -- Both texts are cut at their first closing brace.
    have hrun := (takeWhile_ne_eq_run (r := .char '\x7d' :: r)
      (fun hmem => hfree (List.mem_of_mem_drop hmem) : .char '\x7d' ∉ inner.drop k)).1
    have hrun' := (takeWhile_ne_eq_run (r := .char '\x7d' :: t)
      (by decide : .char '\x7d' ∉ Text.ofString "\x7b\x7bINPUT")).1
    have hsame : inner.drop k = Text.ofString "\x7b\x7bINPUT" := by
      rw [← hrun, ← hrun']
      exact congrArg _ ht.symm
    have hlen := congrArg List.length hsame
    rw [List.length_drop] at hlen
    have hseven : (Text.ofString "\x7b\x7bINPUT").length = 7 := rfl
    have hnine : inputMarker.length = 9 := rfl
    change i + k + inputMarker.length = i + v.spelling.length
    omega
  · -- At the closing braces no marker begins.
    obtain rfl : k = inner.length + 1 := by omega
    rw [List.drop_length_add_append] at ht
    have hbrace : CodePoint.char '\x7b' = .char '\x7d' := (List.cons.inj ht).1
    exact absurd hbrace (by decide)

/-! ## Searching and splitting -/

section Search

variable {α : Type} [DecidableEq α] {separator : α} {raw part pattern t : List α}

theorem occurs_iff (hpattern : 0 < pattern.length) :
    Search.occurs pattern t = true ↔ ∃ i, pattern <+: t.drop i := by
  rw [Search.occurs, Option.isSome_iff_ne_none, Ne, fromFirst_eq_none_iff]
  constructor
  · intro h
    by_contra hnone
    exact h fun i _ _ hi => hnone ⟨i, hi⟩
  · rintro ⟨i, hi⟩ h
    have hle := hi.length_le
    rw [List.length_drop] at hle
    exact h i (Nat.zero_le i) (by omega) hi

theorem splitOn_ne_nil : Search.splitOn separator raw ≠ [] := by
  fun_cases Search.splitOn separator raw <;> simp

/-- Splitting takes nothing away but the separators. -/
theorem joinWith_splitOn : Search.joinWith [separator] (Search.splitOn separator raw) = raw := by
  fun_induction Search.splitOn separator raw with
  | case1 => rfl
  | case2 raw ih => rw [joinWith_cons splitOn_ne_nil, ih]; rfl
  | case3 a raw ha hnil ih => exact absurd hnil splitOn_ne_nil
  | case4 a raw ha part parts hparts ih =>
    rw [hparts] at ih
    rw [← ih]
    cases parts with
    | nil => simp [joinWith_singleton]
    | cons next parts =>
      rw [joinWith_cons (List.cons_ne_nil _ _), joinWith_cons (List.cons_ne_nil _ _)]
      rfl

theorem not_mem_of_mem_splitOn (h : part ∈ Search.splitOn separator raw) : separator ∉ part := by
  fun_induction Search.splitOn separator raw generalizing part with
  | case1 => simp_all
  | case2 raw ih =>
    rcases List.mem_cons.1 h with rfl | h
    · exact List.not_mem_nil
    · exact ih h
  | case3 a raw ha hnil ih => exact absurd hnil splitOn_ne_nil
  | case4 a raw ha first parts hparts ih =>
    rw [hparts] at ih
    rcases List.mem_cons.1 h with rfl | h
    · simp [Ne.symm ha, ih List.mem_cons_self]
    · exact ih (List.mem_cons_of_mem _ h)

end Search

/-! ## The whole list -/

theorem mem_placeholders :
    p ∈ placeholders body ↔ p ∈ inputsFrom 0 body ∨ p ∈ variablesFrom 0 (segments body) :=
  List.mem_merge

theorem mem_variablesFrom_of_kind (hp : p ∈ placeholders body) (h : p.kind = .named) :
    p ∈ variablesFrom 0 (segments body) := by
  rw [← ofKind_named]
  exact List.mem_filter.2 ⟨hp, decide_eq_true h⟩

/-- A placeholder is a marker or a variable, and is written in its place. -/
theorem written_of_mem (hp : p ∈ placeholders body) :
    (inputMarker <+: body.drop p.start ∧ p = inputPlaceholder p.start) ∨
      ∃ v, VariableAt body v p.start ∧ p = v.placeholder p.start := by
  rcases mem_placeholders.1 hp with h | h
  · obtain ⟨k, hk, rfl⟩ := mem_inputsFrom_iff.1 h
    rw [Nat.zero_add]
    exact .inl ⟨hk, rfl⟩
  · obtain ⟨v, k, hk, rfl⟩ := exists_of_mem_variablesFrom h
    rw [Nat.zero_add]
    exact .inr ⟨v, hk, rfl⟩

theorem spelling_prefix (hp : p ∈ placeholders body) :
    p.spelling <+: body.drop p.start ∧ p.stop = p.start + p.spelling.length ∧
      0 < p.spelling.length := by
  rcases written_of_mem hp with ⟨h, he⟩ | ⟨v, h, he⟩
  · rw [he]
    exact ⟨h, rfl, length_inputMarker_pos⟩
  · rw [he]
    exact ⟨h.occurs, rfl, length_spelling_pos⟩

/-- A placeholder is the part of the body between its places. -/
theorem spelling_eq (hp : p ∈ placeholders body) :
    p.start < p.stop ∧ p.stop ≤ body.length ∧ p.spelling = (body.take p.stop).drop p.start := by
  obtain ⟨hfront, hstop, hpos⟩ := spelling_prefix hp
  have hle := hfront.length_le
  rw [List.length_drop] at hle
  refine ⟨by omega, by omega, ?_⟩
  rw [hstop, ← List.take_drop]
  exact List.prefix_iff_eq_take.1 hfront

theorem placeholder_injective (h : v.placeholder i = w.placeholder j) : v = w := by
  have hname : v.name = w.name := congrArg Placeholder.name h
  have hspelling : v.spelling = w.spelling := congrArg Placeholder.spelling h
  have hoptions : v.options = w.options := by
    rw [Variable.spelling, Variable.spelling, hname] at hspelling
    have hraw := List.append_cancel_left (List.append_cancel_right hspelling)
    exact (List.cons.inj hraw).2
  cases v
  cases w
  exact congrArg₂ Variable.mk hname hoptions

theorem exists_variableAt (hp : p ∈ placeholders body) (h : p.kind = .named) :
    ∃ v, VariableAt body v p.start ∧ p = v.placeholder p.start := by
  rcases written_of_mem hp with ⟨-, he⟩ | hv
  · rw [he] at h
    exact nomatch h
  · exact hv

theorem exists_inputMarker (hp : p ∈ placeholders body) (h : p.kind = .input) :
    inputMarker <+: body.drop p.start ∧ p = inputPlaceholder p.start := by
  rcases written_of_mem hp with hmarker | ⟨v, -, he⟩
  · exact hmarker
  · rw [he] at h
    exact nomatch h

theorem inputPlaceholder_mem_iff :
    inputPlaceholder i ∈ placeholders body ↔ inputMarker <+: body.drop i := by
  constructor
  · exact fun h => (exists_inputMarker h rfl).1
  · intro h
    exact mem_placeholders.2 (.inl (mem_inputsFrom_iff.2 ⟨i, h, by rw [Nat.zero_add]⟩))

/-- A variable is listed exactly where it is written and no listed variable goes on. -/
theorem variablePlaceholder_mem_iff :
    v.placeholder i ∈ placeholders body ↔
      VariableAt body v i ∧ ∀ q ∈ placeholders body, q.kind = .named → ¬ Inside q i := by
  constructor
  · intro h
    obtain ⟨w, hw, he⟩ := exists_variableAt h rfl
    refine ⟨placeholder_injective he ▸ hw, fun q hq hkind => ?_⟩
    have hapart := @apart_ofKind body .named
    rw [ofKind_named] at hapart
    exact Apart.not_inside hapart (mem_variablesFrom_of_kind hq hkind)
      (mem_variablesFrom_of_kind h rfl)
  · rintro ⟨hv, h⟩
    have hmem := mem_variablesFrom_segments (n := 0) hv fun q hq => by
      rw [Nat.zero_add]
      exact h q (mem_placeholders.2 (.inr hq)) (kind_of_mem_variablesFrom hq)
    rw [Nat.zero_add] at hmem
    exact mem_placeholders.2 (.inr hmem)

/-- Placeholders overlap in one way only: a marker at the end of a variable. -/
theorem overlap (hp : p ∈ placeholders body) (hq : q ∈ placeholders body)
    (h : Inside p q.start) : p.kind = .named ∧ q.kind = .input ∧ q.stop = p.stop := by
  have hapart : ∀ kind, p.kind = kind → q.kind ≠ kind := fun kind hpk hqk =>
    Apart.not_inside (@apart_ofKind body kind)
      (List.mem_filter.2 ⟨hp, decide_eq_true hpk⟩) (List.mem_filter.2 ⟨hq, decide_eq_true hqk⟩) h
  cases hpk : p.kind with
  | input =>
    have hqk : q.kind = .named := by
      cases hqk : q.kind with
      | input => exact absurd hqk (hapart .input hpk)
      | named => rfl
    obtain ⟨hmarker, he⟩ := exists_inputMarker hp hpk
    obtain ⟨v, hv, -⟩ := exists_variableAt hq hqk
    rw [he] at h
    exact absurd h (not_inside_input hmarker hv)
  | named =>
    have hqk : q.kind = .input := by
      cases hqk : q.kind with
      | input => rfl
      | named => exact absurd hqk (hapart .named hpk)
    obtain ⟨v, hv, hpe⟩ := exists_variableAt hp hpk
    obtain ⟨hmarker, hqe⟩ := exists_inputMarker hq hqk
    refine ⟨rfl, hqk, ?_⟩
    rw [hpe] at h
    rw [hpe, hqe]
    exact stop_eq_of_inside_named hv hmarker h

/-- Markers and variables do not begin at the same place. -/
theorem start_ne (hp : p ∈ inputsFrom 0 body) (hq : q ∈ variablesFrom 0 (segments body)) :
    p.start ≠ q.start := by
  intro he
  obtain ⟨k, hmarker, rfl⟩ := mem_inputsFrom_iff.1 hp
  obtain ⟨v, j, hv, rfl⟩ := exists_of_mem_variablesFrom hq
  obtain rfl : k = j := Nat.add_left_cancel he
  exact absurd (length_le_of_variableAt (k := 0) hmarker hv) (by decide)

/-- Each placeholder begins behind the one before it. -/
theorem pairwise_start : (placeholders body).Pairwise (·.start < ·.start) := by
  have hinputs : (inputsFrom 0 body).Pairwise (·.start < ·.start) :=
    Apart.pairwise_start_lt (apart_inputsFrom rfl)
  have hvariables : (variablesFrom 0 (segments body)).Pairwise (·.start < ·.start) :=
    Apart.pairwise_start_lt (apart_variablesFrom rfl)
  have hsorted : (placeholders body).Pairwise fun a b => a.start ≤ b.start := by
    have hmerge := @List.pairwise_merge _ (fun a b : Placeholder => a.start ≤ b.start)
      (fun a b c hab hbc => by simp only [decide_eq_true_eq] at *; omega)
      (fun a b => by simp only [Bool.or_eq_true, decide_eq_true_eq]; omega) _ _
      (hinputs.imp fun h => decide_eq_true h.le)
      (hvariables.imp fun h => decide_eq_true h.le)
    exact hmerge.imp of_decide_eq_true
  have hdistinct : (placeholders body).Pairwise fun a b => a.start ≠ b.start :=
    ((List.merge_perm_append _).pairwise_iff Ne.symm).2 (List.pairwise_append.2
      ⟨hinputs.imp Nat.ne_of_lt, hvariables.imp Nat.ne_of_lt, fun _ hp _ hq => start_ne hp hq⟩)
  exact (hsorted.and hdistinct).imp fun h => Nat.lt_of_le_of_ne h.1 h.2

theorem usesInput_iff :
    usesInput body = true ↔ ∃ p ∈ placeholders body, p.kind = .input := by
  rw [usesInput, occurs_iff length_inputMarker_pos]
  constructor
  · rintro ⟨i, h⟩
    exact ⟨_, inputPlaceholder_mem_iff.2 h, rfl⟩
  · rintro ⟨p, hp, h⟩
    exact ⟨p.start, (exists_inputMarker hp h).1⟩

/-- **The list of placeholders is exact.**  Each placeholder begins behind the one before it and is
the part of the body between its places.  The marker is listed wherever it stands; a variable is
listed where it is written, unless it begins inside a listed variable; and nothing else is listed.
A variable is spelled by its name and its options, none of which has a comma.  If a placeholder
begins inside another, then it is a marker at the end of a variable.  The body takes the input of
the caller exactly if a marker is listed. -/
theorem placeholders_exact (body : Text) :
    (placeholders body).Pairwise (·.start < ·.start) ∧
    (∀ p ∈ placeholders body, p.start < p.stop ∧ p.stop ≤ body.length ∧
      p.spelling = (body.take p.stop).drop p.start) ∧
    (∀ p ∈ placeholders body, p.kind = .input ∧ p = inputPlaceholder p.start ∨
      p.kind = .named ∧ ∃ v : Variable, p = v.placeholder p.start) ∧
    (∀ i, inputPlaceholder i ∈ placeholders body ↔ inputMarker <+: body.drop i) ∧
    (∀ (v : Variable) (i : Nat), v.placeholder i ∈ placeholders body ↔
      VariableAt body v i ∧ ∀ q ∈ placeholders body, q.kind = .named → ¬ Inside q i) ∧
    (∀ p ∈ placeholders body, p.kind = .named →
      p.spelling = variableOpening ++ p.name ++ .char ':' ::
        Search.joinWith [.char ','] p.options ++ variableClosing ∧
      ∀ option ∈ p.options, .char ',' ∉ option) ∧
    (∀ p ∈ placeholders body, ∀ q ∈ placeholders body, Inside p q.start →
      p.kind = .named ∧ q.kind = .input ∧ q.stop = p.stop) ∧
    (usesInput body = true ↔ ∃ p ∈ placeholders body, p.kind = .input) := by
  refine ⟨pairwise_start, fun p hp => spelling_eq hp, fun p hp => ?_,
    fun i => inputPlaceholder_mem_iff, fun v i => variablePlaceholder_mem_iff,
    fun p hp hkind => ?_, fun p hp q hq h => overlap hp hq h, usesInput_iff⟩
  · cases hkind : p.kind with
    | input => exact .inl ⟨rfl, (exists_inputMarker hp hkind).2⟩
    | named =>
      obtain ⟨v, -, he⟩ := exists_variableAt hp hkind
      exact .inr ⟨rfl, v, he⟩
  · obtain ⟨v, -, he⟩ := exists_variableAt hp hkind
    rw [he]
    refine ⟨?_, fun option h => not_mem_of_mem_splitOn h⟩
    change v.spelling = variableOpening ++ v.name ++ .char ':' ::
      Search.joinWith [.char ','] (splitOptions v.options) ++ variableClosing
    rw [splitOptions, joinWith_splitOn, Variable.spelling]

/-- A variable behind an opening brace too many; it ends with a marker, and a marker follows. -/
def overlapping : Text :=
  Text.ofString "\x7b\x7b\x7bVAR:A:x,\x7b\x7bINPUT\x7d\x7d\x7b\x7bINPUT\x7d\x7d"

example :
    (variablesFrom 0 (segments overlapping)).map (fun p => (p.start, p.stop)) = [(1, 20)] ∧
    (inputsFrom 0 overlapping).map (fun p => (p.start, p.stop)) = [(11, 20), (20, 29)] := by
  with_unfolding_all exact ⟨rfl, rfl⟩

end PromptLibrary.Proofs.Template.Listing
