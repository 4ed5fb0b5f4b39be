import PromptLibrary.Template.Placeholder
import PromptLibrary.Template.Render
import Mathlib.Data.List.Basic
/-!
# Rendering is splicing

Rendering and the list of placeholders read a body on their own.  They agree: what rendering changes
are the places on the list, and what it puts there is told by the placeholder and the values.

* `splice` — the body cut at places, with other texts between the pieces;
* `splice_variables`, `insertInput_eq_splice` — the two passes of rendering as splices.
-/

namespace PromptLibrary.Proofs.Template.Splice

open PromptLibrary.Template

/-- The body from a place on, with another text in the place of each placeholder. -/
def splice (body : Text) (fill : Placeholder → Text) : Nat → List Placeholder → Text
  | place, [] => body.drop place
  | place, p :: ps => (body.take p.start).drop place ++ fill p ++ splice body fill p.stop ps

/-- Placeholders follow one another from a place on, without overlap, up to the end. -/
def Apart (stop : Nat) : Nat → List Placeholder → Prop
  | place, [] => place ≤ stop
  | place, p :: ps => place ≤ p.start ∧ p.start < p.stop ∧ Apart stop p.stop ps

/-- The placeholders of a kind, in order. -/
def ofKind (kind : PlaceholderKind) (body : Text) : List Placeholder :=
  (placeholders body).filter (·.kind = kind)

/-- What a variable gets: the value for its name, or else its own default. -/
def filling (values : Mapping Value) (p : Placeholder) : Text :=
  match values.get? p.name with
  | some v => v.display
  | none => p.default

variable {body before s t : Text} {fill fill' : Placeholder → Text} {values : Mapping Value}
  {c : CodePoint} {p : Placeholder} {ps : List Placeholder} {n stop : Nat} {segs : List Segment}

/-! ## Splices -/

theorem splice_congr (h : ∀ p ∈ ps, fill p = fill' p) :
    splice body fill n ps = splice body fill' n ps := by
  induction ps generalizing n with
  | nil => rfl
  | cons p ps ih =>
    obtain ⟨hp, hps⟩ := List.forall_mem_cons.1 h
    rw [splice, splice, hp, ih hps]

/-- Placeholders that begin behind a place begin behind any earlier one. -/
theorem Apart.mono {m : Nat} (h : Apart stop n ps) (hm : m ≤ n) : Apart stop m ps := by
  cases ps with
  | nil => exact Nat.le_trans hm h
  | cons p ps => exact ⟨Nat.le_trans hm h.1, h.2⟩

/-- A code point in front of the placeholders is copied. -/
theorem splice_point (h : Apart stop (before.length + 1) ps) :
    splice (before ++ c :: t) fill before.length ps =
      c :: splice (before ++ c :: t) fill (before.length + 1) ps := by
  cases ps with
  | nil => simp [splice]
  | cons p ps =>
    obtain ⟨k, hk⟩ := Nat.exists_eq_add_of_le h.1
    have htake : (before ++ c :: t).take p.start = before ++ c :: t.take k := by
      rw [hk, Nat.add_assoc, Nat.add_comm 1 k, List.take_length_add_append]
      rfl
    rw [splice, splice, htake]
    simp

/-- A placeholder that comes next is replaced. -/
theorem splice_slot (h : p.start = n) :
    splice body fill n (p :: ps) = fill p ++ splice body fill p.stop ps := by
  simp [splice, h]

/-! ## Variables -/

theorem length_spelling_pos {v : Variable} : 0 < v.spelling.length := by
  simp only [Variable.spelling, List.length_append, List.length_cons]
  omega

/-- What the segments of a body are written as is the body. -/
theorem flatMap_spelling_segments : (segments body).flatMap Segment.spelling = body := by
  fun_induction segments body with
  | case1 => rfl
  | case2 p rest v after h ih =>
    rw [List.flatMap_cons, ih, eq_of_variableAt? h]
    rfl
  | case3 p rest h ih =>
    rw [List.flatMap_cons, ih]
    rfl

theorem apart_variablesFrom (h : n + (segs.flatMap Segment.spelling).length = stop) :
    Apart stop n (variablesFrom n segs) := by
  induction segs generalizing n with
  | nil => exact Nat.le_of_eq h
  | cons seg segs ih =>
    rw [List.flatMap_cons, List.length_append, ← Nat.add_assoc] at h
    cases seg with
    | point c => exact (ih h).mono (Nat.le_succ n)
    | slot v => exact ⟨Nat.le_refl n, Nat.lt_add_of_pos_right length_spelling_pos, ih h⟩

/-- Segments that follow some text are replaced in their places. -/
theorem splice_variablesFrom (h : body = before ++ segs.flatMap Segment.spelling) :
    splice body (filling values) before.length (variablesFrom before.length segs) =
      segs.flatMap (·.resolve values) := by
  induction segs generalizing before with
  | nil => simp [h, variablesFrom, splice]
  | cons seg segs ih =>
    rw [List.flatMap_cons, ← List.append_assoc] at h
    have hrest := ih h
    rw [List.length_append] at hrest
    cases seg with
    | point c =>
      have hlength : before.length + 1 + (segs.flatMap Segment.spelling).length = body.length := by
        rw [h, List.length_append, List.length_append]
        rfl
      have hbody : body = before ++ c :: segs.flatMap Segment.spelling := by
        rw [h, List.append_assoc]
        rfl
      have hapart := apart_variablesFrom hlength
      rw [variablesFrom, hbody, splice_point hapart, ← hbody, List.flatMap_cons]
      exact congrArg (c :: ·) hrest
    | slot v =>
      have hstart : (v.placeholder before.length).start = before.length := rfl
      rw [variablesFrom, splice_slot hstart, List.flatMap_cons]
      exact congrArg₂ (· ++ ·) rfl hrest

/-! ## Inputs -/

theorem length_inputMarker_pos : 0 < inputMarker.length := by
  decide

theorem apart_inputsFrom (h : n + s.length = stop) : Apart stop n (inputsFrom n s) := by
  fun_induction inputsFrom n s with
  | case1 n => exact Nat.le_of_eq h
  | case2 n c rest hmarker ih =>
    refine ⟨Nat.le_refl n, Nat.lt_add_of_pos_right length_inputMarker_pos, ih ?_⟩
    have hlength := (List.isPrefixOf_iff_prefix.1 hmarker).length_le
    have hpos := length_inputMarker_pos
    rw [List.length_cons] at h hlength
    rw [List.length_drop]
    omega
  | case3 n c rest hmarker ih =>
    refine (ih ?_).mono (Nat.le_succ n)
    rw [List.length_cons] at h
    omega

/-- Markers in a text that follows some other text are replaced in their places. -/
theorem splice_inputsFrom {first : CodePoint} {more value : Text}
    (hmarker : inputMarker = first :: more) (h : body = before ++ s) :
    splice body (fun _ => value) before.length (inputsFrom before.length s) =
      Search.replaceAll first more value s := by
  fun_induction Search.replaceAll first more value s generalizing before with
  | case1 => simp [h, inputsFrom, splice]
  | case2 c rest hprefix ih =>
    -- Both go on behind the marker in the body, so that no value is looked at again.
    obtain ⟨t, ht⟩ := List.isPrefixOf_iff_prefix.1 hprefix
    have hrest : more ++ rest.drop more.length = rest := by
      have ht : more ++ t = rest := (List.cons.inj ht).2
      rw [← ht, List.drop_left]
    have hbody : body = before ++ inputMarker ++ rest.drop more.length := by
      rw [h, hmarker, List.append_assoc, List.cons_append, hrest, (List.cons.inj ht).1]
    have hstart : (inputPlaceholder before.length).start = before.length := rfl
    have hlength : inputMarker.length - 1 = more.length := by rw [hmarker]; rfl
    have hsplice := ih hbody
    rw [List.length_append] at hsplice
    rw [inputsFrom, if_pos (hmarker ▸ hprefix), splice_slot hstart, hlength]
    exact congrArg (value ++ ·) hsplice
  | case3 c rest hprefix ih =>
    have hbody : body = before ++ [c] ++ rest := by simp [h]
    have hlength : before.length + 1 + rest.length = body.length := by simp [h]; omega
    have hrest := ih hbody
    rw [List.length_append] at hrest
    rw [inputsFrom, hmarker, if_neg hprefix, h, splice_point (apart_inputsFrom hlength), ← h]
    exact congrArg (c :: ·) hrest

/-! ## The list of placeholders -/

/-- Two lists that are told apart by a test come out of their merge again. -/
theorem filter_merge {α : Type} {le : α → α → Bool} {q : α → Bool} {b : Bool} {l r : List α}
    (hl : ∀ a ∈ l, q a = b) (hr : ∀ a ∈ r, q a = !b) :
    (l.merge r le).filter q = if b then l else r := by
  fun_induction List.merge l r le with
  | case1 r => cases b <;> simp_all
  | case2 l => cases b <;> simp_all
  | case3 a l c r hle ih =>
    rw [List.forall_mem_cons] at hl
    rw [List.filter_cons, hl.1, ih hl.2 hr]
    cases b <;> rfl
  | case4 a l c r hle ih =>
    rw [List.forall_mem_cons] at hr
    rw [List.filter_cons, hr.1, ih hl hr.2]
    cases b <;> rfl

theorem kind_of_mem_inputsFrom (h : p ∈ inputsFrom n s) : p.kind = .input := by
  fun_induction inputsFrom n s with
  | case1 => simp at h
  | case2 n c rest _ ih =>
    rcases List.mem_cons.1 h with rfl | h
    · rfl
    · exact ih h
  | case3 n c rest _ ih => exact ih h

theorem kind_of_mem_variablesFrom (h : p ∈ variablesFrom n segs) : p.kind = .named := by
  induction segs generalizing n with
  | nil => simp [variablesFrom] at h
  | cons seg segs ih =>
    cases seg with
    | point c => exact ih h
    | slot v =>
      rcases List.mem_cons.1 h with rfl | h
      · rfl
      · exact ih h

theorem ofKind_input : ofKind .input body = inputsFrom 0 body :=
  filter_merge (b := true) (fun p hp => by simp [kind_of_mem_inputsFrom hp])
    fun p hp => by simp [kind_of_mem_variablesFrom hp]

theorem ofKind_named : ofKind .named body = variablesFrom 0 (segments body) :=
  filter_merge (b := false) (fun p hp => by simp [kind_of_mem_inputsFrom hp])
    fun p hp => by simp [kind_of_mem_variablesFrom hp]

/-- Placeholders of one kind do not overlap. -/
theorem apart_ofKind (kind : PlaceholderKind) : Apart body.length 0 (ofKind kind body) := by
  cases kind with
  | input =>
    rw [ofKind_input]
    exact apart_inputsFrom (Nat.zero_add _)
  | named =>
    rw [ofKind_named]
    exact apart_variablesFrom (by rw [flatMap_spelling_segments, Nat.zero_add])

/-! ## The names of variables -/

theorem contains_iff {α : Type} {m : Mapping α} {name : Text} :
    m.contains name = true ↔ name ∈ m.keys := by
  induction m with
  | nil => simp [Mapping.contains, Mapping.get?, Mapping.keys]
  | cons entry m ih =>
    obtain ⟨k, v⟩ := entry
    by_cases hk : k = name
    · simp [Mapping.contains, Mapping.get?, Mapping.keys, hk]
    · unfold Mapping.contains Mapping.keys at ih
      simp [Mapping.contains, Mapping.get?, Mapping.keys, hk, Ne.symm hk, ih]

/-- One step of listing variables: a placeholder comes to the list unless its name is there. -/
def listVariable (m : Mapping (List Text)) (p : Placeholder) : Mapping (List Text) :=
  if p.kind = .named ∧ ¬ m.contains p.name then m ++ [(p.name, p.options.map trimOption)] else m

theorem variableOptions_eq : variableOptions body = (placeholders body).foldl listVariable [] :=
  rfl

theorem mem_keys_listVariable {m : Mapping (List Text)} {name : Text} :
    name ∈ (listVariable m p).keys ↔ name ∈ m.keys ∨ p.kind = .named ∧ p.name = name := by
  unfold listVariable
  split
  · next h => simp [Mapping.keys, h.1, eq_comm]
  · next h =>
    rw [contains_iff, not_and_not_right] at h
    constructor
    · exact .inl
    · rintro (hm | ⟨hk, rfl⟩)
      · exact hm
      · exact h hk

theorem mem_keys_foldl_listVariable {m : Mapping (List Text)} {name : Text} :
    name ∈ (ps.foldl listVariable m).keys ↔
      name ∈ m.keys ∨ ∃ p ∈ ps, p.kind = .named ∧ p.name = name := by
  induction ps generalizing m with
  | nil => simp
  | cons p ps ih =>
    rw [List.foldl_cons, ih, mem_keys_listVariable, List.exists_mem_cons_iff, or_assoc]

/-- **The variables of a body are the names of its placeholders for variables.** -/
theorem mem_keys_variableOptions {name : Text} :
    name ∈ (variableOptions body).keys ↔ ∃ p ∈ ofKind .named body, p.name = name := by
  rw [variableOptions_eq, mem_keys_foldl_listVariable]
  simp [ofKind, Mapping.keys, and_assoc]

/-! ## Rendering -/

theorem splice_variables : splice body (filling values) 0 (ofKind .named body) =
    (segments body).flatMap (·.resolve values) := by
  have hbody : body = [] ++ (segments body).flatMap Segment.spelling :=
    flatMap_spelling_segments.symm
  rw [ofKind_named]
  exact splice_variablesFrom hbody

theorem insertInput_eq_splice {v : Value} (h : values.get? inputName = some v) :
    insertInput values body = splice body (fun _ => v.display) 0 (ofKind .input body) := by
  have hsplice : ∀ {first more}, inputMarker = first :: more →
      splice body (fun _ => v.display) 0 (ofKind .input body) =
        Search.replaceAll first more v.display body := by
    intro first more hmarker
    have hbody : body = [] ++ body := rfl
    rw [ofKind_input]
    exact splice_inputsFrom hmarker hbody
  unfold insertInput
  simp only [h]
  split
  · next hnone => exact absurd hnone (by decide)
  · next hmarker => exact (hsplice hmarker).symm

/-- Variables are looked for in what is left after the input is put in. -/
theorem render_eq_splice : render body values = splice (insertInput values body) (filling values) 0
    (ofKind .named (insertInput values body)) :=
  splice_variables.symm

theorem insertInput_eq_self (h : values.get? inputName = none) :
    insertInput values body = body := by
  rw [insertInput, h]

/-- Values count for names that the body has. -/
theorem render_congr {other : Mapping Value} (h : values.get? inputName = none)
    (hother : other.get? inputName = none)
    (hnames : ∀ name ∈ (variableOptions body).keys, values.get? name = other.get? name) :
    render body values = render body other := by
  rw [render_eq_splice, render_eq_splice, insertInput_eq_self h, insertInput_eq_self hother]
  refine splice_congr fun p hp => ?_
  rw [filling, filling, hnames p.name (mem_keys_variableOptions.2 ⟨p, hp, rfl⟩)]

/-- **Rendering and the list of placeholders agree.**  Without an input, the rendered text is the
body with each variable on the list replaced in its place, by the value for its name or by its own
default, and all else as it was; no value is looked at again, and only the values for the listed
names count.  With an input the same holds of the body in which each marker on the list has been
replaced by it.  The places on the list are apart, so that each is replaced once. -/
theorem render_splices_placeholders (body : Text) (values : Mapping Value) :
    (∀ kind, Apart body.length 0 (ofKind kind body)) ∧
    (values.get? inputName = none →
      render body values = splice body (filling values) 0 (ofKind .named body) ∧
      ∀ other : Mapping Value, other.get? inputName = none →
        (∀ name ∈ (variableOptions body).keys, values.get? name = other.get? name) →
          render body values = render body other) ∧
    ∀ v, values.get? inputName = some v →
      ∀ given, given = splice body (fun _ => v.display) 0 (ofKind .input body) →
        render body values = splice given (filling values) 0 (ofKind .named given) := by
  refine ⟨apart_ofKind, fun h => ⟨?_, fun other hother hnames => ?_⟩, ?_⟩
  · rw [render_eq_splice, insertInput_eq_self h]
  · exact render_congr h hother hnames
  · rintro v hv given rfl
    rw [render_eq_splice, insertInput_eq_splice hv]

/-- Two variables without anything between them, and a marker. -/
def adjacent : Text :=
  Text.ofString "\x7b\x7bVAR:A:x,y\x7d\x7d\x7b\x7bVAR:B: d ,e\x7d\x7d\x7b\x7bINPUT\x7d\x7d"

/-- A value that is written like a variable. -/
def spelled : Value :=
  .string (Text.ofString "\x7b\x7bVAR:B:z\x7d\x7d")

/-- The body in which the value is the input. -/
def adjacentGiven : Text :=
  Text.ofString "\x7b\x7bVAR:A:x,y\x7d\x7d\x7b\x7bVAR:B: d ,e\x7d\x7d\x7b\x7bVAR:B:z\x7d\x7d"

/-- A value for a variable is put in as it is, and a value for another name does not count; as an
input the same value is put in first. -/
theorem render_splices_placeholders_adjacent :
    render adjacent [(Text.ofString "A", spelled)] =
        splice adjacent (filling [(Text.ofString "A", spelled)]) 0 (ofKind .named adjacent) ∧
      render adjacent [(Text.ofString "A", spelled)] =
        render adjacent [(Text.ofString "C", .null), (Text.ofString "A", spelled)] ∧
      render adjacent [(inputName, spelled)] =
        splice adjacentGiven (filling [(inputName, spelled)]) 0
          (ofKind .named adjacentGiven) := by
  obtain ⟨_, hwithout, _⟩ := render_splices_placeholders adjacent [(Text.ofString "A", spelled)]
  obtain ⟨_, _, hwith⟩ := render_splices_placeholders adjacent [(inputName, spelled)]
  obtain ⟨hsplice, hother⟩ := hwithout rfl
  refine ⟨hsplice, hother _ rfl fun name hname => ?_, hwith spelled rfl _ ?_⟩
  · have hnames : (ofKind .named adjacent).map (·.name) =
        [Text.ofString "A", Text.ofString "B"] := by
      rw [ofKind_named]
      with_unfolding_all rfl
    obtain ⟨p, hp, rfl⟩ := mem_keys_variableOptions.1 hname
    have hmem : p.name ∈ [Text.ofString "A", Text.ofString "B"] :=
      hnames ▸ List.mem_map_of_mem hp
    simp only [List.mem_cons, List.not_mem_nil, or_false] at hmem
    rcases hmem with h | h <;> rw [h] <;> rfl
  · rw [ofKind_input]
    with_unfolding_all rfl

end PromptLibrary.Proofs.Template.Splice
