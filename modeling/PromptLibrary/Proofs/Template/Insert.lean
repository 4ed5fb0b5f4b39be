import PromptLibrary.Template.Render
import PromptLibrary.Proofs.Text.Pieces
import PromptLibrary.Proofs.Text.Runs
/-!
# Input without braces

The input is put in before variables are looked for, so that a variable could in principle begin in
the body, run through the input and end in the body again.  No variable does so if every opening
brace before an input marker has a closing brace between it and the marker, and if the input has no
braces of its own.

* `exists_of_variableAt?_append` — a variable that begins in a closed text ends in it;
* `segments_append` — a closed text, an inert one and the rest have their segments on their own;
* `render_insert` — the body is rendered piece by piece, with the input between the pieces.
-/

namespace PromptLibrary.Proofs.Template.Insert

open PromptLibrary.Template
open PromptLibrary.Proofs.Text.Pieces
open PromptLibrary.Proofs.Text.Runs (takeWhile_eq_run head?_append_of_ne_nil)

/-- No opening brace stands after the last closing brace. -/
def Closed (s : Text) : Prop :=
  .char '\x7b' ∉ s.reverse.takeWhile (· ≠ .char '\x7d')

instance (s : Text) : Decidable (Closed s) :=
  inferInstanceAs (Decidable (_ ∉ _))

/-- No variable begins in a text, whatever follows it, and none ends with its first code point. -/
structure Inert (s : Text) : Prop where
  ne_nil : s ≠ []
  head : s.head? ≠ some (.char '\x7d')
  unopened : ∀ t ∈ s.tails, t ≠ [] → ¬ t <+: variableOpening ∧ ¬ variableOpening <+: t

def slot : Segment → List Variable
  | .point _ => []
  | .slot x => [x]

/-- The variables of a body, in order. -/
def slots (body : Text) : List Variable :=
  (segments body).flatMap slot

variable {s r w k body v : Text} {x : Variable} {c : CodePoint} {values : Mapping Value}
  {pieces : List Text}

/-! ## Variables as they are written -/

/-- What a variable may consist of. -/
structure Wellformed (x : Variable) : Prop where
  name_ne : x.name ≠ []
  name : ∀ c ∈ x.name, isNamePoint c = true
  options_ne : x.options ≠ []
  options : ∀ c ∈ x.options, isOptionPoint c = true

theorem isPrefixOf?_append {l : Text} : l.isPrefixOf? (l ++ r) = some r := by
  induction l with
  | nil => rfl
  | cons a l ih =>
    rw [List.cons_append, List.isPrefixOf?, beq_self_eq_true, if_pos rfl, ih]

theorem wellformed_of_variableAt? (h : variableAt? s = some (x, r)) : Wellformed x := by
  unfold variableAt? at h
  split at h
  · simp at h
  · next rest _ =>
    simp only at h
    split at h
    · next more _ =>
      split at h
      · simp at h
      · next hne =>
        rw [not_or] at hne
        simp only [Option.map_eq_some_iff, Prod.mk.injEq] at h
        obtain ⟨_, _, rfl, _⟩ := h
        exact ⟨hne.1, List.all_eq_true.1 List.all_takeWhile, hne.2,
          List.all_eq_true.1 List.all_takeWhile⟩
    · simp at h

theorem spelling_append : x.spelling ++ r = variableOpening ++
    (x.name ++ .char ':' :: (x.options ++ .char '\x7d' :: .char '\x7d' :: r)) := by
  have hclosing : variableClosing = [.char '\x7d', .char '\x7d'] := rfl
  simp [Variable.spelling, hclosing]

/-- A variable is found exactly where a well-formed one is written. -/
theorem variableAt?_eq_some_iff :
    variableAt? s = some (x, r) ↔ Wellformed x ∧ s = x.spelling ++ r := by
  constructor
  · exact fun h => ⟨wellformed_of_variableAt? h, eq_of_variableAt? h⟩
  · rintro ⟨⟨hname, hnames, hoptions, hpoints⟩, rfl⟩
    have hcolon : isNamePoint (.char ':') = false := rfl
    have hbrace : isOptionPoint (.char '\x7d') = false := rfl
    obtain ⟨hn, hn'⟩ := takeWhile_eq_run
      (r := .char ':' :: (x.options ++ .char '\x7d' :: .char '\x7d' :: r)) hnames
      (by simpa using hcolon)
    obtain ⟨ho, ho'⟩ := takeWhile_eq_run
      (r := .char '\x7d' :: .char '\x7d' :: r) hpoints (by simpa using hbrace)
    have hclosing : variableClosing.isPrefixOf? (.char '\x7d' :: .char '\x7d' :: r) = some r :=
      isPrefixOf?_append (l := variableClosing)
    have hne : ¬ (x.name = [] ∨ x.options = []) := not_or.2 ⟨hname, hoptions⟩
    rw [spelling_append, variableAt?, isPrefixOf?_append]
    simp only [hn, hn', ho, ho', hclosing, if_neg hne, Option.map_some]

/-! ## Variables at the front of a longer text -/

/-- The closing braces of a variable are its only ones. -/
theorem exists_inner (hx : Wellformed x) :
    ∃ inner, x.spelling = inner ++ [.char '\x7d', .char '\x7d'] ∧ .char '\x7d' ∉ inner ∧
      inner.head? = some (.char '\x7b') := by
  have hname : .char '\x7d' ∉ x.name := fun h => absurd (hx.name _ h) (by decide)
  have hoptions : .char '\x7d' ∉ x.options := fun h => absurd (hx.options _ h) (by decide)
  have hopening : .char '\x7d' ∉ variableOpening := by decide
  refine ⟨variableOpening ++ x.name ++ .char ':' :: x.options, rfl, ?_, rfl⟩
  simp [hname, hoptions, hopening]

theorem mem_of_closed (h : Closed s) (hmem : .char '\x7b' ∈ s) : .char '\x7d' ∈ s := by
  by_contra hfree
  have hrun : ∀ c ∈ s.reverse, decide (c ≠ .char '\x7d') = true :=
    fun c hc => decide_eq_true fun he => hfree (he ▸ List.mem_reverse.1 hc)
  have hwhole := (takeWhile_eq_run (r := []) hrun (by simp)).1
  rw [List.append_nil] at hwhole
  rw [Closed, hwhole, List.mem_reverse] at h
  exact h hmem

theorem closed_of_suffix (h : Closed s) (hk : k <:+ s) : Closed k := by
  obtain ⟨t, rfl⟩ := hk
  unfold Closed at h
  rw [List.reverse_append, List.takeWhile_append] at h
  intro hmem
  split at h
  · exact h (List.mem_append_left _ ((List.takeWhile_prefix _).subset hmem))
  · exact h hmem

/-- A variable that begins in a closed text ends in it, unless the next code point closes it. -/
theorem exists_of_variableAt?_append (hs : Closed s) (hne : s ≠ [])
    (hk : k.head? ≠ some (.char '\x7d')) (h : variableAt? (s ++ k) = some (x, r)) :
    ∃ after, variableAt? s = some (x, after) := by
  obtain ⟨hx, he⟩ := variableAt?_eq_some_iff.1 h
  simp only [variableAt?_eq_some_iff]
  rcases List.append_eq_append_iff.1 he with ⟨ending, hending, hk'⟩ | ⟨after, hafter, _⟩
  · obtain ⟨inner, hinner, hfree, hhead⟩ := exists_inner hx
    by_cases hnil : ending = []
    · exact ⟨[], hx, by rw [hending, hnil, List.append_nil, List.append_nil]⟩
    · obtain ⟨c, more, rfl⟩ := List.exists_cons_of_ne_nil hnil
      rcases List.append_eq_append_iff.1 (hinner.symm.trans hending) with
        ⟨front, _, hclosing⟩ | ⟨rest, hrest, _⟩
      · -- Only closing braces of the variable would be left to what follows.
        have hc : c ∈ [CodePoint.char '\x7d', .char '\x7d'] := by simp [hclosing]
        refine absurd ?_ hk
        rw [hk']
        simpa using hc
      · -- The opening brace would not be closed in the text.
        obtain ⟨d, t, rfl⟩ := List.exists_cons_of_ne_nil hne
        have hd : d = .char '\x7b' := by simpa [hrest] using hhead
        have hmem := mem_of_closed hs (hd ▸ List.mem_cons_self)
        exact absurd (hrest ▸ List.mem_append_left rest hmem) hfree
  · exact ⟨after, hx, hafter⟩

theorem variableAt?_append (h : variableAt? s = some (x, r)) :
    variableAt? (s ++ k) = some (x, r ++ k) := by
  obtain ⟨hx, rfl⟩ := variableAt?_eq_some_iff.1 h
  exact variableAt?_eq_some_iff.2 ⟨hx, List.append_assoc _ _ _⟩

/-! ## Segments of a longer text -/

theorem segments_of_some (h : variableAt? s = some (x, r)) :
    segments s = .slot x :: segments r := by
  cases s with
  | nil => simp [variableAt?_eq_some_iff, Variable.spelling] at h
  | cons c s =>
    rw [segments]
    split
    · next hx =>
      obtain ⟨rfl, rfl⟩ : x = _ ∧ r = _ := by simpa using h.symm.trans hx
      rfl
    · next hnone => simp [h] at hnone

theorem segments_of_none (h : variableAt? (c :: s) = none) :
    segments (c :: s) = .point c :: segments s := by
  rw [segments]
  split
  · next hx => simp [h] at hx
  · rfl

/-- A text that is no part of the opening of a variable does not begin one. -/
theorem variableAt?_eq_none (h : ¬ s <+: variableOpening ∧ ¬ variableOpening <+: s) :
    variableAt? (s ++ r) = none := by
  by_contra hsome
  obtain ⟨⟨x, rest⟩, hx⟩ := Option.ne_none_iff_exists'.1 hsome
  have hspelling := (variableAt?_eq_some_iff.1 hx).2
  rw [spelling_append] at hspelling
  have hopening : variableOpening <+: s ++ r := hspelling ▸ List.prefix_append _ _
  rcases List.prefix_or_prefix_of_prefix hopening (List.prefix_append s r) with hs | hs
  · exact h.2 hs
  · exact h.1 hs

theorem segments_inert
    (hw : ∀ t ∈ w.tails, t ≠ [] → ¬ t <+: variableOpening ∧ ¬ variableOpening <+: t) :
    segments (w ++ r) = w.map .point ++ segments r := by
  induction w with
  | nil => rfl
  | cons c w ih =>
    rw [List.tails_cons, List.forall_mem_cons] at hw
    have hnone := variableAt?_eq_none (r := r) (hw.1 (List.cons_ne_nil c w))
    rw [List.cons_append] at hnone
    rw [List.cons_append, segments_of_none hnone, ih hw.2]
    rfl

theorem segments_append (hs : Closed s) (hw : Inert w) :
    segments (s ++ (w ++ r)) = segments s ++ (w.map .point ++ segments r) := by
  have hk : (w ++ r).head? ≠ some (.char '\x7d') := by
    rw [head?_append_of_ne_nil hw.ne_nil]
    exact hw.head
  fun_induction segments s with
  | case1 => exact segments_inert hw.unopened
  | case2 c s x after h ih =>
    have hafter : after <:+ c :: s := ⟨x.spelling, (eq_of_variableAt? h).symm⟩
    rw [segments_of_some (variableAt?_append h), ih (closed_of_suffix hs hafter)]
    rfl
  | case3 c s h ih =>
    have hnone : variableAt? (c :: (s ++ (w ++ r))) = none := by
      by_contra hsome
      obtain ⟨⟨x, rest⟩, hx⟩ := Option.ne_none_iff_exists'.1 hsome
      obtain ⟨after, hafter⟩ := exists_of_variableAt?_append hs (List.cons_ne_nil c s) hk hx
      rw [h] at hafter
      exact absurd hafter (by simp)
    rw [List.cons_append, segments_of_none hnone,
      ih (closed_of_suffix hs (List.suffix_cons c s))]
    rfl

/-- The segments of pieces with inert text between them. -/
theorem segments_joinWith (hw : Inert w) (hpieces : pieces ≠ [])
    (hclosed : ∀ piece ∈ pieces.dropLast, Closed piece) :
    segments (Search.joinWith w pieces) =
      Search.joinWith (w.map .point) (pieces.map segments) := by
  induction pieces with
  | nil => exact absurd rfl hpieces
  | cons piece rest ih =>
    by_cases he : rest = []
    · subst he
      rw [joinWith_singleton, List.map_singleton, joinWith_singleton]
    · rw [List.dropLast_cons_of_ne_nil he, List.forall_mem_cons] at hclosed
      rw [joinWith_cons he, segments_append hclosed.1 hw, ih he hclosed.2, List.map_cons,
        joinWith_cons (by simpa using he)]

/-! ## Inert texts -/

theorem inert_of_braceless (hne : v ≠ []) (hopen : .char '\x7b' ∉ v)
    (hclose : .char '\x7d' ∉ v) : Inert v := by
  refine ⟨hne, fun h => hclose (List.mem_of_mem_head? h), fun t ht htne => ?_⟩
  obtain ⟨c, t, rfl⟩ := List.exists_cons_of_ne_nil htne
  have hc : c ∈ v := ((List.mem_tails _ _).1 ht).subset List.mem_cons_self
  have hopening : variableOpening = .char '\x7b' :: variableOpening.tail := rfl
  rw [hopening, List.cons_prefix_cons, List.cons_prefix_cons]
  exact ⟨fun h => hopen (h.1 ▸ hc), fun h => hopen (h.1 ▸ hc)⟩

theorem inert_inputMarker : Inert inputMarker :=
  ⟨by decide, by decide, by decide⟩

theorem unbordered_inputMarker : Unbordered inputMarker := by
  decide

/-! ## Rendering piece by piece -/

theorem insertInput_eq {value : Value} (hvalue : values.get? inputName = some value)
    (h : Cut inputMarker body pieces) :
    insertInput values body = Search.joinWith value.display pieces := by
  have hreplace : ∀ {first more}, inputMarker = first :: more →
      Search.replaceAll first more value.display body = Search.joinWith value.display pieces := by
    intro first more hmarker
    exact replaceAll_of_cut (hmarker ▸ unbordered_inputMarker) (hmarker ▸ h)
  unfold insertInput
  simp only [hvalue]
  split
  · next hnone => exact absurd hnone (by decide)
  · next hmarker => exact hreplace hmarker

theorem insertInput_of_free (h : ¬ inputMarker <:+: s) : insertInput values s = s := by
  cases hvalue : values.get? inputName with
  | none => rw [insertInput, hvalue]
  | some value =>
    have hcut : Cut inputMarker s [s] :=
      ⟨List.cons_ne_nil s [], joinWith_singleton, by simpa using h⟩
    rw [insertInput_eq hvalue hcut, joinWith_singleton]

theorem render_of_free (h : ¬ inputMarker <:+: s) :
    render s values = (segments s).flatMap (·.resolve values) := by
  rw [render, insertInput_of_free h]

theorem render_eq_joinWith (hv : values.get? inputName = some (.string v)) (hw : Inert v)
    (h : Cut inputMarker body pieces) (hclosed : ∀ piece ∈ pieces.dropLast, Closed piece) :
    render body values = Search.joinWith v (pieces.map (render · values)) := by
  have hsegments : segments (insertInput values body) =
      Search.joinWith (v.map .point) (pieces.map segments) := by
    rw [insertInput_eq hv h]
    exact segments_joinWith hw h.ne_nil hclosed
  have hinput : (v.map Segment.point).flatMap (·.resolve values) = v := by
    rw [List.flatMap_map]
    exact List.flatMap_singleton' v
  have hpieces : (pieces.map segments).map (fun segs => segs.flatMap (·.resolve values)) =
      pieces.map (render · values) := by
    rw [List.map_map]
    exact List.map_congr_left fun piece hp => (render_of_free (h.free piece hp)).symm
  rw [render, hsegments, flatMap_joinWith, hinput, hpieces]

/-- Inert text between pieces is no part of a variable. -/
theorem slots_joinWith (hw : Inert w) (hpieces : pieces ≠ [])
    (hclosed : ∀ piece ∈ pieces.dropLast, Closed piece) :
    slots (Search.joinWith w pieces) = Search.joinWith [] (pieces.map slots) := by
  have hpoints : (w.map Segment.point).flatMap slot = [] := by
    rw [List.flatMap_map]
    exact List.flatMap_eq_nil_iff.2 fun _ _ => rfl
  rw [slots, segments_joinWith hw hpieces hclosed, flatMap_joinWith, hpoints, List.map_map]
  rfl

/-- **Input without braces changes no variable.**  There is one way to cut a body at its input
markers.  If every piece but the last is closed, the body is rendered piece by piece, each piece on
its own, with the input between them as it is; and the text that the input has been put into has
the variables of the body, in the same order. -/
theorem render_insert (body : Text) :
    (∃! pieces, Cut inputMarker body pieces) ∧
    ∀ pieces, Cut inputMarker body pieces → (∀ piece ∈ pieces.dropLast, Closed piece) →
      ∀ (v : Text) (values : Mapping Value), v ≠ [] → .char '\x7b' ∉ v → .char '\x7d' ∉ v →
        values.get? inputName = some (.string v) →
          render body values = Search.joinWith v (pieces.map (render · values)) ∧
          slots (insertInput values body) = slots body := by
  refine ⟨existsUnique_cut (by decide) unbordered_inputMarker body, ?_⟩
  intro pieces h hclosed v values hne hopen hclose hv
  have hinert := inert_of_braceless hne hopen hclose
  refine ⟨render_eq_joinWith hv hinert h hclosed, ?_⟩
  calc slots (insertInput values body)
      = Search.joinWith [] (pieces.map slots) := by
        rw [insertInput_eq hv h]
        exact slots_joinWith hinert h.ne_nil hclosed
    _ = slots body := by
        rw [← slots_joinWith inert_inputMarker h.ne_nil hclosed, h.joined]

/-- Variables on both sides of a marker, the second one named like the input. -/
def around : List Text :=
  [Text.ofString "\x7b\x7bVAR:A:x\x7d\x7d", Text.ofString "\x7b\x7bVAR:input:y\x7d\x7d"]

/-- An input of marks that mean something inside of variables. -/
theorem render_insert_around :
    Cut inputMarker (Search.joinWith inputMarker around) around ∧
      (∀ piece ∈ around.dropLast, Closed piece) ∧
      render (Search.joinWith inputMarker around) [(inputName, .string (Text.ofString ":v,"))] =
        Text.ofString "x:v,:v," := by
  have hcut : Cut inputMarker (Search.joinWith inputMarker around) around :=
    ⟨by decide, rfl, by decide⟩
  have hclosed : ∀ piece ∈ around.dropLast, Closed piece := by decide
  obtain ⟨hrender, _⟩ := (render_insert _).2 around hcut hclosed (Text.ofString ":v,")
    [(inputName, .string (Text.ofString ":v,"))] (by decide) (by decide) (by decide) rfl
  refine ⟨hcut, hclosed, hrender.trans ?_⟩
  with_unfolding_all rfl

/-- A marker inside a variable follows a piece that is not closed. -/
example : ¬ Closed (Text.ofString "\x7b\x7bVAR:A:") := by
  decide

end PromptLibrary.Proofs.Template.Insert
