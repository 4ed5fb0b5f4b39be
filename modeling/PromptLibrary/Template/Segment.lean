import PromptLibrary.Template.Options
/-!
# Segments of a template

A body falls into variables `{{VAR:name:options}}` and the code points between them. A variable is
taken wherever one begins, from the left and without overlap.
-/

namespace PromptLibrary.Template

/-- What stands for the input of the caller. -/
def inputMarker : Text := Text.ofString "\x7b\x7bINPUT\x7d\x7d"

/-- What a variable begins with. -/
def variableOpening : Text := Text.ofString "\x7b\x7bVAR:"

/-- What a variable ends with. -/
def variableClosing : Text := Text.ofString "\x7d\x7d"

/-- A variable in a body, its options as they are written. -/
structure Variable where
  name : Text
  options : Text
  deriving DecidableEq, Repr

/-- The variable as it is written. -/
def Variable.spelling (v : Variable) : Text :=
  variableOpening ++ v.name ++ .char ':' :: v.options ++ variableClosing

/-- Code points that a name may have. -/
def isNamePoint (p : CodePoint) : Bool :=
  p ≠ .char ':' && p ≠ .char '\x7d'

/-- Code points that options may have. -/
def isOptionPoint (p : CodePoint) : Bool :=
  p ≠ .char '\x7d'

/-- The variable at the front of a text, and the text after it. Neither part may be empty. -/
def variableAt? (s : Text) : Option (Variable × Text) :=
  match variableOpening.isPrefixOf? s with
  | none => none
  | some rest =>
    let name := rest.takeWhile isNamePoint
    match rest.dropWhile isNamePoint with
    | .char ':' :: more =>
      let options := more.takeWhile isOptionPoint
      if name = [] ∨ options = [] then none
      else (variableClosing.isPrefixOf? (more.dropWhile isOptionPoint)).map fun after =>
        (⟨name, options⟩, after)
    | _ => none

/-- A part of a body. -/
inductive Segment where
  | point (p : CodePoint)
  | slot (v : Variable)
  deriving DecidableEq, Repr

/-- The segment as it is written. -/
def Segment.spelling : Segment → Text
  | point p => [p]
  | slot v => v.spelling

theorem eq_append_of_isPrefixOf? {α : Type} [BEq α] [LawfulBEq α] {l s r : List α}
    (h : l.isPrefixOf? s = some r) : s = l ++ r := by
  induction l generalizing s with
  | nil => exact Option.some.inj h
  | cons a l ih =>
    cases s with
    | nil => exact nomatch h
    | cons b s =>
      change (if a == b then l.isPrefixOf? s else none) = some r at h
      split at h
      · next hab => rw [eq_of_beq hab, ih h]; rfl
      · exact nomatch h

/-- A variable is found only where it is written. -/
theorem eq_of_variableAt? {s after : Text} {v : Variable} (h : variableAt? s = some (v, after)) :
    s = v.spelling ++ after := by
  unfold variableAt? at h
  split at h
  · simp at h
  · next rest hr =>
    have hs := eq_append_of_isPrefixOf? hr
    have hn := List.takeWhile_append_dropWhile (p := isNamePoint) (l := rest)
    simp only at h
    split at h
    · next more hm =>
      have ho := List.takeWhile_append_dropWhile (p := isOptionPoint) (l := more)
      split at h
      · simp at h
      · simp only [Option.map_eq_some_iff, Prod.mk.injEq] at h
        obtain ⟨a, ha, rfl, rfl⟩ := h
        have hc := eq_append_of_isPrefixOf? ha
        rw [hm] at hn
        rw [hc] at ho
        simp only [Variable.spelling, List.append_assoc, List.cons_append]
        rw [ho, hn, hs]
    · simp at h

theorem length_variableAt_lt {s after : Text} {v : Variable}
    (h : variableAt? s = some (v, after)) : after.length < s.length := by
  rw [eq_of_variableAt? h]
  simp [Variable.spelling]
  omega

/-- The segments of a body. -/
def segments (s : Text) : List Segment :=
  match s with
  | [] => []
  | p :: rest =>
    match _h : variableAt? (p :: rest) with
    | some (v, after) => .slot v :: segments after
    | none => .point p :: segments rest
termination_by s.length
decreasing_by
  · exact length_variableAt_lt _h
  · exact Nat.lt_succ_self _

end PromptLibrary.Template
