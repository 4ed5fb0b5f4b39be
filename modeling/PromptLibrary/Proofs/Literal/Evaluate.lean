import PromptLibrary.Proofs.Literal.Recognition
/-!
# What evaluation gives

A text that evaluates to templates is an object all of whose members are strings; the templates are
its members, and the warnings are its keys that came again.
-/

namespace PromptLibrary.Proofs.Literal.Evaluate

open PromptLibrary.Literal

variable {policy : Interpolation} {text : List Char} {members : List (Text × Value)}
  {templates : Mapping Text} {m : Evaluated (Mapping Text)}

/-- The members of an object that are strings. -/
def asMembers (templates : Mapping Text) : List (Text × Value) :=
  templates.map fun (key, body) => (key, .string body)

/-- The keys that came again, with their places in the text. -/
def warningsIn (text : List Char) (p : Parsed) : List DuplicateKey :=
  p.duplicates.map fun d => ⟨d.key, text.length - d.rest.length⟩

theorem eq_asMembers_of_templatesOf (h : templatesOf members = .ok templates) :
    members = asMembers templates := by
  induction members generalizing templates with
  | nil =>
    obtain rfl : [] = templates := Except.ok.inj h
    rfl
  | cons member members ih =>
    obtain ⟨key, v⟩ := member
    cases v with
    | string body =>
      rw [templatesOf, map_eq_ok] at h
      obtain ⟨rest, hrest, rfl⟩ := h
      rw [ih hrest]
      rfl
    | _ => simp [templatesOf] at h

/-- Templates are the strings of the object that was parsed, in the order of its members. -/
theorem exists_of_evaluate (h : evaluate policy text = .ok m) :
    ∃ p, parseWithin depthLimit policy text = .ok p ∧ p.value = .object (asMembers m.value) ∧
      warningsIn text p = m.warnings := by
  unfold evaluate parseValue at h
  cases hp : parseWithin depthLimit policy text with
  | error e => simp [hp, bind, Except.bind] at h
  | ok p =>
    refine ⟨p, rfl, ?_⟩
    simp only [hp, bind, Except.bind] at h
    split at h
    · next members hv =>
      cases ht : templatesOf members with
      | error e => simp [ht] at h
      | ok templates =>
        simp only [ht, pure, Except.pure, Except.ok.injEq] at h
        rw [← h, hv, eq_asMembers_of_templatesOf ht]
        exact ⟨rfl, rfl⟩
    · simp [throw, throwThe, MonadExceptOf.throw] at h

end PromptLibrary.Proofs.Literal.Evaluate
