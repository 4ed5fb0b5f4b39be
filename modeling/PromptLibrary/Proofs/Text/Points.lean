import PromptLibrary.Text.CodePoint
import Mathlib.Data.List.Basic
/-!
# Texts of characters

Most texts hold characters only, as `Text.ofChars` gives them: their parts are texts of characters
too, the characters come back from them, and no halves are there to be joined.
-/

namespace PromptLibrary.Proofs.Text.Points

variable {cs more text : List Char} {s r t : Text} {c : Char} {p : CodePoint}

theorem toNat_ofNat_of_isValidChar {n : Nat} (h : n.isValidChar) : (Char.ofNat n).toNat = n := by
  rw [Char.ofNat, dif_pos h]
  rfl

theorem ofChars_eq_cons (h : Text.ofChars cs = p :: r) :
    ∃ c more, cs = c :: more ∧ p = .char c ∧ r = Text.ofChars more := by
  obtain ⟨c, more, rfl, rfl, rfl⟩ := List.map_eq_cons_iff.1 h
  exact ⟨c, more, rfl, rfl, rfl⟩

theorem ofChars_eq_append (h : Text.ofChars cs = s ++ r) :
    ∃ front more, cs = front ++ more ∧ s = Text.ofChars front ∧ r = Text.ofChars more := by
  obtain ⟨front, more, rfl, rfl, rfl⟩ := List.map_eq_append_iff.1 h
  exact ⟨front, more, rfl, rfl, rfl⟩

theorem ofChars_inj (h : Text.ofChars cs = Text.ofChars more) : cs = more :=
  List.map_injective_iff.2 (fun _ _ => CodePoint.char.inj) h

theorem ofString_inj {a b : String} (h : Text.ofString a = Text.ofString b) : a = b :=
  String.toList_inj.1 (ofChars_inj h)

theorem ofString_eq_nil_iff {a : String} : Text.ofString a = [] ↔ a = "" := by
  simp [Text.ofString, Text.ofChars]

theorem wellFormed_ofChars : (Text.ofChars cs).WellFormed := by
  intro p hp
  obtain ⟨c, _, rfl⟩ := List.mem_map.1 hp
  exact ⟨c, rfl⟩

theorem wellFormed_ofString (a : String) : (Text.ofString a).WellFormed :=
  wellFormed_ofChars

@[simp]
theorem wellFormed_nil : Text.WellFormed [] :=
  List.forall_mem_nil _

@[simp]
theorem wellFormed_append : Text.WellFormed (s ++ r) ↔ s.WellFormed ∧ r.WellFormed :=
  List.forall_mem_append

@[simp]
theorem wellFormed_cons : Text.WellFormed (.char c :: r) ↔ r.WellFormed := by
  unfold Text.WellFormed
  simp

theorem exists_ofChars_of_wellFormed (h : t.WellFormed) : ∃ cs, t = Text.ofChars cs := by
  induction t with
  | nil => exact ⟨[], rfl⟩
  | cons p t ih =>
    obtain ⟨c, rfl⟩ := h p List.mem_cons_self
    obtain ⟨cs, rfl⟩ := ih (wellFormed_cons.1 h)
    exact ⟨c :: cs, rfl⟩

theorem not_mem_ofChars (h : c ∉ cs) : CodePoint.char c ∉ Text.ofChars cs := by
  intro hmem
  obtain ⟨d, hd, he⟩ := List.mem_map.1 hmem
  exact h (CodePoint.char.inj he ▸ hd)

theorem chars_ofChars (cs : List Char) : (Text.ofChars cs).chars? = some cs := by
  induction cs with
  | nil => rfl
  | cons c cs ih =>
    unfold Text.chars? at ih ⊢
    rw [Text.ofChars, List.map_cons, List.mapM_cons, ← Text.ofChars, ih]
    rfl

theorem eq_ofChars_of_chars (h : t.chars? = some text) : t = Text.ofChars text := by
  induction t generalizing text with
  | nil =>
    obtain rfl : [] = text := Option.some.inj h
    rfl
  | cons p t ih =>
    unfold Text.chars? at h ih
    rw [List.mapM_cons] at h
    cases p with
    | lead i => simp [CodePoint.char?] at h
    | trail i => simp [CodePoint.char?] at h
    | char c =>
      cases ht : t.mapM CodePoint.char? with
      | none => simp [CodePoint.char?, ht] at h
      | some cs =>
        obtain rfl : c :: cs = text := by simpa [CodePoint.char?, ht] using h
        rw [ih ht]
        rfl

theorem join_of_wellFormed (h : t.WellFormed) : t.join = t := by
  induction t with
  | nil => rfl
  | cons p t ih =>
    obtain ⟨c, rfl⟩ := h p List.mem_cons_self
    have hrest : Text.WellFormed t := fun q hq => h q (List.mem_cons_of_mem _ hq)
    rw [Text.join, ih hrest]
    simp

end PromptLibrary.Proofs.Text.Points
