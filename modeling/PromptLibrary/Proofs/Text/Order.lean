import PromptLibrary.Text.CodePoint
import Mathlib.Data.List.Basic
/-!
# The order of texts

A text comes before those that it begins, and before those with a greater code point at the first
place where they differ.  This is a linear order, since no two code points have one number, so that
a list of texts has exactly one ascending rearrangement, which sorting gives (`eq_mergeSort`).
-/

namespace PromptLibrary.Proofs.Text.Order

/-- A text comes before another one by their code points, or is the same. -/
def Precedes (s t : Text) : Prop :=
  s <+: t ∨ ∃ front p q s' t', s = front ++ p :: s' ∧ t = front ++ q :: t' ∧ p.toNat < q.toNat

/-- Each text of a list comes before those behind it. -/
def Ascending (ts : List Text) : Prop :=
  ts.Pairwise Precedes

variable {r s t : Text} {ts us : List Text} {p q : CodePoint}

/-- No character has a number of a surrogate half. -/
theorem toNat_injective (h : p.toNat = q.toNat) : p = q := by
  have hchar : ∀ c : Char, c.toNat < 0xD800 ∨ 0xDFFF < c.toNat := fun c => c.valid.imp id And.left
  cases p with
  | char c =>
    have hc := hchar c
    cases q with
    | char d => exact congrArg CodePoint.char (Char.toNat_inj.1 h)
    | lead i => simp only [CodePoint.toNat] at h; omega
    | trail i => simp only [CodePoint.toNat] at h; omega
  | lead i =>
    cases q with
    | char d =>
      have hd := hchar d
      simp only [CodePoint.toNat] at h
      omega
    | lead j => exact congrArg CodePoint.lead (Fin.ext (Nat.add_left_cancel h))
    | trail j => simp only [CodePoint.toNat] at h; omega
  | trail i =>
    cases q with
    | char d =>
      have hd := hchar d
      simp only [CodePoint.toNat] at h
      omega
    | lead j => simp only [CodePoint.toNat] at h; omega
    | trail j => exact congrArg CodePoint.trail (Fin.ext (Nat.add_left_cancel h))

/-! ## A linear order -/

theorem precedes_cons_iff : Precedes (p :: s) (q :: t) ↔
    p.toNat < q.toNat ∨ p = q ∧ Precedes s t := by
  constructor
  · rintro (hstart | ⟨front, a, b, s', t', hs, ht, hlt⟩)
    · obtain ⟨rfl, hst⟩ := List.cons_prefix_cons.1 hstart
      exact .inr ⟨rfl, .inl hst⟩
    · cases front with
      | nil =>
        obtain ⟨rfl, rfl⟩ := List.cons.inj hs
        obtain ⟨rfl, rfl⟩ := List.cons.inj ht
        exact .inl hlt
      | cons c front =>
        obtain ⟨rfl, rfl⟩ := List.cons.inj hs
        obtain ⟨rfl, rfl⟩ := List.cons.inj ht
        exact .inr ⟨rfl, .inr ⟨front, a, b, s', t', rfl, rfl, hlt⟩⟩
  · rintro (hlt | ⟨rfl, hstart | ⟨front, a, b, s', t', rfl, rfl, hlt⟩⟩)
    · exact .inr ⟨[], p, q, s, t, rfl, rfl, hlt⟩
    · exact .inl (List.cons_prefix_cons.2 ⟨rfl, hstart⟩)
    · exact .inr ⟨p :: front, a, b, s', t', rfl, rfl, hlt⟩

theorem precedes_nil : Precedes [] t :=
  .inl (List.nil_prefix)

theorem not_precedes_nil : ¬ Precedes (p :: s) [] := by
  rintro (hstart | ⟨front, a, b, s', t', _, ht, _⟩)
  · exact List.cons_ne_nil p s (List.prefix_nil.1 hstart)
  · cases front <;> simp at ht

/-- The comparison by which texts are sorted decides the order. -/
theorem le_iff : Text.le s t = true ↔ Precedes s t := by
  fun_induction Text.le s t with
  | case1 t => exact iff_of_true rfl precedes_nil
  | case2 p s => exact iff_of_false Bool.false_ne_true not_precedes_nil
  | case3 p s q t hlt => exact iff_of_true rfl (precedes_cons_iff.2 (.inl hlt))
  | case4 p s q t hge hlt =>
    refine iff_of_false Bool.false_ne_true fun h => ?_
    rcases precedes_cons_iff.1 h with h | ⟨rfl, _⟩
    · exact hge h
    · exact Nat.lt_irrefl _ hlt
  | case5 p s q t hge hle ih =>
    obtain rfl : p = q := toNat_injective (Nat.le_antisymm (Nat.not_lt.1 hle) (Nat.not_lt.1 hge))
    rw [ih, precedes_cons_iff]
    simp

theorem precedes_total (s t : Text) : Precedes s t ∨ Precedes t s := by
  induction s generalizing t with
  | nil => exact .inl precedes_nil
  | cons p s ih =>
    cases t with
    | nil => exact .inr precedes_nil
    | cons q t =>
      rcases Nat.lt_trichotomy p.toNat q.toNat with hlt | heq | hlt
      · exact .inl (precedes_cons_iff.2 (.inl hlt))
      · obtain rfl := toNat_injective heq
        exact (ih t).imp (fun h => precedes_cons_iff.2 (.inr ⟨rfl, h⟩))
          fun h => precedes_cons_iff.2 (.inr ⟨rfl, h⟩)
      · exact .inr (precedes_cons_iff.2 (.inl hlt))

theorem precedes_trans (hrs : Precedes r s) (hst : Precedes s t) : Precedes r t := by
  induction r generalizing s t with
  | nil => exact precedes_nil
  | cons a r ih =>
    cases s with
    | nil => exact absurd hrs not_precedes_nil
    | cons b s =>
      cases t with
      | nil => exact absurd hst not_precedes_nil
      | cons c t =>
        rw [precedes_cons_iff] at hrs hst ⊢
        rcases hrs with hab | ⟨rfl, hrs⟩
        · rcases hst with hbc | ⟨rfl, _⟩
          · exact .inl (Nat.lt_trans hab hbc)
          · exact .inl hab
        · exact hst.imp_right fun ⟨hbc, hst⟩ => ⟨hbc, ih hrs hst⟩

theorem precedes_antisymm (hst : Precedes s t) (hts : Precedes t s) : s = t := by
  induction s generalizing t with
  | nil =>
    cases t with
    | nil => rfl
    | cons q t => exact absurd hts not_precedes_nil
  | cons p s ih =>
    cases t with
    | nil => exact absurd hst not_precedes_nil
    | cons q t =>
      rw [precedes_cons_iff] at hst hts
      rcases hst with hlt | ⟨rfl, hst⟩
      · rcases hts with hgt | ⟨rfl, _⟩
        · exact absurd hlt (Nat.lt_asymm hgt)
        · exact absurd hlt (Nat.lt_irrefl _)
      · rcases hts with hlt | ⟨_, hts⟩
        · exact absurd hlt (Nat.lt_irrefl _)
        · rw [ih hst hts]

/-! ## Sorting -/

theorem ascending_mergeSort (ts : List Text) : Ascending (ts.mergeSort Text.le) := by
  have htrans : ∀ a b c, Text.le a b = true → Text.le b c = true → Text.le a c = true :=
    fun a b c hab hbc => le_iff.2 (precedes_trans (le_iff.1 hab) (le_iff.1 hbc))
  have htotal : ∀ a b, (Text.le a b || Text.le b a) = true := by
    intro a b
    rw [Bool.or_eq_true, le_iff, le_iff]
    exact precedes_total a b
  exact (List.pairwise_mergeSort htrans htotal ts).imp le_iff.1

/-- **An ascending rearrangement is the sorted list**, whatever the order before. -/
theorem eq_mergeSort (hts : Ascending ts) (h : ts.Perm us) : ts = us.mergeSort Text.le :=
  List.Perm.eq_of_pairwise (fun _ _ _ _ hab hba => precedes_antisymm hab hba) hts
    (ascending_mergeSort us) (h.trans (List.mergeSort_perm us Text.le).symm)

end PromptLibrary.Proofs.Text.Order
