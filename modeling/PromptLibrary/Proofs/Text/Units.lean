import PromptLibrary.Proofs.Text.Points
/-!
# Code units

A text as a row of 16-bit units.  Half of a surrogate pair is one unit, and a character beyond the
first 0x10000 is a pair of them, so texts that differ in their code points may have the same units.

* `units_join` — joining neighbouring halves keeps the units;
* `ofChars_inj_of_units` — texts of characters are told apart by their units;
* `wellFormed_join_iff` — joining leaves a half over exactly if a unit stands unpaired.
-/

namespace PromptLibrary.Proofs.Text.Units

open PromptLibrary.Proofs.Text.Points

/-- The first units of pairs. -/
def IsHigh (u : Nat) : Prop :=
  0xD800 ≤ u ∧ u < 0xDC00

/-- The second units of pairs. -/
def IsLow (u : Nat) : Prop :=
  0xDC00 ≤ u ∧ u < 0xE000

def pointUnits : CodePoint → List Nat
  | .char c =>
    if c.toNat < 0x10000 then [c.toNat]
    else [0xD800 + (c.toNat - 0x10000) / 1024, 0xDC00 + (c.toNat - 0x10000) % 1024]
  | .lead i => [0xD800 + i]
  | .trail i => [0xDC00 + i]

def units (t : PromptLibrary.Text) : List Nat :=
  t.flatMap pointUnits

/-- A first unit has no second one behind it, or a second unit no first one in front of it. -/
def Unpaired (us : List Nat) : Prop :=
  ∃ front u back, us = front ++ u :: back ∧
    ((IsHigh u ∧ ∀ v ∈ back.head?, ¬ IsLow v) ∨ (IsLow u ∧ ∀ v ∈ front.getLast?, ¬ IsHigh v))

variable {t r : PromptLibrary.Text} {p : CodePoint} {c d : Char} {cs ds : List Char}
  {a b : Fin 1024} {u v : Nat} {us ws : List Nat}

theorem units_cons : units (p :: t) = pointUnits p ++ units t :=
  rfl

theorem units_append : units (t ++ r) = units t ++ units r :=
  List.flatMap_append

theorem units_flatten {ts : List PromptLibrary.Text} : units ts.flatten = ts.flatMap units := by
  induction ts with
  | nil => rfl
  | cons t ts ih => rw [List.flatten_cons, units_append, ih, List.flatMap_cons]

/-! ## Units of characters -/

theorem toNat_bounds (c : Char) : c.toNat < 0xD800 ∨ 0xDFFF < c.toNat ∧ c.toNat < 0x110000 :=
  c.valid

theorem toNat_surrogatePair : (surrogatePair a b).toNat = 0x10000 + a * 1024 + b := by
  have hvalid : (0x10000 + a.val * 1024 + b.val).isValidChar := by
    right
    omega
  exact Points.toNat_ofNat_of_isValidChar hvalid

theorem pointUnits_surrogatePair :
    pointUnits (.char (surrogatePair a b)) = pointUnits (.lead a) ++ pointUnits (.trail b) := by
  have hbeyond : ¬ 0x10000 + a.val * 1024 + b.val < 0x10000 := by omega
  have hhigh : (0x10000 + a.val * 1024 + b.val - 0x10000) / 1024 = a := by omega
  have hlow : (0x10000 + a.val * 1024 + b.val - 0x10000) % 1024 = b := by omega
  simp only [pointUnits, toNat_surrogatePair, if_neg hbeyond, hhigh, hlow]
  rfl

/-- **Joining halves keeps the units.** -/
theorem units_join (t : PromptLibrary.Text) : units t.join = units t := by
  fun_induction Text.join t with
  | case1 a b rest ih =>
    rw [units_cons, units_cons, units_cons, pointUnits_surrogatePair, List.append_assoc, ih]
  | case2 p rest _ ih => rw [units_cons, units_cons, ih]
  | case3 => rfl

/-- The units of a character and what follows them: one that is no half, or a pair. -/
theorem pointUnits_char (c : Char) :
    (∃ u, pointUnits (.char c) = [u] ∧ c.toNat = u ∧ ¬ IsHigh u ∧ ¬ IsLow u) ∨
    ∃ u v, pointUnits (.char c) = [u, v] ∧ IsHigh u ∧ IsLow v ∧
      c.toNat = 0x10000 + (u - 0xD800) * 1024 + (v - 0xDC00) := by
  have hc := toNat_bounds c
  simp only [pointUnits, IsHigh, IsLow]
  by_cases hbasic : c.toNat < 0x10000
  · rw [if_pos hbasic]
    exact .inl ⟨_, rfl, rfl, by omega, by omega⟩
  · rw [if_neg hbasic]
    exact .inr ⟨_, _, rfl, by omega, by omega, by omega⟩

/-- The first character is told by the units, whatever follows it. -/
theorem char_inj_of_units (h : pointUnits (.char c) ++ us = pointUnits (.char d) ++ ws) :
    c = d ∧ us = ws := by
  rcases pointUnits_char c with ⟨u, hc, hcu, hhigh, _⟩ | ⟨u, v, hc, hhigh, _, hcu⟩ <;>
    rcases pointUnits_char d with ⟨x, hd, hdx, hhigh', _⟩ | ⟨x, y, hd, hhigh', _, hdx⟩ <;>
    rw [hc, hd] at h <;>
    simp only [List.cons_append, List.nil_append, List.cons.injEq] at h
  · obtain ⟨rfl, rfl⟩ := h
    exact ⟨Char.toNat_inj.1 (hcu.trans hdx.symm), rfl⟩
  · exact absurd (h.1 ▸ hhigh') hhigh
  · exact absurd (h.1 ▸ hhigh) hhigh'
  · obtain ⟨rfl, rfl, rfl⟩ := h
    exact ⟨Char.toNat_inj.1 (hcu.trans hdx.symm), rfl⟩

theorem pointUnits_ne_nil : pointUnits p ≠ [] := by
  cases p with
  | char c => rcases pointUnits_char c with ⟨u, h, _⟩ | ⟨u, v, h, _⟩ <;> rw [h] <;> simp
  | lead i | trail i => simp [pointUnits]

/-- **Texts of characters are told apart by their units.** -/
theorem ofChars_inj_of_units (h : units (Text.ofChars cs) = units (Text.ofChars ds)) :
    cs = ds := by
  induction cs generalizing ds with
  | nil =>
    cases ds with
    | nil => rfl
    | cons d ds => exact absurd (List.append_eq_nil_iff.1 h.symm).1 pointUnits_ne_nil
  | cons c cs ih =>
    cases ds with
    | nil => exact absurd (List.append_eq_nil_iff.1 h).1 pointUnits_ne_nil
    | cons d ds =>
      obtain ⟨rfl, hrest⟩ := char_inj_of_units h
      rw [ih hrest]

/-! ## Unpaired units -/

theorem not_unpaired_nil : ¬ Unpaired [] := by
  rintro ⟨front, u, back, h, _⟩
  simp at h

/-- A second unit at the front has nothing to be paired with. -/
theorem unpaired_of_isLow (h : IsLow u) : Unpaired (u :: us) :=
  ⟨[], u, us, rfl, .inr ⟨h, by simp⟩⟩

theorem unpaired_of_isHigh (h : IsHigh u) (hnext : ∀ v ∈ us.head?, ¬ IsLow v) :
    Unpaired (u :: us) :=
  ⟨[], u, us, rfl, .inl ⟨h, hnext⟩⟩

/-- A unit in front that is no first half pairs with nothing behind it. -/
theorem getLast_cons_iff {front : List Nat} (h : ¬ IsHigh u) :
    (∀ v ∈ (u :: front).getLast?, ¬ IsHigh v) ↔ ∀ v ∈ front.getLast?, ¬ IsHigh v := by
  rw [List.getLast?_cons]
  cases front.getLast? <;> simp [h]

theorem unpaired_of_unpaired_cons (hu : ¬ IsHigh u) (h : Unpaired us) : Unpaired (u :: us) := by
  obtain ⟨front, w, back, rfl, hw⟩ := h
  exact ⟨u :: front, w, back, rfl, by rwa [getLast_cons_iff hu]⟩

theorem unpaired_cons_iff (hhigh : ¬ IsHigh u) (hlow : ¬ IsLow u) :
    Unpaired (u :: us) ↔ Unpaired us := by
  refine ⟨?_, unpaired_of_unpaired_cons hhigh⟩
  rintro ⟨front, w, back, h, hw⟩
  cases front with
  | nil =>
    obtain ⟨rfl, rfl⟩ := List.cons.inj h
    exact absurd hw (by simp [hhigh, hlow])
  | cons x front =>
    obtain ⟨rfl, rfl⟩ := List.cons.inj h
    exact ⟨front, w, back, rfl, by rwa [getLast_cons_iff hhigh] at hw⟩

theorem not_isHigh_of_isLow (h : IsLow u) : ¬ IsHigh u := by
  unfold IsHigh IsLow at *
  omega

theorem unpaired_pair_iff (hu : IsHigh u) (hv : IsLow v) :
    Unpaired (u :: v :: us) ↔ Unpaired us := by
  have hulow : ¬ IsLow u := fun h => not_isHigh_of_isLow h hu
  have hvhigh := not_isHigh_of_isLow hv
  have hlast {front : List Nat} : (u :: v :: front).getLast? = (v :: front).getLast? :=
    List.getLast?_cons_cons
  constructor
  · rintro ⟨_ | ⟨x, _ | ⟨y, front⟩⟩, w, back, h, hw⟩ <;>
      simp only [List.cons_append, List.nil_append, List.cons.injEq] at h
    · obtain ⟨rfl, rfl⟩ := h
      exact absurd hw (by simp [hv, hulow])
    · obtain ⟨rfl, rfl, rfl⟩ := h
      exact absurd hw (by simp [hvhigh, hu])
    · obtain ⟨rfl, rfl, rfl⟩ := h
      rw [hlast, getLast_cons_iff hvhigh] at hw
      exact ⟨front, w, back, rfl, hw⟩
  · rintro ⟨front, w, back, rfl, hw⟩
    refine ⟨u :: v :: front, w, back, rfl, ?_⟩
    rwa [hlast, getLast_cons_iff hvhigh]

/-! ## Texts that pair up -/

theorem unpaired_char_cons_iff : Unpaired (units (.char c :: t)) ↔ Unpaired (units t) := by
  rw [units_cons]
  rcases pointUnits_char c with ⟨u, hc, _, hhigh, hlow⟩ | ⟨u, v, hc, hhigh, hlow, _⟩ <;> rw [hc]
  · exact unpaired_cons_iff hhigh hlow
  · exact unpaired_pair_iff hhigh hlow

theorem isHigh_lead : IsHigh (0xD800 + a) := by
  unfold IsHigh
  omega

theorem isLow_trail : IsLow (0xDC00 + b) := by
  unfold IsLow
  omega

/-- Only a second half begins with a second unit. -/
theorem head_units_not_isLow (h : ∀ b rest, t ≠ .trail b :: rest) :
    ∀ v ∈ (units t).head?, ¬ IsLow v := by
  cases t with
  | nil => simp [units]
  | cons p t =>
    cases p with
    | trail b => exact absurd rfl (h b t)
    | lead a =>
      simp only [units_cons, pointUnits, List.cons_append, List.head?_cons, Option.mem_some_iff,
        forall_eq']
      exact fun hlow => not_isHigh_of_isLow hlow isHigh_lead
    | char c =>
      rw [units_cons]
      rcases pointUnits_char c with ⟨u, hc, _, _, hlow⟩ | ⟨u, v, hc, hhigh, _, _⟩ <;> rw [hc]
      · simpa using hlow
      · simpa using fun hlow => not_isHigh_of_isLow hlow hhigh

/-- **Joining leaves a half over exactly if a unit stands unpaired.** -/
theorem wellFormed_join_iff (t : PromptLibrary.Text) :
    t.join.WellFormed ↔ ¬ Unpaired (units t) := by
  fun_induction Text.join t with
  | case1 a b rest ih =>
    rw [wellFormed_cons, ih]
    exact not_congr (unpaired_pair_iff isHigh_lead isLow_trail).symm
  | case2 p rest hnext ih =>
    cases p with
    | char c => rw [wellFormed_cons, ih, unpaired_char_cons_iff]
    | lead a =>
      have hleft : ¬ Text.WellFormed (.lead a :: Text.join rest) := fun h => by
        obtain ⟨c, hc⟩ := h _ List.mem_cons_self
        simp at hc
      have hunits := head_units_not_isLow fun b more hr => hnext a b more rfl hr
      exact iff_of_false hleft fun h => h (unpaired_of_isHigh isHigh_lead hunits)
    | trail b =>
      have hleft : ¬ Text.WellFormed (.trail b :: Text.join rest) := fun h => by
        obtain ⟨c, hc⟩ := h _ List.mem_cons_self
        simp at hc
      exact iff_of_false hleft fun h => h (unpaired_of_isLow isLow_trail)
  | case3 => exact iff_of_true (fun q hq => by simp at hq) not_unpaired_nil

theorem not_unpaired_ofChars (cs : List Char) : ¬ Unpaired (units (Text.ofChars cs)) := by
  rw [← wellFormed_join_iff, join_of_wellFormed wellFormed_ofChars]
  exact wellFormed_ofChars

/-- Characters are what a text joins to exactly if they have its units. -/
theorem join_eq_ofChars_iff : t.join = Text.ofChars cs ↔ units (Text.ofChars cs) = units t := by
  constructor
  · intro h
    rw [← h, units_join]
  · intro h
    have hpaired : t.join.WellFormed := by
      rw [wellFormed_join_iff, ← h]
      exact not_unpaired_ofChars cs
    obtain ⟨ds, hds⟩ := exists_ofChars_of_wellFormed hpaired
    have hunits : units (Text.ofChars cs) = units (Text.ofChars ds) := by
      rw [h, ← hds, units_join]
    rw [hds, ofChars_inj_of_units hunits]

end PromptLibrary.Proofs.Text.Units
