import PromptLibrary.Proofs.Literal.Steps
/-!
# Readers of literals from related readers

The readers of arrays, objects, chains and operands are built from a reader of what stands inside,
and call it on shorter and shorter ends of their text.  A relation between outcomes that is kept by
one step after another, and that holds of two inner readers on all texts up to the length of a text,
so holds of the readers built from them on that text.

* `related_items`, `related_members`, `related_chain` — the loops, by induction on the length of
  what is left;
* `related_operand`, `related_operandWithin`.
-/

namespace PromptLibrary.Proofs.Literal.Congruence

open PromptLibrary.Literal
open PromptLibrary.Proofs.Literal.Readers
open PromptLibrary.Proofs.Literal.Steps

/-- A relation between outcomes that steps keep; the later ones matter only where the first ends. -/
structure Stepwise (R : {α : Type} → Except Failure α → Except Failure α → Prop) : Prop where
  refl {α : Type} (x : Except Failure α) : R x x
  bind {α β : Type} {x y : Except Failure α} {g g' : α → Except Failure β} (hx : R x y)
    (hg : ∀ a, x = .ok a → R (g a) (g' a)) : R (x >>= g) (y >>= g')

section Related

variable {R : {α : Type} → Except Failure α → Except Failure α → Prop} {α β : Type}
  {policy policy' : Interpolation} {f g : Reader Char Failure Parsed} {n : Nat}
  {s start : List Char} {c : Char} {left : Parsed}

theorem Stepwise.map {x y : Except Failure α} (hR : Stepwise R) (hx : R x y) (k : α → β) :
    R (x.map k) (y.map k) := by
  have hbind : ∀ z : Except Failure α, z.map k = z >>= fun a => .ok (k a) := by
    intro z
    cases z <;> rfl
  rw [hbind x, hbind y]
  exact hR.bind hx fun _ _ => hR.refl _

/-- The outcomes of two readers are related on the texts of at most this length. -/
def RelatedUpTo (R : {α : Type} → Except Failure α → Except Failure α → Prop) (n : Nat)
    (f g : Reader Char Failure Parsed) : Prop :=
  ∀ t, t.length ≤ n → R (outcome f t) (outcome g t)

theorem RelatedUpTo.mono {m : Nat} (h : RelatedUpTo R n f g) (hm : m ≤ n) : RelatedUpTo R m f g :=
  fun t ht => h t (Nat.le_trans ht hm)

theorem related_items (hR : Stepwise R) (h : RelatedUpTo R s.length f g) :
    R (outcome (items f) s) (outcome (items g) s) := by
  induction hl : s.length using Nat.strongRecOn generalizing s with
  | _ l ih =>
  subst hl
  rw [outcome_items, outcome_items]
  refine hR.bind (hR.refl _) fun t hs => ?_
  split
  · exact hR.refl _
  split
  · exact hR.refl _
  refine hR.bind (h t (length_skipTrivia_le hs)) fun ⟨p, m⟩ hp => hR.bind (hR.refl _) fun u hu => ?_
  split
  · next hcomma =>
    obtain ⟨rest, rfl⟩ := List.head?_eq_some_iff.1 hcomma
    -- Both readers are at the same place, and what is left there is shorter.
    have hlt := length_lt_of_item hs hp hu
    exact hR.bind (ih _ hlt (h.mono (Nat.le_of_lt hlt)) rfl) fun _ _ => hR.refl _
  · exact hR.refl _

theorem related_members (hR : Stepwise R) (h : RelatedUpTo R s.length f g) :
    R (outcome (members f) s) (outcome (members g) s) := by
  induction hl : s.length using Nat.strongRecOn generalizing s with
  | _ l ih =>
  subst hl
  rw [outcome_members, outcome_members]
  refine hR.bind (hR.refl _) fun t hs => ?_
  split
  · exact hR.refl _
  refine hR.bind (hR.refl _) fun ⟨key, bare, a⟩ hkey => hR.bind (hR.refl _) fun b hb => ?_
  split
  · next hcolon =>
    obtain ⟨afterColon, rfl⟩ := List.head?_eq_some_iff.1 hcolon
    have hshorter : afterColon.length ≤ s.length := by
      have hs := length_skipTrivia_le hs
      have hkey := length_readKey_lt hkey
      have hb := length_skipTrivia_lt hb
      omega
    refine hR.bind (h afterColon hshorter) fun ⟨p, m⟩ hp => hR.bind (hR.refl _) fun u hu => ?_
    split
    · next hcomma =>
      obtain ⟨rest, rfl⟩ := List.head?_eq_some_iff.1 hcomma
      have hlt := length_lt_of_member hs hkey hb hp hu
      exact hR.bind (ih _ hlt (h.mono (Nat.le_of_lt hlt)) rfl) fun _ _ => hR.refl _
    · exact hR.refl _
  · exact hR.refl _

theorem related_chain (hR : Stepwise R) (h : RelatedUpTo R s.length f g) :
    R (chainOutcome f start left s) (chainOutcome g start left s) := by
  induction hl : s.length using Nat.strongRecOn generalizing s left with
  | _ l ih =>
  subst hl
  rw [chainOutcome_eq, chainOutcome_eq]
  refine hR.bind (hR.refl _) fun t hs => ?_
  split
  · next hplus =>
    obtain ⟨rest, rfl⟩ := List.head?_eq_some_iff.1 hplus
    refine hR.bind (h rest (Nat.le_of_lt (length_skipTrivia_lt hs))) fun ⟨right, m⟩ hp => ?_
    simp only
    split
    · have hlt := length_lt_of_operand hs hp
      exact ih _ hlt (h.mono (Nat.le_of_lt hlt)) rfl
    · exact hR.refl _
  · exact hR.refl _

theorem related_expression (hR : Stepwise R) (h : RelatedUpTo R s.length f g) :
    R (outcome (expression f) s) (outcome (expression g) s) := by
  rw [outcome_expression, outcome_expression]
  refine hR.bind (h s (Nat.le_refl _)) fun _ hp => ?_
  exact related_chain hR (h.mono (Nat.le_of_lt (length_lt_of_reads hp)))

theorem related_bracketed (hR : Stepwise R) (h : RelatedUpTo R s.length f g) :
    R (outcome (bracketed f c) s) (outcome (bracketed g c) s) := by
  rw [outcome_bracketed, outcome_bracketed]
  split
  · exact hR.map (related_members hR h) _
  split
  · exact hR.map (related_items hR h) _
  · rw [outcome_parenthesised, outcome_parenthesised]
    exact hR.bind (h s (Nat.le_refl _)) fun _ _ => hR.refl _

/-- **An operand calls the reader of what is inside of it on shorter texts only.** -/
theorem related_operand (hR : Stepwise R)
    (hscalar : ∀ t, R (scalar policy t) (scalar policy' t))
    (h : ∀ t, t.length < s.length → R (outcome f t) (outcome g t)) :
    R (outcome (operand policy (some (expression f))) s)
      (outcome (operand policy' (some (expression g))) s) := by
  rw [outcome_operand, outcome_operand]
  refine hR.bind (hR.refl _) fun t hs => ?_
  split
  · exact hR.refl _
  · next c rest =>
    have hlt := length_skipTrivia_lt hs
    split
    · refine related_bracketed hR fun u hu => related_expression hR fun v hv => h v ?_
      omega
    · exact hR.bind (hscalar _) fun _ _ => hR.refl _

/-- Readers of operands are related if the readers of scalars are. -/
theorem related_operandWithin (hR : Stepwise R)
    (hscalar : ∀ t, R (scalar policy t) (scalar policy' t)) (n : Nat) (s : List Char) :
    R (outcome (operandWithin policy n) s) (outcome (operandWithin policy' n) s) := by
  induction n generalizing s with
  | zero =>
    rw [operandWithin, operandWithin, outcome_operand, outcome_operand]
    refine hR.bind (hR.refl _) fun t _ => ?_
    split
    · exact hR.refl _
    · split
      · exact hR.refl _
      · exact hR.bind (hscalar _) fun _ _ => hR.refl _
  | succ n ih => exact related_operand hR hscalar fun t _ => ih t

theorem related_parseWithin (hR : Stepwise R)
    (hscalar : ∀ t, R (scalar policy t) (scalar policy' t)) (limit : Nat) (text : List Char) :
    R (parseWithin limit policy text) (parseWithin limit policy' text) := by
  rw [parseWithin_eq, parseWithin_eq]
  refine hR.bind (related_expression hR fun t _ => ?_) fun _ _ => hR.refl _
  exact related_operandWithin hR hscalar limit t

end Related

end PromptLibrary.Proofs.Literal.Congruence
