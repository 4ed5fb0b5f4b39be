import PromptLibrary.Literal.Number
import Mathlib.Data.Nat.Digits.Defs
/-!
# The length of decimal text

A number of `k` decimals is below the power `10 ^ k`, so that its decimal text is no longer than
they are.  Finite doubles are below `2 ^ 1024`, so that the decimal text of one that is an integer
is within the limit on digits.
-/

namespace PromptLibrary.Proofs.Number.Length

open PromptLibrary.Literal

variable {n k base : Nat} {digits : List Nat} {cs : List Char} {x : Double} {i : Int}

/-! ## Numbers by their digits -/

/-- Digits are read from the left; what they are added to is moved by as many places. -/
theorem foldl_lt (hd : ∀ d ∈ digits, d < base) (n : Nat) :
    digits.foldl (fun n d => n * base + d) n < (n + 1) * base ^ digits.length := by
  induction digits generalizing n with
  | nil => simp
  | cons d digits ih =>
    have hlt : d < base := hd d List.mem_cons_self
    have hstep : n * base + d + 1 ≤ (n + 1) * base := by
      rw [Nat.add_mul, Nat.one_mul]
      omega
    calc digits.foldl (fun n d => n * base + d) (n * base + d)
      _ < (n * base + d + 1) * base ^ digits.length :=
        ih (fun e he => hd e (List.mem_cons_of_mem d he)) _
      _ ≤ (n + 1) * base * base ^ digits.length := Nat.mul_le_mul_right _ hstep
      _ = (n + 1) * base ^ (digits.length + 1) := by rw [Nat.pow_succ', Nat.mul_assoc]

theorem ofDigits_lt (hd : ∀ d ∈ digits, d < base) :
    Integer.ofDigits base digits < base ^ digits.length := by
  simpa [Integer.ofDigits] using foldl_lt hd 0

theorem decimalValue_lt {c : Char} {d : Nat} (h : Text.decimalValue? c = some d) : d < 10 := by
  obtain ⟨run, _, rfl⟩ := Option.map_eq_some_iff.1 h
  exact Nat.mod_lt _ (by decide)

theorem ofDecimals_lt (cs : List Char) : NumberBody.ofDecimals cs < 10 ^ cs.length := by
  have hdigits : ∀ d ∈ cs.filterMap Text.decimalValue?, d < 10 := by
    intro d hd
    obtain ⟨c, _, hc⟩ := List.mem_filterMap.1 hd
    exact decimalValue_lt hc
  calc NumberBody.ofDecimals cs
    _ < 10 ^ (cs.filterMap Text.decimalValue?).length := ofDigits_lt hdigits
    _ ≤ 10 ^ cs.length := Nat.pow_le_pow_right (by decide) (List.length_filterMap_le _ _)

/-! ## Doubles -/

theorem significand_lt (rank : Nat) : Double.significand rank < 2 ^ 53 := by
  unfold Double.significand
  have hnormal : Double.normalRank = 2 ^ 52 := rfl
  have hmod : rank % Double.normalRank < Double.normalRank := Nat.mod_lt _ (by decide)
  rw [hnormal] at hmod ⊢
  split <;> omega

theorem exponent_le {rank : Nat} (h : rank < Double.infinityRank) : Double.exponent rank ≤ 971 := by
  have hquotient : rank / Double.normalRank < 0x7FF := Nat.div_lt_of_lt_mul <| by
    rwa [Nat.mul_comm]
  unfold Double.exponent
  split <;> omega

theorem two_pow_mul_lt {a b : Nat} (h : a + b < k) : 2 ^ a * 2 ^ b < 10 ^ k := calc
  2 ^ a * 2 ^ b = 2 ^ (a + b) := (Nat.pow_add 2 a b).symm
  _ ≤ 2 ^ k := Nat.pow_le_pow_right (by decide) (Nat.le_of_lt h)
  _ < 10 ^ k := Nat.pow_lt_pow_left (by decide) (by omega)

theorem fraction_lt {rank : Nat} (h : rank < Double.infinityRank) (hk : 1024 < k) :
    (Double.fraction rank).1 < 10 ^ k := by
  have hsignificand := significand_lt rank
  have hexponent := exponent_le h
  unfold Double.fraction
  simp only
  split
  · calc Double.significand rank * 2 ^ (Double.exponent rank).toNat
      _ ≤ 2 ^ 53 * 2 ^ (Double.exponent rank).toNat :=
        Nat.mul_le_mul_right _ (Nat.le_of_lt hsignificand)
      _ < 10 ^ k := two_pow_mul_lt (by omega)
  · calc Double.significand rank
      _ < 2 ^ 53 * 2 ^ 0 := hsignificand
      _ < 10 ^ k := two_pow_mul_lt (by omega)

/-- An integer that a finite double is equal to has at most as many digits as `2 ^ 1024`. -/
theorem natAbs_toInt_lt (h : x.toInt? = some i) (hk : 1024 < k) : i.natAbs < 10 ^ k := by
  unfold Double.toInt? at h
  split at h
  · next hfinite =>
    have hfraction := fraction_lt (of_decide_eq_true hfinite) hk
    simp only at h
    split at h
    · have hquotient : i.natAbs = (Double.fraction x.rank).1 / (Double.fraction x.rank).2 := by
        rw [← Option.some.inj h]
        split
        · rw [Int.natAbs_neg, Int.natAbs_natCast]
        · rw [Int.natAbs_natCast]
      rw [hquotient]
      exact Nat.lt_of_le_of_lt (Nat.div_le_self _ _) hfraction
    · simp at h
  · simp at h

end PromptLibrary.Proofs.Number.Length
