import Mathlib.Algebra.Order.Field.Rat
import Mathlib.Tactic.Linarith
import Mathlib.Tactic.NormNum
import Mathlib.Tactic.Positivity
import Quizmaster.Proofs.Binary64.Arithmetic

namespace Quizmaster.Binary64

section

variable {n d j : Nat}

/-- The largest number of 53 bits below a power of two. -/
theorem log2_below (j : Nat) : ((2 ^ 53 - 1) * 2 ^ (j + 1)).log2 = j + 53 := by
  have hne : (2 ^ 53 - 1) * 2 ^ (j + 1) ≠ 0 := Nat.mul_ne_zero (by decide) (Nat.two_pow_pos _).ne'
  rw [Nat.log2_eq_iff hne]
  constructor
  · calc 2 ^ (j + 53) = 2 ^ 52 * 2 ^ (j + 1) := by rw [← Nat.pow_add]; congr 1; omega
      _ ≤ (2 ^ 53 - 1) * 2 ^ (j + 1) := Nat.mul_le_mul_right _ (by decide)
  · calc (2 ^ 53 - 1) * 2 ^ (j + 1) < 2 ^ 53 * 2 ^ (j + 1) :=
          Nat.mul_lt_mul_of_pos_right (by decide) (Nat.two_pow_pos _)
      _ = 2 ^ (j + 53 + 1) := by rw [← Nat.pow_add]; congr 1; omega

/-- Below the middle between the last number of 53 bits and the power of two, nothing is rounded up
    to the power. -/
theorem roundUnits_lt_two_pow (hd : 0 < d) (h : n < (2 ^ 54 - 1) * 2 ^ j * d) :
    roundUnits n d < 2 ^ (j + 54) := by
  have hunits : Representable ((2 ^ 53 - 1) * 2 ^ (j + 1)) :=
    representable_mul_two_pow (by decide) (j + 1)
  have hspacing : spacing ((2 ^ 53 - 1) * 2 ^ (j + 1)) = 2 * 2 ^ j := by
    rw [spacing, log2_below, ← Nat.pow_succ']
    congr 1
  have hhalf : (2 ^ 54 - 1) * 2 ^ j * d = (2 ^ 53 - 1) * 2 ^ (j + 1) * d + 2 ^ j * d := by
    ring
  have hle : roundUnits n d ≤ (2 ^ 53 - 1) * 2 ^ (j + 1) := by
    by_cases hbelow : n ≤ (2 ^ 53 - 1) * 2 ^ (j + 1) * d
    · exact roundUnits_le hd hunits hbelow
    · have hnearest : Nearest ((2 ^ 53 - 1) * 2 ^ (j + 1)) n d := by
        refine ⟨by omega, ?_, fun hends => ?_⟩
        all_goals
          rw [hspacing, Nat.mul_assoc 2] at *
          omega
      exact (hnearest.roundUnits_eq hunits hd).le
  calc roundUnits n d ≤ (2 ^ 53 - 1) * 2 ^ (j + 1) := hle
    _ < 2 ^ 53 * 2 ^ (j + 1) := Nat.mul_lt_mul_of_pos_right (by decide) (Nat.two_pow_pos _)
    _ = 2 ^ (j + 54) := by rw [← Nat.pow_add]; congr 1; omega

/-- From that middle on, everything is rounded up to the power of two. -/
theorem two_pow_le_roundUnits_of_half (hd : 0 < d) (h : (2 ^ 54 - 1) * 2 ^ j * d ≤ n) :
    2 ^ (j + 54) ≤ roundUnits n d := by
  by_cases habove : 2 ^ (j + 54) * d ≤ n
  · exact le_roundUnits hd (representable_two_pow _) habove
  · have hspacing : spacing (2 ^ (j + 54)) = 2 ^ (j + 2) := by
      rw [spacing, Nat.log2_two_pow]
      congr 1
    have hbelow : spacingBelow (2 ^ (j + 54)) = 4 * 2 ^ j := by
      rw [spacingBelow, Nat.log2_two_pow, if_pos ⟨by omega, rfl⟩, hspacing, Nat.pow_add, Nat.mul_comm]
    have hhalf : 2 ^ (j + 54) * d = (2 ^ 54 - 1) * 2 ^ j * d + 2 ^ j * d := by
      ring
    have heven : 2 ^ (j + 54) / spacing (2 ^ (j + 54)) % 2 = 0 := by
      rw [hspacing, Nat.pow_div (by omega) (by decide)]
      have hexponent : j + 54 - (j + 2) = 52 := by omega
      rw [hexponent]
    have hnearest : Nearest (2 ^ (j + 54)) n d := by
      refine ⟨?_, by omega, fun _ => heven⟩
      rw [hbelow, Nat.mul_assoc 4]
      omega
    exact (hnearest.roundUnits_eq (representable_two_pow _) hd).ge

end

/-- The least magnitude that is too large: halfway between the largest finite number and
    `2 ^ 1024`. -/
def overflowThreshold : Nat := (2 ^ 54 - 1) * 2 ^ 970

section

variable {negative : Bool} {m n d : Nat} {e : Int}

theorem round?_eq_none_iff : round? negative n d = none ↔ limit ≤ roundUnits n d := by
  unfold round?
  generalize limit = bound
  simp

theorem eq_of_round? {x : Binary64} (h : round? negative n d = some x) :
    x = ⟨negative, roundUnits n d⟩ := by
  unfold round? at h
  generalize limit = bound at h
  simp only [Option.ite_none_right_eq_some, Option.some.injEq] at h
  exact h.2.symm

/-- A value is rounded beyond the finite numbers exactly if it lies halfway, or further, from the
    largest of them to the power of two after it. -/
theorem limit_le_roundUnits_iff (hd : 0 < d) :
    limit ≤ roundUnits (m * one) d ↔ overflowThreshold * d ≤ m := by
  have hlimit : limit = 2 ^ (2044 + 54) := by decide +kernel
  have hthreshold : (2 ^ 54 - 1) * 2 ^ 2044 * d = overflowThreshold * d * one := by
    have hunits : (2 ^ 54 - 1) * 2 ^ 2044 = overflowThreshold * one := by decide +kernel
    rw [hunits, Nat.mul_right_comm]
  have hscale : overflowThreshold * d ≤ m ↔ overflowThreshold * d * one ≤ m * one :=
    (Nat.mul_le_mul_right_iff one_pos).symm
  rw [hlimit, hscale, ← hthreshold]
  generalize 2044 = j
  constructor
  · intro hle
    by_contra hlt
    exact absurd (roundUnits_lt_two_pow hd (Nat.lt_of_not_le hlt)) (Nat.not_lt.mpr hle)
  · exact two_pow_le_roundUnits_of_half hd

theorem overflowThreshold_pos : 0 < overflowThreshold := by decide +kernel

/-- A decimal without a negative exponent overflows by its whole value. -/
theorem ofDecimal?_eq_none_iff_of_nonneg (hm : m ≠ 0) (he : 0 ≤ e) :
    ofDecimal? negative m e = none ↔ overflowThreshold ≤ m * 10 ^ e.toNat := by
  unfold ofDecimal?
  rw [if_neg hm]
  by_cases hlarge : 400 < e
  · rw [if_pos hlarge]
    refine iff_of_true rfl ?_
    obtain ⟨k, hk, hpower⟩ : ∃ k, k ≤ e.toNat ∧ overflowThreshold ≤ 10 ^ k :=
      ⟨400, by omega, by decide +kernel⟩
    calc overflowThreshold ≤ 10 ^ k := hpower
      _ ≤ 10 ^ e.toNat := Nat.pow_le_pow_right (by decide) hk
      _ ≤ m * 10 ^ e.toNat := Nat.le_mul_of_pos_left _ (Nat.pos_of_ne_zero hm)
  · rw [if_neg hlarge, if_pos he, round?_eq_none_iff, limit_le_roundUnits_iff Nat.one_pos, Nat.mul_one]
    rfl

/-- One with a negative exponent overflows if its digits outweigh the power of ten. -/
theorem ofDecimal?_eq_none_iff_of_neg (hm : m ≠ 0) (he : e < 0) :
    ofDecimal? negative m e = none ↔ overflowThreshold * 10 ^ (-e).toNat ≤ m := by
  unfold ofDecimal?
  rw [if_neg hm, if_neg (by omega), if_neg (by omega)]
  by_cases hsmall : m.log2 + 1081 < 3 * (-e).toNat
  · rw [if_pos hsmall]
    refine iff_of_false nofun (Nat.not_le.mpr ?_)
    calc m < 2 ^ (m.log2 + 1) := Nat.lt_log2_self
      _ ≤ 2 ^ (3 * (-e).toNat) := Nat.pow_le_pow_right (by decide) (by omega)
      _ = (2 ^ 3) ^ (-e).toNat := Nat.pow_mul 2 3 _
      _ ≤ 10 ^ (-e).toNat := Nat.pow_le_pow_left (by decide) _
      _ ≤ overflowThreshold * 10 ^ (-e).toNat := Nat.le_mul_of_pos_left _ overflowThreshold_pos
  · rw [if_neg hsmall, round?_eq_none_iff]
    exact limit_le_roundUnits_iff (Nat.pow_pos (by decide))

/-- A decimal has no finite number if its magnitude comes up to the threshold. -/
theorem ofDecimal?_eq_none_iff :
    ofDecimal? negative m e = none ↔ (overflowThreshold : ℚ) ≤ m * 10 ^ e := by
  by_cases hm : m = 0
  · subst hm
    refine iff_of_false (by simp [ofDecimal?]) ?_
    rw [Nat.cast_zero, zero_mul, not_le, Nat.cast_pos]
    exact overflowThreshold_pos
  obtain he | he := le_or_gt 0 e
  · obtain ⟨k, rfl⟩ := Int.eq_ofNat_of_zero_le he
    rw [ofDecimal?_eq_none_iff_of_nonneg hm he, Int.toNat_natCast, zpow_natCast]
    exact_mod_cast Iff.rfl
  · obtain ⟨k, hk⟩ := Int.eq_ofNat_of_zero_le (show 0 ≤ -e by omega)
    obtain rfl : e = -(k : Int) := by omega
    have hten : (0 : ℚ) < 10 ^ k := by positivity
    rw [ofDecimal?_eq_none_iff_of_neg hm he, neg_neg, Int.toNat_natCast, zpow_neg, zpow_natCast,
      ← div_eq_mul_inv, le_div_iff₀ hten]
    exact_mod_cast Iff.rfl

end

end Quizmaster.Binary64
