import Quizmaster.Proofs.Binary64.Overflow

namespace Quizmaster

theorem divNearestEven_mul_right {c : Nat} (hc : 0 < c) (n d : Nat) :
    divNearestEven (n * c) (d * c) = divNearestEven n d := by
  have hdown : 2 * (n % d * c) < d * c ↔ 2 * (n % d) < d := by
    rw [← Nat.mul_assoc, Nat.mul_lt_mul_right hc]
  have hup : d * c < 2 * (n % d * c) ↔ d < 2 * (n % d) := by
    rw [← Nat.mul_assoc, Nat.mul_lt_mul_right hc]
  simp only [divNearestEven, Nat.mul_div_mul_right n d hc, Nat.mul_mod_mul_right, hdown, hup]

namespace Binary64

/-- The nearest number of 53 bits; a half goes to the even neighbour. -/
def roundWhole (n : Nat) : Nat := divNearestEven n (spacing n) * spacing n

/-- The nearest whole number of 53 bits and a sign. -/
def nearestWhole (z : Int) : Int := z.sign * roundWhole z.natAbs

section

variable {n : Nat}

/-- Whole numbers up to `2 ^ 53` are kept. -/
theorem roundWhole_eq (h : n ≤ 2 ^ 53) : roundWhole n = n := by
  obtain hlt | rfl : n < 2 ^ 53 ∨ n = 2 ^ 53 := by omega
  · have hunit : spacing n = 1 := by
      by_cases hn : n = 0
      · subst hn
        rfl
      · have hlog : n.log2 < 53 := (Nat.log2_lt hn).mpr hlt
        rw [spacing, Nat.sub_eq_zero_of_le (by omega), Nat.pow_zero]
    simp [roundWhole, hunit, divNearestEven, Nat.mod_one]
  · decide +kernel

/-- Whole numbers are rounded as counts of ones. -/
theorem roundUnits_whole (n : Nat) : roundUnits (n * one) 1 = roundWhole n * one := by
  by_cases hsmall : n ≤ 2 ^ 53
  · have hself := roundUnits_mul Nat.one_pos (representable_natural hsmall)
    rw [Nat.mul_one] at hself
    rw [hself, roundWhole_eq hsmall]
  · have hne : n ≠ 0 := by omega
    have hlog : 53 ≤ n.log2 := (Nat.le_log2 hne).mpr (by omega)
    obtain ⟨j, hone⟩ : ∃ j, one = 2 ^ j := by
      unfold one
      generalize 1074 = j
      exact ⟨j, rfl⟩
    have hlogMul : (n * 2 ^ j).log2 = n.log2 + j := by
      rw [Nat.log2_eq_iff (Nat.mul_ne_zero hne (Nat.two_pow_pos j).ne'), Nat.pow_add, Nat.add_right_comm,
        Nat.pow_add _ (n.log2 + 1)]
      exact ⟨Nat.mul_le_mul_right _ (Nat.log2_self_le hne),
        Nat.mul_lt_mul_of_pos_right Nat.lt_log2_self (Nat.two_pow_pos j)⟩
    have hspacing : 2 ^ ((n * 2 ^ j).log2 - 52) = spacing n * 2 ^ j := by
      rw [spacing, ← Nat.pow_add, hlogMul, Nat.sub_add_comm (by omega)]
    rw [hone, roundUnits_eq, Nat.div_one, Nat.one_mul, hspacing,
      divNearestEven_mul_right (Nat.two_pow_pos j), roundWhole, Nat.mul_assoc]

/-- No whole number beyond `2 ^ 53` is rounded to less than that. -/
theorem two_pow_le_roundWhole (h : 2 ^ 53 ≤ n) : 2 ^ 53 ≤ roundWhole n := by
  have hle : 2 ^ 53 * one * 1 ≤ n * one := by
    rw [Nat.mul_one]
    exact Nat.mul_le_mul_right one h
  have hunits := le_roundUnits Nat.one_pos (representable_natural le_rfl) hle
  rw [roundUnits_whole] at hunits
  exact Nat.le_of_mul_le_mul_right hunits one_pos

/-- A whole number is read rounded, unless it comes up to the threshold. -/
theorem ofDecimal?_whole (negative : Bool) (n : Nat) : ofDecimal? negative n 0 =
    if n < overflowThreshold then some ⟨negative, roundWhole n * one⟩ else none := by
  have hfinite : roundWhole n * one < limit ↔ n < overflowThreshold := by
    rw [← roundUnits_whole, ← Nat.not_le, ← Nat.not_le, limit_le_roundUnits_iff Nat.one_pos, Nat.mul_one]
  have hround : ofDecimal? negative n 0 = round? negative (n * one) 1 := by
    unfold ofDecimal?
    split
    · next hzero =>
      have hpos : 0 < limit := by decide +kernel
      rw [hzero, Nat.zero_mul, round?, roundUnits_zero Nat.one_pos]
      exact (if_pos hpos).symm
    · rw [if_neg (by decide), if_pos le_rfl, Int.toNat_zero, Nat.pow_eq, Nat.pow_zero, Nat.mul_one]
  rw [hround, round?, roundUnits_whole]
  simp only [hfinite]

end

section

variable {y z : Int}

theorem nearestWhole_natCast (n : Nat) : nearestWhole n = roundWhole n := by
  obtain rfl | hn := Nat.eq_zero_or_pos n
  · rfl
  · rw [nearestWhole, Int.sign_natCast_of_ne_zero hn.ne', Int.natAbs_natCast, Int.one_mul]

theorem nearestWhole_neg (z : Int) : nearestWhole (-z) = -nearestWhole z := by
  rw [nearestWhole, Int.sign_neg, Int.natAbs_neg, Int.neg_mul, nearestWhole]

/-- Integers up to `2 ^ 53` in size are kept. -/
theorem nearestWhole_eq (h : z.natAbs ≤ 2 ^ 53) : nearestWhole z = z := by
  rw [nearestWhole, roundWhole_eq h, Int.sign_mul_natAbs]

theorem natAbs_nearestWhole (z : Int) : (nearestWhole z).natAbs = roundWhole z.natAbs := by
  obtain ⟨n, rfl | rfl⟩ := z.eq_nat_or_neg
  · rw [nearestWhole_natCast, Int.natAbs_natCast, Int.natAbs_natCast]
  · rw [nearestWhole_neg, nearestWhole_natCast, Int.natAbs_neg, Int.natAbs_neg, Int.natAbs_natCast,
      Int.natAbs_natCast]

/-- Below `2 ^ 53` a whole number shares its rounding with no other. -/
theorem nearestWhole_inj (hz : z.natAbs < 2 ^ 53) : nearestWhole z = nearestWhole y ↔ z = y := by
  refine ⟨fun h => ?_, fun h => by rw [h]⟩
  by_cases hy : y.natAbs ≤ 2 ^ 53
  · rwa [nearestWhole_eq hz.le, nearestWhole_eq hy] at h
  · have habs := congrArg Int.natAbs h
    rw [natAbs_nearestWhole, natAbs_nearestWhole, roundWhole_eq hz.le] at habs
    have := two_pow_le_roundWhole (Nat.le_of_not_le hy)
    omega

end

end Binary64

end Quizmaster
