import Quizmaster.Proofs.Binary64.Rounding

namespace Quizmaster.Binary64

/-- A small number is representable under any power of two. -/
theorem representable_mul_one {m : Nat} (h : m ≤ 2 ^ 53) (k : Nat) :
    Representable (m * 2 ^ k * one) := by
  unfold one
  generalize 1074 = j
  rw [Nat.pow_eq, Nat.mul_assoc, ← Nat.pow_add]
  exact representable_mul_two_pow h (k + j)

theorem representable_natural {m : Nat} (h : m ≤ 2 ^ 53) : Representable (m * one) := by
  simpa using representable_mul_one h 0

theorem representable_two_pow_mul_one (k : Nat) : Representable (2 ^ k * one) := by
  simpa using representable_mul_one (m := 1) (by decide) k

/-- A fraction of one whose denominator is a power of two. -/
theorem exists_mul_two_pow_eq_one {k : Nat} (hk : k ≤ 1074) :
    ∃ u, Representable u ∧ u * 2 ^ k = one := by
  unfold one
  generalize 1074 = j at hk ⊢
  refine ⟨2 ^ (j - k), representable_two_pow _, ?_⟩
  rw [← Nat.pow_add, Nat.sub_add_cancel hk, Nat.pow_eq]

section

variable {n d u : Nat} {negative : Bool} {x y : Binary64}

theorem isZero_iff : x.isZero = true ↔ x.units = 0 := beq_iff_eq

theorem isZero_eq_false (h : 0 < x.units) : x.isZero = false := by
  rw [Bool.eq_false_iff, ne_eq, isZero_iff]
  exact h.ne'

/-- A representable number bounds the whole numbers below it from above. -/
theorem ofNat_le (hu : Representable (u * one)) (h : n ≤ u) : (ofNat n).units ≤ u * one :=
  roundUnits_le Nat.one_pos hu ((Nat.mul_le_mul_right one h).trans (Nat.mul_one _).ge)

theorem le_ofNat (hu : Representable (u * one)) (h : u ≤ n) : u * one ≤ (ofNat n).units :=
  le_roundUnits Nat.one_pos hu ((Nat.mul_one _).le.trans (Nat.mul_le_mul_right one h))

theorem units_ofNat (hn : Representable (n * one)) : (ofNat n).units = n * one := by
  have hself := roundUnits_mul Nat.one_pos hn
  rwa [Nat.mul_one] at hself

theorem one_le_ofNat (hn : 0 < n) : one ≤ (ofNat n).units := by
  simpa only [Nat.one_mul] using le_ofNat (representable_natural (m := 1) (by decide)) hn

/-- What does not go beyond a finite number is finite. -/
theorem round?_eq_some (hd : 0 < d) (hu : Representable u) (hfinite : u < limit) (h : n ≤ u * d) :
    round? negative n d = some ⟨negative, roundUnits n d⟩ := by
  unfold round?
  generalize limit = bound at hfinite ⊢
  exact if_pos ((roundUnits_le hd hu h).trans_lt hfinite)

/-- A quotient that is bounded by a finite number is the rounded one. -/
theorem div?_eq_some (hy : 0 < y.units) (hu : Representable u) (hfinite : u < limit)
    (h : x.units * one ≤ u * y.units) :
    x.div? y = some ⟨x.negative != y.negative, roundUnits (x.units * one) y.units⟩ :=
  round?_eq_some hy hu hfinite h

/-- A product that is bounded by a finite number is the rounded one. -/
theorem mul?_eq_some (hu : Representable u) (hfinite : u < limit)
    (h : x.units * y.units ≤ u * one) :
    x.mul? y = some ⟨x.negative != y.negative, roundUnits (x.units * y.units) one⟩ :=
  round?_eq_some one_pos hu hfinite h

/-- The quotient of whole numbers is finite unless the first one is large. -/
theorem div?_ofNat (hn : n ≤ 2 ^ 57) (hd : 0 < d) :
    (ofNat n).div? (ofNat d) =
      some ⟨false, roundUnits ((ofNat n).units * one) (ofNat d).units⟩ := by
  have hfinite : 2 ^ 57 * one < limit := by decide +kernel
  have hone : one ≤ (ofNat d).units := one_le_ofNat hd
  exact div?_eq_some (one_pos.trans_le hone) (representable_two_pow_mul_one 57) hfinite
    (Nat.mul_le_mul (ofNat_le (representable_two_pow_mul_one 57) hn) hone)

end

end Quizmaster.Binary64
