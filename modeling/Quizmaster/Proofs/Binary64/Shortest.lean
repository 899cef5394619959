import Mathlib.Tactic.FieldSimp
import Mathlib.Tactic.Linarith
import Mathlib.Tactic.Positivity
import Quizmaster.Binary64.Shortest
import Quizmaster.Proofs.Binary64.Rounding

namespace Quizmaster.Binary64

/-- A magnitude as a multiple of one. -/
def value (units : Nat) : ℚ := units / one

namespace Decimal

def value (x : Decimal) : ℚ := x.digits * 10 ^ x.exponent

/-- The decimal in units is the quotient of this number by the denominator. -/
def numerator (x : Decimal) : Nat := x.digits * 10 ^ x.exponent.toNat * one

def denominator (x : Decimal) : Nat := 10 ^ (-x.exponent).toNat

theorem denominator_pos (x : Decimal) : 0 < x.denominator := Nat.pow_pos (by decide)

end Decimal

section

variable {units k digits count : Nat} {e : Int}

theorem ten_zpow (e : Int) : (10 : ℚ) ^ e = 10 ^ e.toNat / 10 ^ (-e).toNat := by
  obtain h | h := le_total 0 e
  · rw [Int.toNat_of_nonpos (by omega : -e ≤ 0), pow_zero, div_one, ← zpow_natCast,
      Int.toNat_of_nonneg h]
  · rw [Int.toNat_of_nonpos h, pow_zero, one_div, ← zpow_natCast, ← zpow_neg,
      Int.toNat_of_nonneg (by omega), neg_neg]

theorem scaled_eq (n : Nat) (e : Int) :
    scaled n e = (n * 10 ^ (-e).toNat, 4 * one * 10 ^ e.toNat) := by
  unfold scaled
  split
  · next h => simp [Int.toNat_of_nonpos (by omega : -e ≤ 0)]
  · next h => simp [Int.toNat_of_nonpos (by omega : e ≤ 0)]

theorem scaled_pos (n : Nat) (e : Int) : 0 < (scaled n e).2 := by
  rw [scaled_eq]
  exact Nat.mul_pos (Nat.mul_pos (by decide) one_pos) (Nat.pow_pos (by decide))

theorem one_cast_pos : (0 : ℚ) < one := Nat.cast_pos.mpr one_pos

theorem mul_zpow_le_div_iff {o : Nat} (ho : 0 < o) :
    (k : ℚ) * 10 ^ e ≤ (units : ℚ) / o ↔ k * 10 ^ e.toNat * o ≤ units * 10 ^ (-e).toNat := by
  have ho' : (0 : ℚ) < o := Nat.cast_pos.mpr ho
  rw [ten_zpow, ← mul_div_assoc, div_le_div_iff₀ (by positivity) ho']
  norm_cast

/-- A candidate is not above the number exactly if the whole numbers say so. -/
theorem mul_scaled_le_iff : k * (scaled (4 * units) e).2 ≤ (scaled (4 * units) e).1 ↔
    (k : ℚ) * 10 ^ e ≤ value units := by
  have hleft : k * (4 * one * 10 ^ e.toNat) = 4 * (k * 10 ^ e.toNat * one) := by ring
  have hright : 4 * units * 10 ^ (-e).toNat = 4 * (units * 10 ^ (-e).toNat) := by ring
  rw [value, mul_zpow_le_div_iff one_pos, scaled_eq, hleft, hright]
  exact Nat.mul_le_mul_left_iff (by decide)

theorem scaled_lt_mul_iff : (scaled (4 * units) e).1 < k * (scaled (4 * units) e).2 ↔
    value units < (k : ℚ) * 10 ^ e := by
  rw [← not_le, ← not_le, mul_scaled_le_iff]

/-- The first guess at the exponent of the first decimal digit, from the count of bits. -/
def estimate (bits : Nat) : Int := (((bits : Int) - 1074) * 30103) / 100000

/-- The guess is wrong by one at most for every number of that count of bits. -/
def estimateHolds (bits : Nat) : Bool :=
  let low := estimate bits - 1
  let high := estimate bits + 2
  Nat.pow 10 low.toNat * one ≤ Nat.pow 2 bits * Nat.pow 10 (-low).toNat &&
    Nat.pow 2 (bits + 1) * Nat.pow 10 (-high).toNat ≤ Nat.pow 10 high.toNat * one

/-- The estimate of the decimal exponent is good for every finite number. -/
theorem estimateHolds_of_lt {bits : Nat} (h : bits < 2098) : estimateHolds bits = true := by
  have hall : (List.range 2098).all estimateHolds = true := by decide +kernel
  exact List.all_eq_true.mp hall bits (List.mem_range.mpr h)

theorem log2_lt_of_lt_limit (hpos : 0 < units) (hfinite : units < limit) : units.log2 < 2098 := by
  unfold limit at hfinite
  generalize 2098 = k at hfinite ⊢
  exact (Nat.log2_lt hpos.ne').mpr hfinite

/-- The estimate is too large by one at most. -/
theorem zpow_estimate_le (hpos : 0 < units) (hfinite : units < limit) :
    (10 : ℚ) ^ (estimate units.log2 - 1) ≤ value units := by
  have hholds := estimateHolds_of_lt (log2_lt_of_lt_limit hpos hfinite)
  simp only [estimateHolds, Bool.and_eq_true, decide_eq_true_eq] at hholds
  have hself : 2 ^ units.log2 ≤ units := Nat.log2_self_le hpos.ne'
  have hle := hholds.1.trans (Nat.mul_le_mul_right _ hself)
  rw [value, ten_zpow, div_le_div_iff₀ (by positivity) one_cast_pos]
  exact_mod_cast hle

theorem lt_zpow_estimate (hpos : 0 < units) (hfinite : units < limit) :
    value units < (10 : ℚ) ^ (estimate units.log2 + 2) := by
  have hholds := estimateHolds_of_lt (log2_lt_of_lt_limit hpos hfinite)
  simp only [estimateHolds, Bool.and_eq_true, decide_eq_true_eq] at hholds
  have hself : units < 2 ^ (units.log2 + 1) := Nat.lt_log2_self
  have hlt := (Nat.mul_lt_mul_of_pos_right hself (Nat.pow_pos (by decide))).trans_le hholds.2
  rw [value, ten_zpow, div_lt_div_iff₀ one_cast_pos (by positivity)]
  exact_mod_cast hlt

/-- The leading exponent is that of the first decimal digit. -/
theorem leadingExponent_spec (hpos : 0 < units) (hfinite : units < limit) :
    (10 : ℚ) ^ leadingExponent units ≤ value units ∧
      value units < 10 ^ (leadingExponent units + 1) := by
  have hreaches (e : Int) :
      (scaled (4 * units) e).2 ≤ (scaled (4 * units) e).1 ↔ (10 : ℚ) ^ e ≤ value units := by
    simpa using @mul_scaled_le_iff units 1 e
  have hlow := zpow_estimate_le hpos hfinite
  have hhigh := lt_zpow_estimate hpos hfinite
  by_cases hnext : (10 : ℚ) ^ (estimate units.log2 + 1) ≤ value units
  · have hlead : leadingExponent units = estimate units.log2 + 1 :=
      if_pos (decide_eq_true ((hreaches _).mpr hnext))
    rw [hlead, add_assoc]
    exact ⟨hnext, hhigh⟩
  by_cases hsame : (10 : ℚ) ^ estimate units.log2 ≤ value units
  · have hlead : leadingExponent units = estimate units.log2 :=
      (if_neg fun h => hnext ((hreaches _).mp (of_decide_eq_true h))).trans
        (if_pos (decide_eq_true ((hreaches _).mpr hsame)))
    rw [hlead]
    exact ⟨hsame, not_le.mp hnext⟩
  · have hlead : leadingExponent units = estimate units.log2 - 1 :=
      (if_neg fun h => hnext ((hreaches _).mp (of_decide_eq_true h))).trans
        (if_neg fun h => hsame ((hreaches _).mp (of_decide_eq_true h)))
    rw [hlead, sub_add_cancel]
    exact ⟨hlow, not_le.mp hsame⟩

theorem spacingBelow_eq (units : Nat) :
    spacingBelow units =
      if 0 < units.log2 - 52 && units == Nat.pow 2 (52 + (units.log2 - 52)) then spacing units
      else 2 * spacing units := by
  unfold spacingBelow
  by_cases hlog : 52 < units.log2
  · have hsum : 52 + (units.log2 - 52) = units.log2 := by omega
    have hpos : 0 < units.log2 - 52 := by omega
    simp [hlog, hsum, hpos]
  · have hzero : units.log2 - 52 = 0 := by omega
    simp [hlog, hzero]

theorem spacing_le (hpos : 0 < units) : spacing units ≤ units :=
  (Nat.pow_le_pow_right (by decide) (Nat.sub_le _ _)).trans (Nat.log2_self_le hpos.ne')

/-- The rounding interval of a number, with its ends where the number's last bit is even. -/
theorem roundsTo_eq (units : Nat) (x : Decimal) :
    roundsTo units x.digits x.exponent =
      let low := 4 * units - spacingBelow units
      let high := 4 * units + 2 * spacing units
      if units / spacing units % 2 == 0 then
        low * x.denominator ≤ 4 * x.numerator && 4 * x.numerator ≤ high * x.denominator
      else low * x.denominator < 4 * x.numerator && 4 * x.numerator < high * x.denominator := by
  have hquotient : (if 0 ≤ x.exponent then (x.digits * Nat.pow 10 x.exponent.toNat * (4 * one), 1)
      else (x.digits * (4 * one), Nat.pow 10 (-x.exponent).toNat)) =
      (4 * x.numerator, x.denominator) := by
    rw [Decimal.numerator, Decimal.denominator]
    split
    · next h =>
      rw [Int.toNat_of_nonpos (by omega : -x.exponent ≤ 0), Nat.mul_left_comm]
      rfl
    · next h =>
      rw [Int.toNat_of_nonpos (by omega : x.exponent ≤ 0), Nat.mul_left_comm, Nat.pow_zero,
        Nat.mul_one]
      rfl
  unfold roundsTo
  rw [spacingBelow_eq]
  simp only [hquotient]
  rfl

/-- The test for a decimal is whether it lies in the rounding interval. -/
theorem roundsTo_iff (hpos : 0 < units) (x : Decimal) :
    roundsTo units x.digits x.exponent = true ↔ Nearest units x.numerator x.denominator := by
  have hbelow : spacingBelow units ≤ 4 * units := by
    have := spacingBelow_le units
    have := spacing_le hpos
    omega
  have hlow : (4 * units - spacingBelow units) * x.denominator + spacingBelow units * x.denominator =
      4 * (units * x.denominator) := by
    rw [← Nat.add_mul, Nat.sub_add_cancel hbelow, Nat.mul_assoc]
  have hhigh : (4 * units + 2 * spacing units) * x.denominator =
      4 * (units * x.denominator) + 2 * (spacing units * x.denominator) := by ring
  rw [roundsTo_eq]
  dsimp only
  rw [hhigh]
  by_cases heven : units / spacing units % 2 = 0
  · simp only [heven, beq_self_eq_true, if_true, Bool.and_eq_true, decide_eq_true_eq]
    constructor
    · rintro ⟨hle, hge⟩
      exact ⟨by omega, hge, fun _ => heven⟩
    · intro h
      have := h.low
      exact ⟨by omega, h.high⟩
  · simp only [beq_iff_eq, heven, if_false, Bool.and_eq_true, decide_eq_true_eq]
    constructor
    · rintro ⟨hlt, hgt⟩
      exact ⟨by omega, by omega, by omega⟩
    · intro h
      have := h.low
      have := h.high
      have hne := mt h.even heven
      exact ⟨by omega, by omega⟩

theorem le_spacingBelow (units : Nat) : units ≤ 2 ^ 52 * spacingBelow units := by
  have hlt : units < 2 ^ (units.log2 + 1) := Nat.lt_log2_self
  unfold spacingBelow spacing
  split
  · next h =>
    rw [← Nat.pow_add, Nat.add_sub_cancel' h.1.le]
    exact h.2.le
  · next h =>
    calc units ≤ 2 ^ (units.log2 + 1) := hlt.le
      _ ≤ 2 ^ (53 + (units.log2 - 52)) := Nat.pow_le_pow_right (by decide) (by omega)
      _ = 2 ^ 52 * (2 * 2 ^ (units.log2 - 52)) := by rw [Nat.pow_add]; ring

theorem spacing_le_spacingBelow (units : Nat) : spacing units ≤ spacingBelow units := by
  unfold spacingBelow
  split <;> omega

/-- A decimal of seventeen digits that is nearest to a magnitude is within its rounding interval:
    `2 ^ 54` is less than `2 * 10 ^ 16`. -/
theorem nearest_of_seventeen (hpos : 0 < units)
    (hfine : 10 ^ 16 * (scaled (4 * units) e).2 ≤ (scaled (4 * units) e).1) :
    let x := Decimal.mk (divNearestEven (scaled (4 * units) e).1 (scaled (4 * units) e).2) e
    Nearest units x.numerator x.denominator := by
  intro x
  have hn : (scaled (4 * units) e).1 = 4 * (units * x.denominator) := by
    rw [scaled_eq, Decimal.denominator]
    ring
  have hx : x.digits * (scaled (4 * units) e).2 = 4 * x.numerator := by
    rw [scaled_eq, Decimal.numerator]
    ring
  have hstep := scaled_pos (4 * units) e
  obtain ⟨habove, hbelow⟩ := divNearestEven_near (n := (scaled (4 * units) e).1) hstep
  change 2 * (x.digits * _) ≤ _ at habove
  change _ ≤ 2 * (x.digits * _) + _ at hbelow
  rw [hx, hn] at habove hbelow
  rw [hn] at hfine
  -- Half a step is less than what the interval extends to either side.
  have hwide := Nat.mul_le_mul_right x.denominator (le_spacingBelow units)
  have hsides := Nat.mul_le_mul_right x.denominator (spacing_le_spacingBelow units)
  have hdouble := Nat.mul_le_mul_right x.denominator (spacingBelow_le units)
  rw [Nat.mul_assoc] at hwide hdouble
  have hsome : 0 < units * x.denominator := Nat.mul_pos hpos x.denominator_pos
  exact ⟨by omega, by omega, by omega⟩

/-- A candidate rounds to the magnitude and is one of its two neighbours of the given count of
    digits. -/
theorem candidate?_eq_some {x : Decimal} (h : candidate? units count = some x) :
    x.exponent = leadingExponent units + 1 - count ∧
    roundsTo units x.digits x.exponent = true ∧
    (scaled (4 * units) x.exponent).1 / (scaled (4 * units) x.exponent).2 ≤ x.digits ∧
    x.digits ≤ (scaled (4 * units) x.exponent).1 / (scaled (4 * units) x.exponent).2 + 1 := by
  have hnear (n d : Nat) : n / d ≤ divNearestEven n d ∧ divNearestEven n d ≤ n / d + 1 := by
    obtain ⟨heq, -, -⟩ | ⟨heq, -, -⟩ := divNearestEven_cases n d <;> omega
  unfold candidate? at h
  dsimp only at h
  split at h
  · next hrounds =>
    cases h
    exact ⟨rfl, hrounds, hnear _ _⟩
  · split at h
    · next hrounds =>
      cases h
      exact ⟨rfl, hrounds, le_rfl, Nat.le_succ _⟩
    · split at h
      · next hrounds =>
        cases h
        exact ⟨rfl, hrounds, Nat.le_succ _, le_rfl⟩
      · cases h

/-- So many digits count in units of the place of the last one. -/
theorem zpow_leadingExponent (count : Nat) :
    (10 : ℚ) ^ (leadingExponent units + 1) =
      10 ^ count * 10 ^ (leadingExponent units + 1 - count) := by
  rw [← zpow_natCast, ← zpow_add₀ (by norm_num)]
  congr 1
  omega

/-- The digits of a candidate are of the given count, apart from the next power of ten. -/
theorem digits_of_candidate? (hpos : 0 < units) (hfinite : units < limit) (hcount : 0 < count)
    {x : Decimal} (h : candidate? units count = some x) :
    0 < x.digits ∧ x.digits ≤ 10 ^ count := by
  obtain ⟨hexponent, -, hlow, hhigh⟩ := candidate?_eq_some h
  obtain ⟨hleast, hmost⟩ := leadingExponent_spec hpos hfinite
  have hstep := scaled_pos (4 * units) x.exponent
  have hfirst : 1 * (scaled (4 * units) x.exponent).2 ≤ (scaled (4 * units) x.exponent).1 := by
    refine mul_scaled_le_iff.mpr (le_trans ?_ hleast)
    rw [Nat.cast_one, one_mul, hexponent]
    exact zpow_le_zpow_right₀ (by norm_num) (by omega)
  have hlast : (scaled (4 * units) x.exponent).1 <
      10 ^ count * (scaled (4 * units) x.exponent).2 := by
    refine scaled_lt_mul_iff.mpr (hmost.trans_le ?_)
    rw [zpow_leadingExponent count, hexponent, Nat.cast_pow, Nat.cast_ofNat]
  have hone := (Nat.le_div_iff_mul_le hstep).mpr hfirst
  have hlt := (Nat.div_lt_iff_lt_mul hstep).mpr hlast
  exact ⟨by omega, by omega⟩

/-- Seventeen digits are enough. -/
theorem isSome_candidate?_seventeen (hpos : 0 < units) (hfinite : units < limit) :
    (candidate? units 17).isSome = true := by
  have hfine : 10 ^ 16 * (scaled (4 * units) (leadingExponent units + 1 - (17 : Nat))).2 ≤
      (scaled (4 * units) (leadingExponent units + 1 - (17 : Nat))).1 := by
    refine mul_scaled_le_iff.mpr (le_of_eq_of_le ?_ (leadingExponent_spec hpos hfinite).1)
    rw [Nat.cast_pow, Nat.cast_ofNat, ← zpow_natCast, ← zpow_add₀ (by norm_num)]
    congr 1
    omega
  have hrounds := (roundsTo_iff hpos _).mpr (nearest_of_seventeen hpos hfine)
  unfold candidate?
  dsimp only
  rw [if_pos hrounds]
  rfl

/-- Stripping moves all that it takes off the digits into the exponent. -/
theorem Decimal.exists_strip_eq (fuel : Nat) (x : Decimal) :
    ∃ zeros : Nat, x.digits = (x.strip fuel).digits * 10 ^ zeros ∧
      (x.strip fuel).exponent = x.exponent + zeros := by
  induction fuel generalizing x with
  | zero => exact ⟨0, by simp [strip]⟩
  | succ fuel ih =>
    rw [strip]
    split
    · next h =>
      obtain ⟨zeros, hdigits, hexponent⟩ := ih ⟨x.digits / 10, x.exponent + 1⟩
      simp only [Bool.and_eq_true, beq_iff_eq] at h
      refine ⟨zeros + 1, ?_, ?_⟩
      · rw [Nat.pow_succ, ← Nat.mul_assoc, ← hdigits]
        exact (Nat.div_mul_cancel (Nat.dvd_of_mod_eq_zero h.2)).symm
      · rw [hexponent]
        push_cast
        ring
    · exact ⟨0, by simp⟩

end

section

variable {units : Nat}

/-- The shortest decimal is a candidate without its trailing zeros. -/
theorem exists_candidate?_shortest (hpos : 0 < units) (hfinite : units < limit) :
    ∃ count x, 0 < count ∧ count ≤ 17 ∧ candidate? units count = some x ∧
      shortest units = x.strip 20 := by
  unfold shortest
  cases hfound : (List.range 17).findSome? fun i => candidate? units (i + 1) with
  | none =>
    have hnone := List.findSome?_eq_none_iff.mp hfound 16 (by decide)
    have hsome := isSome_candidate?_seventeen hpos hfinite
    rw [show 16 + 1 = 17 from rfl] at hnone
    rw [hnone] at hsome
    cases hsome
  | some x =>
    obtain ⟨i, hi, hx⟩ := List.exists_of_findSome?_eq_some hfound
    exact ⟨i + 1, x, Nat.succ_pos i, List.mem_range.mp hi, hx, rfl⟩

/-- Decimals of equal values are the same quotient of units. -/
theorem Decimal.numerator_mul_denominator {x y : Decimal} {zeros : Nat}
    (hdigits : x.digits = y.digits * 10 ^ zeros) (hexponent : y.exponent = x.exponent + zeros) :
    x.numerator * y.denominator = y.numerator * x.denominator := by
  have hpower : zeros + x.exponent.toNat + (-y.exponent).toNat =
      y.exponent.toNat + (-x.exponent).toNat := by omega
  have hten : 10 ^ zeros * 10 ^ x.exponent.toNat * 10 ^ (-y.exponent).toNat =
      10 ^ y.exponent.toNat * 10 ^ (-x.exponent).toNat := by
    rw [← Nat.pow_add, ← Nat.pow_add, ← Nat.pow_add, hpower]
  rw [numerator, numerator, denominator, denominator, hdigits]
  calc _ = y.digits * one * (10 ^ zeros * 10 ^ x.exponent.toNat * 10 ^ (-y.exponent).toNat) := by
        ring
    _ = y.digits * 10 ^ y.exponent.toNat * one * 10 ^ (-x.exponent).toNat := by
        rw [hten]
        ring

/-- The shortest decimal of a number lies in its rounding interval. -/
theorem nearest_shortest (hpos : 0 < units) (hfinite : units < limit) :
    Nearest units (shortest units).numerator (shortest units).denominator := by
  obtain ⟨count, x, -, -, hcandidate, heq⟩ := exists_candidate?_shortest hpos hfinite
  obtain ⟨zeros, hdigits, hexponent⟩ := x.exists_strip_eq 20
  obtain ⟨-, hrounds, -⟩ := candidate?_eq_some hcandidate
  rw [heq]
  exact ((roundsTo_iff hpos x).mp hrounds).congr x.denominator_pos (Decimal.denominator_pos _)
    (Decimal.numerator_mul_denominator hdigits hexponent)

/-- The shortest decimal has seventeen digits at most. -/
theorem shortest_bounds (hpos : 0 < units) (hfinite : units < limit) :
    0 < (shortest units).digits ∧ (shortest units).digits ≤ 10 ^ 17 ∧
      leadingExponent units - 16 ≤ (shortest units).exponent ∧
      (shortest units).value ≤ 10 ^ (leadingExponent units + 1) := by
  obtain ⟨count, x, hcount, hmost, hcandidate, heq⟩ := exists_candidate?_shortest hpos hfinite
  obtain ⟨zeros, hdigits, hexponent⟩ := x.exists_strip_eq 20
  obtain ⟨hx, -⟩ := candidate?_eq_some hcandidate
  obtain ⟨hsome, hle⟩ := digits_of_candidate? hpos hfinite hcount hcandidate
  rw [← heq] at hdigits hexponent
  have hzeros : 0 < 10 ^ zeros := Nat.pow_pos (by decide)
  have hvalue : (shortest units).value = x.value := by
    rw [Decimal.value, Decimal.value, hdigits, hexponent, zpow_add₀ (by norm_num), zpow_natCast]
    push_cast
    ring
  refine ⟨?_, ?_, by omega, ?_⟩
  · exact Nat.pos_of_ne_zero fun hzero => by simp [hdigits, hzero] at hsome
  · calc (shortest units).digits ≤ (shortest units).digits * 10 ^ zeros :=
          Nat.le_mul_of_pos_right _ hzeros
      _ = x.digits := hdigits.symm
      _ ≤ 10 ^ count := hle
      _ ≤ 10 ^ 17 := Nat.pow_le_pow_right (by decide) hmost
  · rw [hvalue, zpow_leadingExponent count, ← hx]
    have hcast : (x.digits : ℚ) ≤ 10 ^ count := by exact_mod_cast hle
    exact mul_le_mul_of_nonneg_right hcast (zpow_nonneg (by norm_num) _)

end

end Quizmaster.Binary64
