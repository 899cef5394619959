import Mathlib.Tactic.Linarith
import Mathlib.Tactic.Ring
import Quizmaster.Binary64

namespace Quizmaster

section

variable {n d q : Nat}

/-- The quotient is rounded down or up, by no more than a half, and to the even side from a half. -/
theorem divNearestEven_cases (n d : Nat) :
    divNearestEven n d = n / d ∧ 2 * (n % d) ≤ d ∧ (2 * (n % d) = d → n / d % 2 = 0) ∨
    divNearestEven n d = n / d + 1 ∧ d ≤ 2 * (n % d) ∧ (2 * (n % d) = d → n / d % 2 = 1) := by
  unfold divNearestEven
  dsimp only
  split
  · exact .inl ⟨rfl, by omega, by omega⟩
  · split
    · exact .inr ⟨rfl, by omega, by omega⟩
    · rcases Nat.mod_two_eq_zero_or_one (n / d) with heven | hodd
      · exact .inl ⟨by omega, by omega, by omega⟩
      · exact .inr ⟨by omega, by omega, by omega⟩

/-- Rounding is off by a half at most. -/
theorem divNearestEven_near (hd : 0 < d) :
    2 * (divNearestEven n d * d) ≤ 2 * n + d ∧ 2 * n ≤ 2 * (divNearestEven n d * d) + d := by
  have hdiv : n / d * d + n % d = n := Nat.div_add_mod' n d
  have hmod : n % d < d := Nat.mod_lt n hd
  obtain ⟨heq, hdown, -⟩ | ⟨heq, hup, -⟩ := divNearestEven_cases n d
  · rw [heq]
    omega
  · rw [heq, Nat.succ_mul (n / d) d]
    omega

/-- A whole number bounds the rounding of what it bounds from below. -/
theorem le_divNearestEven (hd : 0 < d) (h : q * d ≤ n) : q ≤ divNearestEven n d := by
  have hq : q ≤ n / d := (Nat.le_div_iff_mul_le hd).mpr h
  obtain ⟨heq, -, -⟩ | ⟨heq, -, -⟩ := divNearestEven_cases n d <;> omega

theorem divNearestEven_le (hd : 0 < d) (h : n ≤ q * d) : divNearestEven n d ≤ q := by
  have hdiv : n / d * d + n % d = n := Nat.div_add_mod' n d
  obtain ⟨heq, -, -⟩ | ⟨heq, hup, -⟩ := divNearestEven_cases n d
  · rw [heq]
    exact Nat.div_le_of_le_mul (by rwa [Nat.mul_comm] at h)
  · -- Rounding up leaves a remainder, so that the quotient is below `q`.
    have hlt : n / d * d < q * d := by omega
    rw [heq]
    exact Nat.lt_of_mul_lt_mul_right hlt

/-- A whole number no further than a half from the quotient is its rounding, if it is even where it
    is that far. -/
theorem divNearestEven_eq (hd : 0 < d) (hlow : 2 * (q * d) ≤ 2 * n + d)
    (hhigh : 2 * n ≤ 2 * (q * d) + d)
    (htie : 2 * (q * d) = 2 * n + d ∨ 2 * n = 2 * (q * d) + d → q % 2 = 0) :
    divNearestEven n d = q := by
  have hdiv : n / d * d + n % d = n := Nat.div_add_mod' n d
  have hmod : n % d < d := Nat.mod_lt n hd
  have hle : n / d ≤ q := by
    by_contra hlt
    have := Nat.mul_le_mul_right d (show q + 1 ≤ n / d by omega)
    rw [Nat.succ_mul] at this
    omega
  have hge : q ≤ n / d + 1 := by
    by_contra hlt
    have := Nat.mul_le_mul_right d (show n / d + 2 ≤ q by omega)
    rw [Nat.add_mul] at this
    omega
  obtain rfl | rfl : q = n / d ∨ q = n / d + 1 := by omega
  · obtain ⟨heq, -, -⟩ | ⟨-, hup, hodd⟩ := divNearestEven_cases n d
    · exact heq
    · have heven := htie (.inr (by omega))
      have := hodd (by omega)
      omega
  · rw [Nat.succ_mul (n / d) d] at hlow htie
    obtain ⟨-, hdown, heven⟩ | ⟨heq, -, -⟩ := divNearestEven_cases n d
    · have hodd := htie (.inl (by omega))
      have := heven (by omega)
      omega
    · exact heq

end

namespace Binary64

theorem one_pos : 0 < one := by
  unfold one
  generalize 1074 = k
  exact Nat.two_pow_pos k

/-- The distance from a magnitude to the next one. -/
def spacing (units : Nat) : Nat := 2 ^ (units.log2 - 52)

/-- A magnitude of 53 significant bits at most. -/
def Representable (units : Nat) : Prop := spacing units ∣ units

section

variable {n d k m units : Nat}

/-- Rounding keeps 53 bits: it is rounding to whole multiples of a power of two. -/
theorem roundUnits_eq (n d : Nat) :
    roundUnits n d =
      divNearestEven n (d * 2 ^ ((n / d).log2 - 52)) * 2 ^ ((n / d).log2 - 52) := rfl

/-- A quotient has 53 bits in the spacing that it is rounded to. -/
theorem lt_mul_two_pow (hd : 0 < d) : n < 2 ^ 53 * (d * 2 ^ ((n / d).log2 - 52)) := by
  have hlog : n / d < 2 ^ ((n / d).log2 + 1) := Nat.lt_log2_self
  have hpow : 2 ^ ((n / d).log2 + 1) ≤ 2 ^ 53 * 2 ^ ((n / d).log2 - 52) := by
    rw [← Nat.pow_add]
    exact Nat.pow_le_pow_right (by decide) (by omega)
  calc n < 2 ^ 53 * 2 ^ ((n / d).log2 - 52) * d :=
        (Nat.div_lt_iff_lt_mul hd).mp (hlog.trans_le hpow)
    _ = 2 ^ 53 * (d * 2 ^ ((n / d).log2 - 52)) := by ring

/-- A number of 53 bits is representable wherever its bits stand. -/
theorem representable_mul_two_pow (h : m ≤ 2 ^ 53) (k : Nat) : Representable (m * 2 ^ k) := by
  by_cases hm : m = 0
  · subst hm
    rw [Nat.zero_mul]
    exact Nat.dvd_zero _
  have hne : m * 2 ^ k ≠ 0 := Nat.mul_ne_zero hm (Nat.two_pow_pos k).ne'
  unfold Representable spacing
  obtain hlt | rfl : m < 2 ^ 53 ∨ m = 2 ^ 53 := by omega
  · have hlog : (m * 2 ^ k).log2 < 53 + k := by
      rw [Nat.log2_lt hne, Nat.pow_add]
      exact Nat.mul_lt_mul_of_pos_right hlt (Nat.two_pow_pos k)
    exact (Nat.pow_dvd_pow 2 (by omega)).mul_left m
  · rw [← Nat.pow_add, Nat.log2_two_pow]
    exact Nat.pow_dvd_pow 2 (by omega)

theorem representable_two_pow (k : Nat) : Representable (2 ^ k) := by
  simpa using representable_mul_two_pow (m := 1) (by decide) k

/-- Whatever is rounded can be represented. -/
theorem representable_roundUnits (hd : 0 < d) (n : Nat) : Representable (roundUnits n d) := by
  refine representable_mul_two_pow ?_ _
  exact divNearestEven_le (Nat.mul_pos hd (Nat.two_pow_pos _)) (lt_mul_two_pow hd).le

/-- Rounding does not go beyond a representable bound. -/
theorem roundUnits_le (hd : 0 < d) (hunits : Representable units) (h : n ≤ units * d) :
    roundUnits n d ≤ units := by
  obtain ⟨q, hq⟩ : 2 ^ ((n / d).log2 - 52) ∣ units := by
    by_cases hzero : n / d = 0
    · rw [hzero, Nat.log2_zero]
      exact Nat.one_dvd _
    have hle : n / d ≤ units := Nat.div_le_of_le_mul (by rwa [Nat.mul_comm])
    have hpos : 0 < units := (Nat.pos_of_ne_zero hzero).trans_le hle
    have hlog : (n / d).log2 ≤ units.log2 :=
      (Nat.le_log2 hpos.ne').mpr ((Nat.log2_self_le hzero).trans hle)
    exact (Nat.pow_dvd_pow 2 (Nat.sub_le_sub_right hlog 52)).trans hunits
  rw [roundUnits_eq, hq, Nat.mul_comm]
  refine Nat.mul_le_mul_left _ (divNearestEven_le (Nat.mul_pos hd (Nat.two_pow_pos _)) ?_)
  calc n ≤ units * d := h
    _ = q * (d * 2 ^ ((n / d).log2 - 52)) := by rw [hq]; ring

/-- A quotient from `2 ^ k` on is not rounded to less. -/
theorem two_pow_le_roundUnits (hd : 0 < d) (h : 2 ^ k ≤ n / d) : 2 ^ k ≤ roundUnits n d := by
  have hne : n / d ≠ 0 := ((Nat.two_pow_pos k).trans_le h).ne'
  have hlog : k ≤ (n / d).log2 := (Nat.le_log2 hne).mpr h
  have hself : 2 ^ (n / d).log2 * d ≤ n :=
    (Nat.mul_le_mul_right d (Nat.log2_self_le hne)).trans (Nat.div_mul_le_self n d)
  have hsplit : 2 ^ (n / d).log2 =
      2 ^ ((n / d).log2 - ((n / d).log2 - 52)) * 2 ^ ((n / d).log2 - 52) := by
    rw [← Nat.pow_add]
    congr 1
    omega
  calc 2 ^ k ≤ 2 ^ (n / d).log2 := Nat.pow_le_pow_right (by decide) hlog
    _ ≤ roundUnits n d := by
      rw [roundUnits_eq, hsplit]
      refine Nat.mul_le_mul_right _ (le_divNearestEven (Nat.mul_pos hd (Nat.two_pow_pos _)) ?_)
      calc _ = 2 ^ (n / d).log2 * d := by rw [hsplit]; ring
        _ ≤ n := hself

/-- Rounding does not fall below a representable bound. -/
theorem le_roundUnits (hd : 0 < d) (hunits : Representable units) (h : units * d ≤ n) :
    units ≤ roundUnits n d := by
  have hle : units ≤ n / d := (Nat.le_div_iff_mul_le hd).mpr h
  obtain rfl | hpos := Nat.eq_zero_or_pos units
  · exact Nat.zero_le _
  obtain hlog | hlog := Nat.lt_or_ge units.log2 (n / d).log2
  · -- The quotient has a longer binary numeral, and so has its rounding.
    have hup : 2 ^ (units.log2 + 1) ≤ n / d :=
      (Nat.pow_le_pow_right (by decide) hlog).trans (Nat.log2_self_le (hpos.trans_le hle).ne')
    exact Nat.lt_log2_self.le.trans (two_pow_le_roundUnits hd hup)
  · obtain ⟨q, hq⟩ : 2 ^ ((n / d).log2 - 52) ∣ units :=
      (Nat.pow_dvd_pow 2 (Nat.sub_le_sub_right hlog 52)).trans hunits
    rw [roundUnits_eq, hq, Nat.mul_comm]
    refine Nat.mul_le_mul_right _ (le_divNearestEven (Nat.mul_pos hd (Nat.two_pow_pos _)) ?_)
    calc _ = units * d := by rw [hq]; ring
      _ ≤ n := h

theorem roundUnits_zero (hd : 0 < d) : roundUnits 0 d = 0 :=
  Nat.le_zero.mp (roundUnits_le hd (Nat.dvd_zero _) (Nat.zero_le _))

/-- A representable number is its own rounding. -/
theorem roundUnits_mul (hd : 0 < d) (hunits : Representable units) :
    roundUnits (units * d) d = units :=
  Nat.le_antisymm (roundUnits_le hd hunits le_rfl) (le_roundUnits hd hunits le_rfl)

theorem roundUnits_ne_zero (hd : 0 < d) (hn : d ≤ n) : roundUnits n d ≠ 0 := by
  have hone := two_pow_le_roundUnits (k := 0) hd ((Nat.one_le_div_iff hd).mpr hn)
  exact Nat.ne_of_gt hone

end

section

/-- Twice the distance from a magnitude down to the one before it, which is nearer below a power of
    two. -/
def spacingBelow (units : Nat) : Nat :=
  if 52 < units.log2 ∧ units = 2 ^ units.log2 then spacing units else 2 * spacing units

/-- The quotient lies no further than halfway from a magnitude to its neighbours, and nearer than
    that if the magnitude's last bit is set. -/
structure Nearest (units n d : Nat) : Prop where
  low : 4 * (units * d) ≤ 4 * n + spacingBelow units * d
  high : 4 * n ≤ 4 * (units * d) + 2 * (spacing units * d)
  even : 4 * (units * d) = 4 * n + spacingBelow units * d ∨
    4 * n = 4 * (units * d) + 2 * (spacing units * d) → units / spacing units % 2 = 0

variable {units n d : Nat}

/-- Only the quotient counts. -/
theorem Nearest.congr {n' d' : Nat} (hd : 0 < d) (hd' : 0 < d') (heq : n * d' = n' * d)
    (h : Nearest units n d) : Nearest units n' d' := by
  have hn : d * (4 * n') = d' * (4 * n) := by linarith
  have hunits : d * (4 * (units * d')) = d' * (4 * (units * d)) := by ring
  have hbelow : d * (4 * n' + spacingBelow units * d') =
      d' * (4 * n + spacingBelow units * d) := by
    rw [Nat.mul_add, hn]
    ring
  have habove : d * (4 * (units * d') + 2 * (spacing units * d')) =
      d' * (4 * (units * d) + 2 * (spacing units * d)) := by ring
  refine ⟨Nat.le_of_mul_le_mul_left ?_ hd, Nat.le_of_mul_le_mul_left ?_ hd, fun hends => h.even ?_⟩
  · rw [hunits, hbelow]
    exact Nat.mul_le_mul_left d' h.low
  · rw [hn, habove]
    exact Nat.mul_le_mul_left d' h.high
  · refine hends.imp (fun hend => ?_) fun hend => ?_
    · exact Nat.eq_of_mul_eq_mul_left hd' (by rw [← hunits, hend, hbelow])
    · exact Nat.eq_of_mul_eq_mul_left hd' (by rw [← hn, hend, habove])

theorem spacing_pos (units : Nat) : 0 < spacing units := Nat.two_pow_pos _

/-- The magnitude before one lies no further from it than the one after. -/
theorem spacingBelow_le (units : Nat) : spacingBelow units ≤ 2 * spacing units := by
  unfold spacingBelow
  split <;> omega

/-- Two multiples of the spacing differ by a whole spacing. -/
theorem add_spacing_le {a b : Nat} (ha : spacing units ∣ a) (hb : spacing units ∣ b) (h : a < b) :
    a + spacing units ≤ b := by
  obtain ⟨i, rfl⟩ := ha
  obtain ⟨j, rfl⟩ := hb
  have hij : i + 1 ≤ j := Nat.lt_of_mul_lt_mul_left h
  calc spacing units * i + spacing units = spacing units * (i + 1) := by ring
    _ ≤ spacing units * j := Nat.mul_le_mul_left _ hij

/-- No quotient in the interval has a wider spacing: it would lie beyond the next power of two. -/
theorem Nearest.log2_le (hunits : Representable units) (hd : 0 < d) (h : Nearest units n d) :
    (n / d).log2 ≤ units.log2 ∨ (n / d).log2 ≤ 52 := by
  by_contra hwide
  obtain ⟨hlog, hnormal⟩ := not_or.mp hwide
  have hne : n / d ≠ 0 := by
    intro hzero
    simp [hzero] at hnormal
  have hpow : 2 ^ (units.log2 + 1) ≤ n / d :=
    (Nat.pow_le_pow_right (by decide) (by omega)).trans (Nat.log2_self_le hne)
  have hnext : units + spacing units ≤ 2 ^ (units.log2 + 1) :=
    add_spacing_le hunits (Nat.pow_dvd_pow 2 (by omega)) Nat.lt_log2_self
  have hfar : units * d + spacing units * d ≤ n := by
    rw [← Nat.add_mul]
    exact (Nat.le_div_iff_mul_le hd).mp (hnext.trans hpow)
  have hpos : 0 < spacing units * d := Nat.mul_pos (spacing_pos units) hd
  have := h.high
  omega

/-- A quotient in the interval that has a narrower spacing lies just below a power of two. -/
theorem Nearest.of_log2_lt (hunits : Representable units) (hd : 0 < d) (h : Nearest units n d)
    (hlog : (n / d).log2 < units.log2) (hnormal : 52 < units.log2) :
    units = 2 ^ units.log2 ∧ (n / d).log2 + 1 = units.log2 := by
  have hpos : 0 < spacing units * d := Nat.mul_pos (spacing_pos units) hd
  have hself : 2 ^ units.log2 ≤ units := Nat.log2_self_le fun hzero => by simp [hzero] at hnormal
  have hdiv : n / d < 2 ^ units.log2 := by
    by_cases hzero : n / d = 0
    · rw [hzero]
      exact Nat.two_pow_pos _
    · exact (Nat.log2_lt hzero).mp hlog
  have hn : n < 2 ^ units.log2 * d := (Nat.div_lt_iff_lt_mul hd).mp hdiv
  have hpower : units = 2 ^ units.log2 := by
    by_contra hne
    have hnext : 2 ^ units.log2 + spacing units ≤ units :=
      add_spacing_le (Nat.pow_dvd_pow 2 (by omega)) hunits (by omega)
    have hgap := Nat.mul_le_mul_right d hnext
    rw [Nat.add_mul] at hgap
    have hbelow := Nat.mul_le_mul_right d (spacingBelow_le units)
    have := h.low
    rw [Nat.mul_assoc] at hbelow
    omega
  have hhalf : 2 * 2 ^ (units.log2 - 1) = units := by
    rw [← Nat.pow_succ', Nat.succ_eq_add_one, Nat.sub_add_cancel (by omega), ← hpower]
  have hnear : 2 ^ (units.log2 - 1) ≤ n / d := by
    have hsmall : spacingBelow units * d ≤ 2 * (units * d) := by
      rw [← Nat.mul_assoc]
      exact Nat.mul_le_mul_right d ((spacingBelow_le units).trans
        (Nat.mul_le_mul_left 2 (Nat.le_of_dvd ((Nat.two_pow_pos _).trans_le hself) hunits)))
    have hdouble : 2 * (2 ^ (units.log2 - 1) * d) = units * d := by rw [← Nat.mul_assoc, hhalf]
    have := h.low
    exact (Nat.le_div_iff_mul_le hd).mpr (by omega)
  have hlog' : units.log2 - 1 ≤ (n / d).log2 :=
    (Nat.le_log2 ((Nat.two_pow_pos _).trans_le hnear).ne').mpr hnear
  exact ⟨hpower, by omega⟩

/-- On the grid of the magnitude, the magnitude is the rounding. -/
theorem Nearest.roundUnits_eq_of_same (hunits : Representable units) (hd : 0 < d)
    (h : Nearest units n d) (hsame : (n / d).log2 - 52 = units.log2 - 52) :
    roundUnits n d = units := by
  rw [Binary64.roundUnits_eq, hsame]
  change divNearestEven n (d * spacing units) * spacing units = units
  obtain ⟨q, hq⟩ : spacing units ∣ units := hunits
  have hscaled : q * (d * spacing units) = units * d := by
    rw [Nat.mul_comm d, ← Nat.mul_assoc, Nat.mul_comm q, ← hq]
  have hbelow := Nat.mul_le_mul_right d (spacingBelow_le units)
  rw [Nat.mul_assoc] at hbelow
  have hquotient : units / spacing units = q := Nat.div_eq_of_eq_mul_right (spacing_pos units) hq
  have hlow := h.low
  have hhigh := h.high
  have heven := h.even
  rw [hquotient] at heven
  rw [divNearestEven_eq (q := q) (Nat.mul_pos hd (spacing_pos units)), Nat.mul_comm, ← hq]
  all_goals
    rw [hscaled, Nat.mul_comm d]
    omega

/-- Just below a power of two the grid is twice as fine, and the power is the rounding. -/
theorem Nearest.roundUnits_eq_of_power (hd : 0 < d) (h : Nearest units n d)
    (hnormal : 52 < units.log2) (hpower : units = 2 ^ units.log2)
    (hnext : (n / d).log2 + 1 = units.log2) : roundUnits n d = units := by
  have hbelow : spacingBelow units = spacing units := if_pos ⟨hnormal, hpower⟩
  have hfine : 2 * 2 ^ ((n / d).log2 - 52) = spacing units := by
    rw [← Nat.pow_succ', spacing]
    congr 1
    omega
  have hwhole : 2 ^ 53 * 2 ^ ((n / d).log2 - 52) = units := by
    rw [← Nat.pow_add]
    conv_rhs => rw [hpower]
    congr 1
    omega
  have hscaled : 2 ^ 53 * (d * 2 ^ ((n / d).log2 - 52)) = units * d := by
    rw [Nat.mul_comm d, ← Nat.mul_assoc, hwhole]
  have hstep : 2 * (d * 2 ^ ((n / d).log2 - 52)) = spacing units * d := by
    rw [Nat.mul_left_comm, hfine, Nat.mul_comm]
  have hlow := h.low
  rw [hbelow] at hlow
  have hbeyond : n < units * d := by
    rw [hpower, ← Nat.div_lt_iff_lt_mul hd, ← hnext]
    exact Nat.lt_log2_self
  rw [Binary64.roundUnits_eq,
    divNearestEven_eq (q := 2 ^ 53) (Nat.mul_pos hd (Nat.two_pow_pos _)), hwhole]
  · rw [hscaled]
    omega
  · omega
  · exact fun _ => by decide

/-- Every quotient in the rounding interval of a representable magnitude is rounded to it. -/
theorem Nearest.roundUnits_eq (hunits : Representable units) (hd : 0 < d)
    (h : Nearest units n d) : roundUnits n d = units := by
  by_cases hsame : (n / d).log2 - 52 = units.log2 - 52
  · exact h.roundUnits_eq_of_same hunits hd hsame
  · have hlog : (n / d).log2 < units.log2 ∧ 52 < units.log2 := by
      have := h.log2_le hunits hd
      omega
    obtain ⟨hpower, hnext⟩ := h.of_log2_lt hunits hd hlog.1 hlog.2
    exact h.roundUnits_eq_of_power hd hlog.2 hpower hnext

end

end Binary64

end Quizmaster
