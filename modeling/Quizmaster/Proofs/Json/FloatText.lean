import Quizmaster.Proofs.Binary64.Arithmetic
import Quizmaster.Proofs.Binary64.Shortest
import Quizmaster.Proofs.Json.Compact

namespace Quizmaster.Json

namespace Number

/-- The number's text is that of a numeral. -/
theorem legible_of_text {n : Number} {m : Numeral} (htext : n.text.toList = m.text)
    (hform : m.WellFormed) (hjson : isNumeral m = true) : n.Legible ∧ n.numeral = m := by
  have hscan : Numeral.scan? n.text.toList = some (m, []) := by
    rw [htext, ← List.append_nil m.text]
    exact Numeral.scan?_text_append hform nofun
  have hnumeral : n.numeral = m := by rw [numeral, hscan]; rfl
  exact ⟨⟨by rw [htext, hnumeral], hnumeral ▸ hform, hnumeral ▸ hjson⟩, hnumeral⟩

theorem isDigit_of_mem_toDigits {n : Nat} {c : Char} (h : c ∈ Nat.toDigits 10 n) :
    c.isDigit = true :=
  Nat.isDigit_of_mem_toDigits (by decide) (by decide) h

/-- No zero stands in front of other digits. -/
theorem head?_toDigits {n : Nat} (hn : 0 < n) : (Nat.toDigits 10 n).head? ≠ some '0' := by
  induction n using Nat.strong_induction_on with
  | _ n ih =>
    rw [Nat.toDigits_eq_if (by decide)]
    split
    · next hsmall =>
      have hdigit : ∀ d < 10, 0 < d → Nat.digitChar d ≠ '0' := by decide
      simpa using hdigit n hsmall hn
    · next hlarge =>
      rw [List.head?_append_of_ne_nil _ Nat.toDigits_ne_nil]
      exact ih (n / 10) (by omega) (by omega)

/-- A whole number is written in digits alone. -/
theorem legible_natural (n : Nat) :
    (natural n).Legible ∧ (natural n).numeral = ⟨.absent, Nat.toDigits 10 n, none, none⟩ := by
  refine legible_of_text (by simp [text, Numeral.text, Sign.text, Numeral.fractionText])
    ⟨fun c hc => isDigit_of_mem_toDigits hc, nofun, fun h => Nat.toDigits_ne_nil h.1, nofun⟩ ?_
  obtain rfl | hn := Nat.eq_zero_or_pos n
  · rfl
  · simp [isNumeral, Nat.toDigits_ne_nil, head?_toDigits hn]

theorem le_ofDigitChars (cs : List Char) (n : Nat) : n ≤ Nat.ofDigitChars 10 cs n := by
  rw [Nat.ofDigitChars_eq_ofDigitChars_zero]
  exact (Nat.le_mul_of_pos_left _ (Nat.pow_pos (by decide))).trans (Nat.le_add_right _ _)

/-- Digits are all collected if their value is of 64 bits. -/
theorem collect_eq {significand : Nat} {cs : List Char}
    (h : Nat.ofDigitChars 10 cs significand ≤ significandLimit) :
    collect significand cs = (Nat.ofDigitChars 10 cs significand, 0) := by
  induction cs generalizing significand with
  | nil => rfl
  | cons c cs ih =>
    rw [Nat.ofDigitChars_cons, Nat.mul_comm] at h ⊢
    have hnext : significand * 10 + (c.toNat - '0'.toNat) ≤ significandLimit :=
      (le_ofDigitChars cs _).trans h
    rw [collect, if_pos hnext, ih h]

theorem ofNumeral?_natural {n : Nat} (h : n ≤ significandLimit) :
    ofNumeral? (natural n).numeral = some (natural n) := by
  have hvalue : Nat.ofDigitChars 10 (Nat.toDigits 10 n) 0 = n := Nat.ofDigitChars_ten_toDigits
  have hcollect : collect 0 (Nat.toDigits 10 n) = (n, 0) := by
    rw [collect_eq (by rwa [hvalue]), hvalue]
  simp [(legible_natural n).2, ofNumeral?, hcollect]

end Number

theorem legible_nat (n : Nat) : Legible (.nat n) := (Number.legible_natural n).1

/-- A count of 64 bits is read back. -/
theorem nat?_written_nat {n : Nat} (h : n ≤ Number.significandLimit) :
    (Json.nat n).written.nat? = some n := by
  rw [nat, written, Written.nat?, Number.ofNumeral?_natural h]

namespace Number

section

variable {sign : Sign} {digits : List Char} {first : Int}

/-- The numeral of digits of which the first one stands at the given place, as it is written. -/
def placed (sign : Sign) (digits : List Char) (first : Int) : Numeral :=
  if -5 ≤ first ∧ first ≤ 15 then
    if first < 0 then
      ⟨sign, ['0'], some (List.replicate ((-first).toNat - 1) '0' ++ digits), none⟩
    else
      let places := first.toNat + 1
      let rest := digits.drop places
      ⟨sign, digits.take places ++ List.replicate (places - digits.length) '0',
        some (if rest.isEmpty then ['0'] else rest), none⟩
  else
    let rest := digits.drop 1
    ⟨sign, digits.take 1, if rest.isEmpty then none else some rest,
      some ⟨'e', if first < 0 then .minus else .plus, Nat.toDigits 10 first.natAbs⟩⟩

/-- Where the point of a number is placed: among the digits, before or behind them, or with an
    exponent. -/
theorem text_placed (hdigits : digits ≠ []) :
    (placed sign digits first).text =
      sign.text ++ if -5 ≤ first ∧ first ≤ 15 then positional digits first
        else scientific digits first := by
  unfold placed
  split
  · unfold positional
    split
    · simp [Numeral.text, Numeral.fractionText]
    · simp [Numeral.text, Numeral.fractionText]
  · obtain ⟨d, rest, rfl⟩ := List.exists_cons_of_ne_nil hdigits
    cases rest <;> by_cases hnegative : first < 0 <;>
      simp [Numeral.text, Numeral.fractionText, scientific, Exponent.text, Sign.text, hnegative]

theorem wellFormed_placed (hdigits : digits ≠ []) (h : ∀ c ∈ digits, c.isDigit = true) :
    (placed sign digits first).WellFormed := by
  have hzeros (n : Nat) : ∀ c ∈ List.replicate n '0', c.isDigit = true := fun c hc => by
    rw [List.eq_of_mem_replicate hc]
    rfl
  have htake (n : Nat) : ∀ c ∈ digits.take n, c.isDigit = true := fun c hc =>
    h c (List.mem_of_mem_take hc)
  have hdrop (n : Nat) : ∀ c ∈ digits.drop n, c.isDigit = true := fun c hc =>
    h c (List.mem_of_mem_drop hc)
  unfold placed
  split
  · split
    · refine ⟨?_, ?_, by simp, nofun⟩
      · simp
      · rintro _ ⟨⟩
        exact List.forall_mem_append.mpr ⟨hzeros _, h⟩
    · refine ⟨List.forall_mem_append.mpr ⟨htake _, hzeros _⟩, ?_, by simp [hdigits], nofun⟩
      rintro _ ⟨⟩
      split
      · exact hzeros 1
      · exact hdrop _
  · refine ⟨htake 1, ?_, by simp [hdigits], ?_⟩
    · rintro rest hrest
      dsimp only at hrest
      split at hrest <;> cases hrest
      exact hdrop 1
    · rintro _ ⟨⟩
      exact ⟨.inl rfl, Nat.toDigits_ne_nil, fun c hc => isDigit_of_mem_toDigits hc⟩

theorem isNumeral_placed (hsign : sign ≠ .plus) (hdigits : digits ≠ [])
    (hhead : digits.head? ≠ some '0') : isNumeral (placed sign digits first) = true := by
  obtain ⟨d, digits, rfl⟩ := List.exists_cons_of_ne_nil hdigits
  have hzero : d ≠ '0' := by simpa using hhead
  unfold placed
  split
  · split
    · simp [isNumeral, hsign]
    · simp only [isNumeral, Bool.and_eq_true, bne_iff_ne, ne_eq, Bool.or_eq_true, beq_iff_eq,
        Option.some.injEq]
      refine ⟨⟨⟨hsign, by simp⟩, .inr (by simp [hzero])⟩, ?_⟩
      split
      · simp
      · next hrest => simpa using hrest
  · cases digits <;> simp [isNumeral, hsign]

theorem shrink_of_le {x : Binary64} {n : Nat} (h : n ≤ maxPower) :
    shrink x n = x.div? (.ofNat (10 ^ n)) := by
  have hsteps : (n - 1) / maxPower = 0 := by
    rw [maxPower] at h ⊢
    omega
  unfold shrink
  dsimp only
  rw [hsteps, shrinkSteps, Option.bind_some, Nat.zero_mul, Nat.sub_zero, powerOfTen, Nat.pow_eq]

/-- A fraction is read as one division. -/
theorem magnitude?_of_neg {significand : Nat} {e : Int} (hneg : e < 0) (hleast : -308 ≤ e) :
    magnitude? significand e =
      (Binary64.ofNat significand).div? (.ofNat (10 ^ (-e).toNat)) := by
  have hpower : (-e).toNat ≤ maxPower := by
    rw [maxPower]
    omega
  unfold magnitude?
  dsimp only
  rw [if_neg (by omega), shrink_of_le hpower]

/-- With a negative exponent of no more than the largest power of ten, a float is one division. -/
theorem float?_of_neg {minus : Bool} {significand : Nat} {scale : Int} {written : Option Exponent}
    {e : Int} (he : scale + (written.map Exponent.value).getD 0 = e) (hneg : e < 0)
    (hleast : -308 ≤ e) (hwritten : ((written.map Exponent.value).getD 0).natAbs ≤ 1000) :
    float? minus significand scale written =
      ((Binary64.ofNat significand).div? (.ofNat (10 ^ (-e).toNat))).map fun x =>
        .float ⟨minus, x.units⟩ := by
  have hlimit : exponentLimit = 2147483647 := rfl
  unfold float?
  dsimp only
  rw [if_neg (by omega), if_neg (by omega), he, magnitude?_of_neg hneg hleast]

end

section

/-- The quotient that a decimal is read as. A decimal that is whole is written with one zero after
    its point. -/
def quotient? (x : Binary64.Decimal) : Option Binary64 :=
  if 0 ≤ x.exponent then
    (Binary64.ofNat (x.digits * 10 ^ (x.exponent.toNat + 1))).div? (.ofNat 10)
  else (Binary64.ofNat x.digits).div? (.ofNat (10 ^ (-x.exponent).toNat))

variable {sign : Sign} {digits : List Char} {first : Int}

/-- A numeral with digits on both sides of its point is read as the quotient of all its digits. -/
theorem ofNumeral?_fraction {whole fraction : List Char} {written : Option Exponent} {e : Int}
    (hvalue : Nat.ofDigitChars 10 (whole ++ fraction) 0 ≤ significandLimit)
    (he : (written.map Exponent.value).getD 0 - fraction.length = e) (hneg : e < 0)
    (hleast : -308 ≤ e) (hwritten : ((written.map Exponent.value).getD 0).natAbs ≤ 1000) :
    ofNumeral? ⟨sign, whole, some fraction, written⟩ =
      ((Binary64.ofNat (Nat.ofDigitChars 10 (whole ++ fraction) 0)).div?
        (.ofNat (10 ^ (-e).toNat))).map fun x => .float ⟨sign == .minus, x.units⟩ := by
  rw [Nat.ofDigitChars_append] at hvalue ⊢
  have hwhole : Nat.ofDigitChars 10 whole 0 ≤ significandLimit :=
    (le_ofDigitChars fraction _).trans hvalue
  simp only [ofNumeral?, collect_eq hwhole, Option.getD_some, collect_eq hvalue]
  exact float?_of_neg (by omega) hneg hleast hwritten

/-- Zeros in front of digits do not count. -/
theorem ofDigitChars_zeros_append (n : Nat) (digits : List Char) :
    Nat.ofDigitChars 10 (List.replicate n '0' ++ digits) 0 = Nat.ofDigitChars 10 digits 0 := by
  rw [Nat.ofDigitChars_append, Nat.ofDigitChars_replicate_zero, Nat.mul_zero]

theorem ofDigitChars_append_zeros (digits : List Char) (n : Nat) :
    Nat.ofDigitChars 10 (digits ++ List.replicate n '0') 0 =
      Nat.ofDigitChars 10 digits 0 * 10 ^ n := by
  rw [Nat.ofDigitChars_append, Nat.ofDigitChars_replicate_zero, Nat.mul_comm]

section

variable {x : Binary64.Decimal} (hvalue : Nat.ofDigitChars 10 digits 0 = x.digits)
  (hfirst : first = x.exponent + digits.length - 1) (hleast : -308 ≤ x.exponent)
  (hcollect : x.digits ≤ significandLimit)

include hvalue hfirst hleast hcollect

/-- All digits stand after the point, behind zeros. -/
theorem ofNumeral?_behind_point (hplace : -5 ≤ first) (hneg : first < 0) (hne : digits ≠ []) :
    ofNumeral? (placed sign digits first) =
      (quotient? x).map fun y => .float ⟨sign == .minus, y.units⟩ := by
  have hlength : 0 < digits.length := List.length_pos_of_ne_nil hne
  have hall : Nat.ofDigitChars 10
      (['0'] ++ (List.replicate ((-first).toNat - 1) '0' ++ digits)) 0 = x.digits := by
    rw [← List.append_assoc, ← List.replicate_one, List.replicate_append_replicate,
      ofDigitChars_zeros_append, hvalue]
  rw [placed, if_pos ⟨hplace, by omega⟩, if_pos hneg,
    ofNumeral?_fraction (e := x.exponent) (by rwa [hall]) (by simp; omega) (by omega) hleast
      (by simp), hall, quotient?, if_neg (by omega)]

/-- The point stands between two digits. -/
theorem ofNumeral?_between (hpos : 0 ≤ first) (hmost : first ≤ 15)
    (hinside : first.toNat + 1 < digits.length) :
    ofNumeral? (placed sign digits first) =
      (quotient? x).map fun y => .float ⟨sign == .minus, y.units⟩ := by
  have hrest : digits.drop (first.toNat + 1) ≠ [] := by simpa using hinside
  have hnone : first.toNat + 1 - digits.length = 0 := by omega
  have hall : Nat.ofDigitChars 10 (digits.take (first.toNat + 1) ++
      List.replicate (first.toNat + 1 - digits.length) '0' ++
        digits.drop (first.toNat + 1)) 0 = x.digits := by
    rw [hnone, List.replicate_zero, List.append_nil, List.take_append_drop, hvalue]
  rw [placed, if_pos ⟨by omega, hmost⟩, if_neg (by omega)]
  dsimp only
  rw [if_neg (by simpa using hrest), ofNumeral?_fraction (e := x.exponent) (by rwa [hall])
    (by simp; omega) (by omega) hleast (by simp), hall, quotient?, if_neg (by omega)]

/-- One digit stands before the point, and an exponent moves it. -/
theorem ofNumeral?_scientific (hplace : first < -5) (hne : digits ≠ []) :
    ofNumeral? (placed sign digits first) =
      (quotient? x).map fun y => .float ⟨sign == .minus, y.units⟩ := by
  have hlength : 0 < digits.length := List.length_pos_of_ne_nil hne
  have hneg : first < 0 := by omega
  have hexponent : Exponent.value ⟨'e', .minus, Nat.toDigits 10 first.natAbs⟩ = first := by
    rw [Exponent.value, if_pos rfl, Text.ofDigits, Nat.ofDigitChars_ten_toDigits]
    omega
  have hempty (whole rest : List Char) (written : Exponent) :
      ofNumeral? ⟨sign, whole, if rest.isEmpty then none else some rest, some written⟩ =
        ofNumeral? ⟨sign, whole, some rest, some written⟩ := by
    cases rest <;> rfl
  have hall : Nat.ofDigitChars 10 (digits.take 1 ++ digits.drop 1) 0 = x.digits := by
    rw [List.take_append_drop, hvalue]
  rw [placed, if_neg (by omega)]
  dsimp only
  rw [if_pos hneg, hempty, ofNumeral?_fraction (e := x.exponent) (by rwa [hall])
    (by simp [hexponent]; omega) (by omega) hleast (by simp [hexponent]; omega), hall, quotient?,
    if_neg (by omega)]

omit hleast hcollect in
/-- The point stands after the last digit, behind zeros if need be, and one more zero follows. -/
theorem ofNumeral?_at_end (hpos : 0 ≤ first) (hmost : first ≤ 15)
    (hend : digits.length ≤ first.toNat + 1)
    (hcollect : 0 ≤ x.exponent → x.digits * 10 ^ (x.exponent.toNat + 1) ≤ significandLimit) :
    ofNumeral? (placed sign digits first) =
      (quotient? x).map fun y => .float ⟨sign == .minus, y.units⟩ := by
  have hrest : digits.drop (first.toNat + 1) = [] := List.drop_eq_nil_iff.mpr hend
  have hwhole : 0 ≤ x.exponent := by omega
  have hzeros : first.toNat + 1 - digits.length = x.exponent.toNat := by omega
  have hall : Nat.ofDigitChars 10 (digits.take (first.toNat + 1) ++
      List.replicate (first.toNat + 1 - digits.length) '0' ++ ['0']) 0 =
      x.digits * 10 ^ (x.exponent.toNat + 1) := by
    rw [List.take_of_length_le hend, List.append_assoc, ← List.replicate_one,
      List.replicate_append_replicate, ofDigitChars_append_zeros, hvalue, hzeros]
  rw [placed, if_pos ⟨by omega, hmost⟩, if_neg (by omega)]
  dsimp only
  rw [if_pos (by simp [hrest]), ofNumeral?_fraction (e := -1)
    (by rw [hall]; exact hcollect hwhole) (by simp) (by decide) (by decide) (by simp), hall,
    quotient?, if_pos hwhole]
  rfl

/-- What is written of a decimal is read as its quotient, wherever its point stands. -/
theorem ofNumeral?_placed (hne : digits ≠ []) (hmost : first ≤ 15)
    (hcollect' : 0 ≤ x.exponent → x.digits * 10 ^ (x.exponent.toNat + 1) ≤ significandLimit) :
    ofNumeral? (placed sign digits first) =
      (quotient? x).map fun y => .float ⟨sign == .minus, y.units⟩ := by
  by_cases hplace : -5 ≤ first
  · by_cases hneg : first < 0
    · exact ofNumeral?_behind_point hvalue hfirst hleast hcollect hplace hneg hne
    · have hpos : 0 ≤ first := Int.not_lt.mp hneg
      by_cases hinside : first.toNat + 1 < digits.length
      · exact ofNumeral?_between hvalue hfirst hleast hcollect hpos hmost hinside
      · exact ofNumeral?_at_end hvalue hfirst hpos hmost (Nat.not_lt.mp hinside) hcollect'
  · exact ofNumeral?_scientific hvalue hfirst hleast hcollect (Int.not_le.mp hplace) hne

end

end

open Binary64

/-- The sign in front of a float. -/
def signOf (x : Binary64) : Sign := if x.negative then .minus else .absent

theorem signOf_ne_plus (x : Binary64) : signOf x ≠ .plus := by
  unfold signOf
  split <;> decide

theorem signOf_eq_minus (x : Binary64) : (signOf x == .minus) = x.negative := by
  unfold signOf
  cases x.negative <;> rfl

/-- Zero is written as `0.0`, with its sign. -/
theorem legible_float_of_isZero {x : Binary64} (hzero : x.units = 0) :
    (float x).Legible ∧ (float x).numeral = ⟨signOf x, ['0'], some ['0'], none⟩ := by
  have hisZero : x.isZero = true := isZero_iff.mpr hzero
  refine legible_of_text ?_ ⟨by simp, by rintro _ ⟨⟩; simp, by simp, nofun⟩ ?_
  · cases hnegative : x.negative <;>
      simp [text, floatText, hisZero, hnegative, signOf, Numeral.text, Numeral.fractionText, Sign.text]
  · simp [isNumeral, signOf_ne_plus]

/-- The numeral of a float other than zero has the digits of the shortest decimal. -/
theorem legible_float {x : Binary64} (hpos : 0 < x.units) (hfinite : x.units < limit) :
    let digits := Nat.toDigits 10 (shortest x.units).digits
    (float x).Legible ∧ (float x).numeral =
      placed (signOf x) digits ((shortest x.units).exponent + digits.length - 1) := by
  intro digits
  have hdigits : digits ≠ [] := Nat.toDigits_ne_nil
  have hisZero : x.isZero = false := isZero_eq_false hpos
  refine legible_of_text ?_ (wellFormed_placed hdigits fun c hc => isDigit_of_mem_toDigits hc)
    (isNumeral_placed (signOf_ne_plus x) hdigits (head?_toDigits (shortest_bounds hpos hfinite).1))
  rw [text_placed hdigits, text, floatText, String.toList_ofList, hisZero]
  cases hnegative : x.negative <;> simp [signOf, hnegative, Sign.text, digits]

/-- A magnitude whose decimal is read by one division: its first digit is neither far behind the
    point nor far before it. -/
structure Moderate (units : Nat) : Prop where
  low : one ≤ units * 10 ^ 250
  high : units < 10 ^ 14 * one

namespace Moderate

variable {units : Nat}

theorem pos (h : Moderate units) : 0 < units := by
  refine Nat.pos_of_ne_zero fun hzero => ?_
  have := h.low
  rw [hzero, Nat.zero_mul] at this
  exact absurd Binary64.one_pos (Nat.not_lt.mpr this)

theorem finite (h : Moderate units) : units < limit := by
  have hlimit : 10 ^ 14 * one ≤ limit := by decide +kernel
  exact h.high.trans_le hlimit

/-- The first digit of a moderate number stands no further than the reader's powers of ten reach. -/
theorem leadingExponent_mem (h : Moderate units) :
    -250 ≤ leadingExponent units ∧ leadingExponent units ≤ 13 := by
  obtain ⟨hle, hlt⟩ := leadingExponent_spec h.pos h.finite
  have hlow : (10 : ℚ) ^ (-250 : Int) ≤ value units := by
    rw [value, zpow_neg, le_div_iff₀ one_cast_pos, inv_mul_le_iff₀ (by positivity), mul_comm]
    exact_mod_cast h.low
  have hhigh : value units < (10 : ℚ) ^ (14 : Int) := by
    rw [value, div_lt_iff₀ one_cast_pos]
    exact_mod_cast h.high
  have hten : (1 : ℚ) < 10 := by norm_num
  have hleast := (zpow_lt_zpow_iff_right₀ hten).mp (hlow.trans_lt hlt)
  have hmost := (zpow_lt_zpow_iff_right₀ hten).mp (hle.trans_lt hhigh)
  exact ⟨by omega, by omega⟩

/-- What is needed of the shortest decimal to read it. -/
theorem shortest_spec (h : Moderate units) {x : Decimal} (hx : shortest units = x) :
    0 < x.digits ∧ x.digits ≤ 10 ^ 17 ∧ -308 ≤ x.exponent ∧
      x.exponent + (Nat.toDigits 10 x.digits).length - 1 ≤ 15 ∧
      (0 ≤ x.exponent → x.digits * 10 ^ (x.exponent.toNat + 1) ≤ 10 ^ 15) := by
  obtain ⟨hleast, hmost⟩ := h.leadingExponent_mem
  obtain ⟨hsome, hdigits, hexponent, hvalue⟩ := shortest_bounds h.pos h.finite
  rw [hx] at hsome hdigits hexponent hvalue
  have hten : (1 : ℚ) < 10 := by norm_num
  have hle : (x.digits : ℚ) * 10 ^ x.exponent ≤ 10 ^ (14 : Int) :=
    hvalue.trans ((zpow_le_zpow_iff_right₀ hten).mpr (by omega))
  refine ⟨hsome, hdigits, by omega, ?_, fun hwhole => ?_⟩
  · have hlength : 10 ^ ((Nat.toDigits 10 x.digits).length - 1) ≤ x.digits := by
      by_cases hone : (Nat.toDigits 10 x.digits).length - 1 = 0
      · rw [hone]
        exact hsome
      · refine Nat.not_lt.mp fun hlt => ?_
        have := (Nat.length_toDigits_le_iff (by decide) (Nat.pos_of_ne_zero hone)).mpr hlt
        omega
    have hfirst : (10 : ℚ) ^ (((Nat.toDigits 10 x.digits).length - 1 : Nat) + x.exponent) ≤
        10 ^ (14 : Int) := by
      rw [zpow_add₀ (by norm_num), zpow_natCast]
      refine le_trans (mul_le_mul_of_nonneg_right ?_ (zpow_nonneg (by norm_num) _)) hle
      exact_mod_cast hlength
    have := (zpow_le_zpow_iff_right₀ hten).mp hfirst
    omega
  · rw [← Int.toNat_of_nonneg hwhole, zpow_natCast] at hle
    have hcast : x.digits * 10 ^ x.exponent.toNat ≤ 10 ^ 14 := by exact_mod_cast hle
    rw [Nat.pow_succ, ← Nat.mul_assoc]
    omega

end Moderate

/-- A float as it is read back from its text. -/
def reread? (x : Binary64) : Option Binary64 :=
  if x.isZero then some x
  else (quotient? (shortest x.units)).map fun y => ⟨x.negative, y.units⟩

/-- A float is written legibly, and it is read as `reread?` says. -/
theorem binary64?_written_float {x : Binary64} (h : x.units = 0 ∨ Moderate x.units) :
    (Json.number (.float x)).Legible ∧ (Json.number (.float x)).written.binary64? = reread? x := by
  obtain hzero | h := h
  · obtain ⟨hlegible, hnumeral⟩ := legible_float_of_isZero hzero
    have hquotient : (Binary64.ofNat 0).div? (.ofNat (10 ^ 1)) = some .zero := by decide +kernel
    have hisZero : x.isZero = true := isZero_iff.mpr hzero
    refine ⟨hlegible, ?_⟩
    rw [written, Written.binary64?, hnumeral, ofNumeral?_fraction (e := -1) (by decide) (by simp)
      (by decide) (by decide) (by simp), reread?, hisZero]
    change ((((Binary64.ofNat 0).div? (.ofNat (10 ^ 1))).map _).map toBinary64) = _
    rw [hquotient, signOf_eq_minus, if_pos rfl]
    cases x
    cases hzero
    rfl
  · obtain ⟨hlegible, hnumeral⟩ := legible_float h.pos h.finite
    obtain ⟨hsome, hdigits, hleast, hmost, hwhole⟩ := h.shortest_spec rfl
    have hisZero : x.isZero = false := isZero_eq_false h.pos
    have hlimit : 10 ^ 17 ≤ significandLimit := by decide +kernel
    refine ⟨hlegible, ?_⟩
    rw [written, Written.binary64?, hnumeral, ofNumeral?_placed Nat.ofDigitChars_ten_toDigits rfl
      hleast (hdigits.trans hlimit) Nat.toDigits_ne_nil hmost
      fun h => ((hwhole h).trans (by decide)).trans hlimit, signOf_eq_minus, reread?, hisZero]
    simp only [Option.map_map]
    rfl

section

variable {x : Binary64} {d : Decimal}

/-- A moderate float is read back as a finite one. -/
theorem exists_reread? (h : x.units = 0 ∨ Moderate x.units) : ∃ y, reread? x = some y := by
  unfold reread?
  split
  · exact ⟨x, rfl⟩
  · next hisZero =>
    obtain hzero | h := h
    · exact absurd (isZero_iff.mpr hzero) hisZero
    · obtain ⟨-, hdigits, -, -, hwhole⟩ := h.shortest_spec rfl
      unfold quotient?
      split
      · next hpos =>
        rw [div?_ofNat ((hwhole hpos).trans (by decide)) (by decide)]
        exact ⟨_, rfl⟩
      · rw [div?_ofNat (hdigits.trans (by decide)) (Nat.pow_pos (by decide))]
        exact ⟨_, rfl⟩

/-- Powers of ten up to the twenty-second are numbers of binary64. -/
theorem units_ofNat_ten_pow {n : Nat} (h : n ≤ 22) :
    (Binary64.ofNat (10 ^ n)).units = 10 ^ n * one := by
  have hfive : 5 ^ n ≤ 2 ^ 53 := (Nat.pow_le_pow_right (by decide) h).trans (by decide)
  refine units_ofNat ?_
  rw [show 10 = 5 * 2 from rfl, Nat.mul_pow]
  exact representable_mul_one hfive n

/-- A number whose decimal is the quotient of two numbers of binary64 is read back. -/
theorem reread?_eq_self (h : Moderate x.units) (hunits : Representable x.units)
    (hd : shortest x.units = d) (hdigits : (Binary64.ofNat d.digits).units = d.digits * one)
    (hpower : -22 ≤ d.exponent) : reread? x = some x := by
  have hnearest := nearest_shortest h.pos h.finite
  obtain ⟨-, hbound, -, -, hwhole⟩ := h.shortest_spec hd
  have hisZero : x.isZero = false := isZero_eq_false h.pos
  rw [hd] at hnearest
  suffices hquotient : ∃ n t, Nearest x.units n t ∧ 0 < t ∧
      quotient? d = some ⟨false, roundUnits n t⟩ by
    obtain ⟨n, t, hnear, ht, hquotient⟩ := hquotient
    rw [reread?, hisZero, hd, hquotient, hnear.roundUnits_eq hunits ht]
    rfl
  unfold quotient?
  split
  · next hpos =>
    have hsmall := hwhole hpos
    have hten : (Binary64.ofNat 10).units = 10 * one :=
      units_ofNat (representable_natural (by decide))
    have ht : 0 < 10 * one := Nat.mul_pos (by decide) Binary64.one_pos
    rw [div?_ofNat (hsmall.trans (by decide)) (by decide), hten,
      units_ofNat (representable_natural (hsmall.trans (by decide)))]
    have hcross : d.numerator * (10 * one) =
        d.digits * 10 ^ (d.exponent.toNat + 1) * one * one * d.denominator := by
      rw [Decimal.numerator, Decimal.denominator, Int.toNat_of_nonpos (by omega : -d.exponent ≤ 0)]
      ring
    exact ⟨_, _, hnearest.congr d.denominator_pos ht hcross, ht, rfl⟩
  · next hneg =>
    have hten := units_ofNat_ten_pow (n := (-d.exponent).toNat) (by omega)
    have hpos : 0 < 10 ^ (-d.exponent).toNat := Nat.pow_pos (by decide)
    have ht : 0 < 10 ^ (-d.exponent).toNat * one := Nat.mul_pos hpos Binary64.one_pos
    rw [div?_ofNat (hbound.trans (by decide)) hpos, hdigits, hten]
    have hcross : d.numerator * (10 ^ (-d.exponent).toNat * one) =
        d.digits * one * one * d.denominator := by
      rw [Decimal.numerator, Decimal.denominator, Int.toNat_of_nonpos (by omega : d.exponent ≤ 0)]
      ring
    exact ⟨_, _, hnearest.congr d.denominator_pos ht hcross, ht, rfl⟩

end

end Number

end Quizmaster.Json
