import Quizmaster.Proofs.Binary64.Whole
import Quizmaster.Proofs.Grading.Verdict

namespace Quizmaster

open Binary64 (one roundWhole nearestWhole overflowThreshold)

/-- A whole number as it is written: digits, with a sign before them or without one. -/
structure WholeNumeral where
  sign : Sign
  digits : List Char
  digits_ne : digits ≠ []
  isDigit : ∀ c ∈ digits, c.isDigit = true

namespace WholeNumeral

variable {w v : WholeNumeral}

def text (w : WholeNumeral) : String := String.ofList (w.sign.text ++ w.digits)

def magnitude (w : WholeNumeral) : Nat := Text.ofDigits w.digits

/-- The integer that is written. -/
def value (w : WholeNumeral) : Int :=
  if w.sign = .minus then -(w.magnitude : Int) else w.magnitude

/-- `10 ^ n`, with a given sign. -/
def tenPow (sign : Sign) (n : Nat) : WholeNumeral where
  sign := sign
  digits := '1' :: List.replicate n '0'
  digits_ne := List.cons_ne_nil _ _
  isDigit := List.forall_mem_cons.mpr ⟨rfl, fun _ hc => List.eq_of_mem_replicate hc ▸ rfl⟩

/-- The numeral without a fraction and without an exponent. -/
def numeral (w : WholeNumeral) : Numeral := ⟨w.sign, w.digits, none, none⟩

theorem natAbs_value (w : WholeNumeral) : w.value.natAbs = w.magnitude := by
  unfold value
  split
  · rw [Int.natAbs_neg, Int.natAbs_natCast]
  · rw [Int.natAbs_natCast]

theorem wellFormed_numeral (w : WholeNumeral) : w.numeral.WellFormed where
  whole_isDigit := w.isDigit
  fraction_isDigit := nofun
  hasDigit := fun h => w.digits_ne h.1
  exponent := nofun

theorem ofList_text_numeral (w : WholeNumeral) : String.ofList w.numeral.text = w.text := by
  simp [Numeral.text, numeral, Numeral.fractionText, text]

theorem text_injective (h : w.text = v.text) : w = v := by
  have hw := Numeral.ofText?_text w.wellFormed_numeral
  rw [ofList_text_numeral, h, ← ofList_text_numeral, Numeral.ofText?_text v.wellFormed_numeral] at hw
  cases w
  cases v
  cases hw
  rfl

theorem mem_text {c : Char} (hc : c ∈ w.text.toList) : c.isDigit = true ∨ c = '+' ∨ c = '-' := by
  rw [text, String.toList_ofList, List.mem_append] at hc
  obtain hsign | hdigit := hc
  · cases hs : w.sign <;> simp [hs, Sign.text] at hsign <;> simp [hsign]
  · exact .inl (w.isDigit c hdigit)

/-- A whole number has no commas, spaces or white space to lose. -/
theorem normalize_text (w : WholeNumeral) : Grading.normalize w.text = w.text := by
  refine Grading.normalize_of_forall fun c hc => Numeral.plain_of_isNumeric ?_
  simp only [Numeral.isNumeric, Bool.or_eq_true, beq_iff_eq]
  have := mem_text hc
  tauto

theorem lowercase_text (w : WholeNumeral) : Text.lowercase w.text = w.text := by
  refine Text.lowercase_of_forall fun c hc => .inl ?_
  obtain hdigit | rfl | rfl := mem_text hc
  · have hnine : c.toNat ≤ 57 := (Char.isDigit_iff_toNat.mp hdigit).2
    omega
  · decide
  · decide

/-- A whole number is read with 53 significant bits, unless it is too large to be finite. -/
theorem leadingNumber?_text (w : WholeNumeral) : leadingNumber? w.text =
    if w.magnitude < overflowThreshold then
      some ⟨w.sign == .minus, roundWhole w.magnitude * one⟩
    else none := by
  have hscan := Numeral.scan?_of_ofText? (Numeral.ofText?_text w.wellFormed_numeral)
  rw [ofList_text_numeral] at hscan
  have hsignificand : w.numeral.significand = w.magnitude := by
    simp [Numeral.significand, numeral, magnitude]
  rw [leadingNumber?_eq, hscan, Option.bind_some, Numeral.toBinary64?, hsignificand]
  exact Binary64.ofDecimal?_whole _ _

/-- What a whole number is read as, in units. -/
theorem toInt_read (w : WholeNumeral) :
    Binary64.toInt ⟨w.sign == .minus, roundWhole w.magnitude * one⟩ = nearestWhole w.value * one := by
  have hsign : (w.sign == .minus) = true ↔ w.sign = .minus := beq_iff_eq
  simp only [Binary64.toInt, value, hsign]
  split
  · rw [Binary64.nearestWhole_neg, Binary64.nearestWhole_natCast, Int.natCast_mul, Int.neg_mul]
  · rw [Binary64.nearestWhole_natCast, Int.natCast_mul]

end WholeNumeral

namespace Grading

variable {x y : Binary64} {w v : WholeNumeral}

/-- Numbers of one value are the same. -/
theorem sameNumber_of_toInt_eq (h : x.toInt = y.toInt) : sameNumber x y = true := by
  have hgap : (x.toInt - y.toInt).natAbs = (x.toInt - x.toInt).natAbs := by rw [h]
  have hself : x.distance? y = x.distance? x :=
    congrArg (fun gap => Binary64.round? false gap 1) hgap
  have hsame := sameNumber_self x
  unfold sameNumber at hsame ⊢
  rw [hself]
  exact hsame

/-- Numbers that are whole are within the tolerance only if they are equal. -/
theorem sameNumber_iff_of_whole {a b : Int} (hx : x.toInt = a * one) (hy : y.toInt = b * one) :
    sameNumber x y = true ↔ a = b := by
  refine ⟨fun h => ?_, fun h => sameNumber_of_toInt_eq (by rw [hx, hy, h])⟩
  by_contra hne
  have hgap : 1 * one * 1 ≤ (x.toInt - y.toInt).natAbs := by
    rw [hx, hy, ← Int.sub_mul, Int.natAbs_mul, Int.natAbs_natCast, Nat.mul_one]
    exact Nat.mul_le_mul_right one (by omega)
  have hround := Binary64.le_roundUnits Nat.one_pos (Binary64.representable_natural (by decide)) hgap
  have htolerance : tolerance.units < 1 * one := by decide +kernel
  unfold sameNumber Binary64.distance? at h
  split at h
  · next d hd =>
    obtain rfl := Binary64.eq_of_round? hd
    exact absurd (of_decide_eq_true h) (Nat.not_lt.mpr (htolerance.le.trans hround))
  · cases h

/-- Whole numbers that are finite match if they have the same rounding. -/
theorem fillInMatches_text_iff (hw : w.magnitude < overflowThreshold)
    (hv : v.magnitude < overflowThreshold) :
    fillInMatches w.text v.text = true ↔ nearestWhole w.value = nearestWhole v.value := by
  simp only [fillInMatches, WholeNumeral.normalize_text, WholeNumeral.leadingNumber?_text, if_pos hw,
    if_pos hv]
  exact sameNumber_iff_of_whole w.toInt_read v.toInt_read

/-- Once one of them is too large they match only if they are written in the same way. -/
theorem fillInMatches_text_iff_of_large
    (h : overflowThreshold ≤ w.magnitude ∨ overflowThreshold ≤ v.magnitude) :
    fillInMatches w.text v.text = true ↔ w.text = v.text := by
  have hnumber : leadingNumber? w.text = none ∨ leadingNumber? v.text = none := by
    rw [WholeNumeral.leadingNumber?_text, WholeNumeral.leadingNumber?_text]
    exact h.imp (fun h => if_neg (Nat.not_lt.mpr h)) fun h => if_neg (Nat.not_lt.mpr h)
  simp only [fillInMatches, WholeNumeral.normalize_text, WholeNumeral.lowercase_text]
  split
  · next hw hv =>
    rw [hw, hv] at hnumber
    simp at hnumber
  · exact beq_iff_eq

/-- Up to `2 ^ 53` they match exactly if they are the same integer, and below it whatever the other
    one is. -/
theorem fillInMatches_text_iff_of_small (h : w.magnitude < 2 ^ 53 ∨ v.magnitude < 2 ^ 53 ∨
    w.magnitude ≤ 2 ^ 53 ∧ v.magnitude ≤ 2 ^ 53) :
    fillInMatches w.text v.text = true ↔ w.value = v.value := by
  have hthreshold : 2 ^ 53 < overflowThreshold := by decide +kernel
  by_cases hfinite : w.magnitude < overflowThreshold ∧ v.magnitude < overflowThreshold
  · rw [fillInMatches_text_iff hfinite.1 hfinite.2]
    simp only [← WholeNumeral.natAbs_value] at h
    obtain hw | hv | ⟨hw, hv⟩ := h
    · exact Binary64.nearestWhole_inj hw
    · rw [eq_comm, Binary64.nearestWhole_inj hv, eq_comm]
    · rw [Binary64.nearestWhole_eq hw, Binary64.nearestWhole_eq hv]
  · rw [fillInMatches_text_iff_of_large (by omega)]
    constructor
    · intro htext
      rw [WholeNumeral.text_injective htext]
    · intro hvalue
      have hmagnitude := congrArg Int.natAbs hvalue
      rw [WholeNumeral.natAbs_value, WholeNumeral.natAbs_value] at hmagnitude
      omega

end Grading

namespace Question

/-- Which whole numbers answer a fill-in question that asks for one: finite ones if they have the same
    53-bit rounding, others if they are written in the same way. So the same integer is right unless
    it is too large, and another is wrong where one of the two is below `2 ^ 53` or none is beyond. -/
theorem isAnsweredBy_whole (q : Question) (given : Answer) (w v : WholeNumeral)
    (hk : q.kind = .fillIn) (hw : q.answer.text = w.text) (hv : given.text = v.text) :
    (w.magnitude < overflowThreshold → v.magnitude < overflowThreshold →
      (q.isAnsweredBy given = true ↔ nearestWhole w.value = nearestWhole v.value)) ∧
    (overflowThreshold ≤ w.magnitude ∨ overflowThreshold ≤ v.magnitude →
      (q.isAnsweredBy given = true ↔ w.text = v.text)) ∧
    (w.magnitude < 2 ^ 53 ∨ v.magnitude < 2 ^ 53 ∨ w.magnitude ≤ 2 ^ 53 ∧ v.magnitude ≤ 2 ^ 53 →
      (q.isAnsweredBy given = true ↔ w.value = v.value)) ∧
    (w.value = v.value → w.magnitude < overflowThreshold → q.isAnsweredBy given = true) := by
  have hverdict : q.isAnsweredBy given = Grading.fillInMatches w.text v.text := by
    simp only [isAnsweredBy, hk, Grading.grade, hw, hv]
  rw [hverdict]
  refine ⟨Grading.fillInMatches_text_iff, Grading.fillInMatches_text_iff_of_large,
    Grading.fillInMatches_text_iff_of_small, fun hvalue hfinite => ?_⟩
  have hmagnitude : w.magnitude = v.magnitude := by
    rw [← w.natAbs_value, ← v.natAbs_value, hvalue]
  rw [Grading.fillInMatches_text_iff hfinite (hmagnitude ▸ hfinite), hvalue]

/-- Seven with leading zeros and with a sign. -/
theorem isAnsweredBy_whole_seven :
    let q : Question := .plain "q" .fillIn "How many?" [] (.fillIn "007")
    q.isAnsweredBy (.fillIn "+7") = true ∧ q.isAnsweredBy (.fillIn "-7") = false := by
  let seven : WholeNumeral := ⟨.absent, ['0', '0', '7'], by decide, List.all_eq_true.mp rfl⟩
  let signed : WholeNumeral := ⟨.plus, ['7'], by decide, List.all_eq_true.mp rfl⟩
  let negated : WholeNumeral := ⟨.minus, ['7'], by decide, List.all_eq_true.mp rfl⟩
  intro q
  obtain ⟨-, -, -, hsame⟩ :=
    isAnsweredBy_whole q (.fillIn "+7") seven signed rfl (by decide) (by decide)
  obtain ⟨-, -, hexact, -⟩ :=
    isAnsweredBy_whole q (.fillIn "-7") seven negated rfl (by decide) (by decide)
  refine ⟨hsame (by decide) (by decide +kernel), ?_⟩
  rw [Bool.eq_false_iff, ne_eq, hexact (.inl (by decide))]
  decide

/-- The integer after `2 ^ 53` is taken for it, and `10 ^ 309`, which is not finite, is wrong if it is
    written with a sign. -/
theorem integers_confused :
    (∃ w v : WholeNumeral, w.value ≠ v.value ∧
      (plain "q" .fillIn "Which?" [] (.fillIn w.text)).isAnsweredBy (.fillIn v.text) = true) ∧
    ∃ w v : WholeNumeral, w.value = v.value ∧
      (plain "q" .fillIn "Which?" [] (.fillIn w.text)).isAnsweredBy (.fillIn v.text) = false := by
  have hconfused : ∃ w v : WholeNumeral, w.value ≠ v.value ∧
      (plain "q" .fillIn "Which?" [] (.fillIn w.text)).isAnsweredBy (.fillIn v.text) = true :=
    ⟨⟨.absent, "9007199254740992".toList, by decide, List.all_eq_true.mp rfl⟩,
      ⟨.absent, "9007199254740993".toList, by decide, List.all_eq_true.mp rfl⟩, by decide +kernel⟩
  have hlarge : overflowThreshold ≤ (WholeNumeral.tenPow .absent 309).magnitude := by decide +kernel
  have hverdict (s t : String) : (plain "q" .fillIn "Which?" [] (.fillIn s)).isAnsweredBy (.fillIn t) =
      Grading.fillInMatches s t := rfl
  refine ⟨hconfused, .tenPow .absent 309, .tenPow .plus 309, rfl, ?_⟩
  rw [hverdict, Bool.eq_false_iff]
  intro h
  have htext := (Grading.fillInMatches_text_iff_of_large (.inl hlarge)).mp h
  have hsign := congrArg WholeNumeral.sign (WholeNumeral.text_injective htext)
  cases hsign

end Question

end Quizmaster
