import Mathlib.Algebra.Order.Field.Power
import Quizmaster.Proofs.Binary64.Overflow
import Quizmaster.Proofs.Numeral.Longest

namespace Quizmaster

namespace Numeral

/-- The number that a numeral stands for. -/
def value (n : Numeral) : ℚ :=
  (if n.sign = .minus then -1 else 1) * (n.significand * 10 ^ n.scale)

/-- The size of a value is its digits and the place of the point. -/
theorem abs_value (n : Numeral) : |n.value| = n.significand * 10 ^ n.scale := by
  have hmagnitude : (0 : ℚ) ≤ n.significand * 10 ^ n.scale := by positivity
  have hsign : |if n.sign = .minus then (-1 : ℚ) else 1| = 1 := by
    split <;> simp
  rw [value, abs_mul, hsign, one_mul, abs_of_nonneg hmagnitude]

/-- A numeral has no finite number if its value is rounded beyond the finite numbers. -/
theorem toBinary64?_eq_none_iff {n : Numeral} :
    n.toBinary64? = none ↔ (Binary64.overflowThreshold : ℚ) ≤ |n.value| := by
  rw [toBinary64?, Binary64.ofDecimal?_eq_none_iff, abs_value]

/-- A text either has no start in the grammar, and then no number, or the longest such start is cut
    off at the end of a character, the reader takes it, and its number is the text's, unless its value
    overflows. -/
theorem leadingNumber?_longest (s : String) :
    (∀ start, start <+: s.toList → start ∉ grammar.matches') ∧
      extent? s.toUTF8.data.toList = none ∧ leadingNumber? s = none ∨
    ∃ (numeral : String) (n : Numeral), Longest numeral s ∧
      extent? s.toUTF8.data.toList = some numeral.utf8ByteSize ∧
      String.Pos.Raw.IsValid s ⟨numeral.utf8ByteSize⟩ ∧
      Text.firstBytes? s numeral.utf8ByteSize = some numeral ∧
      ofText? numeral = some n ∧ n.text = numeral.toList ∧
      leadingNumber? s = n.toBinary64? ∧
      (leadingNumber? s = none ↔ (Binary64.overflowThreshold : ℚ) ≤ |n.value|) := by
  have hextent := extent?_bytes s.toList
  rw [← Text.toUTF8_data] at hextent
  cases hscan : scan? s.toList with
  | none =>
    rw [hscan] at hextent
    exact .inl ⟨scan?_eq_none_iff.mp hscan, hextent, by rw [leadingNumber?_eq, hscan]; rfl⟩
  | some found =>
    obtain ⟨n, rest⟩ := found
    have hform := wellFormed_of_scan? hscan
    have hsplit : s = String.ofList n.text ++ String.ofList rest := by
      rw [← String.ofList_append, text_append_of_scan? hscan, String.ofList_toList]
    have hsize := Text.utf8ByteSize_ofList (isAscii_text hform)
    have hnumber : leadingNumber? s = n.toBinary64? := by
      rw [leadingNumber?_eq, hscan, Option.bind_some]
    rw [hscan, Option.map_some, ← hsize] at hextent
    refine .inr ⟨String.ofList n.text, n, longest_of_scan? hscan, hextent, ?_, ?_,
      ofText?_text hform, String.toList_ofList.symm, hnumber, ?_⟩
    · exact String.Pos.Raw.isValid_iff_exists_append.mpr ⟨_, _, hsplit, rfl⟩
    · rw [hsplit]
      exact Text.firstBytes?_append _ _
    · rw [hnumber]
      exact toBinary64?_eq_none_iff

end Numeral

end Quizmaster
