import Mathlib.Algebra.GroupWithZero.Nat
import Quizmaster.Proofs.Text
import Quizmaster.Uuid

namespace Quizmaster.Uuid

variable {sizes : List Nat} {cs : List Char}

/-- The pieces have the lengths that they are cut to. -/
theorem map_length_cut (h : sizes.sum ≤ cs.length) : (cut sizes cs).map List.length = sizes := by
  induction sizes generalizing cs with
  | nil => rfl
  | cons size sizes ih =>
    rw [List.sum_cons] at h
    have hrest : sizes.sum ≤ (cs.drop size).length := by
      rw [List.length_drop]
      omega
    rw [cut, List.map_cons, ih hrest, List.length_take, Nat.min_eq_left (by omega)]

/-- Nothing is lost by cutting. -/
theorem flatten_cut (h : sizes.sum = cs.length) : (cut sizes cs).flatten = cs := by
  induction sizes generalizing cs with
  | nil => exact (List.eq_nil_of_length_eq_zero h.symm).symm
  | cons size sizes ih =>
    rw [List.sum_cons] at h
    have hrest : sizes.sum = (cs.drop size).length := by
      rw [List.length_drop]
      omega
    rw [cut, List.flatten_cons, ih hrest, List.take_append_drop]

variable (u : Uuid)

theorem sum_groups : groups.sum = u.digits.length :=
  u.isHex.length_eq.symm

/-- The text of an identifier is its groups with hyphens between them. -/
theorem toList_text : u.text.toList = ['-'].intercalate (cut groups u.digits) := by
  rw [text, Text.toList_join, List.map_map]
  have hback : (String.toList ∘ String.ofList) = id := by
    funext cs
    exact String.toList_ofList
  rw [hback, List.map_id]
  rfl

/-- The groups are had back from the text: no digit is a hyphen. -/
theorem splitOn_text : u.text.toList.splitOn '-' = cut groups u.digits := by
  have hflatten : (cut groups u.digits).flatten = u.digits := flatten_cut u.sum_groups
  have hpieces : ∀ piece ∈ cut groups u.digits, '-' ∉ piece := by
    intro piece hpiece hhyphen
    have hdigit : '-' ∈ u.digits := by
      rw [← hflatten]
      exact List.mem_flatten.mpr ⟨piece, hpiece, hhyphen⟩
    exact absurd (u.isHex.digit_lower '-' hdigit).1 (by decide)
  rw [toList_text, List.splitOn_intercalate '-' hpieces (List.cons_ne_nil _ _)]

/-- Digits in lower case are kept. -/
theorem ofDigits?_digits : ofDigits? u.digits = some u := by
  have hlower : u.digits.map Char.toLower = u.digits := by
    rw [List.map_congr_left fun c hc => (u.isHex.digit_lower c hc).2, List.map_id']
  have hall : u.digits.all fun c => (Text.hexValue? c).isSome :=
    List.all_eq_true.mpr fun c hc => (u.isHex.digit_lower c hc).1
  rw [ofDigits?, dif_pos ⟨u.isHex.length_eq, hall⟩]
  exact congrArg some (Uuid.ext hlower)

/-- The groups of a text are read back, as they are cut. -/
theorem ofGroups?_text : ofGroups? u.text.toList = some u := by
  rw [ofGroups?, splitOn_text, map_length_cut u.sum_groups.le, if_pos rfl,
    flatten_cut u.sum_groups, ofDigits?_digits]

/-- The text of an identifier has its digits and four hyphens. -/
theorem length_text : u.text.toList.length = 36 := by
  rw [toList_text]
  simp [cut, groups, List.intercalate, u.isHex.length_eq]

/-- Every identifier is read back from its text. -/
theorem parse?_text : parse? u.text = some u := by
  rw [parse?, length_text, if_neg (by decide), if_pos rfl, ofGroups?_text]

end Quizmaster.Uuid
