import Quizmaster.Proofs.Grading

namespace Quizmaster

namespace Answer

/-- An answer written as one text: items are joined with commas. -/
def textForm : Answer → String
  | .single s | .fillIn s => s
  | .multiSelect items | .ordering items => ",".intercalate items

/-- What is selected by an answer; one text selects nothing. -/
def selected : Answer → List String
  | .single _ | .fillIn _ => []
  | .multiSelect items | .ordering items => items

/-- What a canonical answer asks to be selected; one text asks for itself. -/
def asked : Answer → List String
  | .single s | .fillIn s => [s]
  | .multiSelect items | .ordering items => items

theorem text_eq_textForm (a : Answer) : a.text = a.textForm := by
  have hjoin (items : List String) : Text.join "," items = ",".intercalate items := by
    rw [← String.toList_inj, Text.toList_join, String.toList_intercalate]
  cases a with
  | single s => rfl
  | fillIn s => rfl
  | multiSelect items => exact hjoin items
  | ordering items => exact hjoin items

theorem items_eq_selected (a : Answer) : a.items = a.selected := by
  cases a <;> rfl

theorem items?_getD_eq_asked (a : Answer) : a.items?.getD [a.text] = a.asked := by
  cases a <;> rfl

/-- A list answer asks for what it selects. -/
theorem asked_eq_selected {a : Answer} (h : a.kind.isList = true) : a.asked = a.selected := by
  cases a with
  | single s => cases h
  | fillIn s => cases h
  | multiSelect items => rfl
  | ordering items => rfl

end Answer

namespace Grading

theorem distance?_comm (x y : Binary64) : x.distance? y = y.distance? x := by
  have hgap : (x.toInt - y.toInt).natAbs = (y.toInt - x.toInt).natAbs := by
    rw [← Int.natAbs_neg, Int.neg_sub]
  exact congrArg (fun gap => Binary64.round? false gap 1) hgap

theorem sameNumber_comm (x y : Binary64) : sameNumber x y = sameNumber y x := by
  unfold sameNumber
  simp only [distance?_comm x y]

theorem fillInMatches_comm (s t : String) : fillInMatches s t = fillInMatches t s := by
  have htext : (Text.lowercase (normalize s) == Text.lowercase (normalize t)) =
      (Text.lowercase (normalize t) == Text.lowercase (normalize s)) := Bool.beq_comm
  simp only [fillInMatches, htext]
  cases leadingNumber? (normalize s) with
  | none => cases leadingNumber? (normalize t) <;> rfl
  | some x =>
    cases leadingNumber? (normalize t) with
    | none => rfl
    | some y => exact sameNumber_comm x y

section

variable {expected given : Answer}

/-- A single choice is right if it is the canonical one as a text. -/
theorem grade_single_iff :
    grade .single expected given = true ↔ given.textForm = expected.textForm := by
  rw [grade, beq_iff_eq, Answer.text_eq_textForm, Answer.text_eq_textForm]

/-- A selection is right if it is the canonical one in any order. -/
theorem grade_multiSelect_iff :
    grade .multiSelect expected given = true ↔ given.selected.Perm expected.asked := by
  rw [grade, sameItems_iff_perm, Answer.items?_getD_eq_asked, Answer.items_eq_selected,
    List.perm_comm]

/-- A sequence is right if it is the canonical one item by item. -/
theorem grade_ordering_iff :
    grade .ordering expected given = true ↔ given.selected = expected.selected := by
  rw [grade, beq_iff_eq, Answer.items_eq_selected, Answer.items_eq_selected, eq_comm]

end

section

variable {k : Kind} {a b c : Answer}

/-- It does not matter which of two answers is the canonical one. -/
theorem grade_comm (ha : a.kind = k) (hb : b.kind = k) : grade k a b = grade k b a := by
  cases k with
  | single => rw [Bool.eq_iff_iff, grade_single_iff, grade_single_iff, eq_comm]
  | multiSelect =>
    rw [Bool.eq_iff_iff, grade_multiSelect_iff, grade_multiSelect_iff,
      Answer.asked_eq_selected (by rw [ha]; rfl), Answer.asked_eq_selected (by rw [hb]; rfl),
      List.perm_comm]
  | fillIn =>
    change fillInMatches a.text b.text = fillInMatches b.text a.text
    exact fillInMatches_comm a.text b.text
  | ordering => rw [Bool.eq_iff_iff, grade_ordering_iff, grade_ordering_iff, eq_comm]

theorem grade_self (ha : a.kind = k) : grade k a a = true := by
  cases k with
  | single => exact grade_single_iff.mpr rfl
  | multiSelect =>
    rw [grade_multiSelect_iff, Answer.asked_eq_selected (by rw [ha]; rfl)]
  | fillIn =>
    change fillInMatches a.text a.text = true
    exact fillInMatches_of_normalize_eq rfl
  | ordering => exact grade_ordering_iff.mpr rfl

/-- Two answers that equal a third one are equal, but for numbers within a tolerance. -/
theorem grade_trans (hk : k ≠ .fillIn) (hb : b.kind = k) (hab : grade k a b = true)
    (hbc : grade k b c = true) : grade k a c = true := by
  cases k with
  | single =>
    rw [grade_single_iff] at *
    exact hbc.trans hab
  | multiSelect =>
    rw [grade_multiSelect_iff] at *
    rw [Answer.asked_eq_selected (by rw [hb]; rfl)] at hbc
    exact hbc.trans hab
  | fillIn => exact absurd rfl hk
  | ordering =>
    rw [grade_ordering_iff] at *
    exact hbc.trans hab

end

end Grading

namespace Question

/-- The verdict by what the answers hold, whatever their kinds, and the laws of the verdict on answers
    of the question's kind. -/
theorem isAnsweredBy_laws (q : Question) :
    (∀ given, q.kind = .single →
      (q.isAnsweredBy given = true ↔ given.textForm = q.answer.textForm)) ∧
    (∀ given, q.kind = .multiSelect →
      (q.isAnsweredBy given = true ↔ given.selected.Perm q.answer.asked)) ∧
    (∀ given, q.kind = .ordering →
      (q.isAnsweredBy given = true ↔ given.selected = q.answer.selected)) ∧
    (∀ a b, a.kind = q.kind → b.kind = q.kind →
      { q with answer := a }.isAnsweredBy b = { q with answer := b }.isAnsweredBy a) ∧
    (q.answer.kind = q.kind → q.isAnsweredBy q.answer = true) ∧
    (q.kind ≠ .fillIn → ∀ a b c, a.kind = q.kind → b.kind = q.kind → c.kind = q.kind →
      { q with answer := a }.isAnsweredBy b = true →
      { q with answer := b }.isAnsweredBy c = true →
      { q with answer := a }.isAnsweredBy c = true) := by
  refine ⟨fun given hk => ?_, fun given hk => ?_, fun given hk => ?_, ?_, ?_, ?_⟩
  · rw [isAnsweredBy, hk]
    exact Grading.grade_single_iff
  · rw [isAnsweredBy, hk]
    exact Grading.grade_multiSelect_iff
  · rw [isAnsweredBy, hk]
    exact Grading.grade_ordering_iff
  · exact fun a b ha hb => Grading.grade_comm ha hb
  · exact fun ha => Grading.grade_self ha
  · exact fun hk a b c _ hb _ hab hbc => Grading.grade_trans hk hb hab hbc

/-- A selection with an option named twice: it may be given in any order, but not once only. -/
theorem isAnsweredBy_laws_named_twice :
    ∃ q : Question, q.kind = .multiSelect ∧ q.answer.kind = q.kind ∧
      q.isAnsweredBy q.answer = true ∧ q.isAnsweredBy (.ordering ["a", "b", "b"]) = true ∧
      q.isAnsweredBy (.multiSelect ["a", "b"]) = false := by
  let q : Question := .plain "q" .multiSelect "Which?" ["a", "b"] (.multiSelect ["b", "a", "b"])
  obtain ⟨-, hmulti, -, -, hself, -⟩ := isAnsweredBy_laws q
  refine ⟨q, rfl, rfl, hself rfl, (hmulti _ rfl).mpr (by decide), ?_⟩
  rw [Bool.eq_false_iff, ne_eq, hmulti _ rfl]
  decide

end Question

end Quizmaster
