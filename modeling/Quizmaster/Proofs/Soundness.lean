import Quizmaster.Proofs.Grading
import Quizmaster.Proofs.Item
import Quizmaster.Proofs.Session.Run
import Quizmaster.Proofs.Soundness.Warnings
import Quizmaster.Proofs.Typed
import Quizmaster.Turn

namespace Quizmaster

namespace Soundness

variable {q : Question}

theorem sound_of_clean (h : warnings [q] = []) : Sound q :=
  (warnings_eq_nil_iff.mp h).2 q (List.mem_singleton_self q)

theorem text_mem_options (h : warnings [q] = []) (hkind : q.kind = .single) :
    q.answer.text ∈ q.options :=
  (sound_of_clean h).single hkind

/-- The items of a list answer are options. -/
theorem mem_options (h : warnings [q] = []) (hlist : q.kind.isList = true) {item : String}
    (hitem : item ∈ q.answer.items) : item ∈ q.options := by
  have hsound := sound_of_clean h
  cases hkind : q.kind with
  | single => simp [hkind, Kind.isList] at hlist
  | fillIn => simp [hkind, Kind.isList] at hlist
  | multiSelect => exact hsound.multiSelect hkind item hitem
  | ordering => exact (hsound.ordering hkind).mem_iff.mp hitem

/-- The answer of a clean text to fill in is not blank. -/
theorem trim_text_ne_empty (h : warnings [q] = []) (hkind : q.kind = .fillIn) :
    Text.trim q.answer.text ≠ "" :=
  Text.trim_ne_empty_iff.mpr ((sound_of_clean h).fillIn hkind)

end Soundness

/-- A fill-in question whose answer holds a line break, and does not start with a number that could
    stand for it. -/
structure Question.NeedsBreak (q : Question) : Prop where
  kind_eq : q.kind = .fillIn
  newline_mem : '\n' ∈ (Grading.normalize q.answer.text).toList
  noNumber : leadingNumber? (Grading.normalize q.answer.text) = none

namespace Typed

/-- A text that is read back when it is typed as a line. -/
structure IsLine (text : String) : Prop where
  noBreak : '\n' ∉ text.toList
  chomp_eq : Turn.chomp text = text

/-- Typed to the question, the text is taken as the right answer, in every running test that has no
    answer to it yet and takes a selection of nothing for an answer. -/
def Solves (q : Question) (text : String) : Prop :=
  ∀ s : Session, s.acceptEmpty = true → s.state = .inProgress → s.current? = some q →
    s.isAnswered = false →
    ∃ record t, s.submit (answer q text) = .ok (record, t) ∧ record.correct = true

variable {q : Question} {text : String}

theorem solves_of_isAnsweredBy (hpresent : (answer q text).isPresent q.kind true = true)
    (hright : q.isAnsweredBy (answer q text) = true) : Solves q text := by
  intro s hempty hstate hcurrent hopen
  have hgiven : (answer q text).isPresent q.kind s.acceptEmpty = true := by rwa [hempty]
  exact ⟨_, _, Session.submit_eq_ok_iff.mpr ⟨q, hstate, hcurrent, hopen, hgiven, rfl, rfl⟩, hright⟩

theorem isAnsweredBy_of_solves (h : Solves q text) : q.isAnsweredBy (answer q text) = true := by
  obtain ⟨record, t, hsubmit, hright⟩ :=
    h ⟨true, [q], [none], 0, .inProgress⟩ rfl rfl rfl rfl
  obtain ⟨question, -, hcurrent, -, -, rfl, -⟩ := Session.submit_eq_ok_iff.mp hsubmit
  cases hcurrent
  exact hright

theorem isLine_of_forall (h : ∀ c ∈ text.toList, c ≠ '\n' ∧ c ≠ '\r') : IsLine text where
  noBreak hbreak := (h '\n' hbreak).1 rfl
  chomp_eq := by
    have hend : ∀ c ∈ text.toList, (c == '\n' || c == '\r') = false := by
      intro c hc
      simpa using h c hc
    rw [Turn.chomp, Text.trimEndWhile, Text.dropEndWhile_of_forall hend, String.ofList_toList]

theorem isLine_of_not_isBlank (h : ∀ c ∈ text.toList, Text.isBlank c = false) : IsLine text := by
  refine isLine_of_forall fun c hc => ⟨?_, ?_⟩ <;> rintro rfl <;> exact absurd (h _ hc) (by decide)

/-- A selection by numbers is a line. -/
theorem isLine_selection (options chosen : List String) : IsLine (selection options chosen) := by
  refine isLine_of_not_isBlank fun c hc => ?_
  rcases isDigit_or_comma_of_mem_selection hc with hdigit | rfl
  · exact Text.isBlank_of_isDigit hdigit
  · decide

/-- A trimmed text is a line if there is no break inside it. -/
theorem isLine_trim (h : '\n' ∉ (Text.trim text).toList) : IsLine (Text.trim text) where
  noBreak := h
  chomp_eq := by
    have hblank : ∀ c : Char, (c == '\n' || c == '\r') = true → Text.isBlank c = true := by
      intro c hc
      rw [Bool.or_eq_true, beq_iff_eq, beq_iff_eq] at hc
      rcases hc with rfl | rfl <;> decide
    simp only [Turn.chomp, Text.trimEndWhile, Text.trim, String.toList_ofList,
      Text.dropEndWhile_trimChars hblank]

/-- A single choice is solved by typing the number of its answer. -/
theorem exists_solving_single (hkind : q.kind = .single) (hmem : q.answer.text ∈ q.options)
    (hne : q.answer.text ≠ "") : ∃ line, IsLine line ∧ Solves q line := by
  have hdigits : ∀ c ∈ (spelling q.options q.answer.text).toList, Text.isBlank c = false :=
    fun c hc => Text.isBlank_of_isDigit (isDigit_of_mem_spelling hc)
  have hanswer := answer_spelling hkind hmem
  refine ⟨_, isLine_of_not_isBlank hdigits, solves_of_isAnsweredBy ?_ ?_⟩
  · simp [hanswer, Answer.isPresent, Answer.isEmpty, hne]
  · rw [hanswer, Question.isAnsweredBy, hkind]
    exact beq_self_eq_true _

/-- A list of options is typed by their numbers. -/
theorem exists_solving_list (hlist : q.kind.isList = true) (hkind : q.answer.kind = q.kind)
    (hmem : ∀ item ∈ q.answer.items, item ∈ q.options) : ∃ line, IsLine line ∧ Solves q line := by
  have hitems : Answer.ofList q.kind q.answer.items = q.answer := by
    rw [← hkind] at hlist ⊢
    cases ha : q.answer with
    | single s | fillIn s => simp [ha, Answer.kind, Kind.isList] at hlist
    | multiSelect items | ordering items => rfl
  have hanswer : answer q (selection q.options q.answer.items) = q.answer := by
    rw [answer_selection hlist hmem, hitems]
  refine ⟨_, isLine_selection q.options q.answer.items, solves_of_isAnsweredBy ?_ ?_⟩
  · simp [Answer.isPresent, hlist]
  · rw [hanswer, Question.isAnsweredBy]
    cases hk : q.kind with
    | single => simp [hk, Kind.isList] at hlist
    | fillIn => simp [hk, Kind.isList] at hlist
    | multiSelect =>
      cases ha : q.answer with
      | multiSelect items => exact Grading.sameItems_iff_perm.mpr (.refl items)
      | _ => simp [hk, ha, Answer.kind] at hkind
    | ordering => simp [Grading.grade]

/-- A text that matches solves a question to fill in. -/
theorem solves_fillIn (hkind : q.kind = .fillIn) (hne : text ≠ "")
    (h : Grading.fillInMatches q.answer.text text = true) : Solves q text := by
  have hanswer : answer q text = .fillIn text := by rw [answer, hkind]
  refine solves_of_isAnsweredBy ?_ ?_
  · simp [hanswer, Answer.isPresent, Answer.isEmpty, hne]
  · rw [hanswer, Question.isAnsweredBy, hkind]
    exact h

/-- The answer itself can be typed, or else the number at its start. -/
theorem exists_solving_fillIn (hkind : q.kind = .fillIn) (hne : Text.trim q.answer.text ≠ "")
    (hbreak : ¬ q.NeedsBreak) : ∃ line, IsLine line ∧ Solves q line := by
  by_cases hnewline : '\n' ∈ (Grading.normalize q.answer.text).toList
  · cases hnumber : leadingNumber? (Grading.normalize q.answer.text) with
    | none => exact absurd ⟨hkind, hnewline, hnumber⟩ hbreak
    | some x =>
      obtain ⟨line, hline, hplain, hmatches⟩ := Grading.exists_numeral_fillInMatches hnumber
      exact ⟨line, isLine_of_not_isBlank hplain, solves_fillIn hkind hline hmatches⟩
  · rw [Grading.newline_mem_normalize_iff] at hnewline
    refine ⟨_, isLine_trim hnewline, solves_fillIn hkind hne ?_⟩
    exact Grading.fillInMatches_of_normalize_eq (Grading.normalize_trim _)

/-- An answer of more than one line cannot be typed. -/
theorem not_solves_of_needsBreak (h : q.NeedsBreak) (htext : '\n' ∉ text.toList) :
    ¬ Solves q text := by
  intro hsolves
  have hright := isAnsweredBy_of_solves hsolves
  rw [Question.isAnsweredBy, answer, h.kind_eq] at hright
  exact htext (Grading.newline_mem_of_fillInMatches h.noNumber h.newline_mem hright)

/-- A question that came from an item and has no warnings can be answered by typing a line, if its
    answer does not need more than one line, and otherwise by no text without a line break. A single
    choice of the empty text is left out. -/
theorem exists_solving_line {stem : String} {source : Source} {items : List Json}
    (hq : q ∈ (Batch.ofItems stem source items).questions) (hclean : Soundness.warnings [q] = [])
    (hsingle : q.kind = .single → q.answer.text ≠ "") :
    (¬ q.NeedsBreak → ∃ line, IsLine line ∧ Solves q line) ∧
      (q.NeedsBreak → ∀ text : String, '\n' ∉ text.toList → ¬ Solves q text) := by
  refine ⟨fun hbreak => ?_, fun hbreak text htext => not_solves_of_needsBreak hbreak htext⟩
  have hformed := Batch.wellFormed_of_mem_questions hq
  cases hkind : q.kind with
  | single =>
    exact exists_solving_single hkind (Soundness.text_mem_options hclean hkind) (hsingle hkind)
  | fillIn => exact exists_solving_fillIn hkind (Soundness.trim_text_ne_empty hclean hkind) hbreak
  | multiSelect | ordering =>
    have hlist : q.kind.isList = true := by rw [hkind]; rfl
    exact exists_solving_list hlist hformed.kind_eq fun _ => Soundness.mem_options hclean hlist

/-- Options that are each other's numbers. -/
theorem exists_solving_line_swapped_numbers :
    ∃ (items : List Json) (q : Question), q ∈ (Batch.ofItems "quiz" .default items).questions ∧
      Soundness.warnings [q] = [] ∧ q.kind = .single ∧ q.answer.text = "1" ∧
      q.options = ["2", "1"] ∧ ¬ q.NeedsBreak ∧ ∃ line, IsLine line ∧ Solves q line := by
  let items : List Json :=
    [.object [("Question", .string "First?"), ("Options", .ofStrings ["2", "1"]),
      ("answer", .string "1")]]
  let q : Question := .plain "quiz_0" .single "First?" ["2", "1"] (.single "1")
  have hq : q ∈ (Batch.ofItems "quiz" .default items).questions := by decide +kernel
  have hclean : Soundness.warnings [q] = [] := by decide +kernel
  have hbreak : ¬ q.NeedsBreak := fun h => by cases h.kind_eq
  have hline := (exists_solving_line hq hclean fun _ => by decide).1 hbreak
  exact ⟨items, q, hq, hclean, rfl, rfl, rfl, hbreak, hline⟩

/-- An answer of two lines makes no warning and cannot be typed on one. -/
theorem exists_clean_not_typed :
    ∃ (items : List Json) (q : Question), q ∈ (Batch.ofItems "quiz" .default items).questions ∧
      Soundness.warnings [q] = [] ∧ ¬ ∃ text : String, '\n' ∉ text.toList ∧ Solves q text := by
  let items : List Json :=
    [.object [("Question", .string "Spell it"), ("answer", .string "a\nb")]]
  let q : Question := .plain "quiz_0" .fillIn "Spell it" [] (.fillIn "a\nb")
  have hq : q ∈ (Batch.ofItems "quiz" .default items).questions := by decide +kernel
  have hclean : Soundness.warnings [q] = [] := by decide +kernel
  have hbreak : q.NeedsBreak := ⟨rfl, by decide +kernel, by decide +kernel⟩
  refine ⟨items, q, hq, hclean, ?_⟩
  rintro ⟨text, htext, hsolves⟩
  exact not_solves_of_needsBreak hbreak htext hsolves

end Typed

end Quizmaster
