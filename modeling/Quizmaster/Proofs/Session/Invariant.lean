import Quizmaster.Proofs.Session.Run

namespace Quizmaster.Session

/-- The record answers this question: something was given, and the verdict is the question's. -/
structure Grades (acceptEmpty : Bool) (question : Question) (record : Record) : Prop where
  question_eq : record.question = question
  present : record.given.isPresent question.kind acceptEmpty = true
  correct_eq : record.correct = question.isAnsweredBy record.given

/-- What holds of a session at every moment, however it was used: the slots belong to the questions,
    the cursor is on one of them, the last slot tells whether the test is over, and what a slot
    holds is graded as its question says. -/
structure Invariant (acceptEmpty : Bool) (s : Session) : Prop where
  acceptEmpty_eq : s.acceptEmpty = acceptEmpty
  slots_length : s.slots.length = s.sequence.length
  notStarted_iff : s.state = .notStarted ↔ s.sequence = []
  cursor_eq_zero : s.sequence = [] → s.cursor = 0
  cursor_lt : s.sequence ≠ [] → s.cursor < s.sequence.length
  completed_iff : s.state = .completed ↔
    s.sequence ≠ [] ∧ s.isAnsweredAt (s.sequence.length - 1) = true
  grades : ∀ i record, s.recordAt? i = some record →
    ∃ question, s.sequence[i]? = some question ∧ Grades acceptEmpty question record

section

variable {acceptEmpty : Bool} {s t : Session}

/-- A session without a test is sound. -/
theorem Invariant.new (acceptEmpty : Bool) : Invariant acceptEmpty (Session.new acceptEmpty) where
  acceptEmpty_eq := rfl
  slots_length := rfl
  notStarted_iff := by simp [Session.new]
  cursor_eq_zero _ := rfl
  cursor_lt h := absurd rfl h
  completed_iff := by simp [Session.new]
  grades i record h := by simp [recordAt?, Session.new] at h

/-- A test starts soundly. -/
theorem Invariant.start {questions : List Question} (h : Invariant acceptEmpty s)
    (hstart : s.start questions = .ok t) : Invariant acceptEmpty t := by
  obtain ⟨-, hne, rfl⟩ := start_eq_ok_iff.mp hstart
  have hempty (i : Nat) : (List.replicate questions.length (none : Option Record))[i]?.join = none := by
    rw [List.getElem?_replicate]
    split <;> rfl
  exact {
    acceptEmpty_eq := h.acceptEmpty_eq
    slots_length := by simp
    notStarted_iff := by simp [hne]
    cursor_eq_zero := fun _ => rfl
    cursor_lt := fun _ => List.length_pos_iff.mpr hne
    completed_iff := by simp [isAnsweredAt, recordAt?, hempty]
    grades := fun i record hrecord => by simp [recordAt?, hempty] at hrecord }

/-- A move within the questions keeps the invariant, as nothing in it but its bound is about the
    place of the cursor. -/
theorem Invariant.move {cursor : Nat} (h : Invariant acceptEmpty s)
    (hcursor : cursor < s.sequence.length) : Invariant acceptEmpty { s with cursor } where
  acceptEmpty_eq := h.acceptEmpty_eq
  slots_length := h.slots_length
  notStarted_iff := h.notStarted_iff
  cursor_eq_zero hempty := by simp [show s.sequence = [] from hempty] at hcursor
  cursor_lt _ := hcursor
  completed_iff := h.completed_iff
  grades := h.grades

/-- Filling ends the test exactly where the cursor is on the last question. -/
theorem fill_eq {record : Record} (hcursor : s.cursor < s.slots.length) :
    s.fill record = { s with
      slots := s.slots.set s.cursor (some record)
      state := if s.isLast then .completed else s.state } := by
  have hanswered : isAnswered { s with slots := s.slots.set s.cursor (some record) } = true := by
    simp [isAnswered, isAnsweredAt, recordAt?, hcursor]
  have hlast : isLast { s with slots := s.slots.set s.cursor (some record) } = s.isLast := rfl
  simp only [fill, isFinished, hanswered, hlast, Bool.and_true]
  cases s.isLast <;> rfl

/-- Filling changes the slot under the cursor and no other. -/
theorem recordAt?_fill {record : Record} (hcursor : s.cursor < s.slots.length) (i : Nat) :
    (s.fill record).recordAt? i = if i = s.cursor then some record else s.recordAt? i := by
  rw [fill_eq hcursor]
  by_cases hi : i = s.cursor
  · subst hi
    simp [recordAt?, hcursor]
  · simp [recordAt?, hi, List.getElem?_set_ne (Ne.symm hi)]

/-- An answer that is taken leaves the session sound. -/
theorem Invariant.submit {answer : Answer} {record : Record} (h : Invariant acceptEmpty s)
    (hsubmit : s.submit answer = .ok (record, t)) : Invariant acceptEmpty t := by
  obtain ⟨question, hstate, hcurrent, -, hpresent, rfl, rfl⟩ := submit_eq_ok_iff.mp hsubmit
  obtain ⟨hcursor, -⟩ := List.getElem?_eq_some_iff.mp hcurrent
  have hne : s.sequence ≠ [] := List.ne_nil_of_length_pos (by omega)
  have hslots : s.cursor < s.slots.length := by rw [h.slots_length]; exact hcursor
  -- The test is running, so the last slot was empty before.
  have hopen : s.isAnsweredAt (s.sequence.length - 1) = false := by
    have hrunning : s.state ≠ .completed := by simp [hstate]
    rw [ne_eq, h.completed_iff] at hrunning
    simpa [hne] using hrunning
  have hsequence (record : Record) : (s.fill record).sequence = s.sequence := by rw [fill_eq hslots]
  exact {
    acceptEmpty_eq := by rw [fill_eq hslots]; exact h.acceptEmpty_eq
    slots_length := by simp [fill_eq hslots, h.slots_length]
    notStarted_iff := by
      rw [fill_eq hslots]
      simp only [hne, iff_false]
      split <;> simp [hstate]
    cursor_eq_zero := fun hempty => absurd (hempty.symm.trans (hsequence _)).symm hne
    cursor_lt := fun _ => by simpa [fill_eq hslots] using hcursor
    completed_iff := by
      rw [isAnsweredAt, recordAt?_fill hslots, hsequence, fill_eq hslots]
      by_cases hlast : s.sequence.length - 1 = s.cursor
      · have : s.isLast = true := by simp [isLast, size]; omega
        simp [this, hlast, hne]
      · have : s.isLast = false := by simp [isLast, size]; omega
        simp only [this, hlast, hstate, if_false, Bool.false_eq_true, reduceCtorEq, false_iff,
          not_and]
        intro _ hanswered
        exact Bool.false_ne_true (hopen.symm.trans hanswered)
    grades := fun i other hother => by
      rw [recordAt?_fill hslots] at hother
      rw [hsequence]
      split at hother
      · next hi =>
        subst hi
        cases hother
        exact ⟨question, hcurrent, rfl, h.acceptEmpty_eq ▸ hpresent, rfl⟩
      · exact h.grades i other hother }

/-- Every call keeps the invariant, whether it is refused or not. -/
theorem Invariant.perform (h : Invariant acceptEmpty s) (call : Call) :
    Invariant acceptEmpty (s.perform call) := by
  obtain hsame | ⟨questions, -, hstart⟩ | ⟨answer, record, -, hsubmit⟩ | ⟨-, hadvance⟩ |
    ⟨-, hretreat⟩ | ⟨-, hreset⟩ := perform_cases s call
  · rw [hsame]
    exact h
  · exact h.start hstart
  · exact h.submit hsubmit
  · obtain ⟨hroom, hmoved⟩ := advance?_eq_some_iff.mp hadvance
    rw [hmoved]
    exact h.move hroom
  · obtain ⟨hcursor, hmoved⟩ := retreat?_eq_some_iff.mp hretreat
    have hne : s.sequence ≠ [] := fun hempty => hcursor (h.cursor_eq_zero hempty)
    have := h.cursor_lt hne
    rw [hmoved]
    exact h.move (by omega)
  · rw [hreset, h.acceptEmpty_eq]
    exact .new acceptEmpty

/-- A session is sound at every moment of a run. -/
theorem Invariant.run (h : Invariant acceptEmpty s) (calls : List Call) :
    Invariant acceptEmpty (s.run calls) := by
  induction calls generalizing s with
  | nil => exact h
  | cons call calls ih => exact ih (h.perform call)

/-- Where every question has its slot and the cursor is on one of them, no look at the end of the
    test goes astray. -/
theorem isFinishedChecked?_eq (hcursor : s.sequence ≠ [] → s.cursor < s.slots.length) :
    s.isFinishedChecked? = some s.isFinished := by
  unfold isFinishedChecked?
  split
  · next hempty => simp [isFinished, isLast, size, hempty]
  · next hne =>
    have hpos : 1 ≤ s.sequence.length := List.length_pos_iff.mpr hne
    rw [if_pos hpos, Option.bind_some]
    split
    · next hlast =>
      have : s.isLast = true := by simp [isLast, size]; omega
      simp [isFinished, isAnswered, isAnsweredAt, recordAt?, this, hcursor hne]
    · next hlast =>
      have : s.isLast = false := by simp [isLast, size]; omega
      simp [isFinished, this]

/-- No position is out of reach where an answer is submitted. -/
theorem Invariant.submitChecked?_eq (h : Invariant acceptEmpty s) (answer : Answer) :
    s.submitChecked? answer = some (s.submit answer) := by
  unfold submitChecked? Session.submit
  split
  · next hstate => simp [hstate]
  · next hstate =>
    have hne : s.sequence ≠ [] := fun hempty => hstate (h.notStarted_iff.mpr hempty)
    have hcursor := h.cursor_lt hne
    have hslots : s.cursor < s.slots.length := by rw [h.slots_length]; exact hcursor
    have hanswered : s.isAnswered = s.slots[s.cursor].isSome := by
      simp [isAnswered, isAnsweredAt, recordAt?, hslots]
    rw [List.getElem?_eq_getElem hslots, List.getElem?_eq_getElem hcursor, Option.bind_some,
      Option.bind_some, current?, List.getElem?_eq_getElem hcursor]
    simp only [hanswered]
    split
    · rfl
    · split
      · rfl
      · split
        · next hpresent =>
          rw [isFinishedChecked?_eq (by simpa using fun _ => hslots)]
          rfl
        · rfl

/-- However a session was used, its invariant holds, and neither taking an answer nor telling
    whether the test is over ever looks for a position that is not there. -/
theorem invariant_run_new (acceptEmpty : Bool) (calls : List Call) :
    Invariant acceptEmpty ((new acceptEmpty).run calls) ∧
    ((new acceptEmpty).run calls).isFinishedChecked? =
      some ((new acceptEmpty).run calls).isFinished ∧
    ∀ answer, ((new acceptEmpty).run calls).submitChecked? answer =
      some (((new acceptEmpty).run calls).submit answer) := by
  have h := (Invariant.new acceptEmpty).run calls
  refine ⟨h, isFinishedChecked?_eq fun hne => ?_, h.submitChecked?_eq⟩
  rw [h.slots_length]
  exact h.cursor_lt hne

end

end Quizmaster.Session
