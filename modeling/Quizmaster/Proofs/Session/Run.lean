import Quizmaster.Session

namespace Quizmaster.Session

/-- An operation with its arguments. -/
inductive Call
  | start (questions : List Question)
  | submit (answer : Answer)
  | advance
  | retreat
  | reset
deriving DecidableEq, Repr

/-- The session after a call. A refused call leaves it as it was. -/
def perform (s : Session) : Call → Session
  | .start questions => (s.start questions).toOption.getD s
  | .submit answer => ((s.submit answer).toOption.map Prod.snd).getD s
  | .advance => s.advance?.getD s
  | .retreat => s.retreat?.getD s
  | .reset => s.reset

def run (s : Session) (calls : List Call) : Session := calls.foldl perform s

@[simp] theorem run_nil (s : Session) : s.run [] = s := rfl

@[simp] theorem run_cons (s : Session) (call : Call) (calls : List Call) :
    s.run (call :: calls) = (s.perform call).run calls := rfl

theorem run_append (s : Session) (first second : List Call) :
    s.run (first ++ second) = (s.run first).run second :=
  List.foldl_append

/-- Whether the test is over, by the last position and the slot under the cursor. There is no last
    position of nothing, and no slot beyond the last one. -/
def isFinishedChecked? (s : Session) : Option Bool :=
  if s.sequence = [] then some false
  else
    (if 1 ≤ s.sequence.length then some (s.sequence.length - 1) else none).bind fun last =>
      if s.cursor = last then s.slots[s.cursor]?.map Option.isSome else some false

/-- Takes an answer as `submit` does. Slot and question under the cursor have to be there wherever
    they are looked at. -/
def submitChecked? (s : Session) (answer : Answer) : Option (Except Refusal (Record × Session)) :=
  if s.state = .notStarted then some (.error .notStarted)
  else
    s.slots[s.cursor]?.bind fun slot =>
      if slot.isSome then some (.error (.alreadyAnswered s.cursor))
      else if s.state = .completed then some (.error .completed)
      else
        s.sequence[s.cursor]?.bind fun question =>
          if answer.isPresent question.kind s.acceptEmpty then
            let record := ⟨question, answer, question.isAnsweredBy answer⟩
            let filled := { s with slots := s.slots.set s.cursor (some record) }
            filled.isFinishedChecked?.map fun finished =>
              .ok (record, if finished then { filled with state := .completed } else filled)
          else some (.error .noAnswer)

/-- A test starts if none is there and it has a question. -/
theorem start_eq_ok_iff {s t : Session} {questions : List Question} :
    s.start questions = .ok t ↔ s.state = .notStarted ∧ questions ≠ [] ∧
      t = { s with
        sequence := questions
        slots := List.replicate questions.length none
        cursor := 0
        state := .inProgress } := by
  unfold start
  split
  · next h => simp [h]
  · next h =>
    rw [Decidable.not_not] at h
    split
    · next hempty => simp [hempty]
    · next hne => simp [h, hne, eq_comm]

/-- An answer is taken only while the test is running, for a question that has no answer yet, and
    only if something is given. -/
theorem submit_eq_ok_iff {s t : Session} {answer : Answer} {record : Record} :
    s.submit answer = .ok (record, t) ↔ ∃ question, s.state = .inProgress ∧
      s.current? = some question ∧ s.isAnswered = false ∧
      answer.isPresent question.kind s.acceptEmpty = true ∧
      record = ⟨question, answer, question.isAnsweredBy answer⟩ ∧ t = s.fill record := by
  constructor
  · intro h
    unfold submit at h
    split at h
    · simp at h
    · simp at h
    · next question hcurrent hstarted =>
      split at h
      · simp at h
      · next hanswered =>
        split at h
        · simp at h
        · next hrunning =>
          split at h
          · next hpresent =>
            have hstate : s.state = .inProgress := by
              cases hs : s.state with
              | notStarted => exact absurd hs hstarted
              | inProgress => rfl
              | completed => exact absurd hs hrunning
            simp only [Except.ok.injEq, Prod.mk.injEq] at h
            obtain ⟨rfl, rfl⟩ := h
            exact ⟨question, hstate, hcurrent, by simpa using hanswered, hpresent, rfl, rfl⟩
          · simp at h
  · rintro ⟨question, hstate, hcurrent, hanswered, hpresent, rfl, rfl⟩
    simp [submit, hstate, hcurrent, hanswered, hpresent]

theorem advance?_eq_some_iff {s t : Session} :
    s.advance? = some t ↔ s.cursor + 1 < s.size ∧ t = { s with cursor := s.cursor + 1 } := by
  unfold advance?
  split
  · next h => simp [h, eq_comm]
  · next h => simp [h]

theorem retreat?_eq_some_iff {s t : Session} :
    s.retreat? = some t ↔ s.cursor ≠ 0 ∧ t = { s with cursor := s.cursor - 1 } := by
  unfold retreat?
  split
  · next h => simp [h]
  · next h => simp [h, eq_comm]

/-- Everything that a call can do to a session. -/
theorem perform_cases (s : Session) (call : Call) :
    s.perform call = s ∨
    (∃ questions, call = .start questions ∧ s.start questions = .ok (s.perform call)) ∨
    (∃ answer record, call = .submit answer ∧ s.submit answer = .ok (record, s.perform call)) ∨
    (call = .advance ∧ s.advance? = some (s.perform call)) ∨
    (call = .retreat ∧ s.retreat? = some (s.perform call)) ∨
    (call = .reset ∧ s.perform call = new s.acceptEmpty) := by
  cases call with
  | start questions =>
    cases h : s.start questions with
    | error e => simp [perform, h, Except.toOption]
    | ok t => simp [perform, h, Except.toOption]
  | submit answer =>
    cases h : s.submit answer with
    | error e => simp [perform, h, Except.toOption]
    | ok taken => exact .inr (.inr (.inl ⟨answer, taken.1, rfl, by simp [perform, h, Except.toOption]⟩))
  | advance => cases h : s.advance? <;> simp [perform, h]
  | retreat => cases h : s.retreat? <;> simp [perform, h]
  | reset => simp [perform, reset]

end Quizmaster.Session
