import Quizmaster.Proofs.Session.Invariant
import Quizmaster.Proofs.Store.Lawful

namespace Quizmaster

/-- Nothing is given: an empty text or an empty list, whatever its tag. -/
inductive Answer.GivesNothing : Answer → Prop
  | single : GivesNothing (.single "")
  | multiSelect : GivesNothing (.multiSelect [])
  | fillIn : GivesNothing (.fillIn "")
  | ordering : GivesNothing (.ordering [])

/-- Whether nothing will do as an answer: a list is asked for, and selecting none of it counts. -/
def Kind.Excuses (k : Kind) (acceptEmpty : Bool) : Prop :=
  (k = .multiSelect ∨ k = .ordering) ∧ acceptEmpty = true

theorem Answer.isEmpty_eq_true_iff {a : Answer} : a.isEmpty = true ↔ a.GivesNothing := by
  constructor
  · intro h
    cases a with
    | single s | fillIn s =>
      rw [beq_iff_eq.mp h]
      constructor
    | multiSelect items | ordering items =>
      rw [List.isEmpty_iff.mp h]
      constructor
  · rintro (_ | _ | _ | _) <;> rfl

theorem Kind.excuses_iff {k : Kind} {acceptEmpty : Bool} :
    k.Excuses acceptEmpty ↔ (k.isList && acceptEmpty) = true := by
  simp [Excuses, isList]

/-- An answer that gives nothing is there only where that is excused. -/
theorem Answer.isPresent_eq_true_iff {a : Answer} {k : Kind} {acceptEmpty : Bool} :
    a.isPresent k acceptEmpty = true ↔ (a.GivesNothing → k.Excuses acceptEmpty) := by
  rw [isPresent, Bool.or_eq_true, Bool.not_eq_true', ← isEmpty_eq_true_iff, Kind.excuses_iff]
  cases a.isEmpty <;> simp

namespace Session

/-- What comes of an answer. The reasons to refuse it exclude each other: the first that applies in
    the order of the cases counts. -/
inductive Verdict (s : Session) (answer : Answer) : Except Refusal (Record × Session) → Prop
  | notStarted (hnone : s.sequence = []) : Verdict s answer (.error .notStarted)
  | alreadyAnswered (hloaded : s.sequence ≠ []) (hfilled : s.isAnsweredAt s.cursor = true) :
      Verdict s answer (.error (.alreadyAnswered s.cursor))
  | completed (hloaded : s.sequence ≠ []) (hopen : s.isAnsweredAt s.cursor = false)
      (hlast : s.isAnsweredAt (s.size - 1) = true) : Verdict s answer (.error .completed)
  | noAnswer {question : Question} (hcurrent : s.sequence[s.cursor]? = some question)
      (hopen : s.isAnsweredAt s.cursor = false) (hlast : s.isAnsweredAt (s.size - 1) = false)
      (hnothing : answer.GivesNothing) (hexcuse : ¬ question.kind.Excuses s.acceptEmpty) :
      Verdict s answer (.error .noAnswer)
  | taken {question : Question} (hcurrent : s.sequence[s.cursor]? = some question)
      (hopen : s.isAnsweredAt s.cursor = false) (hlast : s.isAnsweredAt (s.size - 1) = false)
      (hgiven : answer.GivesNothing → question.kind.Excuses s.acceptEmpty) :
      Verdict s answer (.ok (⟨question, answer, question.isAnsweredBy answer⟩, { s with
        slots := s.slots.set s.cursor (some ⟨question, answer, question.isAnsweredBy answer⟩)
        state := if s.cursor + 1 = s.size then .completed else .inProgress }))

section

variable {acceptEmpty : Bool} {s t : Session} {answer : Answer}

/-- No two cases apply at once. -/
theorem Verdict.unique {r r' : Except Refusal (Record × Session)} (h : Verdict s answer r)
    (h' : Verdict s answer r') : r = r' := by
  cases h <;> cases h' <;> simp_all

/-- A test is running while its last slot is empty. -/
theorem Invariant.state_eq_inProgress (h : Invariant acceptEmpty s) (hloaded : s.sequence ≠ [])
    (hlast : s.isAnsweredAt (s.size - 1) = false) : s.state = .inProgress := by
  cases hstate : s.state with
  | notStarted => exact absurd (h.notStarted_iff.mp hstate) hloaded
  | inProgress => rfl
  | completed =>
    obtain ⟨-, hfilled⟩ := h.completed_iff.mp hstate
    rw [size, hfilled] at hlast
    cases hlast

/-- The cursor of a test is on a question. -/
theorem Invariant.exists_current (h : Invariant acceptEmpty s) (hloaded : s.sequence ≠ []) :
    ∃ question, s.sequence[s.cursor]? = some question :=
  ⟨_, List.getElem?_eq_getElem (h.cursor_lt hloaded)⟩

/-- Filling a slot ends a running test if it is the last one. -/
theorem Invariant.fill_eq_of_running (h : Invariant acceptEmpty s) (hloaded : s.sequence ≠ [])
    (hrunning : s.state = .inProgress) (record : Record) : s.fill record = { s with
      slots := s.slots.set s.cursor (some record)
      state := if s.cursor + 1 = s.size then .completed else .inProgress } := by
  have hcursor : s.cursor < s.slots.length := by
    rw [h.slots_length]
    exact h.cursor_lt hloaded
  rw [fill_eq hcursor, hrunning]
  simp [isLast]

/-- Some case always applies, and its outcome is what comes of the answer. -/
theorem Invariant.verdict_submit (h : Invariant acceptEmpty s) (answer : Answer) :
    Verdict s answer (s.submit answer) := by
  by_cases hloaded : s.sequence = []
  · have hstate : s.state = .notStarted := h.notStarted_iff.mpr hloaded
    simp only [Session.submit, hstate]
    exact .notStarted hloaded
  · obtain ⟨question, hcurrent⟩ := h.exists_current hloaded
    have hstarted : s.state ≠ .notStarted := mt h.notStarted_iff.mp hloaded
    have hsubmit : s.submit answer =
        if s.isAnswered then .error (.alreadyAnswered s.cursor)
        else if s.state = .completed then .error .completed
        else if answer.isPresent question.kind s.acceptEmpty then
          .ok (⟨question, answer, question.isAnsweredBy answer⟩,
            s.fill ⟨question, answer, question.isAnsweredBy answer⟩)
        else .error .noAnswer := by
      simp [Session.submit, current?, hcurrent]
    rw [hsubmit]
    cases hopen : s.isAnsweredAt s.cursor with
    | true =>
      rw [isAnswered, hopen, if_pos rfl]
      exact .alreadyAnswered hloaded hopen
    | false =>
      rw [isAnswered, hopen, if_neg Bool.false_ne_true]
      cases hlast : s.isAnsweredAt (s.size - 1) with
      | true =>
        rw [if_pos (h.completed_iff.mpr ⟨hloaded, hlast⟩)]
        exact .completed hloaded hopen hlast
      | false =>
        have hrunning := h.state_eq_inProgress hloaded hlast
        rw [if_neg (by simp [hrunning])]
        split
        · next hpresent =>
          rw [h.fill_eq_of_running hloaded hrunning]
          exact .taken hcurrent hopen hlast (Answer.isPresent_eq_true_iff.mp hpresent)
        · next habsent =>
          rw [Answer.isPresent_eq_true_iff, Classical.not_imp] at habsent
          exact .noAnswer hcurrent hopen hlast habsent.1 habsent.2

/-- What comes of an answer, told by the questions and the slots alone. -/
theorem Invariant.submit_eq_iff (h : Invariant acceptEmpty s)
    {r : Except Refusal (Record × Session)} : s.submit answer = r ↔ Verdict s answer r := by
  constructor
  · rintro rfl
    exact h.verdict_submit answer
  · exact (h.verdict_submit answer).unique

/-- A test is not started over another one, and not without questions. -/
theorem Invariant.start_eq_error_iff (h : Invariant acceptEmpty s) {questions : List Question}
    {e : Refusal} : s.start questions = .error e ↔
      (s.sequence ≠ [] ∧ e = .alreadyStarted) ∨
        (s.sequence = [] ∧ questions = [] ∧ e = .emptySequence) := by
  simp only [Session.start, ne_eq, h.notStarted_iff]
  by_cases hloaded : s.sequence = [] <;> by_cases hempty : questions = [] <;>
    simp [hloaded, hempty, eq_comm]

end

/-- What a call gives back where it does not fail: of a move, the question that it leads to. -/
inductive Reply
  | done
  | graded (correct : Bool)
  | shown (question : Option Question)
deriving DecidableEq, Repr

/-- What a call gives back. -/
def reply (s : Session) : Call → Except Refusal Reply
  | .start questions => (s.start questions).map fun _ => .done
  | .submit answer => (s.submit answer).map fun taken => .graded taken.1.correct
  | .advance => .ok (.shown (s.advance?.bind current?))
  | .retreat => .ok (.shown (s.retreat?.bind current?))
  | .reset => .ok .done

/-- A call fails, or moves nowhere. -/
def Refuses (r : Except Refusal Reply) : Prop := (∃ e, r = .error e) ∨ r = .ok (.shown none)

/-- A change of a session in place. What is done before a failure stays done. -/
abbrev Edit := ExceptT Refusal (StateM Session)

def refuseIf (p : Prop) [Decidable p] (e : Refusal) : Edit Unit := if p then throw e else pure ()

/-- A call carried out in place, one field after the other. -/
def edit : Call → Edit Reply
  | .start questions => do
    refuseIf ((← get).state ≠ .notStarted) .alreadyStarted
    refuseIf (questions = []) .emptySequence
    modify fun s => { s with slots := List.replicate questions.length none }
    modify fun s => { s with sequence := questions }
    modify fun s => { s with cursor := 0 }
    modify fun s => { s with state := .inProgress }
    return .done
  | .submit answer => do
    refuseIf ((← get).state = .notStarted) .notStarted
    refuseIf ((← get).isAnswered = true) (.alreadyAnswered (← get).cursor)
    refuseIf ((← get).state = .completed) .completed
    let some question := (← get).current? | throw .notStarted
    refuseIf (answer.isPresent question.kind (← get).acceptEmpty = false) .noAnswer
    let correct := question.isAnsweredBy answer
    modify fun s => { s with slots := s.slots.set s.cursor (some ⟨question, answer, correct⟩) }
    modify fun s => if s.isFinished then { s with state := .completed } else s
    return .graded correct
  | .advance => do
    let s ← get
    if s.sequence = [] ∨ s.size ≤ s.cursor + 1 then return .shown none
    modify fun s => { s with cursor := s.cursor + 1 }
    return .shown (← get).current?
  | .retreat => do
    if (← get).cursor = 0 then return .shown none
    modify fun s => { s with cursor := s.cursor - 1 }
    return .shown (← get).current?
  | .reset => do
    modify fun s => { s with sequence := [] }
    modify fun s => { s with slots := [] }
    modify fun s => { s with cursor := 0 }
    modify fun s => { s with state := .notStarted }
    return .done

section

variable {acceptEmpty : Bool} {s t : Session} {α : Type}

theorem get_edit (f : Session → Edit α) (s : Session) :
    (get >>= f).run.run s = (f s).run.run s := rfl

theorem modify_edit (change : Session → Session) (f : Unit → Edit α) (s : Session) :
    (modify change >>= f).run.run s = (f ()).run.run (change s) := rfl

/-- A refusal comes before any change. -/
theorem refuseIf_edit (p : Prop) [Decidable p] (e : Refusal) (f : Unit → Edit α) (s : Session) :
    (refuseIf p e >>= f).run.run s = if p then (.error e, s) else (f ()).run.run s := by
  unfold refuseIf
  split <;> rfl

theorem edit_start (s : Session) (questions : List Question) :
    (edit (.start questions)).run.run s =
      (s.reply (.start questions), s.perform (.start questions)) := by
  simp only [edit, get_edit, refuseIf_edit, modify_edit, reply, perform, start]
  split
  · rfl
  · split <;> rfl

/-- Submitting in place does what submitting does. -/
theorem Invariant.edit_submit (h : Invariant acceptEmpty s) (answer : Answer) :
    (edit (.submit answer)).run.run s =
      (s.reply (.submit answer), s.perform (.submit answer)) := by
  simp only [edit, get_edit, refuseIf_edit, reply, Session.perform, Session.submit]
  by_cases hstate : s.state = .notStarted
  · simp only [hstate, if_true]
    rfl
  · obtain ⟨question, hcurrent⟩ := h.exists_current (mt h.notStarted_iff.mpr hstate)
    have hquestion : s.current? = some question := hcurrent
    simp only [hstate, hquestion, if_false, get_edit, refuseIf_edit, modify_edit]
    split
    · rfl
    · split
      · rfl
      · cases answer.isPresent question.kind s.acceptEmpty <;> rfl

theorem edit_advance (s : Session) :
    (edit .advance).run.run s = (s.reply .advance, s.perform .advance) := by
  simp only [edit, get_edit, reply, perform, advance?]
  by_cases hroom : s.cursor + 1 < s.size
  · have hloaded : s.sequence ≠ [] := List.ne_nil_of_length_pos (Nat.zero_lt_of_lt hroom)
    rw [if_pos hroom, if_neg (by simp [hloaded, hroom])]
    rfl
  · rw [if_neg hroom, if_pos (.inr (Nat.le_of_not_lt hroom))]
    rfl

theorem edit_retreat (s : Session) :
    (edit .retreat).run.run s = (s.reply .retreat, s.perform .retreat) := by
  simp only [edit, get_edit, reply, perform, retreat?]
  split <;> rfl

/-- Carried out in place, a call gives back and leaves what it gives back and leaves as a whole. -/
theorem Invariant.edit_run (h : Invariant acceptEmpty s) (call : Call) :
    (edit call).run.run s = (s.reply call, s.perform call) := by
  cases call with
  | start questions => exact edit_start s questions
  | submit answer => exact h.edit_submit answer
  | advance => exact edit_advance s
  | retreat => exact edit_retreat s
  | reset => rfl

theorem ne_of_start {questions : List Question} (hstart : s.start questions = .ok t) : t ≠ s := by
  obtain ⟨hstate, -, rfl⟩ := start_eq_ok_iff.mp hstart
  intro hsame
  rw [← hsame] at hstate
  cases hstate

theorem ne_of_submit (h : Invariant acceptEmpty s) {answer : Answer} {record : Record}
    (hsubmit : s.submit answer = .ok (record, t)) : t ≠ s := by
  obtain ⟨question, -, hcurrent, hopen, -, -, rfl⟩ := submit_eq_ok_iff.mp hsubmit
  obtain ⟨hcursor, -⟩ := List.getElem?_eq_some_iff.mp hcurrent
  rw [← h.slots_length] at hcursor
  intro hsame
  have hfilled : s.recordAt? s.cursor = some record := by
    rw [← hsame, recordAt?_fill hcursor, hsame, if_pos rfl]
  rw [isAnswered, isAnsweredAt, hfilled] at hopen
  cases hopen

theorem ne_of_advance (hadvance : s.advance? = some t) : t ≠ s := by
  obtain ⟨-, rfl⟩ := advance?_eq_some_iff.mp hadvance
  intro hsame
  have hcursor : s.cursor + 1 = s.cursor := congrArg Session.cursor hsame
  omega

theorem ne_of_retreat (hretreat : s.retreat? = some t) : t ≠ s := by
  obtain ⟨hpast, rfl⟩ := retreat?_eq_some_iff.mp hretreat
  intro hsame
  have hcursor : s.cursor - 1 = s.cursor := congrArg Session.cursor hsame
  omega

/-- A move leads to a question. -/
theorem Invariant.exists_current_of_move (h : Invariant acceptEmpty s) {cursor : Nat}
    (hcursor : cursor < s.size) : ∃ question, current? { s with cursor } = some question :=
  (h.move hcursor).exists_current (List.ne_nil_of_length_pos (Nat.zero_lt_of_lt hcursor))

/-- A call that is no reset changes the session exactly if it is not refused. -/
theorem Invariant.refuses_iff (h : Invariant acceptEmpty s) {call : Call} (hcall : call ≠ .reset) :
    Refuses (s.reply call) ↔ s.perform call = s := by
  cases call with
  | start questions =>
    rw [reply, Session.perform]
    cases hstart : s.start questions with
    | error e => simp [Refuses, Except.map, Except.toOption]
    | ok t => simp [Refuses, Except.map, Except.toOption, ne_of_start hstart]
  | submit answer =>
    rw [reply, Session.perform]
    cases hsubmit : s.submit answer with
    | error e => simp [Refuses, Except.map, Except.toOption]
    | ok taken => simp [Refuses, Except.map, Except.toOption, ne_of_submit h hsubmit]
  | advance =>
    rw [reply, Session.perform]
    cases hadvance : s.advance? with
    | none => simp [Refuses]
    | some t =>
      obtain ⟨hroom, rfl⟩ := advance?_eq_some_iff.mp hadvance
      obtain ⟨question, hquestion⟩ := h.exists_current_of_move hroom
      simp [Refuses, hquestion, ne_of_advance hadvance]
  | retreat =>
    rw [reply, Session.perform]
    cases hretreat : s.retreat? with
    | none => simp [Refuses]
    | some t =>
      obtain ⟨hpast, rfl⟩ := retreat?_eq_some_iff.mp hretreat
      have hloaded : s.sequence ≠ [] := fun hnone => hpast (h.cursor_eq_zero hnone)
      have hcursor : s.cursor - 1 < s.size :=
        Nat.lt_of_le_of_lt (Nat.sub_le _ _) (h.cursor_lt hloaded)
      obtain ⟨question, hquestion⟩ := h.exists_current_of_move hcursor
      simp [Refuses, hquestion, ne_of_retreat hretreat]
  | reset => exact absurd rfl hcall

end

end Session

end Quizmaster
