import Quizmaster.Proofs.Session.History

namespace Quizmaster.Session

/-- Answers for some of the questions, the last one among them, each of which says something. -/
structure Assignment (acceptEmpty : Bool) (questions : List Question)
    (assigned : Nat → Option Answer) : Prop where
  present : ∀ i answer, assigned i = some answer →
    ∃ question, questions[i]? = some question ∧
      answer.isPresent question.kind acceptEmpty = true
  last : ∃ answer, assigned (questions.length - 1) = some answer

/-- Each slot holds the answer assigned to it, and the others hold none. -/
def Answers (s : Session) (assigned : Nat → Option Answer) : Prop :=
  ∀ i, (s.recordAt? i).map Record.given = assigned i

section

variable {acceptEmpty : Bool} {questions : List Question} {s t : Session}
  {assigned : Nat → Option Answer}

/-- A record follows from its question and the answer that was given. -/
theorem Invariant.recordAt?_eq (h : Invariant acceptEmpty s) (i : Nat) :
    s.recordAt? i = ((s.recordAt? i).map Record.given).bind fun given =>
      s.sequence[i]?.map fun question => ⟨question, given, question.isAnsweredBy given⟩ := by
  cases hrecord : s.recordAt? i with
  | none => rfl
  | some record =>
    obtain ⟨question, hquestion, hgrades⟩ := h.grades i record hrecord
    obtain ⟨asked, given, correct⟩ := record
    have hasked : asked = question := hgrades.question_eq
    have hcorrect : correct = question.isAnsweredBy given := hgrades.correct_eq
    simp [hquestion, hasked, hcorrect]

/-- The slots are told by the records in them. -/
theorem slots_eq_of_recordAt?_eq (hlength : s.slots.length = t.slots.length)
    (hrecords : ∀ i, s.recordAt? i = t.recordAt? i) : s.slots = t.slots := by
  refine List.ext_getElem hlength fun i hs ht => ?_
  have hrecord := hrecords i
  simpa [recordAt?, hs, ht] using hrecord

/-- The slots of a test follow from its questions and the answers in it. -/
theorem Answers.slots_eq (hs : Invariant acceptEmpty s) (ht : Invariant acceptEmpty t)
    (hsequence : s.sequence = t.sequence) (hsame : s.Answers assigned) (hother : t.Answers assigned) :
    s.slots = t.slots := by
  refine slots_eq_of_recordAt?_eq ?_ fun i => ?_
  · rw [hs.slots_length, ht.slots_length, hsequence]
  · rw [hs.recordAt?_eq, ht.recordAt?_eq, hsame i, hother i, hsequence]

/-- A test whose last question is answered is over. -/
theorem Answers.completed (h : Invariant acceptEmpty s) (hne : s.sequence ≠ [])
    (hanswers : s.Answers assigned)
    (hlast : ∃ answer, assigned (s.sequence.length - 1) = some answer) :
    s.state = .completed := by
  obtain ⟨answer, hanswer⟩ := hlast
  obtain ⟨record, hrecord, -⟩ :=
    Option.map_eq_some_iff.mp ((hanswers (s.sequence.length - 1)).trans hanswer)
  rw [h.completed_iff]
  exact ⟨hne, by rw [isAnsweredAt, hrecord]; rfl⟩

/-- The answers in a test are those that were taken since it was started. -/
theorem mem_taken_given_iff (hstart : (new acceptEmpty).start questions = .ok s)
    {calls : List Call} (hcalls : .reset ∉ calls) {i : Nat} {answer : Answer} :
    (i, answer) ∈ (s.taken calls).map (fun entry => (entry.1, entry.2.given)) ↔
      ((s.run calls).recordAt? i).map Record.given = some answer := by
  have hs : Invariant acceptEmpty s := (Invariant.new acceptEmpty).start hstart
  simp only [List.mem_map, Option.map_eq_some_iff, Prod.mk.injEq,
    recordAt?_run_eq_some_iff hs (started_of_start hstart) hcalls, recordAt?_of_start hstart,
    reduceCtorEq, false_or]
  constructor
  · rintro ⟨⟨j, record⟩, htaken, rfl, rfl⟩
    exact ⟨record, htaken, rfl⟩
  · rintro ⟨record, htaken, rfl⟩
    exact ⟨(i, record), htaken, rfl, rfl⟩

end

/-- Gives the answer to one question, if there is one. -/
def give (assigned : Nat → Option Answer) (i : Nat) : List Move :=
  ((assigned i).map Move.submit).toList

/-- Goes through the questions before one, and gives the answers to them. -/
def visit (assigned : Nat → Option Answer) : Nat → List Move
  | 0 => []
  | i + 1 => visit assigned i ++ (give assigned i ++ [.advance])

/-- A test on one of its questions, with the answers to a number of questions given. -/
structure Reached (questions : List Question) (assigned : Nat → Option Answer) (cursor given : Nat)
    (s : Session) : Prop where
  sequence_eq : s.sequence = questions
  cursor_eq : s.cursor = cursor
  answers : s.Answers fun i => if i < given then assigned i else none

section

variable {acceptEmpty : Bool} {questions : List Question} {s t : Session}
  {assigned : Nat → Option Answer} {i : Nat}

/-- The answer to a question is taken where the test goes on, and does not end it before the
    last. -/
theorem Reached.give (hs : Invariant acceptEmpty s) (h : Reached questions assigned i i s)
    (hassigned : Assignment acceptEmpty questions assigned) (hrunning : s.state = .inProgress) :
    Reached questions assigned i (i + 1) (s.run ((Session.give assigned i).map Move.call)) ∧
      (i + 1 < questions.length →
        (s.run ((Session.give assigned i).map Move.call)).state = .inProgress) := by
  have hopen : s.recordAt? i = none := by simpa using h.answers i
  cases hanswer : assigned i with
  | none =>
    have hnone : Session.give assigned i = [] := by simp [Session.give, hanswer]
    rw [hnone, List.map_nil, run_nil]
    refine ⟨⟨h.sequence_eq, h.cursor_eq, fun j => ?_⟩, fun _ => hrunning⟩
    rw [h.answers j]
    by_cases hj : j = i
    · simp [hj, hanswer]
    · have hsame : j < i ↔ j < i + 1 := by omega
      simp only [hsame]
  | some answer =>
    obtain ⟨question, hquestion, hpresent⟩ := hassigned.present i answer hanswer
    have hcurrent : s.current? = some question := by
      rw [current?, h.sequence_eq, h.cursor_eq, hquestion]
    have hunanswered : s.isAnswered = false := by
      rw [isAnswered, isAnsweredAt, h.cursor_eq, hopen]
      rfl
    have hsubmit : s.submit answer = .ok (_, s.fill _) := submit_eq_ok_iff.mpr
      ⟨question, hrunning, hcurrent, hunanswered, by rwa [hs.acceptEmpty_eq], rfl, rfl⟩
    have hafter : s.run ((Session.give assigned i).map Move.call) =
        s.fill ⟨question, answer, question.isAnsweredBy answer⟩ := by
      simp [Session.give, hanswer, Move.call, perform, hsubmit, Except.toOption]
    have hcursor : s.cursor < s.slots.length := by
      rw [hs.slots_length, h.sequence_eq, h.cursor_eq]
      exact (List.getElem?_eq_some_iff.mp hquestion).1
    rw [hafter]
    refine ⟨⟨?_, ?_, fun j => ?_⟩, fun hmore => ?_⟩
    · rw [fill_eq hcursor]
      exact h.sequence_eq
    · rw [fill_eq hcursor]
      exact h.cursor_eq
    · rw [recordAt?_fill hcursor, h.cursor_eq]
      by_cases hj : j = i
      · simp [hj, hanswer]
      · have hsame : j < i ↔ j < i + 1 := by omega
        rw [if_neg hj, h.answers j]
        simp only [hsame]
    · have hlast : s.isLast = false := by
        simp [isLast, size, h.sequence_eq, h.cursor_eq]
        omega
      rw [fill_eq hcursor, hlast]
      exact hrunning

/-- From an answered question the test goes on to the next one. -/
theorem Reached.advance (h : Reached questions assigned i (i + 1) s)
    (hrunning : s.state = .inProgress) (hmore : i + 1 < questions.length) :
    Reached questions assigned (i + 1) (i + 1) (s.perform .advance) ∧
      (s.perform .advance).state = .inProgress := by
  have hroom : s.cursor + 1 < s.size := by rwa [size, h.sequence_eq, h.cursor_eq]
  have hadvance : s.perform .advance = { s with cursor := s.cursor + 1 } := by
    rw [perform, advance?_eq_some_iff.mpr ⟨hroom, rfl⟩, Option.getD_some]
  rw [hadvance]
  exact ⟨⟨h.sequence_eq, congrArg (· + 1) h.cursor_eq, h.answers⟩, hrunning⟩

/-- Going through the questions once reaches each of them with all before it answered. -/
theorem reached_visit (hstart : (new acceptEmpty).start questions = .ok s)
    (hassigned : Assignment acceptEmpty questions assigned) (hi : i < questions.length) :
    Reached questions assigned i i (s.run ((visit assigned i).map Move.call)) ∧
      (s.run ((visit assigned i).map Move.call)).state = .inProgress := by
  have hs : Invariant acceptEmpty s := (Invariant.new acceptEmpty).start hstart
  induction i with
  | zero =>
    have hempty := recordAt?_of_start hstart
    obtain ⟨-, -, rfl⟩ := start_eq_ok_iff.mp hstart
    exact ⟨⟨rfl, rfl, fun j => by simp [visit, hempty]⟩, rfl⟩
  | succ i ih =>
    obtain ⟨hreached, hrunning⟩ := ih (by omega)
    obtain ⟨hgiven, hopen⟩ := hreached.give (hs.run _) hassigned hrunning
    rw [visit, List.map_append, List.map_append, run_append, run_append]
    exact hgiven.advance (hopen hi) hi

/-- Going through all questions gives all answers. -/
theorem exists_moves_answers (hstart : (new acceptEmpty).start questions = .ok s)
    (hassigned : Assignment acceptEmpty questions assigned) :
    ∃ moves : List Move, (s.run (moves.map Move.call)).Answers assigned := by
  have hs : Invariant acceptEmpty s := (Invariant.new acceptEmpty).start hstart
  obtain ⟨-, hne, -⟩ := start_eq_ok_iff.mp hstart
  have hpos : 0 < questions.length := List.length_pos_iff.mpr hne
  obtain ⟨hreached, hrunning⟩ :=
    reached_visit hstart hassigned (i := questions.length - 1) (by omega)
  obtain ⟨hgiven, -⟩ := hreached.give (hs.run _) hassigned hrunning
  refine ⟨visit assigned (questions.length - 1) ++ give assigned (questions.length - 1),
    fun i => ?_⟩
  rw [List.map_append, run_append, hgiven.answers i]
  by_cases hi : i < questions.length - 1 + 1
  · exact if_pos hi
  · cases hanswer : assigned i with
    | none => exact if_neg hi
    | some answer =>
      obtain ⟨question, hquestion, -⟩ := hassigned.present i answer hanswer
      have hbound : i < questions.length := (List.getElem?_eq_some_iff.mp hquestion).1
      omega

end

end Quizmaster.Session
