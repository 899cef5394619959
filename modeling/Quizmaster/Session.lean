import Quizmaster.Grading

namespace Quizmaster

/-- A graded answer. -/
structure Record where
  question : Question
  given : Answer
  correct : Bool
deriving DecidableEq, Repr

inductive Session.State
  | notStarted
  | inProgress
  | completed
deriving DecidableEq, Repr

namespace Session.State

/-- The name in which a state is written. -/
def name : State → String
  | .notStarted => "not_started"
  | .inProgress => "in_progress"
  | .completed => "completed"

def ofName? (s : String) : Option State :=
  [notStarted, inProgress, completed].find? fun state => state.name == s

def ofWritten? (w : Json.Written) : Option State := w.caseName?.bind ofName?

end Session.State

/-- A test: a fixed sequence of questions, a cursor into it, and for every question a slot that is
    filled once. The test is over when the last slot is filled, whatever slots before it are empty.
    An operation that is refused leaves the session as it was. -/
structure Session where
  /-- Whether selecting no option counts as an answer where a list is asked for. -/
  acceptEmpty : Bool
  sequence : List Question
  slots : List (Option Record)
  cursor : Nat
  state : Session.State
deriving DecidableEq, Repr

namespace Session

/-- Why a test was not drawn or started, or an answer not taken. -/
inductive Refusal
  | insufficientPool (available requested : Nat)
  | emptySequence
  | alreadyStarted
  | notStarted
  | alreadyAnswered (index : Nat)
  | noAnswer
  | completed
deriving DecidableEq, Repr

/-- Questions are numbered from one in messages. -/
def Refusal.message : Refusal → String
  | .insufficientPool available requested =>
    "not enough questions: requested " ++ toString requested ++ ", only " ++
      toString available ++ " available"
  | .emptySequence => "cannot start a test with no questions"
  | .alreadyStarted => "test already started"
  | .notStarted => "no test in progress"
  | .alreadyAnswered index => "question " ++ toString (index + 1) ++ " has already been answered"
  | .noAnswer => "please provide an answer before submitting"
  | .completed => "test already completed"

/-- A refusal that need not be told: the answer is already there. -/
def Refusal.isSilent : Refusal → Bool
  | .alreadyAnswered _ => true
  | _ => false

/-- No test yet. -/
def new (acceptEmpty : Bool) : Session := ⟨acceptEmpty, [], [], 0, .notStarted⟩

def size (s : Session) : Nat := s.sequence.length

/-- The question under the cursor. -/
def current? (s : Session) : Option Question := s.sequence[s.cursor]?

/-- The record in the slot of an index, if it is filled. -/
def recordAt? (s : Session) (index : Nat) : Option Record := s.slots[index]?.join

/-- The record under the cursor. -/
def currentRecord? (s : Session) : Option Record := s.recordAt? s.cursor

def isAnsweredAt (s : Session) (index : Nat) : Bool := (s.recordAt? index).isSome

def isAnswered (s : Session) : Bool := s.isAnsweredAt s.cursor

def isFirst (s : Session) : Bool := s.cursor == 0

/-- Whether the cursor is on the last question. -/
def isLast (s : Session) : Bool := s.cursor + 1 == s.size

/-- Whether the last question is under the cursor and answered. -/
def isFinished (s : Session) : Bool := s.isLast && s.isAnswered

def answeredCount (s : Session) : Nat := s.slots.countP Option.isSome

/-- Begins a test on its first question. -/
def start (s : Session) (questions : List Question) : Except Refusal Session :=
  if s.state ≠ .notStarted then .error .alreadyStarted
  else if questions = [] then .error .emptySequence
  else
    .ok { s with
      sequence := questions
      slots := List.replicate questions.length none
      cursor := 0
      state := .inProgress }

/-- Fills the slot under the cursor; the test is over once that is the last one. -/
def fill (s : Session) (record : Record) : Session :=
  let filled := { s with slots := s.slots.set s.cursor (some record) }
  if filled.isFinished then { filled with state := .completed } else filled

/-- Grades an answer to the question under the cursor and keeps it, right or wrong. -/
def submit (s : Session) (answer : Answer) : Except Refusal (Record × Session) :=
  match s.state, s.current? with
  | .notStarted, _ | _, none => .error .notStarted
  | state, some question =>
    if s.isAnswered then .error (.alreadyAnswered s.cursor)
    else if state = .completed then .error .completed
    else if answer.isPresent question.kind s.acceptEmpty then
      let record := ⟨question, answer, question.isAnsweredBy answer⟩
      .ok (record, s.fill record)
    else .error .noAnswer

/-- Moves to the next question, unless the cursor is on the last one. -/
def advance? (s : Session) : Option Session :=
  if s.cursor + 1 < s.size then some { s with cursor := s.cursor + 1 } else none

/-- Moves to the previous question, unless the cursor is on the first one. -/
def retreat? (s : Session) : Option Session :=
  if s.cursor = 0 then none else some { s with cursor := s.cursor - 1 }

/-- Abandons the test. -/
def reset (s : Session) : Session := new s.acceptEmpty

end Session

end Quizmaster
