import Quizmaster.Session

namespace Quizmaster

/-- The score of a test, as it stands or at its end. -/
structure Result where
  /-- The share of right answers, in percent. -/
  percent : Binary64
  correct : Nat
  total : Nat
  /-- One entry for every question; an entry without a record is an unanswered question. -/
  records : List (Option Record)
deriving DecidableEq, Repr

namespace Record

def toJson (r : Record) : Json :=
  .object [("question", r.question.toJson), ("user_answer", r.given.toJson),
    ("correct", .bool r.correct)]

open Json.Written in
def ofWritten? (w : Json.Written) : Option Record := do
  match ← w.fields? ["question", "user_answer", "correct"] with
  | [question, given, correct] =>
    return ⟨← required Question.ofWritten? question, ← required Answer.ofWritten? given,
      ← required bool? correct⟩
  | _ => none

end Record

namespace Result

/-- The percentage: the quotient is rounded to binary64 before it is taken a hundredfold. -/
def percentOf (correct total : Nat) : Binary64 :=
  if total = 0 then .zero
  else
    let share := (Binary64.ofNat correct).div? (Binary64.ofNat total)
    (share.bind fun x => x.mul? (Binary64.ofNat 100)).getD .zero

/-- The answered questions' records. -/
def answered (r : Result) : List Record := r.records.filterMap id

def unanswered (r : Result) : Nat := r.records.countP Option.isNone

/-- Unanswered questions count as wrong. -/
def incorrect (r : Result) : Nat := r.total - r.correct

/-- Records of wrong answers. -/
def missed (r : Result) : List Record := r.answered.filter (!·.correct)

def toJson (r : Result) : Json :=
  .object [("score_percent", .number (.float r.percent)), ("correct_count", .nat r.correct),
    ("total", .nat r.total), ("records", .array (r.records.map (Json.ofOption Record.toJson)))]

open Json.Written in
def ofWritten? (w : Json.Written) : Option Result := do
  match ← w.fields? ["score_percent", "correct_count", "total", "records"] with
  | [percent, correct, total, records] =>
    return ⟨← required binary64? percent, ← required nat? correct, ← required nat? total,
      ← required (list? (nullable? Record.ofWritten?)) records⟩
  | _ => none

end Result

/-- The score of a session as it stands. -/
def Session.result (s : Session) : Result :=
  let correct := s.slots.countP fun slot => slot.any Record.correct
  ⟨Result.percentOf correct s.size, correct, s.size, s.slots⟩

end Quizmaster
