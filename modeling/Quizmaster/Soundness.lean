import Quizmaster.Question

namespace Quizmaster

/-- What is wrong with a question that cannot be graded well or would confuse. -/
inductive Issue
  | duplicateId
  | blankPrompt
  | notAnOption (answer : String)
  | notAPermutation
  | blankAnswer
deriving DecidableEq, Repr

/-- An issue of a question, by its id. -/
structure Warning where
  question : String
  issue : Issue
deriving DecidableEq, Repr

def Warning.message (w : Warning) : String :=
  match w.issue with
  | .duplicateId => "duplicate question ID: " ++ w.question
  | .blankPrompt => "prompt is empty"
  | .notAnOption answer => "answer \"" ++ answer ++ "\" is not one of the options"
  | .notAPermutation => "ordering answer is not a permutation of the options"
  | .blankAnswer => "fill-in answer is empty"

namespace Soundness

def isBlank (s : String) : Bool := Text.trim s == ""

/-- The texts that occurred before, in the list or among those already seen. -/
def repeats (seen : List String) : List String → List String
  | [] => []
  | id :: rest => if id ∈ seen then id :: repeats seen rest else repeats (id :: seen) rest

def answerIssues (q : Question) : List Issue :=
  match q.kind with
  | .single => if q.answer.text ∈ q.options then [] else [.notAnOption q.answer.text]
  | .multiSelect => (q.answer.items.filter (· ∉ q.options)).map .notAnOption
  | .ordering => if q.answer.items.mergeSort == q.options.mergeSort then [] else [.notAPermutation]
  | .fillIn => if isBlank q.answer.text then [.blankAnswer] else []

/-- The issues of a question on its own: a blank prompt, and an answer that does not fit the
    options. -/
def issues (q : Question) : List Issue :=
  (if isBlank q.prompt then [.blankPrompt] else []) ++ answerIssues q

/-- One warning for every id that was used before, then each question's own. -/
def warnings (qs : List Question) : List Warning :=
  (repeats [] (qs.map Question.id)).map (⟨·, .duplicateId⟩) ++
    qs.flatMap fun q => (issues q).map (⟨q.id, ·⟩)

end Soundness

end Quizmaster
