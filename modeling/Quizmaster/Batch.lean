import Quizmaster.Item
import Quizmaster.Json.Reader

namespace Quizmaster

/-- An item that was passed over, and why. -/
structure Skipped where
  index : Nat
  flaw : Item.Flaw

/-- A list of items turned into questions. Every item stands for itself: it becomes a question whose
    id ends in its position, or it is skipped with its flaw. -/
structure Batch where
  questions : List Question
  skipped : List Skipped

namespace Batch

/-- The id of the item at a position. -/
def idOf (stem : String) (index : Nat) : String := stem ++ "_" ++ toString index

/-- The fate of one item. -/
def convert (stem : String) (source : Source) (index : Nat) (item : Json) :
    Except Item.Flaw Question := do
  (← Item.ofJson item).toQuestion (idOf stem index) source

/-- Converts items one by one; both lists keep the items' order. -/
def ofItems (stem : String) (source : Source) (items : List Json) : Batch where
  questions := items.zipIdx.filterMap fun (item, index) =>
    match convert stem source index item with
    | .ok q => some q
    | .error _ => none
  skipped := items.zipIdx.filterMap fun (item, index) =>
    match convert stem source index item with
    | .ok _ => none
    | .error flaw => some ⟨index, flaw⟩

end Batch

/-- The questions of one file. -/
structure QuestionFile where
  source : Source
  batch : Batch

namespace QuestionFile

def questions (f : QuestionFile) : List Question := f.batch.questions

def skipped (f : QuestionFile) : List Skipped := f.batch.skipped

/-- The items of a file: those of an array, or the one value that it holds. -/
def itemsOf : Json → List Json
  | .array items => items
  | single => [single]

/-- Reads a file's content. Its name gives the source and the ids. There is no result only if the
    content is not JSON. -/
def parse? (name content : String) : Option QuestionFile := do
  let value ← Json.parse? content
  let source := Source.ofFileName name
  return ⟨source, .ofItems name source (itemsOf value)⟩

end QuestionFile

end Quizmaster
