import Quizmaster.Answer
import Quizmaster.Json.Printer
import Quizmaster.Source

namespace Quizmaster

/-- A question as it is asked, graded and saved. -/
structure Question where
  id : String
  kind : Kind
  prompt : String
  /-- What is offered to choose from; empty for fill-in questions. -/
  options : List String
  answer : Answer
  rationale : String
  hint : String
  source : Source
deriving DecidableEq, Repr

namespace Question

/-- The rationale of a question that comes without one. -/
def noRationale : String := "No rationale provided."

/-- A question without a rationale or hint of its own, from nowhere in particular. -/
def plain (id : String) (kind : Kind) (prompt : String) (options : List String)
    (answer : Answer) : Question :=
  ⟨id, kind, prompt, options, answer, noRationale, "", .default⟩

def toJson (q : Question) : Json :=
  .object [("id", .string q.id), ("kind", q.kind.toJson), ("prompt", .string q.prompt),
    ("options", .ofStrings q.options), ("answer", q.answer.toJson),
    ("rationale", .string q.rationale), ("hint", .string q.hint), ("source", q.source.toJson)]

def fieldNames : List String :=
  ["id", "kind", "prompt", "options", "answer", "rationale", "hint", "source"]

open Json.Written in
def ofWritten? (w : Json.Written) : Option Question := do
  match ← w.fields? fieldNames with
  | [id, kind, prompt, options, answer, rationale, hint, source] =>
    return {
      id := ← required text? id
      kind := ← orElse .single Kind.ofWritten? kind
      prompt := ← required text? prompt
      options := ← orElse [] (list? text?) options
      answer := ← required Answer.ofWritten? answer
      rationale := ← orElse noRationale text? rationale
      hint := ← orElse "" text? hint
      source := ← orElse .default Source.ofWritten? source }
  | _ => none

/-- The text in which a list of questions is saved. -/
def encodeAll (qs : List Question) : String := (Json.array (qs.map toJson)).compact

end Question

end Quizmaster
