import Quizmaster.Json.Printer
import Quizmaster.Question
import Quizmaster.Text.Quoted

namespace Quizmaster

/-- An item of a question file or of a published quiz. Its texts may be given as any JSON scalar and
    its kind may be left to the shape of the answer. -/
structure Item where
  question : Option Json := none
  options : Option (List Json) := none
  answer : Option Json := none
  rationale : Option Json := none
  hint : Option Json := none
  kind : Option String := none

namespace Item

/-- What an item needs to become a question and does not have. -/
inductive Flaw
  /-- A value of another type than expected. -/
  | mistyped (value : Json) (expected : String)
  /-- An array of more values than an item has fields. -/
  | tooLong (count : Nat)
  | noQuestion
  | noAnswer
  | unknownKind (spelling : String)
  | noOptions (kind : Kind)

/-- A value by its type and, for scalars, its text. -/
def describe : Json → String
  | .null => "null"
  | .bool b => "boolean `" ++ (if b then "true" else "false") ++ "`"
  | .number (.float x) => "floating point `" ++ Json.Number.floatText x ++ "`"
  | .number n => "integer `" ++ n.text ++ "`"
  | .string s => "string " ++ Text.quoted s
  | .array _ => "sequence"
  | .object _ => "map"

def Flaw.message : Flaw → String
  | .mistyped value expected =>
    "malformed item: invalid type: " ++ describe value ++ ", expected " ++ expected
  | .tooLong count =>
    "malformed item: invalid length " ++ toString count ++ ", expected fewer elements in array"
  | .noQuestion => "missing \"Question\" field"
  | .noAnswer => "missing \"answer\" field"
  | .unknownKind spelling => Kind.unknownMessage spelling
  | .noOptions kind =>
    "type \"" ++ kind.name ++ "\" but missing or empty \"Options\" array"

def fieldNames : List String := ["Question", "Options", "answer", "Rationale", "hint", "type"]

/-- Null stands for nothing. -/
def given : Option Json → Option Json
  | some .null => none
  | value => value

def readOptions (value : Option Json) : Except Flaw (Option (List Json)) :=
  match given value with
  | none => .ok none
  | some (.array items) => .ok (some items)
  | some other => .error (.mistyped other "a sequence")

def readKind (value : Option Json) : Except Flaw (Option String) :=
  match given value with
  | none => .ok none
  | some (.string s) => .ok (some s)
  | some other => .error (.mistyped other "a string")

/-- The item of six fields, of which the options are looked at before the kind. -/
def ofFields (question options answer rationale hint kind : Option Json) : Except Flaw Item := do
  let options ← readOptions options
  let kind ← readKind kind
  return ⟨given question, options, given answer, given rationale, given hint, kind⟩

/-- Reads an object by its keys and an array by position. -/
def ofJson : Json → Except Flaw Item
  | .object members =>
    let field (name : String) := members.lookup name
    ofFields (field "Question") (field "Options") (field "answer") (field "Rationale")
      (field "hint") (field "type")
  | .array items => do
    let item ← ofFields items[0]? items[1]? items[2]? items[3]? items[4]? items[5]?
    if items.length ≤ 6 then return item else throw (.tooLong items.length)
  | other => .error (.mistyped other "struct RawQuestion")

open Json.Written in
/-- Reads an item from a text of its own, whose fields are one container deep. -/
def ofWritten? (w : Json.Written) : Option Item := do
  let value (room : Nat) := toJson? room
  match ← w.fields? fieldNames with
  | [question, options, answer, rationale, hint, kind] =>
    return {
      question := ← orElse none (nullable? (value (maxDepth - 1))) question
      options := ← orElse none (nullable? (list? (value (maxDepth - 2)))) options
      answer := ← orElse none (nullable? (value (maxDepth - 1))) answer
      rationale := ← orElse none (nullable? (value (maxDepth - 1))) rationale
      hint := ← orElse none (nullable? (value (maxDepth - 1))) hint
      kind := ← orElse none (nullable? text?) kind }
  | _ => none

/-- A value as text: strings without their quotation marks, nothing for null, and the JSON text
    of all else. -/
def textOf : Json → String
  | .string s => s
  | .null => ""
  | other => other.compact

/-- Null, false, zero and the empty string count as absent. -/
def isAbsent : Json → Bool
  | .null => true
  | .bool b => !b
  | .number n => n.toBinary64.isZero
  | .string s => s == ""
  | .array _ | .object _ => false

def textField? (value : Option Json) : Option String :=
  value.bind fun v => if isAbsent v then none else some (textOf v)

/-- The kind that an item names or, if it names none, has by its shape: without options a fill-in,
    with them a choice of as many as the answer lists. -/
def kindOf (item : Item) (answer : Json) : Except Flaw Kind :=
  match item.kind with
  | some spelling =>
    if spelling ≠ "" then (Kind.parse spelling).mapError .unknownKind else .ok inferred
  | none => .ok inferred
where
  inferred : Kind :=
    match item.options, answer with
    | some _, .array _ => .multiSelect
    | some _, _ => .single
    | none, _ => .fillIn

def answerOf (kind : Kind) : Json → Answer
  | .array items => .ofList kind (items.map textOf)
  | scalar => .ofText kind (textOf scalar)

/-- The question that an item describes. The first flaw found is the reason that there is none. -/
def toQuestion (item : Item) (id : String) (source : Source) : Except Flaw Question := do
  let some prompt := textField? item.question | throw .noQuestion
  let some answer := given item.answer | throw .noAnswer
  let kind ← kindOf item answer
  let options := (item.options.getD []).map textOf
  if kind.usesOptions && options.isEmpty then throw (.noOptions kind)
  return {
    id, kind, prompt, options, source
    answer := answerOf kind answer
    rationale := (textField? item.rationale).getD Question.noRationale
    hint := (textField? item.hint).getD "" }

/-- The item that describes a question, without the fields that would be empty. -/
def ofQuestion (q : Question) : Item where
  question := some (.string q.prompt)
  options := if q.options.isEmpty then none else some (q.options.map .string)
  answer := some q.answer.contents
  rationale := some (.string q.rationale)
  hint := if q.hint == "" then none else some (.string q.hint)
  kind := some q.kind.name

/-- The fields that are there. -/
def toJson (item : Item) : Json :=
  let field (name : String) (value : Option Json) : List (String × Json) :=
    (value.map fun v => (name, v)).toList
  .object (field "Question" item.question ++ field "Options" (item.options.map .array) ++
    field "answer" item.answer ++ field "Rationale" item.rationale ++ field "hint" item.hint ++
    field "type" (item.kind.map .string))

end Item

end Quizmaster
