import Quizmaster.Dictionary
import Quizmaster.Json.Number

namespace Quizmaster

/-- JSON values. An object is a list of members; a value read without a schema holds each key once,
    in the order of keys, while an object built from a record keeps the order of the record's
    fields. -/
inductive Json
  | null
  | bool (b : Bool)
  | number (n : Json.Number)
  | string (s : String)
  | array (items : List Json)
  | object (members : List (String × Json))

namespace Json

/-- Members in the order of their keys; of equal keys the last one stays. -/
def sortMembers (members : List (String × Json)) : List (String × Json) :=
  (Dictionary.ofList members).toList

def nat (n : Nat) : Json := .number (.natural n)

def ofStrings (items : List String) : Json := .array (items.map .string)

/-- Null stands for nothing. -/
def ofOption {α : Type} (encode : α → Json) : Option α → Json
  | none => .null
  | some a => encode a

/-- The value under a key. -/
def member? (key : String) : Json → Option Json
  | .object members => members.lookup key
  | _ => none

end Json

end Quizmaster
