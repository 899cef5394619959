import Quizmaster.Json.Basic

namespace Quizmaster.Json

/-- JSON texts as they are written, before numerals become numbers and keys are compared. A reader
    that skips a part of a text needs no more than this of it, so that a skipped part may hold
    numerals too large for a number, any depth, and strings whose escapes name no text. -/
inductive Written
  | null
  | bool (b : Bool)
  | number (n : Numeral)
  /-- A string without a text has an escape of half a surrogate pair. -/
  | string (s : Option String)
  | array (items : List Written)
  | object (members : List (Option String × Written))

namespace Written

mutual

/-- The value of a text whose containers are nested at most `room` deep. Keys are sorted and the
    last of equal keys stays. -/
def toJson? (room : Nat) : Written → Option Json
  | .null => some .null
  | .bool b => some (.bool b)
  | .number n => (Number.ofNumeral? n).map .number
  | .string s => s.map .string
  | .array items =>
    if room = 0 then none else (itemsToJson? (room - 1) items).map .array
  | .object members =>
    if room = 0 then none
    else (membersToJson? (room - 1) members).map fun ms => .object (sortMembers ms)

def itemsToJson? (room : Nat) : List Written → Option (List Json)
  | [] => some []
  | item :: rest => do
    let value ← toJson? room item
    let values ← itemsToJson? room rest
    return value :: values

def membersToJson? (room : Nat) : List (Option String × Written) → Option (List (String × Json))
  | [] => some []
  | (key, item) :: rest => do
    let key ← key
    let value ← toJson? room item
    let values ← membersToJson? room rest
    return (key, value) :: values

end

/-- How many containers may be nested in a text that is read. -/
def maxDepth : Nat := 127

def bool? : Written → Option Bool
  | .bool b => some b
  | _ => none

def text? : Written → Option String
  | .string s => s
  | _ => none

/-- A natural number of 64 bits; a numeral with a fraction or an exponent is none. -/
def nat? : Written → Option Nat
  | .number n =>
    match Number.ofNumeral? n with
    | some (.natural k) => some k
    | _ => none
  | _ => none

/-- Any number, rounded to binary64 where it was a whole number. -/
def binary64? : Written → Option Binary64
  | .number n => (Number.ofNumeral? n).map Number.toBinary64
  | _ => none

def list? {α : Type} (decode : Written → Option α) : Written → Option (List α)
  | .array items => items.mapM decode
  | _ => none

/-- Null stands for nothing. -/
def nullable? {α : Type} (decode : Written → Option α) : Written → Option (Option α)
  | .null => some none
  | w => (decode w).map some

/-- The name of a case without contents: a string, or an object whose only key is the name and
    whose value is null. -/
def caseName? : Written → Option String
  | .string s => s
  | .object [(key, .null)] => key
  | _ => none

/-- The values given for a record's fields, one entry a field. An object may hold other keys too,
    but each field once at most; an array gives the fields in their order and may end early. -/
def fields? (names : List String) : Written → Option (List (Option Written))
  | .object members => do
    let members ← members.mapM fun (key, value) => key.map fun k => (k, value)
    names.mapM fun name =>
      match members.filter fun (key, _) => key == name with
      | [] => some none
      | [(_, value)] => some (some value)
      | _ => none
  | .array items =>
    if items.length ≤ names.length then
      some ((List.range names.length).map fun i => items[i]?)
    else none
  | _ => none

/-- A field that has to be given. -/
def required {α : Type} (decode : Written → Option α) (field : Option Written) : Option α :=
  field.bind decode

/-- A field that has a value of its own when it is not given. -/
def orElse {α : Type} (default : α) (decode : Written → Option α) : Option Written → Option α
  | none => some default
  | some w => decode w

end Written

end Quizmaster.Json
