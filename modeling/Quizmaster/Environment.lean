namespace Quizmaster

/-- Variables by name. -/
structure Environment where
  get? : String → Option String

namespace Environment

def ofList (bindings : List (String × String)) : Environment := ⟨fun name => bindings.lookup name⟩

/-- The value of a variable, nothing for one that is not set. -/
def value (env : Environment) (name : List Char) : List Char :=
  ((env.get? (String.ofList name)).getD "").toList

mutual

/-- Replaces the references in a text. A value that was put in is not looked through again. -/
def expandChars (env : Environment) : List Char → List Char
  | [] => []
  | '$' :: '{' :: rest => expandName env [] rest
  | c :: rest => c :: expandChars env rest

/-- Reads a name, in reverse, up to its closing brace. Without one the reference stays as it is
    written. -/
def expandName (env : Environment) (name : List Char) : List Char → List Char
  | [] => '$' :: '{' :: name.reverse
  | '}' :: rest => env.value name.reverse ++ expandChars env rest
  | c :: rest => expandName env (c :: name) rest

end

/-- A text with every `${NAME}` replaced by the variable's value. -/
def expand (env : Environment) (s : String) : String :=
  String.ofList (expandChars env s.toList)

mutual

def namesIn : List Char → List String
  | [] => []
  | '$' :: '{' :: rest => namesFrom [] rest
  | _ :: rest => namesIn rest

/-- Continues inside a name, which is in reverse. -/
def namesFrom (name : List Char) : List Char → List String
  | [] => []
  | '}' :: rest => String.ofList name.reverse :: namesIn rest
  | c :: rest => namesFrom (c :: name) rest

end

/-- The variables that a text refers to. -/
def references (s : String) : List String := namesIn s.toList

end Environment

end Quizmaster
