import Quizmaster.Json.Written
import Quizmaster.Text.Blank
import Quizmaster.Text.Pieces

namespace Quizmaster

/-- Where a question comes from. The name of a question file carries its subject, grade level and an
    identifier: `math_grade5_fractions_intro.json` holds fractions for grade 5. -/
structure Source where
  subject : String
  gradeLevel : String
  identifier : String
  /-- The file's name, or the code of a quiz. -/
  file : String
deriving DecidableEq, Repr

namespace Source

/-- The subject of a name that gives none. -/
def general : String := "general"

/-- The grade level and the identifier of a name that gives none. -/
def unknown : String := "unknown"

def default : Source := ⟨general, unknown, unknown, "unknown.json"⟩

/-- The source of a quiz that the service publishes under a code. -/
def ofCode (code : String) : Source := ⟨general, unknown, code, code⟩

def gradeWord : String := "grade"

/-- Whether a part of a name gives a grade: the word and a digit right after it. -/
def isGrade (part : String) : Bool :=
  match gradeWord.toList.isPrefixOf? part.toList with
  | some (d :: _) => d.isDigit
  | _ => false

def orUnknown (s : String) : String := if s == "" then unknown else s

/-- The part after the grade word, which may be written more than once. -/
def gradeOf (part : String) : String :=
  String.ofList (Text.dropRepeats gradeWord.toList part.toList)

/-- Parts joined again, without underscores at the end. -/
def identifierOf (parts : List String) : String :=
  orUnknown (Text.trimEndWhile (· == '_') (Text.join "_" parts))

/-- Reads a file's name. Its parts stand between underscores: the first one is the subject, the
    first one that gives a grade is followed by the identifier, which otherwise follows the
    subject. -/
def ofFileName (file : String) : Source :=
  let parts := Text.split '_' (Text.erase ".json" file)
  let first := parts.head?.getD ""
  let subject := if first == "" then general else first
  match parts.dropWhile (!isGrade ·) with
  | grade :: rest => ⟨subject, gradeOf grade, identifierOf rest, file⟩
  | [] => ⟨subject, unknown, identifierOf (parts.drop 1), file⟩

def toJson (s : Source) : Json :=
  .object [("subject", .string s.subject), ("grade_level", .string s.gradeLevel),
    ("identifier", .string s.identifier), ("file", .string s.file)]

open Json.Written in
def ofWritten? (w : Json.Written) : Option Source := do
  match ← w.fields? ["subject", "grade_level", "identifier", "file"] with
  | [subject, gradeLevel, identifier, file] =>
    return ⟨← required text? subject, ← required text? gradeLevel, ← required text? identifier,
      ← required text? file⟩
  | _ => none

end Source

end Quizmaster
