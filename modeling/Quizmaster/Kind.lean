import Quizmaster.Json.Written
import Quizmaster.Text.Blank
import Quizmaster.Text.Lowercase

namespace Quizmaster

/-- The four kinds of question. -/
inductive Kind
  | single
  | multiSelect
  | fillIn
  | ordering
deriving DecidableEq, Repr

namespace Kind

/-- The name in which a kind is written. -/
def name : Kind → String
  | .single => "single"
  | .multiSelect => "multi-select"
  | .fillIn => "fill-in"
  | .ordering => "ordering"

/-- All kinds but fill-in offer options. -/
def usesOptions (k : Kind) : Bool := k != .fillIn

/-- Kinds whose answer is a list of texts and not one text. -/
def isList (k : Kind) : Bool := k == .multiSelect || k == .ordering

/-- The kind of exactly this name. -/
def ofName? (s : String) : Option Kind :=
  [single, multiSelect, fillIn, ordering].find? fun k => k.name == s

/-- The spellings that item files may use: the words of a name are joined by a hyphen, by an
    underscore, or written as one. -/
def ofSpelling? : String → Option Kind
  | "single" => some .single
  | "multi-select" | "multi_select" | "multiselect" => some .multiSelect
  | "fill-in" | "fill_in" | "fillin" => some .fillIn
  | "ordering" => some .ordering
  | _ => none

/-- What spellings are compared in: no white space around and lower case. -/
def normalize (s : String) : String := Text.lowercase (Text.trim s)

/-- The kind that a text spells. The error is the text as it was compared. -/
def parse (s : String) : Except String Kind :=
  match ofSpelling? (normalize s) with
  | some k => .ok k
  | none => .error (normalize s)

def unknownMessage (spelling : String) : String := "unknown question type: " ++ spelling

def toJson (k : Kind) : Json := .string k.name

def ofWritten? (w : Json.Written) : Option Kind := w.caseName?.bind ofName?

end Kind

end Quizmaster
