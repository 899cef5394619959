import Quizmaster.Dictionary
import Quizmaster.Json.Reader
import Quizmaster.Question
import Quizmaster.Store

namespace Quizmaster

/-- What to select questions by; a field without a value selects all. -/
structure Filter where
  subject : Option String := none
  gradeLevel : Option String := none
  identifier : Option String := none
deriving DecidableEq, Repr

namespace Filter

def agrees (wanted : Option String) (actual : String) : Bool := wanted.all (· == actual)

def selects (f : Filter) (q : Question) : Bool :=
  agrees f.subject q.source.subject && agrees f.gradeLevel q.source.gradeLevel &&
    agrees f.identifier q.source.identifier

def toJson (f : Filter) : Json :=
  .object [("subject", .ofOption .string f.subject),
    ("grade_level", .ofOption .string f.gradeLevel),
    ("identifier", .ofOption .string f.identifier)]

/-- An array has to give all three fields, where an object may leave them out. -/
def isComplete : Json.Written → Bool
  | .array items => items.length == 3
  | _ => true

open Json.Written in
def ofWritten? (w : Json.Written) : Option Filter := do
  match ← w.fields? ["subject", "grade_level", "identifier"] with
  | [subject, gradeLevel, identifier] =>
    if !isComplete w then none
    else
      return ⟨← orElse none (nullable? text?) subject, ← orElse none (nullable? text?) gradeLevel,
        ← orElse none (nullable? text?) identifier⟩
  | _ => none

end Filter

/-- Puts a text at its place among sorted ones, unless it is there. -/
def insertSorted (s : String) (texts : List String) : List String := Keyed.insert id s texts

/-- The saved questions, in the order in which they came. -/
structure Bank where
  questions : List Question
deriving DecidableEq, Repr

namespace Bank

def empty : Bank := ⟨[]⟩

def size (b : Bank) : Nat := b.questions.length

def isEmpty (b : Bank) : Bool := b.questions.isEmpty

/-- Adds a question at the end, unless its id is taken. -/
def insert (b : Bank) (q : Question) : Bank :=
  if b.questions.any (·.id == q.id) then b else ⟨b.questions ++ [q]⟩

/-- Adds questions one after the other, and counts those that were new. -/
def add (b : Bank) (qs : List Question) : Nat × Bank :=
  let grown := qs.foldl insert b
  (grown.size - b.size, grown)

/-- The selected questions, in the bank's order. -/
def select (b : Bank) (f : Filter) : List Question := b.questions.filter f.selects

/-- The different values of a field, sorted. -/
def valuesOf (b : Bank) (field : Source → String) : List String :=
  b.questions.foldl (fun values q => insertSorted (field q.source) values) []

def subjects (b : Bank) : List String := b.valuesOf Source.subject

def gradeLevels (b : Bank) : List String := b.valuesOf Source.gradeLevel

def identifiers (b : Bank) : List String := b.valuesOf Source.identifier

/-- How many questions there are of each value of a field. -/
def countsOf (b : Bank) (field : Source → String) : Dictionary Nat :=
  b.questions.foldl (fun counts q => counts.count (field q.source)) ∅

/-- How many questions there are of each subject, sorted by subject. -/
def subjectCounts (b : Bank) : List (String × Nat) := (b.countsOf Source.subject).toList

/-- Reads a saved list of questions. -/
def decode? (s : String) : Option Bank :=
  (Json.read? s).bind fun w => (w.list? Question.ofWritten?).map Bank.mk

def encode (b : Bank) : String := Question.encodeAll b.questions

section

variable {ε σ : Type} [Store ε σ]

def save (b : Bank) : ExceptT ε (StateM σ) Unit :=
  Store.set Store.questionsKey b.encode

/-- The saved bank. A text that is no bank is removed. -/
def load : ExceptT ε (StateM σ) Bank := do
  match ← Store.get Store.questionsKey with
  | none => return empty
  | some saved =>
    match decode? saved with
    | some b => return b
    | none =>
      Store.remove Store.questionsKey
      return empty

end

end Bank

end Quizmaster
