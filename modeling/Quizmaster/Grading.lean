import Quizmaster.Numeral
import Quizmaster.Question

namespace Quizmaster.Grading

/-- Numbers closer than this are the same: `10^-9`. -/
def tolerance : Binary64 := (Binary64.ofDecimal? false 1 (-9)).getD .zero

/-- A fill-in text as it is compared: without white space around it, commas and spaces. -/
def normalize (s : String) : String :=
  String.ofList ((Text.trimChars s.toList).filter fun c => c != ',' && c != ' ')

/-- Two numbers are the same if their difference is below the tolerance; a difference that is not
    finite is not. -/
def sameNumber (x y : Binary64) : Bool :=
  match x.distance? y with
  | some d => d.units < tolerance.units
  | none => false

/-- Texts that both start with a number are compared by it, others by their lower-case forms. -/
def fillInMatches (expected given : String) : Bool :=
  let expected := normalize expected
  let given := normalize given
  match leadingNumber? expected, leadingNumber? given with
  | some x, some y => sameNumber x y
  | _, _ => Text.lowercase expected == Text.lowercase given

/-- The same items, each as often, in any order. -/
def sameItems (expected given : List String) : Bool :=
  expected.length == given.length && expected.mergeSort == given.mergeSort

/-- Whether `given` answers a question of kind `k` whose canonical answer is `expected`. -/
def grade (k : Kind) (expected given : Answer) : Bool :=
  match k with
  | .single => given.text == expected.text
  | .multiSelect => sameItems (expected.items?.getD [expected.text]) given.items
  | .ordering => expected.items == given.items
  | .fillIn => fillInMatches expected.text given.text

end Grading

/-- Whether an answer is right. Every answer gets a verdict, also one of another kind than the
    question's, which is taken as one text or as a list, whichever the question asks for. -/
def Question.isAnsweredBy (q : Question) (given : Answer) : Bool :=
  Grading.grade q.kind q.answer given

end Quizmaster
