import Quizmaster.Question

namespace Quizmaster.Typed

/-- The option of a number counted from one. Numbers beyond the options name none of them. -/
def numbered? (options : List String) (item : String) : Option String :=
  (Text.natural? options.length item.toList).bind fun n =>
    if n = 0 then none else options[n - 1]?

/-- The option that an item names, or the item itself. -/
def resolve (options : List String) (item : String) : String :=
  match options.find? fun option => Text.sameIgnoringCase option item with
  | some option => option
  | none => (numbered? options item).getD item

/-- The items between commas, without white space around them and without empty ones. -/
def items (input : String) : List String :=
  ((Text.split ',' input).map Text.trim).filter (· != "")

/-- The answer that is typed to a question. An option is named by its text, in any case, or by its
    number counted from one; the text goes first. What names no option is kept as typed. -/
def answer (q : Question) (input : String) : Answer :=
  match q.kind with
  | .fillIn => .fillIn input
  | .single => .single (resolve q.options (Text.trim input))
  | .multiSelect => .multiSelect ((items input).map (resolve q.options))
  | .ordering => .ordering ((items input).map (resolve q.options))

end Quizmaster.Typed
