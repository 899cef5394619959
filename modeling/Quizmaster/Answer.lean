import Quizmaster.Kind
import Quizmaster.Text.Pieces

namespace Quizmaster

/-- Answers, canonical or given, each tagged with the kind of question that it answers. -/
inductive Answer
  | single (text : String)
  | multiSelect (items : List String)
  | fillIn (text : String)
  | ordering (items : List String)
deriving DecidableEq, Repr

namespace Answer

def kind : Answer → Kind
  | .single _ => .single
  | .multiSelect _ => .multiSelect
  | .fillIn _ => .fillIn
  | .ordering _ => .ordering

/-- An answer of one text; the list kinds hold it as their only item. -/
def ofText (k : Kind) (text : String) : Answer :=
  match k with
  | .single => .single text
  | .fillIn => .fillIn text
  | .multiSelect => .multiSelect [text]
  | .ordering => .ordering [text]

/-- An answer of several texts; the kinds of one text join them with commas. -/
def ofList (k : Kind) (items : List String) : Answer :=
  match k with
  | .single => .single (Text.join "," items)
  | .fillIn => .fillIn (Text.join "," items)
  | .multiSelect => .multiSelect items
  | .ordering => .ordering items

/-- The answer as one text. -/
def text : Answer → String
  | .single s | .fillIn s => s
  | .multiSelect items | .ordering items => Text.join "," items

/-- The items of a list answer; an answer of one text has none to speak of. -/
def items? : Answer → Option (List String)
  | .single _ | .fillIn _ => none
  | .multiSelect items | .ordering items => some items

/-- The items, with none for an answer of one text. -/
def items (a : Answer) : List String := a.items?.getD []

/-- Whether nothing is given: no text, or no item. -/
def isEmpty : Answer → Bool
  | .single s | .fillIn s => s == ""
  | .multiSelect items | .ordering items => items.isEmpty

/-- Whether anything is given for a question of kind `k`. Selecting no option may count as an
    answer where a list is asked for. -/
def isPresent (a : Answer) (k : Kind) (acceptEmpty : Bool) : Bool :=
  !a.isEmpty || (k.isList && acceptEmpty)

/-- The answer as it is shown: a selection in braces, a sequence with arrows. -/
def display : Answer → String
  | .single s | .fillIn s => s
  | .multiSelect items => "\x7b" ++ Text.join ", " items ++ "\x7d"
  | .ordering items => Text.join " -> " items

/-- The contents without the tag. -/
def contents : Answer → Json
  | .single s | .fillIn s => .string s
  | .multiSelect items | .ordering items => .ofStrings items

def toJson (a : Answer) : Json :=
  .object [("kind", a.kind.toJson), ("value", a.contents)]

/-- Reads contents that fit the kind: one text or a list of texts. -/
def ofContents? (k : Kind) (w : Json.Written) : Option Answer :=
  match k with
  | .single => w.text?.map .single
  | .fillIn => w.text?.map .fillIn
  | .multiSelect => (w.list? Json.Written.text?).map .multiSelect
  | .ordering => (w.list? Json.Written.text?).map .ordering

/-- The tag of an answer. In an array only a string can be one. -/
def tag? (w tag : Json.Written) : Option Kind :=
  match w with
  | .array _ => tag.text?.bind Kind.ofName?
  | _ => Kind.ofWritten? tag

def ofWritten? (w : Json.Written) : Option Answer := do
  match ← w.fields? ["kind", "value"] with
  | [some kind, some value] => ofContents? (← tag? w kind) value
  | _ => none

end Answer

end Quizmaster
