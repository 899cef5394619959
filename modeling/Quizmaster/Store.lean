import Quizmaster.Dictionary

namespace Quizmaster

/-- The calls that a store answers, each by the key that it touches. -/
inductive Store.Call
  | get (key : String)
  | set (key : String)
  | remove (key : String)
deriving DecidableEq, Repr

def Store.Call.text : Store.Call → String
  | .get key => "get:" ++ key
  | .set key => "set:" ++ key
  | .remove key => "remove:" ++ key

/-- A kind of store: texts kept under keys, beyond the life of a test. What it keeps is text;
    whoever saves something there writes and reads it. Calls may fail with an `ε`, and a failed call
    may still change the store. -/
class Store (ε : outParam Type) (σ : Type) where
  get : String → ExceptT ε (StateM σ) (Option String)
  set : String → String → ExceptT ε (StateM σ) Unit
  remove : String → ExceptT ε (StateM σ) Unit

namespace Store

/-- Keys of what is saved: the question bank, the count of stars and the badges. -/
def questionsKey : String := "questions"
def starsKey : String := "star_count"
def badgesKey : String := "badges"

/-- Texts under keys. -/
abbrev Entries := Dictionary String

/-- A store in memory that refuses the calls it is told to refuse. A refused call changes
    nothing. -/
structure Memory where
  entries : Entries
  refuses : Call → Bool

namespace Memory

/-- A store that refuses nothing. -/
def ofEntries (entries : Entries) : Memory := ⟨entries, fun _ => false⟩

/-- Answers a call, unless it is refused. -/
def answer {α : Type} (call : Call) (act : Entries → α × Entries) :
    ExceptT Call (StateM Memory) α :=
  ExceptT.mk fun m =>
    if m.refuses call then (.error call, m)
    else
      let (result, entries) := act m.entries
      (.ok result, { m with entries })

instance : Store Call Memory where
  get key := answer (.get key) fun entries => (entries.get? key, entries)
  set key value := answer (.set key) fun entries => ((), entries.insert key value)
  remove key := answer (.remove key) fun entries => ((), entries.erase key)

end Memory

end Store

end Quizmaster
