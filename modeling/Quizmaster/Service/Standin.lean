import Quizmaster.Service

namespace Quizmaster.Service

/-- A quiz service in memory, for trying things out: it publishes the quizzes that it is given and
    remembers what was handed in last. -/
structure Standin where
  quizzes : List (String × List Question)
  /-- How many calls there have been. -/
  calls : Nat
  /-- The session and the records that were handed in last. -/
  last : Option (String × List (Option Record))

namespace Standin

def new (quizzes : List (String × List Question)) : Standin := ⟨quizzes, 0, none⟩

/-- Counts a call. -/
def counted (s : Standin) : Standin := { s with calls := s.calls + 1 }

def load (s : Standin) (code : String) : Except Failure (List Question) × Standin :=
  let code := Text.trim code
  let result :=
    if code == "" then .error .emptyCode
    else
      match s.quizzes.lookup code with
      | some qs => .ok qs
      | none => .error (.rejected ("quiz " ++ code ++ " not found"))
  (result, s.counted)

/-- Opens a session, which is named after the quiz, the player and the calls before. -/
def start (s : Standin) (code player : String) : String × Standin :=
  (Text.join "-" ["mock", Text.trim code, player, toString s.calls], s.counted)

def submit (s : Standin) (session : String) (records : List (Option Record)) :
    Receipt × Standin :=
  (⟨true, some (toString (records.countP Option.isSome) ++ " answers received")⟩,
    { s.counted with last := some (session, records) })

end Standin

end Quizmaster.Service
