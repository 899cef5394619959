import Quizmaster.App
import Quizmaster.Typed

namespace Quizmaster.Turn

/-- What a line asks for. -/
inductive Order
  | quit
  | next
  | previous
  | hint
  | answer (typed : String)
deriving DecidableEq, Repr

/-- Commands may have white space around them; answers are taken as typed. -/
def Order.ofLine (line : String) : Order :=
  match Text.trim line with
  | ":quit" | ":q" => .quit
  | ":next" | ":n" => .next
  | ":prev" | ":p" => .previous
  | ":hint" | ":h" => .hint
  | _ => .answer line

/-- Why a test is no longer asked. -/
inductive End
  /-- All is answered, or there is no test. -/
  | done
  | quit
  | noInput
  /-- A line is no text. -/
  | badInput
deriving DecidableEq, Repr

def eventText : Event → String
  | .started total =>
    "Starting test with " ++ toString total ++ " questions.\n" ++
      "Answer with option numbers or text (comma-separated for lists).\n" ++
      "Commands: :next  :prev  :hint  :quit\n\n"
  | .answered _ _ => ""
  | .unlocked badge stars =>
    "*** Badge unlocked: " ++ badge.title ++ " (" ++ toString stars ++ " stars) ***\n"
  | .finished result =>
    "\nTest complete: " ++ toString result.correct ++ "/" ++ toString result.total ++
      " correct.\n"

def eventsText (events : List Event) : String := Text.join "" (events.map eventText)

def optionText (index : Nat) (option : String) : String :=
  "  " ++ toString (index + 1) ++ ". " ++ option ++ "\n"

def recordText (r : Record) : String :=
  "(answered: " ++ r.given.display ++ " - " ++ (if r.correct then "correct" else "incorrect") ++
    ")\n"

def questionText (s : Session) (q : Question) : String :=
  "Question " ++ toString (s.cursor + 1) ++ "/" ++ toString s.size ++ " [" ++ q.kind.name ++
    "]\n" ++ q.prompt ++ "\n" ++
    Text.join "" (q.options.zipIdx.map fun (option, index) => optionText index option) ++
    (s.currentRecord?.map recordText).getD ""

/-- The question to answer, unless the test is over. -/
def question? (s : Session) : Option Question :=
  if s.isFinished then none else s.current?

def verdictText (q : Question) (correct : Bool) : String :=
  (if correct then "Correct!" else "Incorrect. The answer is: " ++ q.answer.display) ++ "\n" ++
    q.rationale ++ "\n\n"

def refusalText (r : Session.Refusal) : String :=
  if r.isSilent then "Already answered; use :next or :prev.\n" else r.message ++ "\n"

section

variable {ε σ : Type} [Store ε σ]

/-- Answers the question under the cursor, and moves on if that did not end the test. -/
def answer (q : Question) (typed : String) : StateM (App σ) String := do
  modify fun app => { app with log := [] }
  match ← (App.submit (Typed.answer q typed)).run with
  | .error refusal => return refusalText refusal
  | .ok outcome =>
    let told := eventsText (← get).log ++ verdictText q outcome.correct
    if !outcome.finished then let _ ← App.advance
    return told

/-- Does what a line asks for and says what is shown of it; after quitting there is nothing. -/
def respond (q : Question) (line : String) : StateM (App σ) (Option String) := do
  match Order.ofLine line with
  | .quit => return none
  | .next =>
    return some (if (← App.advance).isNone then "Already on the last question.\n" else "")
  | .previous =>
    return some (if (← App.retreat).isNone then "Already on the first question.\n" else "")
  | .hint =>
    return some
      (if q.hint == "" then "No hint for this question.\n" else "Hint: " ++ q.hint ++ "\n")
  | .answer typed => return some (← answer q typed)

/-- What is shown of a question before a line is read. -/
def askText (s : Session) (q : Question) : String := questionText s q ++ "> "

end

/-- A place where a test is taken: there is an application, and there is somebody to show texts to
    and to read lines from. -/
class Console (σ : outParam Type) (m : Type → Type) where
  /-- Works on the application. -/
  update {α : Type} : StateM (App σ) α → m α
  print : String → m Unit
  /-- The next line, if there is one; a line that is no text is `none`. -/
  readLine : m (Option (Option String))

section

variable {ε σ : Type} [Store ε σ] {m : Type → Type} [Monad m] [Console σ m]

/-- One round: the question is shown, and what the next line asks for is done. It is the last one if
    it comes to an end. -/
def round : m (Option End) := do
  let session := (← Console.update get).session
  match question? session with
  | none => return some .done
  | some q =>
    Console.print (askText session q)
    match ← Console.readLine with
    | none =>
      Console.print "\n"
      return some .noInput
    | some none => return some .badInput
    | some (some line) =>
      match ← Console.update (respond q line) with
      | none => return some .quit
      | some told =>
        Console.print told
        return none

end

/-- A line that was read, with the application as it was then. -/
structure Reading (σ : Type) where
  app : App σ
  line : Option String

/-- A terminal that is fed with lines. -/
structure Terminal (σ : Type) where
  app : App σ
  shown : String
  /-- All that was read, oldest first. -/
  read : List (Reading σ)
  unread : List (Option String)

section

variable {ε σ : Type}

namespace Terminal

def ofLines (app : App σ) (lines : List (Option String)) : Terminal σ := ⟨app, "", [], lines⟩

def print (t : Terminal σ) (text : String) : Terminal σ := { t with shown := t.shown ++ text }

/-- Takes the next line, if there is one. -/
def readLine (t : Terminal σ) : Option (Option String) × Terminal σ :=
  match t.unread with
  | [] => (none, t)
  | line :: rest => (some line, { t with read := t.read ++ [⟨t.app, line⟩], unread := rest })

instance : Console σ (StateM (Terminal σ)) where
  update part := modifyGet fun t =>
    let (result, app) := part.run t.app
    (result, { t with app })
  print text := modify (·.print text)
  readLine := modifyGet readLine

end Terminal

variable [Store ε σ]

namespace Terminal

def round (t : Terminal σ) : Option End × Terminal σ :=
  (Turn.round : StateM (Terminal σ) (Option End)).run t

/-- What a round comes to: there is no question left, no line or none that is text, or the line is
    answered and the round is over or the test is. -/
theorem round_eq (t : Terminal σ) : t.round =
    match question? t.app.session with
    | none => (some .done, t)
    | some q =>
      match (t.print (askText t.app.session q)).readLine with
      | (none, t) => (some .noInput, t.print "\n")
      | (some none, t) => (some .badInput, t)
      | (some (some line), t) =>
        match (respond q line).run t.app with
        | (none, app) => (some .quit, { t with app })
        | (some told, app) => (none, { t with app }.print told) := by
  have hupdate {α : Type} (part : StateM (App σ) α) (t : Terminal σ) :
      (Console.update part : StateM (Terminal σ) α).run t =
        pure ((part.run t.app).1, { t with app := (part.run t.app).2 }) := rfl
  have hprint (text : String) (t : Terminal σ) :
      (Console.print text : StateM (Terminal σ) Unit).run t = pure ((), t.print text) := rfl
  have hread (t : Terminal σ) :
      (Console.readLine : StateM (Terminal σ) _).run t = pure t.readLine := rfl
  rw [round, Turn.round]
  simp only [StateT.run_bind, hupdate, StateT.run_get, pure_bind]
  cases question? t.app.session with
  | none => rfl
  | some q =>
    simp only [StateT.run_bind, hprint, hread, pure_bind]
    obtain ⟨_ | _ | line, t⟩ := (t.print (askText t.app.session q)).readLine
    · rfl
    · rfl
    · simp only [StateT.run_bind, hupdate, pure_bind]
      obtain ⟨_ | told, app⟩ := (respond q line).run t.app <;> rfl

/-- A round that is not the last one takes a line. -/
theorem length_unread_of_round {t u : Terminal σ} (h : t.round = (none, u)) :
    t.unread.length = u.unread.length + 1 := by
  obtain ⟨app, shown, read, unread⟩ := t
  rw [round_eq] at h
  cases hquestion : question? app.session with
  | none =>
    simp only [hquestion] at h
    cases h
  | some q =>
    obtain _ | ⟨_ | line, rest⟩ := unread <;> simp only [hquestion, print, readLine] at h
    · cases h
    · cases h
    · cases hrespond : (respond q line).run app with
      | mk told next =>
        rw [hrespond] at h
        cases told with
        | none => cases h
        | some told =>
          cases h
          rfl

end Terminal

/-- Round after round, until one is the last. -/
def loop (t : Terminal σ) : End × Terminal σ :=
  match _hround : t.round with
  | (some why, t) => (why, t)
  | (none, u) => loop u
termination_by t.unread.length
decreasing_by
  have hlength := Terminal.length_unread_of_round _hround
  omega

/-- Asks until the test is over, the lines end or one of them quits. -/
def run (lines : List (Option String)) : StateM (App σ) (String × End) :=
  modifyGet fun app =>
    let (why, left) := loop (.ofLines app lines)
    ((left.shown, why), left.app)

end

/-- A line without the characters that end it. -/
def chomp (line : String) : String := Text.trimEndWhile (fun c => c == '\n' || c == '\r') line

/-- The lines of an input, of which the last one may lack its end. -/
def linesOf (content : ByteArray) : List (Option String) :=
  let pieces := content.toList.splitOn 10
  let lines := if pieces.getLast? = some [] then pieces.dropLast else pieces
  lines.map fun line => (String.fromUTF8? ⟨line.toArray⟩).map chomp

end Quizmaster.Turn
