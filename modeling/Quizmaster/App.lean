import Quizmaster.Bank
import Quizmaster.Progress
import Quizmaster.Result
import Quizmaster.Shuffle

namespace Quizmaster

/-- What observers are told. -/
inductive Event
  | started (total : Nat)
  | answered (index : Nat) (record : Record)
  | unlocked (badge : Badge) (stars : Nat)
  | finished (result : Result)
deriving DecidableEq, Repr

/-- What came of an answer that was taken. -/
structure Outcome where
  correct : Bool
  badges : List Badge
  finished : Bool
deriving DecidableEq, Repr

/-- The application: the bank, the running test and the progress, together with the store that keeps
    bank and progress. Every operation changes the application also where it fails, by what it did
    before the failure. -/
structure App (σ : Type) where
  bank : Bank
  session : Session
  progress : Progress
  store : σ
  /-- All that observers were told, oldest first. -/
  log : List Event

namespace App

variable {ε σ : Type}

/-- The stars for a right answer. -/
def starsPerAnswer : Nat := 1

/-- Tells observers of events. -/
def tell (app : App σ) (events : List Event) : App σ := { app with log := app.log ++ events }

/-- Runs an action of the store on the application's own. -/
def onStore {α : Type} (action : ExceptT ε (StateM σ) α) : ExceptT ε (StateM (App σ)) α :=
  ExceptT.mk fun app =>
    let (result, store) := action.run.run app.store
    (result, { app with store })

/-- Loads bank and progress. The store is left as loading made it, also where loading fails. -/
def load [Store ε σ] (acceptEmpty : Bool) (store : σ) : Except ε (App σ) × σ :=
  let loading : ExceptT ε (StateM σ) (Bank × Progress) := do
    let bank ← Bank.load
    let progress ← Progress.load
    return (bank, progress)
  match loading.run.run store with
  | (.ok (bank, progress), store) =>
    (.ok ⟨bank, .new acceptEmpty, progress, store, []⟩, store)
  | (.error e, store) => (.error e, store)

/-- Adds questions to the bank, saves it if some were new, and counts those. -/
def addQuestions [Store ε σ] (qs : List Question) : ExceptT ε (StateM (App σ)) Nat := do
  let (added, bank) := (← get).bank.add qs
  modify fun app => { app with bank }
  if 0 < added then onStore bank.save
  return added

/-- Empties the bank. -/
def clearQuestions [Store ε σ] : ExceptT ε (StateM (App σ)) Unit := do
  modify fun app => { app with bank := .empty }
  onStore Bank.empty.save

/-- Starts a test of questions drawn from a pool. The test that was running is given up as soon as
    the questions are drawn. -/
def startWith (shuffle : Shuffle) (pool : List Question) (length : Nat) :
    ExceptT Session.Refusal (StateM (App σ)) Unit := do
  let questions ← (shuffle.draw pool length : Except _ _)
  let fresh := (← get).session.reset
  modify fun app => { app with session := fresh }
  let session ← (fresh.start questions : Except _ _)
  modify fun app => { app with session }.tell [.started session.size]

/-- Starts a test of questions drawn from those of the bank that a filter selects. -/
def start (shuffle : Shuffle) (filter : Filter) (length : Nat) :
    ExceptT Session.Refusal (StateM (App σ)) Unit := do
  startWith shuffle ((← get).bank.select filter) length

/-- Adds the stars for a right answer and saves progress. The answer stands even where saving
    fails. -/
def earn [Store ε σ] : StateM (App σ) (List Badge) := do
  let (badges, progress) := (← get).progress.addStars starsPerAnswer
  modify fun app => { app with progress }
  let _ ← (onStore progress.save).run
  modify (·.tell (badges.map (.unlocked · progress.stars)))
  return badges

/-- Answers the question under the cursor. -/
def submit [Store ε σ] (answer : Answer) :
    ExceptT Session.Refusal (StateM (App σ)) Outcome := do
  let (record, session) ← ((← get).session.submit answer : Except _ _)
  modify fun app => { app with session }.tell [.answered session.cursor record]
  let badges ← if record.correct then (earn : StateM (App σ) (List Badge)) else pure []
  if session.isFinished then modify (·.tell [.finished session.result])
  return ⟨record.correct, badges, session.isFinished⟩

/-- Moves on by one question and names it, if there is one. -/
def advance : StateM (App σ) (Option Question) := do
  match (← get).session.advance? with
  | none => return none
  | some session =>
    modify fun app => { app with session }
    return session.current?

/-- Moves back by one question and names it, if there is one. -/
def retreat : StateM (App σ) (Option Question) := do
  match (← get).session.retreat? with
  | none => return none
  | some session =>
    modify fun app => { app with session }
    return session.current?

/-- Abandons the running test. -/
def abandon : StateM (App σ) Unit :=
  modify fun app => { app with session := app.session.reset }

/-- Gives up all stars and badges. -/
def resetProgress [Store ε σ] : ExceptT ε (StateM (App σ)) Unit := do
  modify fun app => { app with progress := .new }
  onStore Progress.new.save

end App

end Quizmaster
