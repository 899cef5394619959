import Quizmaster.Command.Shell
import Quizmaster.Grid
import Quizmaster.Turn

namespace Quizmaster.Command

/-- Where the questions of a test come from. -/
inductive Pool
  | saved
  | files (path : String)
  | published (code : String)
deriving DecidableEq, Repr

structure TakeOptions where
  pool : Pool := .saved
  filter : Filter := {}
  length : Option Nat := none
  output : Option String := none
  config : Option String := none
deriving DecidableEq, Repr

/-- A test that is being taken. -/
structure Round where
  config : Config
  app : FileApp
  /-- The code of the published quiz. -/
  code : Option String
  /-- The session that the service has opened. -/
  session : Option String

/-- What a report holds besides the result. -/
structure Stamp where
  id : Uuid
  createdAt : Instant
  duration : Nat

variable {m : Type → Type} [Monad m]

def serviceOf (c : Config) : Service := ⟨c.serviceUrl, c.timeout⟩

/-- The questions to draw from. A filter does not apply to published quizzes. -/
def poolQuestions (setting : Setting m) (config : Config) (app : FileApp) (options : TakeOptions) :
    Shell m (List Question) := do
  match options.pool with
  | .saved =>
    if app.bank.isEmpty then throw .emptyBank
    return app.bank.select options.filter
  | .files path =>
    let files ← orFail .library (Library.load (← get).disk path)
    return (files.flatMap QuestionFile.questions).filter options.filter.selects
  | .published code =>
    orFail .service (← ask ((serviceOf config).load setting.send code))

/-- Opens a session with the service for a published quiz. -/
def openSession (setting : Setting m) (config : Config) (code : String) :
    Shell m (Option String) := do
  match ← ask ((serviceOf config).start setting.send code config.player) with
  | .ok id => return some id
  | .error failure =>
    warn ("Warning: could not start remote session: " ++ failure.message)
    return none

def Pool.code? : Pool → Option String
  | .published code => some (Text.trim code)
  | _ => none

/-- Draws the questions and starts the test. A length that is asked for has to be met, the
    configured one shrinks to what there is. -/
def prepare (setting : Setting m) (options : TakeOptions) : Shell m Round := do
  let (config, app) ← openApp setting.env options.config
  let pool ← poolQuestions setting config app options
  let length := options.length.getD (min config.testLength pool.length)
  if length = 0 then throw .nothingSelected
  let ((), app) ← onApp .refused (App.startWith setting.shuffle pool length) app
  print (Turn.eventsText app.log)
  let code := options.pool.code?
  match code with
  | none => return ⟨config, app, none, none⟩
  | some c => return ⟨config, app, code, ← openSession setting config c⟩

/-- Asks the questions. -/
def askAll (round : Round) (lines : List (Option String)) : Shell m Round := do
  let disk := (← get).disk
  let ((told, why), app) :=
    (Turn.run lines).run { round.app with store := { round.app.store with disk } }
  modify fun desk => { desk with disk := app.store.disk }
  print told
  if why = .badInput then throw (.disk .notText)
  return { round with app }

def summaryHeader : List String := ["#", "Question", "Your answer", "Correct answer", "Result"]

def summaryRow (index : Nat) : Option Record → List String
  | some r => [toString (index + 1), r.question.prompt, r.given.display, r.question.answer.display,
      if r.correct then "OK" else "WRONG"]
  | none => [toString (index + 1), "-", "-", "-", "SKIPPED"]

def summary (r : Result) : String :=
  Grid.render summaryHeader (r.records.zipIdx.map fun (record, index) => summaryRow index record)

def scoreText (r : Result) : String :=
  "Score: " ++ r.percent.toTenths ++ "% (" ++ toString r.correct ++ "/" ++ toString r.total ++ ")"

/-- Writes the report. -/
def saveReport (round : Round) (stamp : Stamp) (path : String) : Shell m Unit := do
  let report : Report := {
    id := stamp.id
    createdAt := stamp.createdAt
    player := round.config.player
    quizCode := round.code
    result := round.app.session.result
    duration := stamp.duration }
  let (result, disk) := report.save path (← get).disk
  modify fun desk => { desk with disk }
  orFail .report result
  warn ("Report saved to: " ++ path)

/-- Hands in the results. -/
def handIn (setting : Setting m) (round : Round) (session : String) : Shell m Unit := do
  let records := round.app.session.result.records
  match ← ask ((serviceOf round.config).submit setting.send session records) with
  | .ok receipt =>
    printLine ("Results submitted" ++ (receipt.message.map (": " ++ ·)).getD "")
  | .error failure => warn ("Warning: could not submit results: " ++ failure.message)

/-- Sums the test up. Results are handed in only if the last question is answered. -/
def conclude (setting : Setting m) (options : TakeOptions) (round : Round) (stamp : Stamp) :
    Shell m Unit := do
  let result := round.app.session.result
  printLine ("\n" ++ summary result)
  printLine (scoreText result)
  printLine ("Stars: " ++ toString round.app.progress.stars)
  if let some path := options.output then saveReport round stamp path
  if let some session := round.session then
    if round.app.session.isFinished then handIn setting round session

/-- Takes a test: questions are drawn, asked and scored. A test of a published quiz is also handed
    in to the service; what goes wrong with that is only warned of. -/
def takeTest (setting : Setting m) (options : TakeOptions) (lines : List (Option String))
    (stamp : Stamp) : Shell m Unit := do
  let round ← prepare setting options
  let round ← askAll round lines
  conclude setting options round stamp

end Quizmaster.Command
