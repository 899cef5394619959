import Quizmaster.App
import Quizmaster.Config
import Quizmaster.Library
import Quizmaster.Report
import Quizmaster.Service
import Quizmaster.Store.File

namespace Quizmaster.Command

/-- What commands change. -/
structure Desk where
  disk : Disk
  /-- All that was printed. -/
  out : String
  /-- The lines of the error output. -/
  err : List String

/-- What commands are given. -/
structure Setting (m : Type → Type) where
  env : Environment
  shuffle : Shuffle
  send : Service.Request → m Service.Reply

/-- Why a command fails. -/
inductive Failure
  | config (failure : Config.Failure)
  /-- The store in a data directory cannot be loaded. -/
  | data (directory : String) (failure : Store.File.Failure)
  | store (failure : Store.File.Failure)
  | library (failure : Library.Failure)
  | service (failure : Service.Failure)
  | refused (refusal : Session.Refusal)
  | report (failure : Report.Failure)
  | disk (fault : Disk.Fault)
  | emptyBank
  | nothingSelected
  | noOrigin
  | noQuestions
  | noFiles (path : String)
deriving DecidableEq, Repr

/-- The message followed by its causes. -/
def Failure.chain : Failure → String
  | .config failure => failure.chain
  | .data directory failure => "failed to open data in " ++ directory ++ ": " ++ failure.chain
  | .store failure => failure.chain
  | .library failure => failure.chain
  | .service failure => failure.message
  | .refused refusal => refusal.message
  | .report failure => failure.chain
  | .disk fault => fault.message
  | .emptyBank => "question bank is empty; run `quizrun import --path <file>` first"
  | .nothingSelected => "no questions match the selected filters"
  | .noOrigin => "either --path or --code is required"
  | .noQuestions => "no valid questions found"
  | .noFiles path => "no question files found in " ++ path

/-- A run of a command. What it changed before it failed stays changed. -/
abbrev Shell (m : Type → Type) := ExceptT Failure (StateT Desk m)

variable {m : Type → Type} [Monad m] {α : Type}

def print (text : String) : Shell m Unit :=
  modify fun desk => { desk with out := desk.out ++ text }

def printLine (line : String) : Shell m Unit := print (line ++ "\n")

def warn (line : String) : Shell m Unit :=
  modify fun desk => { desk with err := desk.err ++ [line] }

/-- Goes on with a result that there is, or fails. -/
def orFail {ε : Type} (reason : ε → Failure) (result : Except ε α) : Shell m α :=
  match result with
  | .ok a => return a
  | .error e => throw (reason e)

/-- Asks the service. -/
def ask (call : ExceptT Service.Failure m α) : Shell m (Except Service.Failure α) := do
  ExceptT.lift (StateT.lift call.run)

/-- The application on a store in a file. -/
abbrev FileApp := App Store.File

/-- Runs an action of the application, whose store works on the disk of the desk. -/
def onApp {ε : Type} (reason : ε → Failure) (action : ExceptT ε (StateM FileApp) α)
    (app : FileApp) : Shell m (α × FileApp) := do
  let disk := (← get).disk
  let (result, app) := action.run.run { app with store := { app.store with disk } }
  modify fun desk => { desk with disk := app.store.disk }
  return (← orFail reason result, app)

/-- Loads the configuration and, from the store that it names, the application. -/
def openApp (env : Environment) (configPath : Option String) : Shell m (Config × FileApp) := do
  let disk := (← get).disk
  let config ← orFail .config (Config.load configPath env disk)
  let store ← orFail (.data config.dataDirectory) (Store.File.load config.storePath disk)
  let (result, store) := App.load config.acceptEmpty store
  modify fun desk => { desk with disk := store.disk }
  return (config, ← orFail .store result)

end Quizmaster.Command
