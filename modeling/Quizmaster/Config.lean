import Quizmaster.Disk
import Quizmaster.Environment
import Quizmaster.Text.Blank
import Quizmaster.Toml.Reader

namespace Quizmaster

/-- The configuration: a file's, overridden by environment variables. -/
structure Config where
  baseUrl : String := "https://quiz-backend-613338700440.us-central1.run.app"
  /-- Seconds to wait for an answer of the quiz service. -/
  timeout : Nat := 30
  /-- The number of questions of a test that asks for none in particular. -/
  testLength : Nat := 10
  player : String := "Player"
  dataDirectory : String := "./quizrun-data"
  /-- Whether selecting no option counts as an answer. -/
  acceptEmpty : Bool := true
deriving DecidableEq, Repr

namespace Config

inductive Failure
  | missing (path : String)
  | unreadable (path : String) (fault : Disk.Fault)
  | malformed (path : String)
deriving DecidableEq, Repr

def Failure.message : Failure → String
  | .missing path => "config file not found: " ++ path
  | .unreadable path _ => "failed to read config: " ++ path
  | .malformed path => "failed to parse config: " ++ path

/-- The message followed by its cause. -/
def Failure.chain : Failure → String
  | .unreadable path fault => (unreadable path fault).message ++ ": " ++ fault.message
  | failure => failure.message

/-- A field that has a value of its own when it is not given. -/
def field {α : Type} (given : Option Toml) (decode : Toml → Option α) (default : α) : Option α :=
  match given with
  | none => some default
  | some value => decode value

/-- Reads the address and the waiting time of the quiz service. They may be listed in this order;
    a date holds neither. -/
def withService? (c : Config) : Toml → Option Config
  | .table _ entries => both (entries.lookup "base_url") (entries.lookup "timeout_secs")
  | .array items => both items[0]? items[1]?
  | .moment => some c
  | _ => none
where
  both (baseUrl timeout : Option Toml) : Option Config := do
    return { c with
      baseUrl := ← field baseUrl Toml.text? c.baseUrl
      timeout := ← field timeout Toml.nat? c.timeout }

/-- The configuration of a document. Keys of other names are passed over. -/
def ofEntries? (entries : Toml.Entries) : Option Config := do
  let c : Config := {}
  let c ← field (entries.lookup "api") c.withService? c
  return { c with
    testLength := ← field (entries.lookup "default_test_length") Toml.nat? c.testLength
    player := ← field (entries.lookup "player_name") Toml.text? c.player
    dataDirectory := ← field (entries.lookup "data_dir") Toml.text? c.dataDirectory
    acceptEmpty := ← field (entries.lookup "accept_empty_selection") Toml.bool? c.acceptEmpty }

/-- The file that is read when no other is named. -/
def localPath : String := "quizrun.toml"

/-- The file that is read when there is none in the working directory. -/
def homePath (home : String) : String :=
  Path.child (Path.child (Path.child home ".config") "quizrun") "config.toml"

/-- The files to look for. -/
def candidates (named : Option String) (env : Environment) : List String :=
  match named with
  | some path => [path]
  | none => localPath :: ((env.get? "HOME").map homePath).toList

/-- The file to read, if any: the first one that is there. One that is named has to be there. -/
def find (named : Option String) (env : Environment) (disk : Disk) :
    Except Failure (Option String) :=
  match (candidates named env).find? disk.contains, named with
  | none, some path => .error (.missing path)
  | found, _ => .ok found

def read (path : String) (disk : Disk) : Except Failure Config := do
  let text ← (disk.read path).mapError (.unreadable path)
  match (Toml.parse? text).bind ofEntries? with
  | some c => return c
  | none => throw (.malformed path)

/-- The variables that replace settings, and the one that leads to a configuration file. -/
def heeded : List String := ["QUIZRUN_API_URL", "QUIZRUN_PLAYER", "QUIZRUN_DATA_DIR", "HOME"]

/-- Replaces what variables override. -/
def override (c : Config) (env : Environment) : Config :=
  { c with
    baseUrl := (env.get? "QUIZRUN_API_URL").getD c.baseUrl
    player := (env.get? "QUIZRUN_PLAYER").getD c.player
    dataDirectory := (env.get? "QUIZRUN_DATA_DIR").getD c.dataDirectory }

/-- Replaces the references to variables. -/
def expand (c : Config) (env : Environment) : Config :=
  { c with
    baseUrl := env.expand c.baseUrl
    player := env.expand c.player
    dataDirectory := env.expand c.dataDirectory }

/-- The variables that the settings refer to. -/
def references (c : Config) : List String :=
  [c.baseUrl, c.player, c.dataDirectory].flatMap Environment.references

/-- Loads the configuration with its references as they are written. -/
def loadWritten (named : Option String) (env : Environment) (disk : Disk) :
    Except Failure Config := do
  let c ← match ← find named env disk with
    | some path => read path disk
    | none => pure {}
  return c.override env

def load (named : Option String) (env : Environment) (disk : Disk) : Except Failure Config := do
  return (← loadWritten named env disk).expand env

/-- The file that the store is kept in. -/
def storePath (c : Config) : String := Path.child c.dataDirectory "store.json"

/-- The address of the quiz service without slashes at its end. -/
def serviceUrl (c : Config) : String := Text.trimEndWhile (· == '/') c.baseUrl

end Config

end Quizmaster
