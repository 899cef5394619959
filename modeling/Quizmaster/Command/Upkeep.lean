import Quizmaster.Command.Take
import Quizmaster.Soundness

namespace Quizmaster.Command

variable {m : Type → Type} [Monad m]

/-- Where questions are added from. -/
inductive Origin
  | files (path : String)
  | published (code : String)
deriving DecidableEq, Repr

def countText (file : QuestionFile) : String :=
  file.source.file ++ ": " ++ toString file.questions.length ++ " questions" ++
    (if file.skipped.isEmpty then ""
     else " (" ++ toString file.skipped.length ++ " skipped)")

/-- The questions of files, which are listed with their counts. -/
def fileQuestions (path : String) : Shell m (List Question) := do
  let files ← orFail .library (Library.load (← get).disk path)
  for file in files do
    printLine (countText file)
  return files.flatMap QuestionFile.questions

/-- The questions of a published quiz, which are counted. -/
def publishedQuestions (setting : Setting m) (config : Config) (code : String) :
    Shell m (List Question) := do
  let qs ← orFail .service (← ask ((serviceOf config).load setting.send code))
  printLine ("Quiz " ++ Text.trim code ++ ": " ++ toString qs.length ++ " questions")
  return qs

/-- Adds questions to the bank. -/
def addToBank (setting : Setting m) (origin : Option Origin) (configPath : Option String) :
    Shell m Unit := do
  let (config, app) ← openApp setting.env configPath
  let qs ← match origin with
    | some (.published code) => publishedQuestions setting config code
    | some (.files path) => fileQuestions path
    | none => throw .noOrigin
  if qs.isEmpty then throw .noQuestions
  let (added, app) ← onApp .store (App.addQuestions qs) app
  printLine ("Imported " ++ toString added ++ " new questions (" ++ toString app.bank.size ++
    " total).")

def bankText (b : Bank) : String :=
  Grid.render ["Subject", "Questions"]
      (b.subjectCounts.map fun (subject, count) => [subject, toString count]) ++
    "\nTotal: " ++ toString b.size ++ " questions\nGrade levels: " ++
    Text.join ", " b.gradeLevels ++ "\nIdentifiers: " ++ Text.join ", " b.identifiers

/-- Clears the bank or shows what is in it. -/
def showBank (setting : Setting m) (clear : Bool) (configPath : Option String) :
    Shell m Unit := do
  let (_, app) ← openApp setting.env configPath
  if clear then
    let _ ← onApp .store App.clearQuestions app
    printLine "Question bank cleared."
  else if app.bank.isEmpty then
    printLine "Question bank is empty. Run `quizrun import --path <file>` to add questions."
  else printLine (bankText app.bank)

def skippedText (s : Skipped) : String :=
  "  [item " ++ toString s.index ++ "] SKIPPED: " ++ s.flaw.message ++ "\n"

def warningText (w : Warning) : String :=
  "  [" ++ w.question ++ "] WARNING: " ++ w.message ++ "\n"

/-- What is said of one file. -/
def checkText (file : QuestionFile) : String :=
  "File: " ++ file.source.file ++ " (" ++ toString file.questions.length ++ " questions)\n" ++
    Text.join "" (file.skipped.map skippedText) ++
    Text.join "" ((Soundness.warnings file.questions).map warningText)

def complaints (file : QuestionFile) : Nat :=
  file.skipped.length + (Soundness.warnings file.questions).length

/-- Checks question files, each on its own. -/
def checkFiles (path : String) : Shell m Unit := do
  let files ← orFail .library (Library.load (← get).disk path)
  if files.isEmpty then throw (.noFiles path)
  print (Text.join "" (files.map checkText))
  let count := files.foldl (fun total file => total + complaints file) 0
  if count = 0 then printLine "All question files valid."
  else printLine ("\n" ++ toString count ++ " warning(s) found.")

def progressText (p : Progress) : String :=
  "Stars: " ++ toString p.stars ++ "\nBadges: " ++
    (if p.badges = ∅ then "none" else Text.join ", " (p.badges.toList.map Badge.title)) ++ "\n" ++
    match p.next? with
    | some (badge, missing) =>
      "Next badge: " ++ badge.title ++ " in " ++ toString missing ++ " stars"
    | none => "All badges unlocked."

/-- Resets progress or shows it. -/
def showProgress (setting : Setting m) (reset : Bool) (configPath : Option String) :
    Shell m Unit := do
  let (_, app) ← openApp setting.env configPath
  if reset then
    let _ ← onApp .store App.resetProgress app
    printLine "Progress reset."
  else printLine (progressText app.progress)

def sampleConfig : String :=
  Text.join "\n" [
    "# quizrun configuration",
    "",
    "default_test_length = 10",
    "player_name = \"$\x7bUSER\x7d\"",
    "data_dir = \"./quizrun-data\"",
    "# Count an empty multi-select or ordering answer as given.",
    "accept_empty_selection = true",
    "",
    "[api]",
    "base_url = \"https://quiz-backend-613338700440.us-central1.run.app\"",
    "timeout_secs = 30",
    ""]

def sampleBank : String :=
  Text.join "\n" [
    "[",
    "  \x7b",
    "    \"Question\": \"What is 2 + 3?\",",
    "    \"Options\": [\"4\", \"5\", \"6\"],",
    "    \"answer\": \"5\",",
    "    \"Rationale\": \"Counting on from 2 by 3 gives 5.\",",
    "    \"hint\": \"Start at 2 and count up three times.\"",
    "  \x7d,",
    "  \x7b",
    "    \"Question\": \"Which numbers are even?\",",
    "    \"Options\": [\"2\", \"3\", \"4\", \"7\"],",
    "    \"answer\": [\"2\", \"4\"],",
    "    \"type\": \"multi-select\",",
    "    \"Rationale\": \"Even numbers split into two equal groups.\"",
    "  \x7d,",
    "  \x7b",
    "    \"Question\": \"What is half of 9?\",",
    "    \"answer\": 4.5,",
    "    \"Rationale\": \"9 divided by 2 is 4.5.\"",
    "  \x7d,",
    "  \x7b",
    "    \"Question\": \"Put these numbers in order, smallest first.\",",
    "    \"Options\": [\"10\", \"1\", \"5\"],",
    "    \"answer\": [\"1\", \"5\", \"10\"],",
    "    \"type\": \"ordering\",",
    "    \"hint\": \"Which one is the smallest?\"",
    "  \x7d",
    "]",
    ""]

def sampleDirectory : String := "banks"

def samplePath : String := "banks/math_grade1_sample.json"

/-- Writes a sample file, unless there is one. -/
def writeSample (path text : String) : Shell m Unit := do
  let disk := (← get).disk
  if disk.contains path then printLine (path ++ " already exists, skipping.")
  else
    let disk ← orFail .disk (disk.write path text)
    modify fun desk => { desk with disk }
    printLine ("Created " ++ path)

/-- Sets up a configuration and a bank file to start from. -/
def setUp : Shell m Unit := do
  writeSample Config.localPath sampleConfig
  let (result, disk) := (← get).disk.makeAll sampleDirectory
  modify fun desk => { desk with disk }
  orFail .disk result
  writeSample samplePath sampleBank
  print "\nNext steps:\n"
  printLine "  1. Run: quizrun validate --path banks"
  printLine "  2. Run: quizrun import --path banks"
  printLine "  3. Run: quizrun take --length 3"

end Quizmaster.Command
