import Quizmaster.Command.Paths
import Quizmaster.CommandLine
import Quizmaster.Disk.Changes
import Std.Time.DateTime.Timestamp

namespace Quizmaster.Terminal

/-- Where names lead to from the root. -/
def pathOf (names : List String) : String := "/" ++ Text.join "/" names

/-- The file or directory at a place, if there is one. The entries of a directory are left out, and
    so is the content of a file that will only be written. -/
def readEntry (isWritten : Bool) (names : List String) : IO (Option Disk.Tree) := do
  match ← (IO.FS.realPath (pathOf names)).toBaseIO with
  | .error (.noFileOrDirectory ..) => return none
  | .error e => throw e
  | .ok path =>
    if ← path.isDir then return some .empty
    else if isWritten then return some (.file .empty)
    else return some (.file (← IO.FS.readBinFile path))

/-- The question files in a directory and in those below it. Files that cannot be read are left
    out. -/
partial def readQuestions (names : List String) : IO Disk.Tree := do
  let mut found : Disk.Tree := .empty
  for entry in ← (← IO.FS.realPath (pathOf names)).readDir do
    let name := entry.fileName
    let inside := names ++ [name]
    if let .ok (some inner) ← (readEntry (!Library.isQuestionFile name) inside).toBaseIO then
      if inner.node.isDirectory then found := found.put [name] (← readQuestions inside)
      else if Library.isQuestionFile name then found := found.put [name] inner
  return found

/-- Lays what names lead to on a disk, with all that is passed on the way there. -/
def lay (isWritten : Bool) (disk : Disk) (place : List String) : List String → IO Disk
  | [] => return disk
  | ".." :: names => lay isWritten disk place.dropLast names
  | name :: names => do
    let place := place ++ [name]
    if (disk.root.node.find? place).isSome then lay isWritten disk place names
    else
      match ← readEntry isWritten place with
      | none => return disk
      | some inner => lay isWritten { disk with root := disk.root.put place inner } place names

/-- Lays what a path names on the desk, together with all that is read or written below it. -/
def layPath (isWritten : Bool) (disk : Disk) (path : String) : IO Disk :=
  lay isWritten disk (if Path.isAbsolute path then [] else disk.workingDirectory)
    (Path.names path)

/-- Lays a file of questions on a disk, or a directory with all question files in it. -/
def layQuestions (disk : Disk) (path : String) : IO Disk := do
  let disk ← layPath false disk path
  match disk.resolve path with
  | .error _ => return disk
  | .ok place =>
    if disk.isDirectory path then
      return { disk with root := disk.root.put place (← readQuestions place) }
    else return disk

/-- The variables of the given names. -/
def readVariables (names : List String) : IO Environment := do
  return .ofList (← names.filterMapM fun name => do return (← IO.getEnv name).map (name, ·))

/-- The variables that a command heeds and the files that it may look at. -/
def surroundings (command : Command) : IO (Environment × Disk) := do
  let workingDirectory := Path.names (← IO.currentDir).toString
  let disk ← lay false ⟨.empty, workingDirectory⟩ [] workingDirectory
  let disk ← command.questionPath?.toList.foldlM layQuestions disk
  let env ← readVariables Config.heeded
  let disk ← (command.configPaths env).foldlM (layPath false) disk
  let disk ← command.outputPaths.foldlM (layPath true) disk
  let env ← readVariables (Config.heeded ++ command.references env disk)
  return (env, ← (command.storePath? env disk).toList.foldlM (layPath false) disk)

/-- Makes a change on the file system. -/
def carryOut : Disk.Change → IO Unit
  | .makeDirectory names => IO.FS.createDir (pathOf names)
  | .write names content => IO.FS.writeBinFile (pathOf names) content

/-- Passes on what was printed, and what was changed since the disk was another. The desk then has
    nothing left to pass on. -/
def deliver (before : Disk) (desk : Command.Desk) : IO Command.Desk := do
  (Disk.changes before desk.disk).forM carryOut
  let out ← IO.getStdout
  out.putStr desk.out
  out.flush
  desk.err.forM fun line => IO.eprintln line
  return { desk with out := "", err := [] }

/-- Runs a part of a command, and delivers. -/
def delivered {α : Type} (part : Command.Shell IO α) : Command.Shell IO α :=
  ExceptT.mk fun desk => do
    let (result, after) ← part.run.run desk
    return (result, ← deliver desk.disk after)

/-- A line with the character that ends it; at the end of the input there is nothing. -/
partial def readLine (input : IO.FS.Stream) (line : ByteArray) : IO ByteArray := do
  let more ← input.read 1
  if more.isEmpty then return line
  else if more.toList = [10] then return line ++ more
  else readLine input (line ++ more)

/-- What a line changes is delivered with what is shown of it, before the next one is read. -/
instance : Turn.Console Store.File (StateT Command.Round (Command.Shell IO)) where
  update part := modifyGet fun round =>
    let (result, app) := part.run round.app
    (result, { round with app })
  print text := do
    let disk := (← get).app.store.disk
    delivered do
      modify fun desk => { desk with disk }
      Command.print text
  readLine := do
    let bytes ← readLine (← IO.getStdin) .empty
    return (Turn.linesOf bytes).head?

/-- Asks the questions of a test, round after round. -/
partial def askAll : StateT Command.Round (Command.Shell IO) Unit := do
  match ← Turn.round with
  | none => askAll
  | some why => if why = .badInput then throw (.disk .notText)

/-- A random number of so many bytes. -/
def randomNat (bytes : USize) : IO Nat := do
  return (← IO.getRandomBytes bytes).toList.foldl (fun n byte => n * 256 + byte.toNat) 0

/-- What a report of this moment holds, for a test that began at a time of the steady clock. -/
def stampSince (began : Nat) : IO Command.Stamp := do
  let now ← Std.Time.Timestamp.now
  return {
    id := .ofRandom (← randomNat 16)
    createdAt := .ofNanos now.toNanosecondsSinceUnixEpoch.val
    duration := (← IO.monoMsNow) - began }

def takeTest (setting : Command.Setting IO) (options : Command.TakeOptions) :
    Command.Shell IO Unit := do
  let round ← delivered (Command.prepare setting options)
  let began ← (IO.monoMsNow : IO Nat)
  let ((), round) ← askAll.run { round with app.store.disk := (← get).disk }
  delivered (Command.conclude setting options round (← stampSince began))

/-- Runs a command. Tests are taken line by line, all else is done at once. -/
def perform (setting : Command.Setting IO) : Command → Command.Shell IO Unit
  | .take options => takeTest setting options
  | command => do delivered (command.run setting [] (← stampSince 0))

/-- The exit code of a command after it has run. -/
def exitCode (command : Command) : IO UInt32 := do
  let (env, disk) ← surroundings command
  let setting : Command.Setting IO := ⟨env, .seeded (← randomNat 8), fun _ => return .closed⟩
  match ← (perform setting command).run.run' ⟨disk, "", []⟩ with
  | .ok () => return 0
  | .error failure =>
    IO.eprintln ("Error: " ++ failure.chain)
    return 1

end Quizmaster.Terminal

open Quizmaster in
/-- The program at the terminal. There is no connection to a quiz service from here; commands that
    need one report that it cannot be reached. -/
def main (args : List String) : IO UInt32 := do
  match CommandLine.parse? args with
  | none =>
    IO.eprintln CommandLine.helpText
    return 2
  | some .help =>
    IO.println CommandLine.helpText
    return 0
  | some .version =>
    IO.println CommandLine.versionText
    return 0
  | some (.run command) =>
    try Terminal.exitCode command
    catch fault =>
      IO.eprintln ("Error: " ++ toString fault)
      return 1
