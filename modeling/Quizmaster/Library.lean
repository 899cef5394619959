import Quizmaster.Batch
import Quizmaster.Disk

namespace Quizmaster.Library

/-- Why no question file was read from a path. In a directory every file stands for itself, and one
    that cannot be read is passed over. -/
inductive Failure
  | unreadable (path : String) (fault : Disk.Fault)
  /-- The content of the file of this name is not JSON. -/
  | malformed (name : String)
  | notADirectory (path : String)
deriving DecidableEq, Repr

def Failure.message : Failure → String
  | .unreadable path _ => "failed to read question file: " ++ path
  | .malformed name => "failed to parse JSON: " ++ name
  | .notADirectory path => "not a directory: " ++ path

/-- The message followed by its cause. -/
def Failure.chain : Failure → String
  | .unreadable path fault => (unreadable path fault).message ++ ": " ++ fault.message
  | failure => failure.message

def readFile (disk : Disk) (path : String) : Except Failure QuestionFile := do
  let content ← (disk.read path).mapError (.unreadable path)
  let name := (Path.fileName? path).getD path
  match QuestionFile.parse? name content with
  | some file => return file
  | none => throw (.malformed name)

/-- Question files are told by their extension, in any case. -/
def isQuestionFile (name : String) : Bool :=
  (Path.extension? name).any (Text.sameIgnoringCase "json")

/-- The files that entries give, in the order of the entries' names. -/
def inOrder (given : List (String × List QuestionFile)) : List QuestionFile :=
  (given.mergeSort fun a b => a.1 ≤ b.1).flatMap Prod.snd

mutual

/-- The question files at or under a node, depth first and in the order of names. -/
def ofNode (name : String) : Disk.Node → List QuestionFile
  | .file content =>
    if isQuestionFile name then
      ((Disk.decode content).toOption.bind (QuestionFile.parse? name)).toList
    else []
  | .directory entries => inOrder (ofEach entries)

/-- The question files at or under each entry, by its name. -/
def ofEach : List (String × Disk.Node) → List (String × List QuestionFile)
  | [] => []
  | (name, node) :: rest => (name, ofNode name node) :: ofEach rest

end

def ofEntries (entries : List (String × Disk.Node)) : List QuestionFile := inOrder (ofEach entries)

def readDirectory (disk : Disk) (path : String) : Except Failure (List QuestionFile) :=
  match disk.node path with
  | .ok (.directory entries) => .ok (ofEntries entries)
  | _ => .error (.notADirectory path)

/-- Reads a directory or a single file. -/
def load (disk : Disk) (path : String) : Except Failure (List QuestionFile) :=
  if disk.isDirectory path then readDirectory disk path
  else (readFile disk path).map ([·])

end Quizmaster.Library
