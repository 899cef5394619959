import Quizmaster.Disk
import Quizmaster.Json.Printer
import Quizmaster.Json.Reader
import Quizmaster.Store

namespace Quizmaster.Store

/-- A store in one JSON file, which is written anew after every change. Entries are kept in memory:
    a change that could not be written is there until the store is loaded again. -/
structure File where
  path : String
  entries : Entries
  disk : Disk

namespace File

/-- Why a store was not opened, or did not write a change. -/
inductive Failure
  | unreadable (path : String) (fault : Disk.Fault)
  | unsaved (path : String) (fault : Disk.SaveFault)
deriving DecidableEq, Repr

/-- The message, unless the failure has none but its cause's. -/
def Failure.message? : Failure → Option String
  | .unreadable path _ => some ("failed to read store: " ++ path)
  | .unsaved _ (.directory _) => none
  | .unsaved path (.file _) => some ("failed to write store to " ++ path)

def Failure.cause : Failure → Disk.Fault
  | .unreadable _ fault | .unsaved _ (.directory fault) | .unsaved _ (.file fault) => fault

/-- The message followed by its cause. -/
def Failure.chain (failure : Failure) : String :=
  match failure.message? with
  | some message => message ++ ": " ++ failure.cause.message
  | none => failure.cause.message

def encode (entries : Entries) : String :=
  (Json.object (entries.toList.map fun (key, value) => (key, .string value))).pretty

/-- Reads an object of strings. -/
def decode? (text : String) : Option Entries := do
  match ← Json.read? text with
  | .object members =>
    return .ofList (← members.mapM fun (key, value) => do return (← key, ← value.text?))
  | _ => none

/-- Loads the store at a path. A file that is missing, or whose text is no store, gives an empty
    one. -/
def load (path : String) (disk : Disk) : Except Failure File :=
  if disk.contains path then
    match disk.read path with
    | .ok text => .ok ⟨path, (decode? text).getD ∅, disk⟩
    | .error fault => .error (.unreadable path fault)
  else .ok ⟨path, ∅, disk⟩

/-- Writes the entries to the file. -/
def flush (file : File) : Except Failure Unit × File :=
  let (result, disk) := file.disk.save file.path (encode file.entries)
  (result.mapError (.unsaved file.path), { file with disk })

instance : Store Failure File where
  get key := ExceptT.mk fun file => (.ok (file.entries.get? key), file)
  set key value := ExceptT.mk fun file =>
    flush { file with entries := file.entries.insert key value }
  remove key := ExceptT.mk fun file =>
    if (file.entries.get? key).isSome then
      flush { file with entries := file.entries.erase key }
    else (.ok (), file)

end File

end Quizmaster.Store
