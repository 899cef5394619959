import Quizmaster.Disk
import Quizmaster.Instant
import Quizmaster.Json.Reader
import Quizmaster.Result
import Quizmaster.Uuid

namespace Quizmaster

/-- The report of a test, kept as a file. -/
structure Report where
  id : Uuid
  createdAt : Instant
  player : String
  /-- The code of the published quiz that the test came from. -/
  quizCode : Option String
  result : Result
  /-- Milliseconds from the first question to the end. -/
  duration : Nat
deriving DecidableEq, Repr

namespace Report

/-- Why a report was not saved or not loaded. -/
inductive Failure
  | unsaved (path : String) (fault : Disk.SaveFault)
  | unreadable (path : String) (fault : Disk.Fault)
  | malformed
deriving DecidableEq, Repr

/-- The message, unless the failure has none but its cause's. -/
def Failure.message? : Failure → Option String
  | .unsaved _ (.directory _) => none
  | .unsaved path (.file _) => some ("failed to write report to " ++ path)
  | .unreadable path _ => some ("failed to read report from " ++ path)
  | .malformed => some "failed to parse report JSON"

def Failure.cause? : Failure → Option Disk.Fault
  | .unsaved _ (.directory fault) | .unsaved _ (.file fault) | .unreadable _ fault => some fault
  | .malformed => none

/-- The message followed by its cause. -/
def Failure.chain (failure : Failure) : String :=
  Text.join ": " (failure.message?.toList ++ (failure.cause?.map Disk.Fault.message).toList)

/-- The records of wrong answers. -/
def missed (r : Report) : List Record := r.result.missed

def toJson (r : Report) : Json :=
  .object [("id", .string r.id.text), ("created_at", .string r.createdAt.text),
    ("player", .string r.player), ("quiz_code", .ofOption .string r.quizCode),
    ("result", r.result.toJson), ("duration_ms", .nat r.duration)]

def fieldNames : List String :=
  ["id", "created_at", "player", "quiz_code", "result", "duration_ms"]

open Json.Written in
def ofWritten? (w : Json.Written) : Option Report := do
  match ← w.fields? fieldNames with
  | [id, createdAt, player, quizCode, result, duration] =>
    return {
      id := ← required (·.text?.bind Uuid.parse?) id
      createdAt := ← required (·.text?.bind Instant.parse?) createdAt
      player := ← required text? player
      quizCode := ← orElse none (nullable? text?) quizCode
      result := ← required Result.ofWritten? result
      duration := ← required nat? duration }
  | _ => none

def decode? (text : String) : Option Report := (Json.read? text).bind ofWritten?

def save (r : Report) (path : String) (disk : Disk) : Except Failure Unit × Disk :=
  let (result, disk) := disk.save path r.toJson.pretty
  (result.mapError (.unsaved path), disk)

def load (path : String) (disk : Disk) : Except Failure Report := do
  let text ← (disk.read path).mapError (.unreadable path)
  match decode? text with
  | some r => return r
  | none => throw .malformed

end Report

end Quizmaster
