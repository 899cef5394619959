import Quizmaster.Batch
import Quizmaster.Result
import Quizmaster.Url

namespace Quizmaster

/-- How to reach the service. -/
structure Service where
  /-- The address without slashes at its end. -/
  url : String
  /-- Seconds to wait for an answer. -/
  timeout : Nat
deriving DecidableEq, Repr

namespace Service

inductive Method
  | get
  | post
deriving DecidableEq, Repr

def Method.name : Method → String
  | .get => "GET"
  | .post => "POST"

/-- A call of the quiz service, which publishes quizzes under codes, opens sessions and takes
    results. -/
structure Request where
  method : Method
  url : Url
  body : Option Json

/-- What came of a request. -/
inductive Reply
  | answered (status : Nat) (body : String)
  /-- No answer came in time. -/
  | silent
  /-- There was no connection, or it ended without an answer. -/
  | closed
deriving DecidableEq, Repr

/-- Why a call of the service has no success to tell of. None is taken for a success that does not
    say so. -/
inductive Failure
  | emptyCode
  /-- The service says that the call did not succeed. -/
  | rejected (message : String)
  | status (code : Nat) (message : String)
  | timeout (seconds : Nat)
  | unreachable (url : Url)
  /-- The service has no valid address. -/
  | noAddress
  /-- The answer is not of the form that is expected. -/
  | unreadable
deriving DecidableEq, Repr

def Failure.message : Failure → String
  | .emptyCode => "please enter a quiz code"
  | .rejected message => message
  | .status code message => "API error (HTTP " ++ toString code ++ "): " ++ message
  | .timeout seconds => "request timed out after " ++ toString seconds ++ "s"
  | .unreachable url => "network error: error sending request for url (" ++ url.text ++ ")"
  | .noAddress => "network error: builder error"
  | .unreadable => "invalid response: failed to parse response"

/-- What every answer says. An answer that does not say so is no success. -/
structure Envelope where
  success : Bool
  message : Option String

open Json.Written in
def Envelope.ofWritten? (w : Json.Written) : Option Envelope := do
  match ← w.fields? ["success", "message"] with
  | [success, message] =>
    return ⟨← orElse false bool? success, ← orElse none (nullable? text?) message⟩
  | _ => none

/-- The message of an answer that has an error's status: the envelope's, else the whole body, else
    the call's own. -/
def errorMessage (fallback body : String) : String :=
  match ((Json.read? body).bind Envelope.ofWritten?).bind Envelope.message with
  | some message => message
  | none => if body == "" then fallback else body

/-- The contents of an answer, if it is a success. -/
def contents {α : Type} (fallback : String) (decode : Json.Written → Option α) (status : Nat)
    (body : String) : Except Failure α := do
  if 400 ≤ status then throw (.status status (errorMessage fallback body))
  let some w := Json.read? body | throw .unreadable
  let some envelope := Envelope.ofWritten? w | throw .unreadable
  if !envelope.success then throw (.rejected (envelope.message.getD fallback))
  let some a := decode w | throw .unreadable
  return a

/-- The acknowledgement of results. -/
structure Receipt where
  success : Bool
  message : Option String
deriving DecidableEq, Repr

open Json.Written in
def Receipt.ofWritten? (w : Json.Written) : Option Receipt := do
  match ← w.fields? ["success", "message"] with
  | [success, message] =>
    return ⟨← required bool? success, ← orElse none (nullable? text?) message⟩
  | _ => none

def Receipt.toJson (r : Receipt) : Json :=
  .object [("success", .bool r.success), ("message", .ofOption .string r.message)]

open Json.Written in
/-- The items of a published quiz. -/
def quizItems? (w : Json.Written) : Option (List Json) := do
  match ← w.fields? ["quiz"] with
  | [quiz] => orElse [] (list? (toJson? (maxDepth - 2))) quiz
  | _ => none

open Json.Written in
def sessionId? (w : Json.Written) : Option String := do
  match ← w.fields? ["session_id"] with
  | [id] => required text? id
  | _ => none

/-- The questions of a quiz that is published under a code. -/
def questionsOf (code : String) (items : List Json) : List Question :=
  (Batch.ofItems code (.ofCode code) items).questions

/-- A record as the service keeps it: the question as an item, and answers without their tags. -/
def recordJson (r : Record) : Json :=
  .object [("question", (Item.ofQuestion r.question).toJson), ("userAnswer", r.given.contents),
    ("correct", .bool r.correct)]

def startBody (code player : String) : Json :=
  .object [("quiz_code", .string code), ("player_name", .string player)]

def resultsBody (session : String) (records : List (Option Record)) : Json :=
  .object [("session_id", .string session),
    ("user_answers", .array (records.map (Json.ofOption recordJson)))]

section

variable {m : Type → Type} [Monad m] {α : Type}

/-- Sends one request and reads the answer. Without time to wait there is none. -/
def call (s : Service) (send : Request → m Reply) (method : Method) (path : String)
    (body : Option Json) (fallback : String) (decode : Json.Written → Option α) :
    ExceptT Failure m α := do
  let some url := Url.parse? (s.url ++ path) | throw .noAddress
  if s.timeout = 0 then throw (.timeout s.timeout)
  match ← (send ⟨method, url, body⟩ : m Reply) with
  | .answered status body => (contents fallback decode status body : Except Failure α)
  | .silent => throw (.timeout s.timeout)
  | .closed => throw (.unreachable url)

/-- Loads the questions of a quiz. A blank code is not asked for. -/
def load (s : Service) (send : Request → m Reply) (code : String) :
    ExceptT Failure m (List Question) := do
  let code := Text.trim code
  if code == "" then throw .emptyCode
  let items ← s.call send .get ("/api/load-quiz/" ++ code) none "Failed to load quiz." quizItems?
  return questionsOf code items

/-- Opens a session for a player and names it. -/
def start (s : Service) (send : Request → m Reply) (code player : String) :
    ExceptT Failure m String :=
  s.call send .post "/api/quiz-session/start" (startBody (Text.trim code) player)
    "Could not start session." sessionId?

/-- Hands in the records of a session. -/
def submit (s : Service) (send : Request → m Reply) (session : String)
    (records : List (Option Record)) : ExceptT Failure m Receipt :=
  s.call send .post "/api/quiz-session/submit" (resultsBody session records)
    "Could not submit results." Receipt.ofWritten?

end

end Service

end Quizmaster
