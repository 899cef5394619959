import Quizmaster.Proofs.Url
import Quizmaster.Service

namespace Quizmaster.Service

variable {α : Type} {s : Service} {method : Method} {path : String} {body : Option Json}
  {request : Request}

/-- The request of a call. Without an address or time to wait there is none. -/
def request? (s : Service) (method : Method) (path : String) (body : Option Json) :
    Option Request :=
  if s.timeout = 0 then none else (Url.parse? (s.url ++ path)).map (⟨method, ·, body⟩)

def loadRequest? (s : Service) (code : String) : Option Request :=
  if Text.trim code = "" then none
  else s.request? .get ("/api/load-quiz/" ++ Text.trim code) none

def startRequest? (s : Service) (code player : String) : Option Request :=
  s.request? .post "/api/quiz-session/start" (startBody (Text.trim code) player)

def submitRequest? (s : Service) (session : String) (records : List (Option Record)) :
    Option Request :=
  s.request? .post "/api/quiz-session/submit" (resultsBody session records)

/-- A service that gives its replies one after the other and remembers what it was asked. -/
def answering (replies : Nat → Reply) (request : Request) : StateM (List Request) Reply :=
  fun sent => (replies sent.length, sent ++ [request])

/-- What a call comes to if this is the reply. -/
def outcome (call : (Request → Id Reply) → ExceptT Failure Id α) (reply : Reply) :
    Except Failure α :=
  (call fun _ => reply).run

/-- What a reply to a request at an address comes to. -/
def read (s : Service) (url : Url) (fallback : String) (decode : Json.Written → Option α) :
    Reply → Except Failure α
  | .answered status body => contents fallback decode status body
  | .silent => .error (.timeout s.timeout)
  | .closed => .error (.unreachable url)

section

variable {m : Type → Type} [Monad m] [LawfulMonad m]

/-- A call whose request can be made sends it and reads the reply. -/
theorem call_of_request?_eq_some (h : s.request? method path body = some request)
    (send : Request → m Reply) (fallback : String) (decode : Json.Written → Option α) :
    (s.call send method path body fallback decode).run =
      (do return s.read request.url fallback decode (← send request)) := by
  obtain ⟨htimeout, url, hurl, rfl⟩ : s.timeout ≠ 0 ∧ ∃ url, Url.parse? (s.url ++ path) = some url ∧
      ⟨method, url, body⟩ = request := by simpa [request?] using h
  simp only [call, hurl, htimeout, if_false]
  refine (ExceptT.run_bind_lift _ _).trans (bind_congr fun reply => ?_)
  cases reply with
  | answered status body =>
    simp only [read]
    cases contents fallback decode status body <;> rfl
  | silent => rfl
  | closed => rfl

/-- Why a call without a request fails. -/
def obstacle (s : Service) (path : String) : Failure :=
  if Url.parse? (s.url ++ path) = none then .noAddress else .timeout s.timeout

/-- A call whose request cannot be made sends nothing and fails. -/
theorem call_of_request?_eq_none (h : s.request? method path body = none)
    (send : Request → m Reply) (fallback : String) (decode : Json.Written → Option α) :
    (s.call send method path body fallback decode).run = pure (.error (s.obstacle path)) := by
  cases hurl : Url.parse? (s.url ++ path) with
  | none =>
    rw [call, obstacle, hurl]
    rfl
  | some url =>
    have htimeout : s.timeout = 0 := by simpa [request?, hurl] using h
    simp [call, obstacle, hurl, htimeout]

theorem load_of_blank {code : String} (h : Text.trim code = "") (send : Request → m Reply) :
    (s.load send code).run = pure (.error .emptyCode) := by
  simp [load, h]

/-- The questions of a quiz are those of its items, under its code. -/
theorem load_of_not_blank {code : String} (h : Text.trim code ≠ "") (send : Request → m Reply) :
    (s.load send code).run =
      Except.map (questionsOf (Text.trim code)) <$>
        (s.call send .get ("/api/load-quiz/" ++ Text.trim code) none "Failed to load quiz."
          quizItems?).run := by
  simp [load, h]

end

/-- A call sends its request, if it has one, and what comes of it depends on the reply to that
    alone. -/
theorem call_run (s : Service) (replies : Nat → Reply) (method : Method) (path : String)
    (body : Option Json) (fallback : String) (decode : Json.Written → Option α)
    (sent : List Request) :
    (s.call (answering replies) method path body fallback decode).run.run sent =
      (outcome (s.call · method path body fallback decode) (replies sent.length),
        sent ++ (s.request? method path body).toList) := by
  cases h : s.request? method path body with
  | none =>
    rw [outcome, call_of_request?_eq_none h, call_of_request?_eq_none h, Option.toList_none,
      List.append_nil]
    rfl
  | some request =>
    rw [outcome, call_of_request?_eq_some h, call_of_request?_eq_some h]
    rfl

/-- Only what was asked for is had. -/
theorem isSome_request?_of_call_ok {fallback : String} {decode : Json.Written → Option α}
    {reply : Reply} {a : α}
    (h : outcome (s.call · method path body fallback decode) reply = .ok a) :
    (s.request? method path body).isSome = true := by
  cases hrequest : s.request? method path body with
  | none =>
    rw [outcome, call_of_request?_eq_none hrequest] at h
    cases h
  | some request => rfl

/-- Loading a quiz sends its request, if it has one, and depends on the reply to that alone. -/
theorem load_run (s : Service) (replies : Nat → Reply) (code : String) (sent : List Request) :
    (s.load (answering replies) code).run.run sent =
      (outcome (s.load · code) (replies sent.length), sent ++ (s.loadRequest? code).toList) := by
  by_cases hblank : Text.trim code = ""
  · rw [outcome, load_of_blank hblank, load_of_blank hblank, loadRequest?, if_pos hblank,
      Option.toList_none, List.append_nil]
    rfl
  · rw [outcome, load_of_not_blank hblank, load_of_not_blank hblank, StateT.run_map, call_run,
      loadRequest?, if_neg hblank]
    rfl

/-- No quiz is loaded without having been asked for. -/
theorem isSome_loadRequest?_of_load_ok {code : String} {reply : Reply} {pool : List Question}
    (h : outcome (s.load · code) reply = .ok pool) : (s.loadRequest? code).isSome = true := by
  by_cases hblank : Text.trim code = ""
  · rw [outcome, load_of_blank hblank] at h
    cases h
  · rw [loadRequest?, if_neg hblank]
    rw [outcome, load_of_not_blank hblank] at h
    cases hitems : outcome (s.call · .get ("/api/load-quiz/" ++ Text.trim code) none
        "Failed to load quiz." quizItems?) reply with
    | error failure =>
      rw [outcome] at hitems
      rw [hitems] at h
      cases h
    | ok items => exact isSome_request?_of_call_ok hitems

theorem start_run (s : Service) (replies : Nat → Reply) (code player : String)
    (sent : List Request) :
    (s.start (answering replies) code player).run.run sent =
      (outcome (s.start · code player) (replies sent.length),
        sent ++ (s.startRequest? code player).toList) :=
  s.call_run replies _ _ _ _ _ sent

theorem submit_run (s : Service) (replies : Nat → Reply) (session : String)
    (records : List (Option Record)) (sent : List Request) :
    (s.submit (answering replies) session records).run.run sent =
      (outcome (s.submit · session records) (replies sent.length),
        sent ++ (s.submitRequest? session records).toList) :=
  s.call_run replies _ _ _ _ _ sent

/-- Where a session can be opened, results can be handed in. -/
theorem isSome_submitRequest? {code player : String} (session : String)
    (records : List (Option Record)) (h : (s.startRequest? code player).isSome = true) :
    (s.submitRequest? session records).isSome = true := by
  -- Both paths begin with the same segment, which ends what names the machine.
  have hbelow (path tail : String) (hpath : path.toList = "/api/".toList ++ tail.toList)
      (htail : ("/api/".toList ++ tail.toList).all (!Url.isControlOrSpace ·) = true) :=
    Url.isSome_parse?_append "/api/".toList rfl (c := '/') (by decide) (by decide) htail
      (show (s.url ++ path).toList = s.url.toList ++ _ by rw [String.toList_append, hpath])
  have hstart := hbelow "/api/quiz-session/start" "quiz-session/start" (by decide) (by decide)
  have hsubmit := hbelow "/api/quiz-session/submit" "quiz-session/submit" (by decide) (by decide)
  rw [startRequest?, request?] at h
  rw [submitRequest?, request?]
  split at h
  · cases h
  · next htimeout =>
    rw [Option.isSome_map, hstart] at h
    rw [if_neg htimeout, Option.isSome_map, hsubmit, h]

end Quizmaster.Service
