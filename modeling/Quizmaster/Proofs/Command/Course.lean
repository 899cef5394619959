import Quizmaster.Proofs.Command.Take
import Quizmaster.Proofs.Service

namespace Quizmaster.Command

/-- What a part of a command does, and what was asked in the end, with a service that gives its
    replies in turn. -/
def heard {α : Type} (x : Shell (StateM (List Service.Request)) α) (desk : Desk)
    (sent : List Service.Request) : (Except Failure α × Desk) × List Service.Request :=
  (x.run.run desk).run sent

section

variable {α β : Type} {x : Shell (StateM (List Service.Request)) α} {y : Shell Id α}

/-- What is asked by the parts of a command is asked one after the other. -/
theorem heard_bind (x : Shell (StateM (List Service.Request)) α)
    (f : α → Shell (StateM (List Service.Request)) β) (desk : Desk)
    (sent : List Service.Request) :
    heard (x >>= f) desk sent =
      match heard x desk sent with
      | ((.ok a, next), sent) => heard (f a) next sent
      | ((.error failure, next), sent) => ((.error failure, next), sent) := by
  rw [heard, ExceptT.run_bind, StateT.run_bind, StateT.run_bind]
  change _ = match (x.run.run desk).run sent with
    | ((.ok a, next), sent) => _
    | ((.error failure, next), sent) => _
  obtain ⟨⟨_ | _, next⟩, sent⟩ := (x.run.run desk).run sent <;> rfl

theorem heard_ask (call : ExceptT Service.Failure (StateM (List Service.Request)) α) (desk : Desk)
    (sent : List Service.Request) :
    heard (ask call) desk sent = ((.ok (call.run.run sent).1, desk), (call.run.run sent).2) := rfl

/-- A desk after something more was printed. -/
def Desk.printed (desk : Desk) (text : String) : Desk := { desk with out := desk.out ++ text }

theorem Desk.printed_empty (desk : Desk) : desk.printed "" = desk := by
  rw [printed, String.append_empty]

theorem Desk.printed_withErr (desk : Desk) (err : List String) (text : String) :
    (desk.withErr err).printed text = (desk.printed text).withErr err := rfl

/-- A part that asks nobody does what it does alone, and the list of requests is left as it was. -/
theorem Offline.heard_eq (h : Offline x y) (desk : Desk) (err : List String)
    (sent : List Service.Request) :
    ∃ err', heard x (desk.withErr err) sent =
      (((alone y desk).1, (alone y desk).2.withErr err'), sent) := by
  obtain ⟨err', h⟩ := h desk err
  exact ⟨err', congrArg (StateT.run · sent) h⟩

end

/-- What is printed of handing in. -/
def receiptText : Except Service.Failure Service.Receipt → String
  | .ok receipt => "Results submitted" ++ (receipt.message.map (": " ++ ·)).getD "" ++ "\n"
  | .error _ => ""

theorem receiptText_error (failure : Service.Failure) : receiptText (.error failure) = "" := rfl

/-- What a test of a published quiz is taken with. -/
structure Occasion where
  env : Environment
  shuffle : Shuffle
  code : String
  /-- The options but for the pool, which is the published quiz. -/
  options : TakeOptions
  lines : List (Option String)
  stamp : Stamp
  desk : Desk

namespace Occasion

open Service (answering outcome)

variable (o : Occasion) (replies : Nat → Service.Reply)

def setting : Setting (StateM (List Service.Request)) := ⟨o.env, o.shuffle, answering replies⟩

/-- Where there is nothing to ask but for the quiz, and this is the reply. -/
def loading (reply : Service.Reply) : Setting Id := ⟨o.env, o.shuffle, fun _ => reply⟩

/-- What the command does, and what it asks of the service. -/
def take : (Except Failure Unit × Desk) × List Service.Request :=
  heard (takeTest (o.setting replies) { o.options with pool := .published o.code } o.lines o.stamp)
    o.desk []

/-- What the command makes of the configuration and the store. -/
def opened : Except Failure (Config × FileApp) × Desk :=
  alone (openApp o.env o.options.config) o.desk

/-- The test up to its first question, if this is the reply to loading the quiz. -/
def started (reply : Service.Reply) : Except Failure Round × Desk :=
  alone (begin (o.loading reply) o.options o.code) o.desk

/-- The whole test but for opening a session and handing in. -/
def attended (reply : Service.Reply) : Except Failure Round × Desk :=
  alone (begin (o.loading reply) o.options o.code >>=
    attend o.options o.lines o.stamp) o.desk

/-- What comes of opening a session. -/
def session (config : Config) (reply : Service.Reply) : Except Service.Failure String :=
  outcome ((serviceOf config).start · (Text.trim o.code) config.player) reply

/-- Once there is a reply, nothing more is asked for. -/
theorem alone_loadTest (config : Config) (app : FileApp) (desk : Desk) (reply : Service.Reply) :
    alone (loadTest (o.loading reply) o.options o.code config app) desk =
      alone (do
        let pool ← orFail .service (outcome ((serviceOf config).load · o.code) reply)
        let app ← startTest o.shuffle o.options config app pool
        return ⟨config, app, some (Text.trim o.code), none⟩) desk := by
  rw [loadTest, alone_bind]
  rfl

/-- Loading a quiz asks once, unless the code is blank. -/
theorem heard_loadTest (config : Config) (app : FileApp) (desk : Desk) (err : List String) :
    ∃ err', heard (loadTest (o.setting replies) o.options o.code config app) (desk.withErr err) [] =
      (((alone (loadTest (o.loading (replies 0)) o.options o.code config app) desk).1,
        (alone (loadTest (o.loading (replies 0)) o.options o.code config app) desk).2.withErr err'),
        ((serviceOf config).loadRequest? o.code).toList) := by
  have hrest := Offline.bind (m := StateM (List Service.Request)) (.orFail .service
    (outcome ((serviceOf config).load · o.code) (replies 0))) fun pool =>
      .bind (.startTest o.shuffle o.options config app pool) fun app =>
        .pure (⟨config, app, some (Text.trim o.code), none⟩ : Round)
  obtain ⟨err', h⟩ := hrest.heard_eq desk err ((serviceOf config).loadRequest? o.code).toList
  refine ⟨err', ?_⟩
  rw [loadTest, heard_bind, heard_ask, setting, Service.load_run, alone_loadTest, ← h,
    List.length_nil, List.nil_append]

theorem heard_openApp : ∃ err,
    heard (openApp o.env o.options.config) o.desk [] =
      ((o.opened.1, o.opened.2.withErr err), []) :=
  (Offline.openApp o.env o.options.config).heard_eq o.desk o.desk.err []

/-- Nothing is asked where the application does not open. -/
theorem heard_begin_of_error {failure : Failure} {after : Desk}
    (hopened : o.opened = (.error failure, after)) :
    o.started (replies 0) = (.error failure, after) ∧
    ∃ err, heard (begin (o.setting replies) o.options o.code) o.desk [] =
      ((.error failure, after.withErr err), []) := by
  obtain ⟨err, h⟩ := o.heard_openApp
  constructor
  · rw [started, begin, alone_bind, loading, ← opened, hopened]
  · refine ⟨err, ?_⟩
    rw [begin, heard_bind, setting, h, hopened]

/-- Where the application opens, the beginning of a test asks for the quiz and nothing else. -/
theorem heard_begin_of_ok {config : Config} {app : FileApp} {after : Desk}
    (hopened : o.opened = (.ok (config, app), after)) : ∃ err,
    heard (begin (o.setting replies) o.options o.code) o.desk [] =
      (((o.started (replies 0)).1, (o.started (replies 0)).2.withErr err),
        ((serviceOf config).loadRequest? o.code).toList) := by
  obtain ⟨err, h⟩ := o.heard_openApp
  obtain ⟨err', hload⟩ := o.heard_loadTest replies config app after err
  refine ⟨err', ?_⟩
  have hstarted : o.started (replies 0) =
      alone (loadTest (o.loading (replies 0)) o.options o.code config app) after := by
    rw [started, begin, alone_bind, loading, ← opened, hopened]
  rw [hstarted, ← hload, begin, heard_bind, setting, h, hopened]

/-- Opening a session asks once; where it fails, the test goes on without one. -/
theorem heard_openSession (config : Config) (desk : Desk) (sent : List Service.Request) : ∃ err,
    heard (openSession (o.setting replies) config (Text.trim o.code)) desk sent =
      ((.ok (o.session config (replies sent.length)).toOption, desk.withErr err),
        sent ++ ((serviceOf config).startRequest? (Text.trim o.code) config.player).toList) := by
  rw [openSession, heard_bind, heard_ask, setting, Service.start_run, ← session]
  cases o.session config (replies sent.length) with
  | ok id => exact ⟨desk.err, rfl⟩
  | error failure => exact ⟨_, rfl⟩

/-- What comes of handing in the records of a test. -/
def receipt (round : Round) (session : String) (reply : Service.Reply) :
    Except Service.Failure Service.Receipt :=
  outcome ((serviceOf round.config).submit · session round.app.session.result.records) reply

/-- Nothing is handed in of a test that is not over. -/
theorem heard_settle_of_not_finished {session : Option String} {round : Round}
    (h : ∀ id, session = some id → round.app.session.isFinished = false) (desk : Desk)
    (sent : List Service.Request) :
    heard (settle (o.setting replies) session round) desk sent = ((.ok (), desk), sent) := by
  cases session with
  | none => rfl
  | some id =>
    rw [settle]
    simp only [h id rfl]
    rfl

/-- Handing in asks once and never fails, whatever comes of it. -/
theorem heard_handIn (id : String) (round : Round) (desk : Desk) (sent : List Service.Request) :
    ∃ err, heard (handIn (o.setting replies) round id) desk sent =
      ((.ok (), (desk.printed (receiptText (receipt round id (replies sent.length)))).withErr err),
        sent ++
          ((serviceOf round.config).submitRequest? id round.app.session.result.records).toList) := by
  rw [handIn, heard_bind, heard_ask, setting, Service.submit_run, receipt]
  generalize sent ++ _ = sent'
  cases outcome ((serviceOf round.config).submit · id round.app.session.result.records)
      (replies sent.length) with
  | ok receipt => exact ⟨desk.err, rfl⟩
  | error failure =>
    refine ⟨desk.err ++ ["Warning: could not submit results: " ++ failure.message], ?_⟩
    rw [receiptText_error, Desk.printed_empty]
    rfl

/-- A test that is started is one of a quiz that was loaded. -/
theorem started_ok {reply : Service.Reply} {round : Round} {after : Desk}
    (h : o.started reply = (.ok round, after)) :
    (∃ app mid, o.opened = (.ok (round.config, app), mid)) ∧
    (∃ pool, outcome ((serviceOf round.config).load · o.code) reply = .ok pool) ∧
    ∃ acceptEmpty questions, questions ≠ [] ∧
      round.app.session = .begun acceptEmpty questions := by
  obtain ⟨⟨config, app⟩, mid, hopened, h⟩ := exists_of_alone_bind_eq_ok h
  rw [alone_loadTest] at h
  obtain ⟨pool, _, hload, h⟩ := exists_of_alone_bind_eq_ok h
  obtain ⟨begun, _, hstart, h⟩ := exists_of_alone_bind_eq_ok h
  rw [alone_pure] at h
  cases h
  exact ⟨⟨app, mid, hopened⟩, ⟨pool, orFail_ok hload⟩, _, startTest_ok hstart⟩

theorem attended_of_started_error {reply : Service.Reply} {failure : Failure} {after : Desk}
    (h : o.started reply = (.error failure, after)) :
    o.attended reply = (.error failure, after) := by
  rw [attended, alone_bind, ← started, h]

theorem attended_of_started_ok {reply : Service.Reply} {round : Round} {after : Desk}
    (h : o.started reply = (.ok round, after)) :
    o.attended reply = alone (attend o.options o.lines o.stamp round) after := by
  rw [attended, alone_bind, ← started, h]

/-- How the command can go, and what it has asked of the service then. -/
inductive Course : (Except Failure Unit × Desk) × List Service.Request → Prop
  | unopened {failure : Failure} {after : Desk} {err : List String}
      (hattended : o.attended (replies 0) = (.error failure, after)) :
      Course ((.error failure, after.withErr err), [])
  | unstarted {config : Config} {app : FileApp} {mid after : Desk} {failure : Failure}
      {err : List String} (hopened : o.opened = (.ok (config, app), mid))
      (hattended : o.attended (replies 0) = (.error failure, after)) :
      Course ((.error failure, after.withErr err),
        ((serviceOf config).loadRequest? o.code).toList)
  | failed {round : Round} {mid after : Desk} {load : Service.Request} {failure : Failure}
      {err : List String} (hstarted : o.started (replies 0) = (.ok round, mid))
      (hload : (serviceOf round.config).loadRequest? o.code = some load)
      (hattended : o.attended (replies 0) = (.error failure, after)) :
      Course ((.error failure, after.withErr err), load ::
        ((serviceOf round.config).startRequest? (Text.trim o.code) round.config.player).toList)
  | kept {round played : Round} {mid after : Desk} {load : Service.Request}
      {err : List String} (hstarted : o.started (replies 0) = (.ok round, mid))
      (hload : (serviceOf round.config).loadRequest? o.code = some load)
      (hattended : o.attended (replies 0) = (.ok played, after))
      (hconfig : played.config = round.config)
      (hkept : ∀ id, o.session round.config (replies 1) = .ok id →
        played.app.session.isFinished = false) :
      Course ((.ok (), after.withErr err), load ::
        ((serviceOf round.config).startRequest? (Text.trim o.code) round.config.player).toList)
  | handedIn {round played : Round} {mid after : Desk} {load start submit : Service.Request}
      {id : String} {err : List String} (hstarted : o.started (replies 0) = (.ok round, mid))
      (hload : (serviceOf round.config).loadRequest? o.code = some load)
      (hattended : o.attended (replies 0) = (.ok played, after))
      (hconfig : played.config = round.config)
      (hsession : o.session round.config (replies 1) = .ok id)
      (hfinished : played.app.session.isFinished = true)
      (hstart : (serviceOf round.config).startRequest? (Text.trim o.code) round.config.player =
        some start)
      (hsubmit : (serviceOf round.config).submitRequest? id played.app.session.result.records =
        some submit) :
      Course ((.ok (), (after.printed (receiptText (receipt played id (replies 2)))).withErr err),
        [load, start, submit])

theorem settle_of_finished (id : String) {round : Round}
    (h : round.app.session.isFinished = true) :
    settle (o.setting replies) (some id) round = handIn (o.setting replies) round id := by
  rw [settle]
  simp only [h, if_true]

/-- How the command goes on once the test is started. -/
theorem course_of_started {round : Round} {mid : Desk} {load : Service.Request}
    (hstarted : o.started (replies 0) = (.ok round, mid))
    (hload : (serviceOf round.config).loadRequest? o.code = some load) (err : List String) :
    o.Course replies (heard (do
      let session ← openSession (o.setting replies) round.config (Text.trim o.code)
      let round ← attend o.options o.lines o.stamp round
      settle (o.setting replies) session round) (mid.withErr err) [load]) := by
  obtain ⟨err', hsession⟩ := o.heard_openSession replies round.config (mid.withErr err) [load]
  obtain ⟨err'', hattend⟩ :=
    (Offline.attend (m := StateM (List Service.Request)) o.options o.lines o.stamp round).heard_eq
      mid err' ([load] ++
        ((serviceOf round.config).startRequest? (Text.trim o.code) round.config.player).toList)
  rw [← o.attended_of_started_ok hstarted] at hattend
  -- The quiz was asked for before, so the second reply is the one to opening the session.
  rw [heard_bind, hsession, Desk.withErr_withErr]
  simp only
  rw [heard_bind, hattend]
  cases hattended : o.attended (replies 0) with
  | mk result after =>
    cases result with
    | error failure => exact .failed hstarted hload hattended
    | ok played =>
      obtain ⟨hconfig, -⟩ := attend_ok ((o.attended_of_started_ok hstarted).symm.trans hattended)
      simp only
      cases hid : o.session round.config (replies 1) with
      | error failure =>
        rw [heard_settle_of_not_finished]
        · exact .kept hstarted hload hattended hconfig fun id h => by cases hid.symm.trans h
        · intro id h
          cases h
      | ok id =>
        cases hfinished : played.app.session.isFinished with
        | false =>
          rw [heard_settle_of_not_finished]
          · exact .kept hstarted hload hattended hconfig fun _ _ => hfinished
          · exact fun _ _ => hfinished
        | true =>
          -- The session was opened, so its request was sent and the third reply is to handing in.
          have hopens : ((serviceOf round.config).startRequest? (Text.trim o.code)
            round.config.player).isSome = true := Service.isSome_request?_of_call_ok hid
          obtain ⟨start, hstart⟩ := Option.isSome_iff_exists.mp hopens
          obtain ⟨submit, hsubmit⟩ := Option.isSome_iff_exists.mp
            (Service.isSome_submitRequest? id played.app.session.result.records hopens)
          obtain ⟨err, h⟩ := o.heard_handIn replies id played (after.withErr err'') [load, start]
          rw [hconfig, hsubmit, Desk.printed_withErr, Desk.withErr_withErr] at h
          rw [hstart, Except.toOption, o.settle_of_finished replies id hfinished]
          exact h ▸ .handedIn hstarted hload hattended hconfig hid hfinished hstart hsubmit

/-- How a test of a published quiz goes, with a service that gives any replies: loading the quiz
    decides whether there is a test; from then on the test goes its way, and the service only hears
    of it. -/
theorem course : o.Course replies (o.take replies) := by
  rw [take, takeTest_eq, heard_bind]
  cases hopened : o.opened with
  | mk result mid =>
    cases result with
    | error failure =>
      obtain ⟨hstarted, err, h⟩ := o.heard_begin_of_error replies hopened
      rw [h]
      exact .unopened (o.attended_of_started_error hstarted)
    | ok opened =>
      obtain ⟨config, app⟩ := opened
      obtain ⟨err, h⟩ := o.heard_begin_of_ok replies hopened
      rw [h]
      cases hstarted : o.started (replies 0) with
      | mk result begun =>
        cases result with
        | error failure =>
          exact .unstarted hopened (o.attended_of_started_error hstarted)
        | ok round =>
          obtain ⟨⟨app', mid', hconfig⟩, ⟨pool, hpool⟩, -⟩ := o.started_ok hstarted
          rw [hopened] at hconfig
          cases hconfig
          obtain ⟨load, hload⟩ :=
            Option.isSome_iff_exists.mp (Service.isSome_loadRequest?_of_load_ok hpool)
          rw [hload]
          exact o.course_of_started replies hstarted hload err

end Occasion

end Quizmaster.Command
