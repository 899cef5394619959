import Quizmaster.Proofs.App.Drawing
import Quizmaster.Proofs.Command.Offline
import Quizmaster.Proofs.Turn

namespace Quizmaster.Command

section

variable {m : Type → Type} [Monad m]

/-- Starts a test of a pool, as `prepare` does. -/
def startTest (shuffle : Shuffle) (options : TakeOptions) (config : Config) (app : FileApp)
    (pool : List Question) : Shell m FileApp := do
  let length := options.length.getD (min config.testLength pool.length)
  if length = 0 then throw .nothingSelected
  let ((), app) ← onApp .refused (App.startWith shuffle pool length) app
  print (Turn.eventsText app.log)
  return app

/-- Loads a published quiz and starts a test of it. -/
def loadTest (setting : Setting m) (options : TakeOptions) (code : String) (config : Config)
    (app : FileApp) : Shell m Round := do
  let pool ← orFail .service (← ask ((serviceOf config).load setting.send code))
  let app ← startTest setting.shuffle options config app pool
  return ⟨config, app, some (Text.trim code), none⟩

/-- A test of a published quiz up to its first question, but for opening a session. -/
def begin (setting : Setting m) (options : TakeOptions) (code : String) : Shell m Round := do
  let opened ← openApp setting.env options.config
  loadTest setting options code opened.1 opened.2

/-- What a test is after its start: it is asked, summed up and reported. -/
def attend (options : TakeOptions) (lines : List (Option String)) (stamp : Stamp) (round : Round) :
    Shell m Round := do
  let round ← askAll round lines
  let result := round.app.session.result
  printLine ("\n" ++ summary result)
  printLine (scoreText result)
  printLine ("Stars: " ++ toString round.app.progress.stars)
  if let some path := options.output then saveReport round stamp path
  return round

/-- Hands in what a session was opened for, if the test is over. -/
def settle (setting : Setting m) (session : Option String) (round : Round) : Shell m Unit := do
  if let some session := session then
    if round.app.session.isFinished then handIn setting round session

variable [LawfulMonad m]

theorem throw_bind {α β : Type} (failure : Failure) (f : α → Shell m β) :
    (throw failure >>= f : Shell m β) = throw failure := by
  refine ExceptT.ext ?_
  rw [ExceptT.run_bind, ExceptT.run_throw, pure_bind]
  rfl

/-- Asking, summing up and reporting do not depend on the session. -/
theorem askAll_bind_conclude (setting : Setting m) (options : TakeOptions)
    (lines : List (Option String)) (stamp : Stamp) (round : Round) (session : Option String) :
    (do
      let round ← askAll { round with session } lines
      conclude setting options round stamp) = (do
      let round ← attend options lines stamp round
      settle setting session round) := by
  simp only [askAll, attend, bind_assoc]
  refine bind_congr fun desk => ?_
  generalize (Turn.run lines : StateM FileApp (String × Turn.End)).run _ = asked
  obtain ⟨⟨told, why⟩, app⟩ := asked
  simp only [bind_assoc]
  refine bind_congr fun _ => bind_congr fun _ => ?_
  split
  · simp only [throw_bind]
  · simp only [pure_bind, conclude]
    refine bind_congr fun _ => bind_congr fun _ => bind_congr fun _ => ?_
    cases options.output with
    | none => cases session <;> simp only [pure_bind] <;> rfl
    | some path =>
      simp only [bind_assoc, pure_bind]
      refine bind_congr fun _ => ?_
      cases session <;> rfl

/-- A test of a published quiz is loaded, opens a session, is attended, and is settled with the
    service. -/
theorem takeTest_eq (setting : Setting m) (options : TakeOptions)
    (lines : List (Option String)) (stamp : Stamp) (code : String) :
    takeTest setting { options with pool := .published code } lines stamp = (do
      let round ← begin setting options code
      let session ← openSession setting round.config (Text.trim code)
      let round ← attend options lines stamp round
      settle setting session round) := by
  simp only [takeTest, prepare, begin, loadTest, poolQuestions, Pool.code?, bind_assoc, startTest]
  refine bind_congr fun opened => bind_congr fun _ => bind_congr fun pool => ?_
  split
  · simp only [throw_bind]
  · simp only [bind_assoc, pure_bind]
    refine bind_congr fun begun => bind_congr fun _ => bind_congr fun session => ?_
    exact askAll_bind_conclude setting _ lines stamp ⟨_, _, _, none⟩ session

theorem Offline.startTest (shuffle : Shuffle) (options : TakeOptions) (config : Config)
    (app : FileApp) (pool : List Question) :
    Offline (m := m) (startTest shuffle options config app pool)
      (startTest shuffle options config app pool) := by
  have hstart := Offline.bind (m := m) (.onApp .refused (App.startWith shuffle pool
    (options.length.getD (min config.testLength pool.length))) app) fun begun =>
      .bind (.print (Turn.eventsText begun.2.log)) fun _ => .pure begun.2
  simp only [Command.startTest]
  split
  · exact .bind (.throw _) fun _ => hstart
  · exact hstart

theorem Offline.attend (options : TakeOptions) (lines : List (Option String)) (stamp : Stamp)
    (round : Round) :
    Offline (m := m) (attend options lines stamp round) (attend options lines stamp round) := by
  refine .bind (.askAll round lines) fun round =>
    .bind (.print _) fun _ => .bind (.print _) fun _ => .bind (.print _) fun _ => ?_
  cases options.output with
  | none => exact .pure _
  | some path => exact .bind (.saveReport round stamp path) fun _ => .pure _

end

theorem alone_pure {α : Type} (a : α) (desk : Desk) : alone (pure a) desk = (.ok a, desk) := rfl

theorem orFail_ok {α ε : Type} {reason : ε → Failure} {result : Except ε α} {a : α}
    {desk after : Desk} (h : alone (orFail reason result) desk = (.ok a, after)) :
    result = .ok a := by
  cases result with
  | ok b =>
    cases h
    rfl
  | error e => cases h

/-- What the application did on the disk of the desk, it does on some store. -/
theorem onApp_ok {α ε : Type} {reason : ε → Failure} {action : ExceptT ε (StateM FileApp) α}
    {app next : FileApp} {a : α} {desk after : Desk}
    (h : alone (onApp reason action app) desk = (.ok (a, next), after)) :
    ∃ store, action.run.run { app with store } = (.ok a, next) := by
  obtain ⟨seen, _, -, h⟩ := exists_of_alone_bind_eq_ok h
  obtain ⟨_, _, -, h⟩ := exists_of_alone_bind_eq_ok h
  obtain ⟨b, last, hresult, h⟩ := exists_of_alone_bind_eq_ok h
  rw [alone_pure] at h
  cases h
  exact ⟨_, Prod.ext (orFail_ok hresult) rfl⟩

/-- A test that is started has questions, and none of them is answered yet. -/
theorem startTest_ok {shuffle : Shuffle} {options : TakeOptions} {config : Config}
    {app next : FileApp} {pool : List Question} {desk after : Desk}
    (h : alone (startTest shuffle options config app pool) desk = (.ok next, after)) :
    ∃ questions, questions ≠ [] ∧ next.session = .begun app.session.acceptEmpty questions := by
  simp only [startTest] at h
  split at h
  · rw [throw_bind] at h
    cases h
  · obtain ⟨⟨_, started⟩, _, happ, h⟩ := exists_of_alone_bind_eq_ok h
    obtain ⟨_, _, -, h⟩ := exists_of_alone_bind_eq_ok h
    rw [alone_pure] at h
    cases h
    obtain ⟨store, hstart⟩ := onApp_ok happ
    obtain ⟨⟨hpos, hlength⟩, rfl⟩ := App.startWith_eq_ok_iff.mp hstart
    have hdrawn := shuffle.length_take_order hlength
    exact ⟨_, List.ne_nil_of_length_pos (by omega), rfl⟩

/-- Asking all questions is a run of turns. -/
theorem askAll_ok {lines : List (Option String)} {round asked : Round} {desk after : Desk}
    (h : alone (askAll round lines) desk = (.ok asked, after)) :
    ∃ store, asked = { round with
      app := ((Turn.run lines).run { round.app with store }).2 } := by
  obtain ⟨seen, _, -, h⟩ := exists_of_alone_bind_eq_ok h
  refine ⟨{ round.app.store with disk := seen.disk }, ?_⟩
  obtain ⟨_, _, -, h⟩ := exists_of_alone_bind_eq_ok h
  obtain ⟨_, _, -, h⟩ := exists_of_alone_bind_eq_ok h
  split at h
  · rw [throw_bind] at h
    cases h
  · cases h
    rfl

/-- A test that was asked and reported is still the one that was started. -/
theorem attend_ok {options : TakeOptions} {lines : List (Option String)} {stamp : Stamp}
    {round played : Round} {desk after : Desk}
    (h : alone (attend options lines stamp round) desk = (.ok played, after)) :
    played.config = round.config ∧
      ∀ acceptEmpty, round.app.session.Invariant acceptEmpty →
        played.app.session.Invariant acceptEmpty := by
  obtain ⟨asked, _, hasked, h⟩ := exists_of_alone_bind_eq_ok h
  obtain ⟨_, _, -, h⟩ := exists_of_alone_bind_eq_ok h
  obtain ⟨_, _, -, h⟩ := exists_of_alone_bind_eq_ok h
  obtain ⟨_, _, -, h⟩ := exists_of_alone_bind_eq_ok h
  obtain rfl : asked = played := by
    cases hout : options.output with
    | none =>
      rw [hout] at h
      cases h
      rfl
    | some path =>
      rw [hout] at h
      obtain ⟨_, _, -, h⟩ := exists_of_alone_bind_eq_ok h
      cases h
      rfl
  obtain ⟨store, rfl⟩ := askAll_ok hasked
  exact ⟨rfl, fun acceptEmpty hround => Turn.keeps_run lines _ hround⟩

end Quizmaster.Command
