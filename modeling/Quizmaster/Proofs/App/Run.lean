import Quizmaster.App
import Quizmaster.Proofs.Bank

namespace Quizmaster

namespace App

section

variable {ε σ α : Type}

theorem run_get_eq (app : App σ) :
    (get : ExceptT ε (StateM (App σ)) (App σ)).run.run app = (.ok app, app) := rfl

theorem run_modify_eq (f : App σ → App σ) (app : App σ) :
    (modify f : ExceptT ε (StateM (App σ)) PUnit).run.run app = (.ok (), f app) := rfl

theorem run_liftExcept_eq (x : Except ε α) (app : App σ) :
    (liftM x : ExceptT ε (StateM (App σ)) α).run.run app = (x, app) := by
  cases x <;> rfl

/-- An action of the store changes nothing else of the application. -/
theorem run_onStore_eq (action : ExceptT ε (StateM σ) α) (app : App σ) :
    (onStore action).run.run app =
      ((action.run.run app.store).1, { app with store := (action.run.run app.store).2 }) := rfl

end

/-- An operation with its arguments. -/
inductive Op
  | addQuestions (questions : List Question)
  | clearQuestions
  | start (shuffle : Shuffle) (filter : Filter) (length : Nat)
  | startWith (shuffle : Shuffle) (pool : List Question) (length : Nat)
  | submit (answer : Answer)
  | advance
  | retreat
  | abandon
  | resetProgress

variable {ε σ : Type} [Store ε σ]

/-- The application after an operation, whether it failed or not. -/
def perform (app : App σ) : Op → App σ
  | .addQuestions questions => ((addQuestions questions).run.run app).2
  | .clearQuestions => (clearQuestions.run.run app).2
  | .start shuffle filter length => ((start shuffle filter length).run.run app).2
  | .startWith shuffle pool length => ((startWith shuffle pool length).run.run app).2
  | .submit answer => ((submit answer).run.run app).2
  | .advance => (advance.run app).2
  | .retreat => (retreat.run app).2
  | .abandon => (abandon.run app).2
  | .resetProgress => (resetProgress.run.run app).2

def run (app : App σ) (ops : List Op) : App σ := ops.foldl perform app

@[simp] theorem run_nil (app : App σ) : app.run [] = app := rfl

@[simp] theorem run_concat (app : App σ) (ops : List Op) (op : Op) :
    app.run (ops ++ [op]) = (app.run ops).perform op := by
  simp [run]

theorem run_append (app : App σ) (first second : List Op) :
    app.run (first ++ second) = (app.run first).run second :=
  List.foldl_append

/-- Questions are written only if some of them are new, and they are in the bank even where that
    fails. -/
theorem addQuestions_run (app : App σ) (questions : List Question) :
    (addQuestions questions).run.run app =
      if 0 < (app.bank.add questions).1 then
        (((app.bank.add questions).2.save.run.run app.store).1.map fun _ =>
            (app.bank.add questions).1,
          { app with
            bank := (app.bank.add questions).2
            store := ((app.bank.add questions).2.save.run.run app.store).2 })
      else (.ok (app.bank.add questions).1, { app with bank := (app.bank.add questions).2 }) := by
  simp only [addQuestions, run_bind_eq, run_get_eq, run_modify_eq]
  split
  · simp only [run_bind_eq, run_onStore_eq]
    obtain ⟨_ | _, store⟩ := (app.bank.add questions).2.save.run.run app.store <;> rfl
  · rfl

/-- The bank is empty in memory, whatever becomes of it in the store. -/
theorem clearQuestions_run (app : App σ) :
    clearQuestions.run.run app =
      ((Bank.empty.save.run.run app.store).1,
        { app with bank := .empty, store := (Bank.empty.save.run.run app.store).2 }) := rfl

/-- The running test is given up once questions are drawn, even where the new one cannot start. -/
theorem startWith_run (app : App σ) (shuffle : Shuffle) (pool : List Question) (length : Nat) :
    (startWith shuffle pool length).run.run app =
      match shuffle.draw pool length with
      | .error e => (.error e, app)
      | .ok questions =>
        match app.session.reset.start questions with
        | .error e => (.error e, { app with session := app.session.reset })
        | .ok session => (.ok (), { app with session }.tell [.started session.size]) := by
  simp only [startWith, run_bind_eq, run_get_eq, run_liftExcept_eq, run_modify_eq]
  cases shuffle.draw pool length with
  | error e => rfl
  | ok questions => cases hstart : app.session.reset.start questions <;> simp only [hstart]

theorem start_run (app : App σ) (shuffle : Shuffle) (filter : Filter) (length : Nat) :
    (start shuffle filter length).run.run app =
      (startWith shuffle (app.bank.select filter) length).run.run app := by
  rw [start, run_bind_eq, run_get_eq]

/-- An answer that is taken is told, then the badges that it brings, then the end of the test. -/
theorem submit_run (app : App σ) (answer : Answer) :
    (submit answer).run.run app =
      match app.session.submit answer with
      | .error e => (.error e, app)
      | .ok (record, session) =>
        let answered := { app with session }.tell [.answered session.cursor record]
        let (badges, earned) := if record.correct then earn.run answered else ([], answered)
        (.ok ⟨record.correct, badges, session.isFinished⟩,
          if session.isFinished then earned.tell [.finished session.result] else earned) := by
  simp only [submit, run_bind_eq, run_get_eq, run_liftExcept_eq, run_modify_eq]
  cases app.session.submit answer with
  | error e => rfl
  | ok taken =>
    obtain ⟨record, session⟩ := taken
    simp only
    cases hcorrect : record.correct <;> cases hfinished : session.isFinished <;> rfl

/-- The cursor goes on, or the session is left as it is. -/
theorem advance_run (app : App σ) :
    advance.run app = (app.session.advance?.bind Session.current?,
      { app with session := app.session.advance?.getD app.session }) := by
  simp only [advance, StateT.run_bind, StateT.run_get, pure_bind]
  cases app.session.advance? <;> rfl

/-- The cursor goes back, or the session is left as it is. -/
theorem retreat_run (app : App σ) :
    retreat.run app = (app.session.retreat?.bind Session.current?,
      { app with session := app.session.retreat?.getD app.session }) := by
  simp only [retreat, StateT.run_bind, StateT.run_get, pure_bind]
  cases app.session.retreat? <;> rfl

/-- Whether an operation is a submission that comes back as right. -/
def earns (app : App σ) : Op → Bool
  | .submit answer =>
    match ((submit answer).run.run app).1 with
    | .ok outcome => outcome.correct
    | .error _ => false
  | _ => false

theorem exists_answer_of_earns {app : App σ} {op : Op} (h : app.earns op = true) :
    ∃ answer, op = .submit answer := by
  cases op with
  | submit answer => exact ⟨answer, rfl⟩
  | _ => cases h

/-- How many operations of a run have a property where they are performed. -/
def tally (counts : App σ → Op → Bool) (app : App σ) : List Op → Nat
  | [] => 0
  | op :: ops => (counts app op).toNat + (app.perform op).tally counts ops

theorem tally_concat (counts : App σ → Op → Bool) (app : App σ) (ops : List Op) (op : Op) :
    app.tally counts (ops ++ [op]) = app.tally counts ops + (counts (app.run ops) op).toNat := by
  induction ops generalizing app with
  | nil => simp [tally]
  | cons first rest ih =>
    change _ + (app.perform first).tally counts (rest ++ [op]) = _
    rw [ih, ← Nat.add_assoc]
    rfl

/-- What of an application outlives a test. -/
structure Assets (σ : Type) where
  bank : Bank
  progress : Progress
  store : σ

def assets (app : App σ) : Assets σ := ⟨app.bank, app.progress, app.store⟩

/-- All that an operation can do to bank, progress and store: only a right answer earns, and
    whatever changes bank or progress is followed by an attempt to save it. -/
inductive Effect (app : App σ) (op : Op) : Assets σ → Prop
  | kept (hearns : app.earns op = false) : Effect app op app.assets
  | added (questions : List Question) (hop : op = .addQuestions questions)
      (hnew : 0 < (app.bank.add questions).1) :
      Effect app op ⟨(app.bank.add questions).2, app.progress,
        ((app.bank.add questions).2.save.run.run app.store).2⟩
  | cleared (hop : op = .clearQuestions) :
      Effect app op ⟨.empty, app.progress, (Bank.empty.save.run.run app.store).2⟩
  | earned (hearns : app.earns op = true) :
      Effect app op ⟨app.bank, (app.progress.addStars starsPerAnswer).2,
        ((app.progress.addStars starsPerAnswer).2.save.run.run app.store).2⟩
  | reset (hop : op = .resetProgress) :
      Effect app op ⟨app.bank, .new, (Progress.new.save.run.run app.store).2⟩

/-- An answer leaves bank, progress and store alone, unless it earns a star. -/
theorem assets_submit (app : App σ) (answer : Answer) :
    (app.perform (.submit answer)).assets =
      if app.earns (.submit answer) then
        ⟨app.bank, (app.progress.addStars starsPerAnswer).2,
          ((app.progress.addStars starsPerAnswer).2.save.run.run app.store).2⟩
      else app.assets := by
  simp only [perform, earns, submit_run]
  cases app.session.submit answer with
  | error e => rfl
  | ok taken =>
    obtain ⟨⟨question, given, correct⟩, session⟩ := taken
    simp only
    cases correct <;> cases session.isFinished <;> rfl

theorem assets_startWith (app : App σ) (shuffle : Shuffle) (pool : List Question) (length : Nat) :
    ((startWith shuffle pool length).run.run app).2.assets = app.assets := by
  rw [startWith_run]
  cases shuffle.draw pool length with
  | error e => rfl
  | ok questions => cases hstart : app.session.reset.start questions <;> simp only [hstart] <;> rfl

/-- Every operation does one of the five things to bank, progress and store. -/
theorem effect_perform (app : App σ) (op : Op) : Effect app op (app.perform op).assets := by
  have kept (h : (app.perform op).assets = app.assets) (hearns : app.earns op = false) :
      Effect app op (app.perform op).assets := by
    rw [h]
    exact .kept hearns
  cases op with
  | addQuestions questions =>
    by_cases hnew : 0 < (app.bank.add questions).1
    · have h : (app.perform (.addQuestions questions)).assets = _ :=
        congrArg (fun out => assets out.2) ((addQuestions_run app questions).trans (if_pos hnew))
      rw [h]
      exact .added questions rfl hnew
    · have h : (app.perform (.addQuestions questions)).assets = _ :=
        congrArg (fun out => assets out.2) ((addQuestions_run app questions).trans (if_neg hnew))
      refine kept (h.trans ?_) rfl
      rw [Bank.add_of_not_pos hnew]
  | clearQuestions => exact .cleared rfl
  | submit answer =>
    rw [assets_submit]
    cases hearns : app.earns (.submit answer) with
    | true => exact .earned hearns
    | false => exact .kept hearns
  | resetProgress => exact .reset rfl
  | startWith shuffle pool length => exact kept (assets_startWith app shuffle pool length) rfl
  | start shuffle filter length =>
    refine kept ?_ rfl
    rw [perform, start_run]
    exact assets_startWith app shuffle _ length
  | advance =>
    refine kept ?_ rfl
    rw [perform, advance_run]
    rfl
  | retreat =>
    refine kept ?_ rfl
    rw [perform, retreat_run]
    rfl
  | abandon => exact kept rfl rfl

end App

end Quizmaster
