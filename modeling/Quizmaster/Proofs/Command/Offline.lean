import Quizmaster.Command.Take

namespace Quizmaster.Command

variable {m : Type → Type} [Monad m] [LawfulMonad m] {α β ε : Type}

/-- A desk with other error output. -/
def Desk.withErr (desk : Desk) (err : List String) : Desk := { desk with err }

@[simp] theorem Desk.disk_withErr (desk : Desk) (err : List String) :
    (desk.withErr err).disk = desk.disk := rfl

@[simp] theorem Desk.withErr_withErr (desk : Desk) (first second : List String) :
    (desk.withErr first).withErr second = desk.withErr second := rfl

theorem run_get (desk : Desk) : (get : Shell m Desk).run.run desk = pure (.ok desk, desk) :=
  pure_bind _ _

theorem run_modify (f : Desk → Desk) (desk : Desk) :
    (modify f : Shell m PUnit).run.run desk = pure (.ok (), f desk) :=
  pure_bind _ _

/-- What a part of a command does where there is nobody to ask. -/
def alone (y : Shell Id α) (desk : Desk) : Except Failure α × Desk := (y.run.run desk).run

/-- A command stops at the first part that fails. -/
theorem alone_bind (y : Shell Id α) (g : α → Shell Id β) (desk : Desk) :
    alone (y >>= g) desk =
      match alone y desk with
      | (.ok a, next) => alone (g a) next
      | (.error failure, next) => (.error failure, next) := by
  rw [alone, ExceptT.run_bind, StateT.run_bind, Id.run_bind]
  change _ = match (y.run.run desk).run with | (.ok a, next) => _ | (.error failure, next) => _
  obtain ⟨_ | _, next⟩ := (y.run.run desk).run <;> rfl

/-- What succeeds as a whole succeeds step by step. -/
theorem exists_of_alone_bind_eq_ok {y : Shell Id α} {g : α → Shell Id β} {b : β} {desk after : Desk}
    (h : alone (y >>= g) desk = (.ok b, after)) :
    ∃ a next, alone y desk = (.ok a, next) ∧ alone (g a) next = (.ok b, after) := by
  rw [alone_bind] at h
  cases hy : alone y desk with
  | mk result next =>
    rw [hy] at h
    cases result with
    | ok a => exact ⟨a, next, rfl, h⟩
    | error failure => cases h

/-- The first part asks nobody, and does what the second one does where nobody can be asked, but for
    the error output. -/
def Offline (x : Shell m α) (y : Shell Id α) : Prop :=
  ∀ desk err, ∃ err', x.run.run (desk.withErr err) =
    pure ((alone y desk).1, (alone y desk).2.withErr err')

namespace Offline

omit [LawfulMonad m] in
theorem pure (a : α) : Offline (m := m) (pure a) (pure a) := fun _ err => ⟨err, rfl⟩

omit [LawfulMonad m] in
theorem throw (failure : Failure) : Offline (m := m) (α := α) (throw failure) (throw failure) :=
  fun _ err => ⟨err, rfl⟩

/-- Parts that ask nobody make one that asks nobody. -/
theorem bind {x : Shell m α} {y : Shell Id α} {f : α → Shell m β} {g : α → Shell Id β}
    (hx : Offline x y) (hf : ∀ a, Offline (f a) (g a)) : Offline (x >>= f) (y >>= g) := by
  intro desk err
  obtain ⟨err', hx⟩ := hx desk err
  rw [ExceptT.run_bind, StateT.run_bind, hx, pure_bind, alone_bind]
  cases alone y desk with
  | mk result next =>
    cases result with
    | ok a => exact hf a next err'
    | error failure => exact ⟨err', rfl⟩

/-- A part may go on with what is on the desk but for the error output. -/
theorem get_bind {f : Desk → Shell m β} {g : Desk → Shell Id β}
    (hf : ∀ desk err, Offline (f (desk.withErr err)) (g desk)) :
    Offline (get >>= f) (get >>= g) := by
  intro desk err
  obtain ⟨err', h⟩ := hf desk err desk err
  refine ⟨err', Eq.trans ?_ h⟩
  rw [ExceptT.run_bind, StateT.run_bind, run_get, pure_bind]

/-- A change of the desk that does not look at the warnings asks nobody. -/
theorem modify {f : Desk → Desk}
    (hf : ∀ desk err, ∃ err', f (desk.withErr err) = (f desk).withErr err') :
    Offline (m := m) (modify f) (modify f) := by
  intro desk err
  obtain ⟨err', h⟩ := hf desk err
  refine ⟨err', ?_⟩
  rw [run_modify, h]
  rfl

omit [LawfulMonad m] in
theorem orFail (reason : ε → Failure) (result : Except ε α) :
    Offline (m := m) (orFail reason result) (orFail reason result) := by
  cases result with
  | ok a => exact .pure a
  | error e => exact .throw (reason e)

theorem print (text : String) : Offline (m := m) (print text) (print text) :=
  .modify fun _ err => ⟨err, rfl⟩

theorem warn (line : String) : Offline (m := m) (warn line) (warn line) :=
  .modify fun _ _ => ⟨_, rfl⟩

theorem onApp (reason : ε → Failure) (action : ExceptT ε (StateM FileApp) α)
    (app : FileApp) : Offline (m := m) (onApp reason action app) (onApp reason action app) :=
  .get_bind fun _ _ => .bind (.modify fun _ err => ⟨err, rfl⟩) fun _ =>
    .bind (.orFail _ _) fun _ => .pure _

theorem openApp (env : Environment) (configPath : Option String) :
    Offline (m := m) (openApp env configPath) (openApp env configPath) :=
  .get_bind fun _ _ => .bind (.orFail _ _) fun _ => .bind (.orFail _ _) fun _ =>
    .bind (.modify fun _ err => ⟨err, rfl⟩) fun _ => .bind (.orFail _ _) fun _ => .pure _

theorem askAll (round : Round) (lines : List (Option String)) :
    Offline (m := m) (askAll round lines) (askAll round lines) := by
  refine .get_bind fun _ _ => ?_
  simp only [Desk.disk_withErr]
  refine .bind (.modify fun _ err => ⟨err, rfl⟩) fun _ => .bind (.print _) fun _ => ?_
  split
  · exact .bind (.throw _) fun _ => .pure _
  · exact .pure _

theorem saveReport (round : Round) (stamp : Stamp) (path : String) :
    Offline (m := m) (saveReport round stamp path) (saveReport round stamp path) :=
  .get_bind fun _ _ => .bind (.modify fun _ err => ⟨err, rfl⟩) fun _ =>
    .bind (.orFail _ _) fun _ => .warn _

end Offline

end Quizmaster.Command
