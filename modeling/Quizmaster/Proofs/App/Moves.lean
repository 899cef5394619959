import Mathlib.Logic.Function.Iterate
import Quizmaster.Proofs.App.Starting
import Quizmaster.Proofs.Session.History

namespace Quizmaster

namespace App

/-- The operation that makes a move of the running test. -/
def Op.ofMove : Session.Move → Op
  | .submit answer => .submit answer
  | .advance => .advance
  | .retreat => .retreat

/-- What an operation asks of the running test. -/
def Op.move? : Op → Option Session.Move
  | .submit answer => some (.submit answer)
  | .advance => some .advance
  | .retreat => some .retreat
  | _ => none

theorem Op.move?_ofMove (move : Session.Move) : (ofMove move).move? = some move := by
  cases move <;> rfl

/-- What a run asks of the running test. -/
def calls (ops : List Op) : List Session.Call :=
  ops.filterMap fun op => op.move?.map Session.Move.call

theorem calls_concat (ops : List Op) (op : Op) : calls (ops ++ [op]) = calls ops ++ calls [op] :=
  List.filterMap_append

theorem calls_map_ofMove (moves : List Session.Move) :
    calls (moves.map Op.ofMove) = moves.map Session.Move.call := by
  rw [calls, List.filterMap_map, ← List.filterMap_eq_map]
  congr 1
  funext move
  simp [Op.move?_ofMove]

/-- No operation gives up a session without starting another. -/
theorem reset_not_mem_calls (ops : List Op) : .reset ∉ calls ops := by
  intro hreset
  obtain ⟨op, -, hop⟩ := List.mem_filterMap.mp hreset
  obtain ⟨move, -, hmove⟩ := Option.map_eq_some_iff.mp hop
  exact move.call_ne_reset hmove

variable {ε σ : Type} [Store ε σ]

/-- Whether an operation gives the running test up: abandoning it does, and starting another one
    does as soon as its questions are drawn. -/
def discards (app : App σ) : Op → Bool
  | .abandon => true
  | .start shuffle filter length => (shuffle.draw (app.bank.select filter) length).isOk
  | .startWith shuffle pool length => (shuffle.draw pool length).isOk
  | _ => false

/-- Whether an operation starts a test. -/
def begins (app : App σ) : Op → Bool
  | .start shuffle filter length => ((start shuffle filter length).run.run app).1.isOk
  | .startWith shuffle pool length => ((startWith shuffle pool length).run.run app).1.isOk
  | _ => false

/-- The answer that an operation gives, and the question for which it is taken, if it is. -/
def accepts (app : App σ) : Op → List (Nat × Answer)
  | .submit answer =>
    match ((submit answer).run.run app).1 with
    | .ok _ => [(app.session.cursor, answer)]
    | .error _ => []
  | _ => []

/-- The answers that a run takes, each with its question. -/
def accepted (app : App σ) (ops : List Op) : List (Nat × Answer) := collect perform accepts app ops

theorem startWith_of_draw_error {app : App σ} {shuffle : Shuffle} {pool : List Question}
    {length : Nat} (h : (shuffle.draw pool length).isOk = false) :
    ((startWith shuffle pool length).run.run app).2 = app := by
  rw [startWith_run]
  cases hdraw : shuffle.draw pool length with
  | error e => rfl
  | ok questions =>
    rw [hdraw] at h
    cases h

theorem startWith_ok {app : App σ} {shuffle : Shuffle} {pool : List Question} {length : Nat}
    (h : ((startWith shuffle pool length).run.run app).1.isOk = true) :
    ∃ questions, (Session.new app.session.acceptEmpty).start questions =
      .ok ((startWith shuffle pool length).run.run app).2.session := by
  rw [startWith_run] at h ⊢
  cases hdraw : shuffle.draw pool length with
  | error e =>
    rw [hdraw] at h
    cases h
  | ok questions =>
    rw [hdraw] at h
    cases hstart : app.session.reset.start questions with
    | error e =>
      simp only [hstart] at h
      cases h
    | ok session =>
      refine ⟨questions, ?_⟩
      simp only [hstart]
      exact hstart

/-- What begins a test leaves one that was just started. -/
theorem exists_start_of_begins {app : App σ} {op : Op} (h : app.begins op = true) :
    ∃ questions, (Session.new app.session.acceptEmpty).start questions =
      .ok (app.perform op).session := by
  cases op with
  | startWith shuffle pool length => exact startWith_ok h
  | start shuffle filter length =>
    rw [begins, start_run] at h
    rw [perform, start_run]
    exact startWith_ok h
  | _ => cases h

/-- What comes back from giving an answer. -/
theorem submit_result (app : App σ) (answer : Answer) :
    ((submit answer).run.run app).1 = (app.session.submit answer).map fun taken =>
      ⟨taken.1.correct,
        if taken.1.correct then (app.progress.addStars starsPerAnswer).1 else [],
        taken.2.isFinished⟩ := by
  rw [submit_run]
  cases app.session.submit answer with
  | error e => rfl
  | ok taken =>
    obtain ⟨⟨question, given, correct⟩, session⟩ := taken
    cases correct <;> rfl

theorem session_submit (app : App σ) (answer : Answer) :
    (app.perform (.submit answer)).session = app.session.perform (.submit answer) := by
  rw [perform, submit_run, Session.perform]
  cases app.session.submit answer with
  | error e => rfl
  | ok taken =>
    obtain ⟨⟨question, given, correct⟩, session⟩ := taken
    simp only
    cases correct <;> cases session.isFinished <;> rfl

/-- As long as the running test is not given up, it sees the moves of a run and nothing else. -/
theorem session_perform {app : App σ} {op : Op} (h : app.discards op = false) :
    (app.perform op).session = app.session.run (calls [op]) := by
  cases op with
  | addQuestions questions =>
    rw [perform, addQuestions_run]
    split <;> rfl
  | clearQuestions => rfl
  | start shuffle filter length =>
    rw [perform, start_run, startWith_of_draw_error h]
    rfl
  | startWith shuffle pool length =>
    rw [perform, startWith_of_draw_error h]
    rfl
  | submit answer => exact session_submit app answer
  | advance =>
    rw [perform, advance_run]
    rfl
  | retreat =>
    rw [perform, retreat_run]
    rfl
  | abandon => cases h
  | resetProgress => rfl

/-- While no test is given up, the session runs through its calls as if it were alone. -/
theorem session_run {app : App σ} {ops : List Op} (h : app.tally discards ops = 0) :
    (app.run ops).session = app.session.run (calls ops) := by
  induction ops using List.reverseRecOn with
  | nil => rfl
  | append_singleton ops op ih =>
    rw [tally_concat] at h
    obtain ⟨hbefore, hlast⟩ := Nat.add_eq_zero_iff.mp h
    have hkept : (app.run ops).discards op = false := by simpa using hlast
    rw [run_concat, session_perform hkept, ih hbefore, calls_concat, Session.run_append]

/-- What the running test takes in a run. -/
theorem taken_calls {app : App σ} {ops : List Op} (h : app.tally discards ops = 0) :
    app.session.taken (calls ops) =
      collect perform (fun app op => app.session.taken (calls [op])) app ops := by
  induction ops using List.reverseRecOn with
  | nil => rfl
  | append_singleton ops op ih =>
    rw [tally_concat] at h
    have hbefore : app.tally discards ops = 0 := (Nat.add_eq_zero_iff.mp h).1
    have hlast : collect perform (fun app op => app.session.taken (calls [op])) (app.run ops) [op] =
        (app.run ops).session.taken (calls [op]) := List.append_nil _
    rw [collect_append, ← ih hbefore, calls_concat, Session.taken_append, ← session_run hbefore]
    exact congrArg _ hlast.symm

theorem taken_calls_submit (s : Session) (answer : Answer) :
    s.taken (calls [.submit answer]) = s.takes (.submit answer) := List.append_nil _

theorem accepts_eq (app : App σ) (op : Op) :
    app.accepts op = (app.session.taken (calls [op])).map fun entry => (entry.1, entry.2.given) := by
  cases op with
  | submit answer =>
    rw [taken_calls_submit, accepts, Session.takes, submit_result]
    cases hsubmit : app.session.submit answer with
    | error e => rfl
    | ok taken =>
      obtain ⟨question, -, -, -, -, hrecord, -⟩ := Session.submit_eq_ok_iff.mp hsubmit
      simp [Except.map, hrecord]
  | _ => rfl

/-- An operation earns a star for each right answer that its session takes. -/
theorem earns_eq (app : App σ) (op : Op) :
    (app.earns op).toNat =
      (app.session.taken (calls [op])).countP fun entry => entry.2.correct := by
  cases op with
  | submit answer =>
    rw [taken_calls_submit, earns, Session.takes, submit_result]
    cases app.session.submit answer with
    | error e => rfl
    | ok taken => cases hcorrect : taken.1.correct <;> simp [Except.map, hcorrect]
  | _ => rfl

/-- What is counted step by step is what is seen over the whole run. -/
theorem tally_eq_countP {β : Type} {counts : App σ → Op → Bool} {seen : App σ → Op → List β}
    {p : β → Bool} (hstep : ∀ app op, (counts app op).toNat = (seen app op).countP p)
    (app : App σ) (ops : List Op) :
    app.tally counts ops = (collect perform seen app ops).countP p := by
  induction ops generalizing app with
  | nil => rfl
  | cons op ops ih => rw [tally, collect, hstep, ih, List.countP_append]

/-- While no test is given up, the answers that are taken are those of the session. -/
theorem accepted_eq {app : App σ} {ops : List Op} (h : app.tally discards ops = 0) :
    app.accepted ops =
      (app.session.taken (calls ops)).map fun entry => (entry.1, entry.2.given) := by
  rw [taken_calls h, ← collect_map, accepted]
  congr 1
  funext app op
  exact app.accepts_eq op

/-- While no test is given up, stars are earned by the right answers of the session and by nothing
    else. -/
theorem tally_earns_eq {app : App σ} {ops : List Op} (h : app.tally discards ops = 0) :
    app.tally earns ops =
      (app.session.taken (calls ops)).countP fun entry => entry.2.correct := by
  rw [taken_calls h]
  exact tally_eq_countP earns_eq app ops

/-- While a test is not given up, its right answers are those that earned since it was begun. -/
theorem tally_earns_since_begins {app : App σ} {op : Op} (hbegins : app.begins op = true)
    {ops : List Op} (hkept : (app.perform op).tally discards ops = 0) :
    (app.perform op).tally earns ops = ((app.perform op).run ops).session.result.correct := by
  obtain ⟨questions, hstart⟩ := exists_start_of_begins hbegins
  rw [session_run hkept, tally_earns_eq hkept]
  exact (Session.correct_since_start (.new _) hstart (reset_not_mem_calls ops)).symm

theorem discards_ofMove (app : App σ) (move : Session.Move) :
    app.discards (.ofMove move) = false := by
  cases move <;> rfl

theorem tally_discards_moves (app : App σ) (moves : List Session.Move) :
    app.tally discards (moves.map Op.ofMove) = 0 := by
  induction moves generalizing app with
  | nil => rfl
  | cons move moves ih => rw [List.map_cons, tally, discards_ofMove, ih, Bool.toNat_false]

/-- Only answers that earn and a reset touch the progress. -/
theorem progress_perform (app : App σ) {op : Op} (hop : op ≠ .resetProgress) :
    (app.perform op).progress =
      if app.earns op then (app.progress.addStars starsPerAnswer).2 else app.progress := by
  have heffect := effect_perform app op
  change (app.perform op).assets.progress = _
  cases hassets : (app.perform op).assets with
  | mk bank progress store =>
    rw [hassets] at heffect
    cases heffect with
    | kept hearns => simp [hearns]
    | added questions hadd => simp [hadd, earns]
    | cleared hclear => simp [hclear, earns]
    | earned hearns => simp [hearns]
    | reset hreset => exact absurd hreset hop

/-- Progress after a run without a reset, by the number of answers in it that earned. -/
theorem progress_run {app : App σ} {ops : List Op} (hops : .resetProgress ∉ ops) :
    (app.run ops).progress =
      (fun p => (p.addStars starsPerAnswer).2)^[app.tally earns ops] app.progress := by
  induction ops using List.reverseRecOn with
  | nil => rfl
  | append_singleton ops op ih =>
    obtain ⟨hbefore, hlast⟩ := not_or.mp (mt List.mem_append.mpr hops)
    have hop : op ≠ .resetProgress := fun heq => hlast (List.mem_singleton.mpr heq.symm)
    rw [run_concat, progress_perform _ hop, ih hbefore, tally_concat]
    cases (app.run ops).earns op with
    | true =>
      rw [if_pos rfl, Bool.toNat_true, Function.iterate_succ_apply']
    | false => rfl

end App

end Quizmaster
