import Quizmaster.Proofs.App.Log
import Quizmaster.Proofs.App.Refusals
import Quizmaster.Proofs.Turn.Lines
import Quizmaster.Proofs.Turn.Rounds

namespace Quizmaster

namespace Session

/-- A running test whose last question has no answer yet. -/
structure IsOpen (s : Session) : Prop where
  state_eq : s.state = .inProgress
  last_eq : s.isAnsweredAt (s.size - 1) = false

/-- What holds of a test between the lines: it is started, and if it is over, then the cursor is on its
    last question. -/
structure Underway (acceptEmpty : Bool) (s : Session) : Prop where
  invariant : s.Invariant acceptEmpty
  started : s.state ≠ .notStarted
  closed : s.state = .completed → s.isFinished = true

variable {acceptEmpty : Bool} {s t : Session}

theorem Underway.sequence_ne_nil (h : s.Underway acceptEmpty) : s.sequence ≠ [] :=
  mt h.invariant.notStarted_iff.mpr h.started

/-- A test that is not finished has an open last slot. -/
theorem Underway.isOpen (h : s.Underway acceptEmpty) (hunfinished : s.isFinished = false) :
    s.IsOpen := by
  have hrunning : s.state ≠ .completed := by
    intro hcompleted
    rw [h.closed hcompleted] at hunfinished
    cases hunfinished
  have hlast : s.isAnsweredAt (s.size - 1) = false := by
    rw [ne_eq, h.invariant.completed_iff] at hrunning
    simpa [h.sequence_ne_nil, size] using hrunning
  exact ⟨h.invariant.state_eq_inProgress h.sequence_ne_nil hlast, hlast⟩

/-- An answer is refused only where nothing is given or the question is answered. -/
theorem Underway.refusal (h : s.Underway acceptEmpty) (hunfinished : s.isFinished = false)
    {answer : Answer} {e : Refusal} (hrefused : s.submit answer = .error e) :
    e = .noAnswer ∨ e = .alreadyAnswered s.cursor := by
  cases h.invariant.submit_eq_iff.mp hrefused with
  | notStarted hnone => exact absurd hnone h.sequence_ne_nil
  | alreadyAnswered => exact .inr rfl
  | completed hloaded hopen hlast =>
    rw [(h.isOpen hunfinished).last_eq] at hlast
    cases hlast
  | noAnswer => exact .inl rfl

/-- A running test is underway. -/
theorem Underway.of_running (hinvariant : s.Invariant acceptEmpty)
    (hrunning : s.state = .inProgress) : s.Underway acceptEmpty where
  invariant := hinvariant
  started := by simp [hrunning]
  closed := by simp [hrunning]

/-- An answer that is taken leaves the test underway. -/
theorem Underway.submit (h : s.Underway acceptEmpty) {answer : Answer} {record : Record}
    (hsubmit : s.submit answer = .ok (record, t)) : t.Underway acceptEmpty := by
  have hinvariant := h.invariant.submit hsubmit
  obtain ⟨question, hstate, hcurrent, -, -, -, rfl⟩ := submit_eq_ok_iff.mp hsubmit
  obtain ⟨hcursor, -⟩ := List.getElem?_eq_some_iff.mp hcurrent
  rw [← h.invariant.slots_length] at hcursor
  rw [fill_eq hcursor] at hinvariant ⊢
  cases hlast : s.isLast with
  | false =>
    rw [hlast] at hinvariant
    exact .of_running hinvariant (by simpa using hstate)
  | true =>
    rw [hlast] at hinvariant
    refine ⟨hinvariant, by simp, fun _ => ?_⟩
    have hanswered : isAnswered
        { s with slots := s.slots.set s.cursor (some record), state := .completed } = true := by
      simp [isAnswered, isAnsweredAt, recordAt?, hcursor]
    rw [isFinished, Bool.and_eq_true]
    exact ⟨hlast, by simpa using hanswered⟩

/-- Before the test is finished, every move leaves it under way. -/
theorem Underway.perform (h : s.Underway acceptEmpty) (hunfinished : s.isFinished = false)
    (move : Move) : (s.perform move.call).Underway acceptEmpty := by
  have hrunning := (h.isOpen hunfinished).state_eq
  have hinvariant := h.invariant.perform move.call
  cases move with
  | submit answer =>
    rw [Move.call, Session.perform]
    cases hsubmit : s.submit answer with
    | error e => exact h
    | ok taken => exact h.submit hsubmit
  | advance =>
    refine .of_running hinvariant ?_
    rw [Move.call, Session.perform]
    cases hadvance : s.advance? with
    | none => exact hrunning
    | some moved =>
      obtain ⟨-, rfl⟩ := advance?_eq_some_iff.mp hadvance
      exact hrunning
  | retreat =>
    refine .of_running hinvariant ?_
    rw [Move.call, Session.perform]
    cases hretreat : s.retreat? with
    | none => exact hrunning
    | some moved =>
      obtain ⟨-, rfl⟩ := retreat?_eq_some_iff.mp hretreat
      exact hrunning

end Session

namespace Turn

variable {ε σ : Type} [Store ε σ]

/-- The test is under way, and its right answers were added to so many stars. -/
structure Underway (acceptEmpty : Bool) (base : Nat) (app : App σ) : Prop where
  session : app.session.Underway acceptEmpty
  stars : app.progress.stars = min (base + app.session.result.correct) Progress.maxStars

section

variable {acceptEmpty : Bool} {base : Nat} {app next : App σ}

theorem session_perform_move (app : App σ) (move : Session.Move) :
    (app.perform (.ofMove move)).session = app.session.perform move.call := by
  have hcalls : App.calls [.ofMove move] = [move.call] := App.calls_map_ofMove [move]
  rw [App.session_perform (app.discards_ofMove move), hcalls]
  rfl

/-- A move earns a star exactly if it adds a right answer. -/
theorem correct_perform_move (h : app.session.Underway acceptEmpty) (move : Session.Move) :
    (app.perform (.ofMove move)).session.result.correct =
      app.session.result.correct + (app.earns (.ofMove move)).toNat := by
  rw [App.earns_eq, App.session_perform (app.discards_ofMove move)]
  exact Session.countP_slots_run h.invariant h.started (App.reset_not_mem_calls _) Record.correct

/-- No move of an unfinished test makes anything else of the application, and stars follow the right
    answers. -/
theorem Underway.perform (h : Underway acceptEmpty base app)
    (hunfinished : app.session.isFinished = false) (move : Session.Move) :
    Underway acceptEmpty base (app.perform (.ofMove move)) where
  session := by
    rw [session_perform_move]
    exact h.session.perform hunfinished move
  stars := by
    have hstars := h.stars
    have hmove : App.Op.ofMove move ≠ .resetProgress := by cases move <;> simp [App.Op.ofMove]
    rw [correct_perform_move h.session, App.progress_perform app hmove]
    cases app.earns (.ofMove move) with
    | false => exact hstars
    | true =>
      rw [if_pos rfl, Bool.toNat_true]
      change min (app.progress.stars + 1) _ = _
      omega

theorem Underway.withoutLog (h : Underway acceptEmpty base app) :
    Underway acceptEmpty base { app with log := [] } := ⟨h.session, h.stars⟩

/-- What comes of an answer: a refusal leaves the application, and after an answer that did not end
    the test the cursor moves on. -/
theorem answer_run (q : Question) (typed : String) (app : App σ) :
    (answer q typed).run app =
      match (App.submit (Typed.answer q typed)).run.run { app with log := [] } with
      | (.error refusal, next) => (refusalText refusal, next)
      | (.ok outcome, next) => (eventsText next.log ++ verdictText q outcome.correct,
          if outcome.finished then next else next.perform .advance) := by
  rw [answer, StateT.run_bind, StateT.run_modify, pure_bind, StateT.run_bind]
  cases hsubmit : (App.submit (Typed.answer q typed)).run.run { app with log := [] } with
  | mk result next =>
    obtain refusal | ⟨correct, badges, finished⟩ := result
    · rfl
    · cases finished <;> rfl

/-- What a line does: it ends the test, moves the cursor, shows the hint, or is an answer. -/
theorem respond_run (q : Question) (line : String) (app : App σ) :
    (respond q line).run app =
      match Order.ofLine line with
      | .quit => (none, app)
      | .next => (some (if (App.advance.run app).1.isNone then
          "Already on the last question.\n" else ""), app.perform .advance)
      | .previous => (some (if (App.retreat.run app).1.isNone then
          "Already on the first question.\n" else ""), app.perform .retreat)
      | .hint => (some (if q.hint == "" then "No hint for this question.\n"
          else "Hint: " ++ q.hint ++ "\n"), app)
      | .answer typed => (some ((answer q typed).run app).1, ((answer q typed).run app).2) := by
  rw [respond]
  cases Order.ofLine line <;> rfl

/-- An answer leaves the test underway, whether it is taken or refused. -/
theorem Underway.answer (h : Underway acceptEmpty base app)
    (hunfinished : app.session.isFinished = false) (q : Question) (typed : String) :
    Underway acceptEmpty base ((answer q typed).run app).2 := by
  have hsubmitted := h.withoutLog.perform hunfinished (.submit (Typed.answer q typed))
  rw [answer_run]
  cases hsubmit : (App.submit (Typed.answer q typed)).run.run { app with log := [] } with
  | mk result next =>
    have hnext : App.perform { app with log := [] } (.ofMove (.submit (Typed.answer q typed))) =
        next := congrArg Prod.snd hsubmit
    rw [hnext] at hsubmitted
    cases result with
    | error refusal => exact hsubmitted
    | ok outcome =>
      obtain ⟨record, -, -, hfinished, -⟩ := App.submit_ok hsubmit
      simp only
      cases hend : outcome.finished with
      | true => exact hsubmitted
      | false => exact hsubmitted.perform (hfinished.symm.trans hend) .advance

/-- A line leaves the test underway, whatever it says. -/
theorem Underway.respond {q : Question} {line : String} {told : Option String}
    (h : Underway acceptEmpty base app) (hunfinished : app.session.isFinished = false)
    (hrespond : (respond q line).run app = (told, next)) : Underway acceptEmpty base next := by
  rw [respond_run] at hrespond
  cases horder : Order.ofLine line <;> rw [horder] at hrespond <;> cases hrespond
  case quit => exact h
  case next => exact h.perform hunfinished .advance
  case previous => exact h.perform hunfinished .retreat
  case hint => exact h
  case answer typed => exact h.answer hunfinished q typed

/-- Only quitting leaves nothing to be shown. -/
theorem respond_eq_none {q : Question} {line : String}
    (hrespond : (respond q line).run app = (none, next)) :
    Order.ofLine line = .quit ∧ next = app := by
  rw [respond_run] at hrespond
  cases horder : Order.ofLine line <;> rw [horder] at hrespond <;> cases hrespond
  exact ⟨rfl, rfl⟩

/-- A line that is answered did not ask to quit. -/
theorem order_ne_quit {q : Question} {line told : String}
    (hrespond : (respond q line).run app = (some told, next)) : Order.ofLine line ≠ .quit := by
  intro hquit
  rw [respond_run, hquit] at hrespond
  cases hrespond

theorem question?_eq_some_iff {s : Session} {q : Question} :
    question? s = some q ↔ s.isFinished = false ∧ s.current? = some q := by
  unfold question?
  cases s.isFinished <;> simp

/-- A test that is under way has a question to show, unless it is finished. -/
theorem isFinished_of_question? {s : Session} (h : s.Underway acceptEmpty)
    (hquestion : question? s = none) : s.isFinished = true := by
  obtain ⟨question, hcurrent⟩ := h.invariant.exists_current h.sequence_ne_nil
  by_contra hunfinished
  rw [Bool.not_eq_true] at hunfinished
  cases hquestion.symm.trans (question?_eq_some_iff.mpr ⟨hunfinished, hcurrent⟩)

/-- What holds before a round: the test is under way, every line so far was read while it was, and
    none of them asked to quit. -/
structure Head (acceptEmpty : Bool) (base : Nat) (t : Terminal σ) : Prop where
  underway : Underway acceptEmpty base t.app
  readings : ∀ r ∈ t.read, r.app.session.Underway acceptEmpty ∧ r.app.session.isFinished = false ∧
    ∀ line, r.line = some line → Order.ofLine line ≠ .quit
  text : ∀ line ∈ t.unread, line.isSome = true

/-- A round that does not end the test leads to the head of another. -/
theorem Head.round {t u : Terminal σ} (h : Head acceptEmpty base t) (hround : Round t none u) :
    Head acceptEmpty base u := by
  cases hround with
  | goesOn hquestion hunread hrespond =>
    obtain ⟨hunfinished, -⟩ := question?_eq_some_iff.mp hquestion
    constructor
    · exact h.underway.respond hunfinished hrespond
    · refine List.forall_mem_append.mpr ⟨h.readings, List.forall_mem_singleton.mpr ?_⟩
      refine ⟨h.underway.session, hunfinished, ?_⟩
      rintro _ ⟨⟩
      exact order_ne_quit hrespond
    · intro line hline
      exact h.text line (by rw [hunread]; exact List.mem_cons_of_mem _ hline)

/-- Why the loop stopped, and how it left the test. -/
inductive Stopped (left : Terminal σ) : End → Prop
  | done (hfinished : left.app.session.isFinished = true) : Stopped left .done
  | quit {r : Reading σ} {line : String} (hlast : left.read.getLast? = some r)
      (hline : r.line = some line) (horder : Order.ofLine line = .quit)
      (hopen : left.app.session.IsOpen) : Stopped left .quit
  | noInput (hunread : left.unread = []) (hopen : left.app.session.IsOpen) : Stopped left .noInput

/-- How a test at the terminal went, from its first question to the end of the loop. -/
structure Sitting (app : App σ) (lines : List (Option String)) (why : End) (left : Terminal σ) :
    Prop where
  run_eq : (run lines).run app = ((left.shown, why), left.app)
  /-- One line after the other is read, each once. -/
  lines_eq : left.lines ++ left.unread = lines
  /-- The lines that are not read have no bearing: there could be others, or none. -/
  unread_free : why ≠ .noInput → ∀ more,
    (run (left.lines ++ more)).run app = ((left.shown, why), left.app)
  /-- No line is read after the one that finishes the test, and none after one that asks to quit. -/
  unfinished : ∀ r ∈ left.read, r.app.session.isFinished = false
  quit_last : ∀ r ∈ left.read.dropLast, ∀ line, r.line = some line → Order.ofLine line ≠ .quit
  stopped : Stopped left why
  /-- No answer comes before the test is started or after it is over. -/
  refusal : ∀ r ∈ left.read, ∀ line q typed e next, r.line = some line →
    Order.ofLine line = .answer typed → question? r.app.session = some q →
    (App.submit (Typed.answer q typed)).run.run { r.app with log := [] } = (.error e, next) →
    e = .noAnswer ∨ e = .alreadyAnswered r.app.session.cursor
  /-- The stars that were gained are the right answers, up to the largest count. -/
  stars : left.app.progress.stars =
    min (app.progress.stars + left.app.session.result.correct) Progress.maxStars

/-- How the last round leaves the terminal. -/
structure Closing (acceptEmpty : Bool) (base : Nat) (why : End) (left : Terminal σ) : Prop where
  underway : Underway acceptEmpty base left.app
  readings : ∀ r ∈ left.read, r.app.session.Underway acceptEmpty ∧ r.app.session.isFinished = false
  quit_last : ∀ r ∈ left.read.dropLast, ∀ line, r.line = some line → Order.ofLine line ≠ .quit
  stopped : Stopped left why

/-- A round that ends the test closes it with its reason. -/
theorem Head.closing {t left : Terminal σ} {why : End} (h : Head acceptEmpty base t)
    (hround : Round t (some why) left) : Closing acceptEmpty base why left := by
  have hread (r : Reading σ) (hr : r ∈ t.read) :
      r.app.session.Underway acceptEmpty ∧ r.app.session.isFinished = false :=
    ⟨(h.readings r hr).1, (h.readings r hr).2.1⟩
  have hquit (r : Reading σ) (hr : r ∈ t.read.dropLast) :
      ∀ line, r.line = some line → Order.ofLine line ≠ .quit :=
    (h.readings r (List.dropLast_subset _ hr)).2.2
  cases hround with
  | finished hquestion =>
    exact ⟨h.underway, hread, hquit, .done (isFinished_of_question? h.underway.session hquestion)⟩
  | noInput hquestion hunread =>
    obtain ⟨hunfinished, -⟩ := question?_eq_some_iff.mp hquestion
    exact ⟨h.underway, hread, hquit, .noInput hunread (h.underway.session.isOpen hunfinished)⟩
  | badInput hquestion hunread =>
    have hnone := h.text none (by rw [hunread]; exact List.mem_cons_self)
    cases hnone
  | @quit q line rest next hquestion hunread hrespond =>
    obtain ⟨hunfinished, -⟩ := question?_eq_some_iff.mp hquestion
    obtain ⟨horder, rfl⟩ := respond_eq_none hrespond
    refine ⟨h.underway, ?_, ?_, ?_⟩
    · refine List.forall_mem_append.mpr ⟨hread, List.forall_mem_singleton.mpr ?_⟩
      exact ⟨h.underway.session, hunfinished⟩
    · intro r hr
      rw [List.dropLast_concat] at hr
      exact (h.readings r hr).2.2
    · exact .quit List.getLast?_concat rfl horder (h.underway.session.isOpen hunfinished)

/-- A test that was just started is under way, and has no right answers yet. -/
theorem underway_of_begins {before : App σ} {op : App.Op} (hbegins : before.begins op = true)
    (hstars : before.progress.stars ≤ Progress.maxStars) :
    Underway before.session.acceptEmpty (before.perform op).progress.stars (before.perform op) := by
  obtain ⟨started, hstart⟩ := App.exists_start_of_begins hbegins
  obtain ⟨questions, hnext⟩ := App.begun_of_begins hbegins
  have hinvariant := (Session.Invariant.new before.session.acceptEmpty).start hstart
  have hreset : Session.Call.reset ∉ ([] : List Session.Call) := List.not_mem_nil
  have hcorrect := Session.correct_since_start (.new _) hstart hreset
  have hkept : (before.perform op).progress = before.progress := by rw [hnext]; rfl
  refine ⟨.of_running hinvariant ?_, ?_⟩
  · rw [hnext]
    rfl
  · have hnone : (before.perform op).session.result.correct = 0 := hcorrect
    rw [hnone, hkept, Nat.add_zero]
    exact (Nat.min_eq_left hstars).symm

/-- Whatever is typed, a test that was just started comes to an end of the loop with at most one round
    more than there are lines, and it stops for a reason. -/
theorem sitting_of_begins {before : App σ} {op : App.Op} (hbegins : before.begins op = true)
    (hstars : before.progress.stars ≤ Progress.maxStars) (input : String) :
    let app := before.perform op
    let lines := linesOf input.toUTF8
    ∃ why left, rounds (lines.length + 1) (.ofLines app lines) = (some why, left) ∧
      Sitting app lines why left := by
  intro app lines
  have hhead : Head before.session.acceptEmpty app.progress.stars (.ofLines app lines) := by
    refine ⟨underway_of_begins hbegins hstars, nofun, fun line hline => ?_⟩
    have htext : line ∈ (textLines input).map some := by rwa [← linesOf_toUTF8]
    obtain ⟨text, -, rfl⟩ := List.mem_map.mp htext
    rfl
  obtain ⟨why, left, hrounds, hleads⟩ :=
    exists_rounds (t := .ofLines app lines) (Nat.lt_succ_self lines.length)
  obtain ⟨head, hhead, hlast⟩ := hleads.exists_last (fun _ _ => Head.round) hhead
  have hclosing := hhead.closing hlast
  obtain ⟨readings, hread, hunread, hmore⟩ := hleads.reads
  have hlines : left.lines = readings.map Reading.line := congrArg _ hread
  refine ⟨why, left, hrounds, ?_⟩
  exact {
    run_eq := hleads.run_eq
    lines_eq := by rw [hlines]; exact hunread.symm
    unread_free := by
      intro hwhy more
      rw [hlines]
      exact (hmore hwhy more).run_eq
    unfinished := fun r hr => (hclosing.readings r hr).2
    quit_last := hclosing.quit_last
    stopped := hclosing.stopped
    refusal := by
      intro r hr line q typed e next hline horder hquestion hrefused
      obtain ⟨hunderway, hunfinished⟩ := hclosing.readings r hr
      obtain ⟨hsession, -⟩ := App.submit_eq_error_iff.mp hrefused
      exact hunderway.refusal hunfinished hsession
    stars := hclosing.underway.stars }

/-- A right answer, a second one to the same question, nothing at all, and then quitting: the line after
    that is not read. -/
theorem sitting_of_begins_quit :
    ∃ (before : App Store.Memory) (op : App.Op) (input : String) (why : End)
      (left : Terminal Store.Memory), before.begins op = true ∧
        before.progress.stars ≤ Progress.maxStars ∧
        Sitting (before.perform op) (linesOf input.toUTF8) why left ∧ why = .quit ∧
        left.unread = [some "1"] ∧ before.progress.stars = 4 ∧ left.app.progress.stars = 5 ∧
        left.app.session.result.correct = 1 := by
  let q (id : String) : Question := .plain id .single "Is it?" ["yes", "no"] (.single "yes")
  let before : App Store.Memory := ⟨.empty, .new true, ⟨4, ∅⟩, .ofEntries ∅, []⟩
  let op : App.Op := .startWith .keep [q "a", q "b"] 2
  let input := "1\n:prev\nno\n:next\n\n :quit \r\n1\n"
  have hbegins : before.begins op = true := by decide +kernel
  have hstars : before.progress.stars ≤ Progress.maxStars := by decide
  obtain ⟨why, left, hrounds, hsitting⟩ := sitting_of_begins hbegins hstars input
  have hend : (rounds 8 (.ofLines (before.perform op) ((textLines input).map some))).map
      id (fun left => (left.unread, left.app.progress.stars, left.app.session.result.correct)) =
        (some .quit, [some "1"], 5, 1) := by decide +kernel
  have hlength : (linesOf input.toUTF8).length = 7 := by
    rw [linesOf_toUTF8]
    decide +kernel
  rw [hlength, linesOf_toUTF8] at hrounds
  rw [hrounds] at hend
  simp only [Prod.map, id, Prod.mk.injEq, Option.some.injEq] at hend
  obtain ⟨rfl, hunread, hgained, hcorrect⟩ := hend
  exact ⟨before, op, input, .quit, left, hbegins, hstars, hsitting, rfl, hunread, rfl, hgained,
    hcorrect⟩

end

end Turn

end Quizmaster
