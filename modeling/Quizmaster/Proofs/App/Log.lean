import Mathlib.Data.List.Induction
import Quizmaster.Proofs.App.Drawing
import Quizmaster.Proofs.App.Moves

namespace Quizmaster

namespace Event

/-- What is told in the course of a test. -/
def isWithin : Event → Bool
  | .answered _ _ | .unlocked _ _ => true
  | .started _ | .finished _ => false

/-- A right answer. -/
def isRight : Event → Bool
  | .answered _ record => record.correct
  | _ => false

/-- A log whose latest test has so many questions and so many right answers, and no end yet. -/
def Running (log : List Event) (total correct : Nat) : Prop :=
  ∃ before since, log = before ++ .started total :: since ∧
    (∀ event ∈ since, event.isWithin = true) ∧ since.countP isRight = correct

/-- A log in which each end is the end of the test that was started last, with its right answers,
    and is followed by a start or by nothing. -/
structure Orderly (log : List Event) : Prop where
  running : ∀ before result after, log = before ++ .finished result :: after →
    Running before result.total result.correct
  closed : ∀ before result next after, log = before ++ .finished result :: next :: after →
    ∃ total, next = .started total

section

variable {log events : List Event} {event : Event} {total correct : Nat}

theorem orderly_nil : Orderly [] where
  running before result after h := by simp at h
  closed before result next after h := by simp at h

theorem running_started (log : List Event) (total : Nat) :
    Running (log ++ [.started total]) total 0 :=
  ⟨log, [], rfl, by simp, rfl⟩

/-- A test that is running has not been told to be over. -/
theorem Running.ne_finished (h : Running log total correct) (before : List Event)
    (result : Result) : log ≠ before ++ [.finished result] := by
  obtain ⟨earlier, since, rfl, hsince, -⟩ := h
  intro heq
  have hlast := congrArg List.getLast? heq
  rw [List.getLast?_concat] at hlast
  have hmem : Event.finished result ∈ Event.started total :: since := by
    rw [List.getLast?_append_of_ne_nil _ (List.cons_ne_nil _ _)] at hlast
    exact List.mem_of_getLast? hlast
  obtain hstart | hwithin := List.mem_cons.mp hmem
  · cases hstart
  · exact absurd (hsince _ hwithin) (by simp [isWithin])

/-- What happens within a test leaves it running, and each right answer counts. -/
theorem Running.append (h : Running log total correct)
    (hevents : ∀ event ∈ events, event.isWithin = true) :
    Running (log ++ events) total (correct + events.countP isRight) := by
  obtain ⟨before, since, rfl, hsince, rfl⟩ := h
  refine ⟨before, since ++ events, by simp, ?_, List.countP_append⟩
  intro event hevent
  exact (List.mem_append.mp hevent).elim (hsince event) (hevents event)

/-- A log stays in order if an end ends the running test and nothing but a start follows an end. -/
theorem Orderly.concat (h : Orderly log)
    (hfinished : ∀ result, event = .finished result → Running log result.total result.correct)
    (hclosed : ∀ before result, log = before ++ [.finished result] →
      ∃ total, event = .started total) : Orderly (log ++ [event]) where
  running before result after hsplit := by
    obtain rfl | ⟨after, last, rfl⟩ := List.eq_nil_or_concat' after
    · obtain ⟨rfl, hlast⟩ := List.append_inj' hsplit rfl
      exact hfinished result (List.singleton_inj.mp hlast)
    · rw [← List.cons_append, ← List.append_assoc] at hsplit
      obtain ⟨hlog, -⟩ := List.append_inj' hsplit rfl
      exact h.running before result after hlog
  closed before result next after hsplit := by
    obtain rfl | ⟨after, last, rfl⟩ := List.eq_nil_or_concat' after
    · have hends : log ++ [event] = before ++ [.finished result] ++ [next] := by simpa using hsplit
      obtain ⟨hlog, hlast⟩ := List.append_inj' hends rfl
      obtain rfl := List.singleton_inj.mp hlast
      exact hclosed before result hlog
    · rw [← List.cons_append, ← List.cons_append, ← List.append_assoc] at hsplit
      obtain ⟨hlog, -⟩ := List.append_inj' hsplit rfl
      exact h.closed before result next after hlog

/-- Nothing that happens within a running test disturbs the order. -/
theorem Orderly.append_within (h : Orderly log) (hrunning : Running log total correct)
    (hevents : ∀ event ∈ events, event.isWithin = true) : Orderly (log ++ events) := by
  induction events using List.reverseRecOn with
  | nil => rwa [List.append_nil]
  | append_singleton events event ih =>
    have hbefore (event : Event) (hevent : event ∈ events) : event.isWithin = true :=
      hevents event (List.mem_append_left _ hevent)
    have hlast : event.isWithin = true := hevents event (by simp)
    rw [← List.append_assoc]
    refine (ih hbefore).concat (fun result hresult => ?_) fun before result hended => ?_
    · subst hresult
      cases hlast
    · exact absurd hended ((hrunning.append hbefore).ne_finished before result)

end

end Event

namespace App

variable {ε σ : Type} [Store ε σ]

/-- What one operation tells. -/
structure Announces (app : App σ) : Prop where
  /-- A test that begins is told of with its number of questions. -/
  begun : ∀ op, app.begins op = true →
    (app.perform op).log = app.log ++ [.started (app.perform op).session.size]
  /-- An answer that is taken is told of with its slot and the record in it, then the badges that it
      brings, then the end of the test if it is its end. -/
  taken : ∀ answer outcome next, (submit answer).run.run app = (.ok outcome, next) →
    ∃ record, next.session.recordAt? app.session.cursor = some record ∧
      record.given = answer ∧ record.correct = outcome.correct ∧
      next.log = app.log ++ (.answered app.session.cursor record ::
        (outcome.badges.map (.unlocked · next.progress.stars) ++
          if outcome.finished then [.finished next.session.result] else []))
  /-- Nothing is told of a test that fails to start, of an answer that is refused, or of anything
      else. -/
  silent : ∀ op, app.begins op = false → app.accepts op = [] → (app.perform op).log = app.log

/-- A start gives up the test before it and tells of the new one, or it leaves the log alone. -/
theorem startWith_cases (app : App σ) (shuffle : Shuffle) (pool : List Question) (length : Nat) :
    (∃ questions, questions ≠ [] ∧ (startWith shuffle pool length).run.run app = (.ok (),
      { app with session := .begun app.session.acceptEmpty questions }.tell
        [.started questions.length])) ∨
    ∃ refusal next, (startWith shuffle pool length).run.run app = (.error refusal, next) ∧
      next.log = app.log ∧ (next.session = app.session ∨ next.session = app.session.reset) := by
  cases hstart : (startWith shuffle pool length).run.run app with
  | mk result next =>
    cases result with
    | ok =>
      obtain ⟨⟨hpos, hlength⟩, rfl⟩ := startWith_eq_ok_iff.mp hstart
      have hdrawn := shuffle.length_take_order hlength
      refine .inl ⟨(shuffle.order pool).take length, List.ne_nil_of_length_pos (by omega), ?_⟩
      rw [hdrawn]
    | error refusal =>
      refine .inr ⟨refusal, next, rfl, ?_⟩
      cases startWith_eq_error_iff.mp hstart with
      | insufficient => exact ⟨rfl, .inl rfl⟩
      | empty => exact ⟨rfl, .inr rfl⟩

theorem startWith_of_isOk {app : App σ} {shuffle : Shuffle} {pool : List Question} {length : Nat}
    (h : ((startWith shuffle pool length).run.run app).1.isOk = true) :
    ∃ questions, ((startWith shuffle pool length).run.run app).2 =
      { app with session := .begun app.session.acceptEmpty questions }.tell
        [.started questions.length] := by
  obtain ⟨questions, -, hstart⟩ | ⟨refusal, next, hstart, -⟩ :=
    startWith_cases app shuffle pool length
  · exact ⟨questions, by rw [hstart]⟩
  · rw [hstart] at h
    cases h

/-- An operation that begins a test tells of it first. -/
theorem begun_of_begins {app : App σ} {op : Op} (h : app.begins op = true) :
    ∃ questions, app.perform op =
      { app with session := .begun app.session.acceptEmpty questions }.tell
        [.started questions.length] := by
  cases op with
  | startWith shuffle pool length => exact startWith_of_isOk h
  | start shuffle filter length =>
    rw [begins, start_run] at h
    rw [perform, start_run]
    exact startWith_of_isOk h
  | _ => cases h

/-- Nothing is told, and the running test is as it was but for its cursor, or it is given up. -/
inductive Silent (app next : App σ) : Prop
  | moved (cursor : Nat) (hlog : next.log = app.log)
      (hsession : next.session = { app.session with cursor })
  | left (hlog : next.log = app.log) (hsession : next.session = app.session.reset)

theorem Silent.log_eq {app next : App σ} (h : Silent app next) : next.log = app.log := by
  cases h with
  | moved _ hlog | left hlog => exact hlog

theorem startWith_of_not_isOk {app : App σ} {shuffle : Shuffle} {pool : List Question}
    {length : Nat} (h : ((startWith shuffle pool length).run.run app).1.isOk = false) :
    Silent app ((startWith shuffle pool length).run.run app).2 := by
  obtain ⟨questions, -, hstart⟩ | ⟨refusal, next, hstart, hlog, hsession⟩ :=
    startWith_cases app shuffle pool length
  · rw [hstart] at h
    cases h
  · rw [hstart]
    obtain hkept | hreset := hsession
    · exact .moved app.session.cursor hlog hkept
    · exact .left hlog hreset

/-- What neither begins a test nor takes an answer is silent. -/
theorem silent_perform {app : App σ} {op : Op} (hbegins : app.begins op = false)
    (haccepts : app.accepts op = []) : Silent app (app.perform op) := by
  cases op with
  | addQuestions questions =>
    rw [perform, addQuestions_run]
    split <;> exact .moved _ rfl rfl
  | clearQuestions => exact .moved _ rfl rfl
  | start shuffle filter length =>
    rw [begins, start_run] at hbegins
    rw [perform, start_run]
    exact startWith_of_not_isOk hbegins
  | startWith shuffle pool length => exact startWith_of_not_isOk hbegins
  | submit answer =>
    rw [accepts, submit_result] at haccepts
    rw [perform, submit_run]
    cases hsubmit : app.session.submit answer with
    | error refusal => exact .moved _ rfl rfl
    | ok taken =>
      rw [hsubmit] at haccepts
      cases haccepts
  | advance =>
    rw [perform, advance_run]
    cases hadvance : app.session.advance? with
    | none => exact .moved _ rfl rfl
    | some moved =>
      obtain ⟨-, rfl⟩ := Session.advance?_eq_some_iff.mp hadvance
      exact .moved _ rfl rfl
  | retreat =>
    rw [perform, retreat_run]
    cases hretreat : app.session.retreat? with
    | none => exact .moved _ rfl rfl
    | some moved =>
      obtain ⟨-, rfl⟩ := Session.retreat?_eq_some_iff.mp hretreat
      exact .moved _ rfl rfl
  | abandon => exact .left rfl rfl
  | resetProgress => exact .moved _ rfl rfl

/-- What is told of an answer that is taken. -/
theorem submit_ok {app next : App σ} {answer : Answer} {outcome : Outcome}
    (h : (submit answer).run.run app = (.ok outcome, next)) :
    ∃ record, app.session.submit answer = .ok (record, next.session) ∧
      outcome.correct = record.correct ∧ outcome.finished = next.session.isFinished ∧
      next.log = app.log ++ (.answered next.session.cursor record ::
        (outcome.badges.map (.unlocked · next.progress.stars) ++
          if outcome.finished then [.finished next.session.result] else [])) := by
  rw [submit_run] at h
  cases hsubmit : app.session.submit answer with
  | error refusal =>
    rw [hsubmit] at h
    cases h
  | ok taken =>
    obtain ⟨⟨question, given, correct⟩, session⟩ := taken
    rw [hsubmit] at h
    simp only at h
    cases correct <;> cases hfinished : session.isFinished <;> rw [hfinished] at h <;> cases h <;>
      exact ⟨_, rfl, rfl, hfinished.symm, by simp [tell]⟩

/-- Only the submission of an answer can be taken. -/
theorem exists_submit_of_accepts {app : App σ} {op : Op} (h : app.accepts op ≠ []) :
    ∃ answer outcome, op = .submit answer ∧
      (submit answer).run.run app = (.ok outcome, app.perform op) := by
  cases op with
  | submit answer =>
    rw [accepts] at h
    cases hsubmit : (submit answer).run.run app with
    | mk result next =>
      rw [hsubmit] at h
      cases result with
      | ok outcome => exact ⟨answer, outcome, rfl, by rw [perform, hsubmit]⟩
      | error refusal => exact absurd rfl h
  | _ => exact absurd rfl h

/-- What holds of the log while an application runs: it is in order, and it tells of the running
    test as the session has it. -/
structure Narrated (acceptEmpty : Bool) (app : App σ) : Prop where
  invariant : app.session.Invariant acceptEmpty
  orderly : Event.Orderly app.log
  running : app.session.state = .inProgress →
    Event.Running app.log app.session.size app.session.result.correct

variable {acceptEmpty : Bool} {app : App σ}

/-- The log stays in order where a test begins. -/
theorem Narrated.begun {questions : List Question} {next : App σ} (h : Narrated acceptEmpty app)
    (hnext : next = { app with session := .begun app.session.acceptEmpty questions }.tell
      [.started questions.length])
    (hinvariant : next.session.Invariant acceptEmpty) : Narrated acceptEmpty next where
  invariant := hinvariant
  orderly := by
    rw [hnext]
    exact h.orderly.concat (fun result hfinished => by cases hfinished) fun _ _ _ => ⟨_, rfl⟩
  running _ := by
    have hcorrect : next.session.result.correct = 0 := by
      rw [hnext]
      change (List.replicate questions.length none).countP (Option.any Record.correct) = 0
      simp [List.countP_replicate]
    rw [hcorrect, hnext]
    exact Event.running_started app.log questions.length

theorem Narrated.silent {next : App σ} (h : Narrated acceptEmpty app) (hsilent : Silent app next)
    (hinvariant : next.session.Invariant acceptEmpty) : Narrated acceptEmpty next where
  invariant := hinvariant
  orderly := by rw [hsilent.log_eq]; exact h.orderly
  running hstate := by
    cases hsilent with
    | moved cursor hlog hsession =>
      rw [hsession] at hstate ⊢
      rw [hlog]
      exact h.running hstate
    | left hlog hsession =>
      rw [hsession] at hstate
      cases hstate

/-- The answer that fills the last slot closes the test. -/
theorem state_of_isFinished {s : Session} (h : s.Invariant acceptEmpty)
    (hfinished : s.isFinished = true) : s.state = .completed := by
  rw [Session.isFinished, Bool.and_eq_true, Session.isLast, beq_iff_eq] at hfinished
  obtain ⟨hlast, hanswered⟩ := hfinished
  have hcursor : s.sequence.length - 1 = s.cursor := Nat.sub_eq_of_eq_add hlast.symm
  have hpos : 0 < s.sequence.length := Nat.lt_of_lt_of_eq (Nat.succ_pos _) hlast
  exact h.completed_iff.mpr ⟨List.ne_nil_of_length_pos hpos, by rwa [hcursor]⟩

/-- The log stays in order where an answer is taken, whether it is the last one or not. -/
theorem Narrated.taken {next : App σ} {answer : Answer} {outcome : Outcome}
    (h : Narrated acceptEmpty app) (hsubmit : (submit answer).run.run app = (.ok outcome, next))
    (hinvariant : next.session.Invariant acceptEmpty) : Narrated acceptEmpty next := by
  obtain ⟨record, hsession, -, hfinished, hlog⟩ := submit_ok hsubmit
  obtain ⟨question, hstate, hcurrent, hopen, -, -, hfill⟩ := Session.submit_eq_ok_iff.mp hsession
  obtain ⟨hcursor, -⟩ := List.getElem?_eq_some_iff.mp hcurrent
  rw [← h.invariant.slots_length] at hcursor
  have heffect : Session.Effect app.session [(app.session.cursor, record)] next.session := by
    rw [hfill]
    exact .filled record hstate (Session.slot_of_isAnswered_eq_false hcursor hopen)
  have hsize : next.session.size = app.session.size :=
    congrArg List.length heffect.later.sequence_eq
  have hcorrect : next.session.result.correct =
      app.session.result.correct + [record].countP Record.correct :=
    heffect.countP_slots Record.correct
  -- All but the end is told in the course of the test.
  let told : List Event := .answered next.session.cursor record ::
    outcome.badges.map (.unlocked · next.progress.stars)
  have hwithin : ∀ event ∈ told, event.isWithin = true := by
    intro event hevent
    obtain rfl | hbadge := List.mem_cons.mp hevent
    · rfl
    · obtain ⟨badge, -, rfl⟩ := List.mem_map.mp hbadge
      rfl
  have hright : told.countP Event.isRight = [record].countP Record.correct := by
    have hbadges :
        (outcome.badges.map (.unlocked · next.progress.stars)).countP Event.isRight = 0 := by
      simp [List.countP_map, Function.comp_def, Event.isRight]
    rw [List.countP_cons, hbadges, List.countP_singleton, Nat.zero_add]
    rfl
  have hrunning := (h.running hstate).append hwithin
  rw [hright, ← hcorrect, ← hsize] at hrunning
  have horderly := h.orderly.append_within (h.running hstate) hwithin
  cases hend : outcome.finished with
  | false =>
    have hlogged : next.log = app.log ++ told := by simpa [hend] using hlog
    rw [← hlogged] at hrunning horderly
    exact ⟨hinvariant, horderly, fun _ => hrunning⟩
  | true =>
    have hlogged : next.log = app.log ++ told ++ [.finished next.session.result] := by
      simpa [hend, told] using hlog
    refine ⟨hinvariant, ?_, fun hrunningState => ?_⟩
    · rw [hlogged]
      refine horderly.concat (fun result hresult => ?_) fun before result hended => ?_
      · cases hresult
        exact hrunning
      · exact absurd hended (hrunning.ne_finished before result)
    · rw [hend] at hfinished
      cases (state_of_isFinished hinvariant hfinished.symm).symm.trans hrunningState

theorem invariant_startWith (h : app.session.Invariant acceptEmpty) (shuffle : Shuffle)
    (pool : List Question) (length : Nat) :
    ((startWith shuffle pool length).run.run app).2.session.Invariant acceptEmpty := by
  obtain ⟨questions, hne, hstart⟩ | ⟨refusal, next, hstart, -, hsession⟩ :=
    startWith_cases app shuffle pool length
  · rw [hstart, h.acceptEmpty_eq]
    exact (Session.Invariant.new acceptEmpty).start (Session.start_reset_eq (.new acceptEmpty) hne)
  · rw [hstart]
    obtain hkept | hreset := hsession
    · rwa [hkept]
    · rw [hreset, Session.reset, h.acceptEmpty_eq]
      exact .new acceptEmpty

/-- Every operation of the application keeps the invariant of its session. -/
theorem invariant_perform (h : app.session.Invariant acceptEmpty) (op : Op) :
    (app.perform op).session.Invariant acceptEmpty := by
  cases hdiscards : app.discards op with
  | false =>
    rw [session_perform hdiscards]
    exact h.run _
  | true =>
    cases op with
    | start shuffle filter length =>
      rw [perform, start_run]
      exact invariant_startWith h shuffle _ length
    | startWith shuffle pool length => exact invariant_startWith h shuffle pool length
    | abandon =>
      change app.session.reset.Invariant acceptEmpty
      rw [Session.reset, h.acceptEmpty_eq]
      exact .new acceptEmpty
    | _ => cases hdiscards

/-- Every operation keeps the log in order. -/
theorem narrated_perform (h : Narrated acceptEmpty app) (op : Op) :
    Narrated acceptEmpty (app.perform op) := by
  have hinvariant := invariant_perform h.invariant op
  cases hbegins : app.begins op with
  | true =>
    obtain ⟨questions, hnext⟩ := begun_of_begins hbegins
    exact h.begun hnext hinvariant
  | false =>
    by_cases haccepts : app.accepts op = []
    · exact h.silent (silent_perform hbegins haccepts) hinvariant
    · obtain ⟨answer, outcome, rfl, hsubmit⟩ := exists_submit_of_accepts haccepts
      exact h.taken hsubmit hinvariant

/-- The log is in order at every moment of a run. -/
theorem narrated_run (h : Narrated acceptEmpty app) (ops : List Op) :
    Narrated acceptEmpty (app.run ops) := by
  induction ops using List.reverseRecOn with
  | nil => exact h
  | append_singleton ops op ih =>
    rw [run_concat]
    exact narrated_perform ih op

theorem narrated_of_load {s t : σ} (hload : load acceptEmpty s = (.ok app, t)) :
    Narrated acceptEmpty app := by
  simp only [load] at hload
  split at hload
  · cases hload
    exact ⟨.new acceptEmpty, Event.orderly_nil, fun hstate => by cases hstate⟩
  · cases hload

/-- What each operation adds to the log. -/
theorem announces (h : app.session.Invariant acceptEmpty) : Announces app where
  begun op hbegins := by
    obtain ⟨questions, hnext⟩ := begun_of_begins hbegins
    rw [hnext]
    rfl
  taken answer outcome next hsubmit := by
    obtain ⟨record, hsession, hcorrect, -, hlog⟩ := submit_ok hsubmit
    obtain ⟨question, -, hcurrent, -, -, hrecord, hfill⟩ := Session.submit_eq_ok_iff.mp hsession
    obtain ⟨hcursor, -⟩ := List.getElem?_eq_some_iff.mp hcurrent
    rw [← h.slots_length] at hcursor
    have hkept : next.session.cursor = app.session.cursor := by
      rw [hfill, Session.fill_eq hcursor]
    refine ⟨record, ?_, by rw [hrecord], hcorrect.symm, hkept ▸ hlog⟩
    rw [hfill, Session.recordAt?_fill hcursor, if_pos rfl]
  silent op hbegins haccepts := (silent_perform hbegins haccepts).log_eq

/-- Observers of an application that was loaded are told of each test from its start to its end,
    whatever calls of the store fail. -/
theorem log_run {s t : σ} (hload : load acceptEmpty s = (.ok app, t)) (ops : List Op) :
    Announces (app.run ops) ∧ Event.Orderly (app.run ops).log := by
  have hnarrated := narrated_run (narrated_of_load hload) ops
  exact ⟨announces hnarrated.invariant, hnarrated.orderly⟩

/-- A test is left for another one after its first answer; of the second test only the last question
    is answered, and answering the first one after that comes too late. -/
theorem log_run_left_and_gap :
    ∃ (app : App Store.Memory) (left : Store.Memory) (ops : List Op) (before : List Event)
      (result : Result), load false (Store.Memory.ofEntries ∅) = (.ok app, left) ∧
        (app.run ops).log = before ++ [.finished result] ∧ before.length = 4 ∧
        ops.getLast? = some (.submit (.single "yes")) ∧
        Event.Running before result.total result.correct ∧ result.total = 2 ∧
        result.correct = 0 := by
  let q : Question := .plain "q" .single "Is it?" ["yes", "no"] (.single "yes")
  let ops : List Op := [.startWith .keep [q, q] 2, .submit (.single "yes"),
    .startWith .keep [q, q] 2, .advance, .submit (.single "no"), .retreat, .submit (.single "yes")]
  let result : Result := ⟨Result.percentOf 0 2, 0, 2, [none, some ⟨q, .single "no", false⟩]⟩
  have hload := @load_ofEntries false ∅
  generalize happ : App.mk _ _ _ _ _ = app at hload
  have hlog : (app.run ops).log = [.started 2, .answered 0 ⟨q, .single "yes", true⟩, .started 2,
      .answered 1 ⟨q, .single "no", false⟩] ++ [.finished result] := by
    rw [← happ]
    decide +kernel
  have hrunning := (log_run hload ops).2.running _ result [] hlog
  exact ⟨app, _, ops, _, result, hload, hlog, rfl, rfl, hrunning, rfl, rfl⟩

end App

end Quizmaster
