import Quizmaster.Proofs.App.Moves
import Quizmaster.Proofs.Session.Assignment

namespace Quizmaster.App

variable {ε σ : Type} [Store ε σ]

/-- Whether exactly the assigned answers are taken in the course of moves, each for its question. -/
def Gives (app : App σ) (assigned : Nat → Option Answer) (moves : List Session.Move) : Prop :=
  ∀ i answer, (i, answer) ∈ app.accepted (moves.map Op.ofMove) ↔ assigned i = some answer

section

variable {acceptEmpty : Bool} {questions : List Question} {app : App σ}
  {assigned : Nat → Option Answer} {moves : List Session.Move}

theorem session_run_moves (app : App σ) (moves : List Session.Move) :
    (app.run (moves.map Op.ofMove)).session = app.session.run (moves.map Session.Move.call) := by
  rw [session_run (app.tally_discards_moves moves), calls_map_ofMove]

/-- An application takes the answers that its session takes. -/
theorem gives_iff (hstart : (Session.new acceptEmpty).start questions = .ok app.session) :
    app.Gives assigned moves ↔ (app.run (moves.map Op.ofMove)).session.Answers assigned := by
  have htaken (i : Nat) (answer : Answer) : (i, answer) ∈ app.accepted (moves.map Op.ofMove) ↔
      ((app.run (moves.map Op.ofMove)).session.recordAt? i).map Record.given = some answer := by
    rw [accepted_eq (app.tally_discards_moves moves), calls_map_ofMove, session_run_moves]
    exact Session.mem_taken_given_iff hstart (Session.reset_not_mem_moves moves)
  constructor
  · intro hgives i
    refine Option.eq_of_eq_some fun answer => ?_
    rw [← htaken, hgives]
  · intro hanswers i answer
    rw [htaken, hanswers i]

/-- What moves earn is told by the score at their end. -/
theorem progress_run_moves (hstart : (Session.new acceptEmpty).start questions = .ok app.session)
    (moves : List Session.Move) :
    (app.run (moves.map Op.ofMove)).progress =
      (fun p => (p.addStars starsPerAnswer).2)^[
        (app.run (moves.map Op.ofMove)).session.result.correct] app.progress := by
  have hkept := app.tally_discards_moves moves
  have hops : .resetProgress ∉ moves.map Op.ofMove := by
    intro hreset
    obtain ⟨move, -, hmove⟩ := List.mem_map.mp hreset
    cases move <;> cases hmove
  have hcorrect : app.tally earns (moves.map Op.ofMove) =
      (app.run (moves.map Op.ofMove)).session.result.correct := by
    rw [tally_earns_eq hkept, session_run_moves, calls_map_ofMove]
    exact (Session.correct_since_start (.new _) hstart (Session.reset_not_mem_moves moves)).symm
  rw [progress_run hops, hcorrect]

/-- A test is over once all its answers are given. -/
theorem Gives.completed (hstart : (Session.new acceptEmpty).start questions = .ok app.session)
    (hassigned : Session.Assignment acceptEmpty questions assigned)
    (hgives : app.Gives assigned moves) :
    (app.run (moves.map Op.ofMove)).session.state = .completed := by
  have hanswers := (gives_iff hstart).mp hgives
  have hbegun : Session.Invariant acceptEmpty app.session :=
    (Session.Invariant.new acceptEmpty).start hstart
  obtain ⟨-, hne, hsession⟩ := Session.start_eq_ok_iff.mp hstart
  have hsequence : app.session.sequence = questions := by rw [hsession]
  rw [session_run_moves] at hanswers ⊢
  have hlater := Session.later_run hbegun (Session.started_of_start hstart)
    (Session.reset_not_mem_moves moves)
  have hsame := hlater.sequence_eq.trans hsequence
  exact hanswers.completed (hbegun.run _) (by rwa [hsame]) (by rw [hsame]; exact hassigned.last)

/-- The records of a test do not depend on the order in which the same answers were given. -/
theorem Gives.session_eq (hstart : (Session.new acceptEmpty).start questions = .ok app.session)
    {other : List Session.Move} (hgives : app.Gives assigned moves)
    (hother : app.Gives assigned other) :
    (app.run (moves.map Op.ofMove)).session.slots = (app.run (other.map Op.ofMove)).session.slots ∧
      (app.run (moves.map Op.ofMove)).session.sequence =
        (app.run (other.map Op.ofMove)).session.sequence := by
  have hanswers := (gives_iff hstart).mp hgives
  have hanswers' := (gives_iff hstart).mp hother
  have hbegun : Session.Invariant acceptEmpty app.session :=
    (Session.Invariant.new acceptEmpty).start hstart
  rw [session_run_moves] at hanswers hanswers' ⊢
  rw [session_run_moves]
  have hlater (moves : List Session.Move) := Session.later_run hbegun
    (Session.started_of_start hstart) (Session.reset_not_mem_moves moves)
  have hsequence := (hlater moves).sequence_eq.trans (hlater other).sequence_eq.symm
  exact ⟨hanswers.slots_eq (hbegun.run _) (hbegun.run _) hsequence hanswers', hsequence⟩

/-- In a test that was just started, however the application moves about in it: if the same answers
    are taken for the same questions, the last one among them, the test is completed with the same
    records, the same score, the same stars and the same badges. Any answers that say something can
    be given in this way. -/
theorem moves_in_any_order (hstart : (Session.new acceptEmpty).start questions = .ok app.session)
    (hassigned : Session.Assignment acceptEmpty questions assigned) :
    (∀ first second, app.Gives assigned first → app.Gives assigned second →
      let one := app.run (first.map Op.ofMove)
      let other := app.run (second.map Op.ofMove)
      one.session.state = .completed ∧ other.session.state = .completed ∧
      one.session.slots = other.session.slots ∧ one.session.result = other.session.result ∧
      one.progress = other.progress) ∧
    ∃ moves, app.Gives assigned moves := by
  constructor
  · intro first second hfirst hsecond one other
    obtain ⟨hslots, hsequence⟩ := hfirst.session_eq hstart hsecond
    have hresult : one.session.result = other.session.result := by
      rw [Session.result, Session.result, Session.size, Session.size, hslots, hsequence]
    refine ⟨hfirst.completed hstart hassigned, hsecond.completed hstart hassigned, hslots, hresult,
      ?_⟩
    calc one.progress
      _ = _ := progress_run_moves hstart first
      _ = _ := by rw [hresult]
      _ = other.progress := (progress_run_moves hstart second).symm
  · obtain ⟨moves, hanswers⟩ := Session.exists_moves_answers hstart hassigned
    refine ⟨moves, (gives_iff hstart).mpr ?_⟩
    rwa [session_run_moves]

end

/-- Three questions, the second left out: answered straight on, or with looks ahead, a blank answer
    that is refused and a second thought that comes too late. -/
theorem moves_in_any_order_second_thought :
    ∃ (app : App Store.Memory) (questions : List Question) (assigned : Nat → Option Answer)
      (first second : List Session.Move),
      (Session.new false).start questions = .ok app.session ∧
        Session.Assignment false questions assigned ∧ assigned 1 = none ∧
        app.Gives assigned first ∧ app.Gives assigned second ∧ first ≠ second ∧
        (app.run (first.map Op.ofMove)).session.slots =
          (app.run (second.map Op.ofMove)).session.slots ∧
        (app.run (first.map Op.ofMove)).progress = (app.run (second.map Op.ofMove)).progress := by
  let q (id : String) : Question := .plain id .single "Is it?" ["yes", "no"] (.single "yes")
  let questions := [q "a", q "b", q "c"]
  let idle : App Store.Memory := ⟨.empty, .new false, ⟨4, ∅⟩, .ofEntries ∅, []⟩
  let app := idle.perform (.startWith .keep questions 3)
  let assigned (i : Nat) : Option Answer :=
    if i = 0 then some (.single "yes") else if i = 2 then some (.single "no") else none
  let first : List Session.Move :=
    [.submit (.single "yes"), .advance, .advance, .submit (.single "no")]
  let second : List Session.Move :=
    [.advance, .submit (.single ""), .advance, .retreat, .retreat, .submit (.single "yes"),
      .submit (.single "no"), .advance, .advance, .submit (.single "no"), .retreat]
  have hstart : (Session.new false).start questions = .ok app.session := rfl
  have hassigned : Session.Assignment false questions assigned := by
    refine ⟨fun i answer hanswer => ?_, .single "no", rfl⟩
    simp only [assigned] at hanswer
    split at hanswer
    · next hi => exact ⟨q "a", by rw [hi]; rfl, by cases hanswer; rfl⟩
    · split at hanswer
      · next hi => exact ⟨q "c", by rw [hi]; rfl, by cases hanswer; rfl⟩
      · cases hanswer
  have hgives {moves : List Session.Move}
      (haccepted : app.accepted (moves.map Op.ofMove) = [(0, .single "yes"), (2, .single "no")]) :
      app.Gives assigned moves := by
    intro i answer
    rw [haccepted]
    simp only [assigned, List.mem_cons, Prod.mk.injEq, List.not_mem_nil, or_false]
    by_cases hzero : i = 0
    · simp [hzero, eq_comm]
    · by_cases htwo : i = 2 <;> simp [hzero, htwo, eq_comm]
  have hfirst : app.Gives assigned first := hgives (by decide +kernel)
  have hsecond : app.Gives assigned second := hgives (by decide +kernel)
  obtain ⟨-, -, hslots, -, hprogress⟩ :=
    (moves_in_any_order hstart hassigned).1 first second hfirst hsecond
  exact ⟨app, questions, assigned, first, second, hstart, hassigned, rfl, hfirst, hsecond,
    by simp [first, second], hslots, hprogress⟩

end Quizmaster.App
